import Mathlib.Data.List.Infix
import Switchboard.Proofs.RoomForTimes

/-!
# Which error the banner shows

The banner keeps three things: the text seen last, when that was seen first, and the text on the
screen. What it shows is said here by the whole history of the looks at the error instead. A stretch is
an unbroken row of looks at the same text, as long as it can be; a look completes its stretch if it
comes no sooner than the delay after the first look of the stretch. The text on the screen is that of
the stretch completed last, unless there was a look at no error since.

* `Look.EndInStretch`, `Look.Completes`, `Look.Stable` — this description, and what one more look does
  to it: `Look.endInStretch_concat_iff` and `Look.stable_concat_iff`.
* `Banner.Recalls` — the three things agree with the history; they keep doing so at one more look, and
  so after any: `Banner.recalls_lookAll`.
* `Banner.displayed_iff_stable` — what the banner shows after any looks at any times.
-/

set_option autoImplicit false

namespace Switchboard

/-- A look at the error: the text that there was, if any, and the time. -/
structure Look where
  error : Option String
  time : Int64
  deriving DecidableEq

namespace Look

variable {looks : List Look} {x : Look} {text : String} {start : Int64} {delay : Nat}

/-- The error at the last of the looks. -/
def lastError (looks : List Look) : Option String := looks.getLast?.bind (·.error)

/-- The looks end in a stretch of this text, whose first look was at this time. -/
def EndInStretch (looks : List Look) (text : String) (start : Int64) : Prop :=
  ∃ before stretch, looks = before ++ ⟨some text, start⟩ :: stretch ∧
    lastError before ≠ some text ∧ ∀ x ∈ stretch, x.error = some text

/-- The last of the looks completes a stretch of this text. -/
def Completes (delay : Nat) (looks : List Look) (text : String) : Prop :=
  ∃ start, EndInStretch looks text start ∧ ∃ x ∈ looks.getLast?, start.toInt + delay ≤ x.time.toInt

/-- A look completed a stretch of this text. Since then there was an error at every look, and no look
completed a stretch of another text. -/
def Stable (delay : Nat) (looks : List Look) (text : String) : Prop :=
  ∃ sofar later, looks = sofar ++ later ∧ Completes delay sofar text ∧
    (∀ x ∈ later, x.error ≠ none) ∧
    ∀ more, more ≠ [] → more <+: later → ∀ other, Completes delay (sofar ++ more) other → other = text

/-! ## One more look -/

@[simp] theorem lastError_concat (looks : List Look) (x : Look) :
    lastError (looks ++ [x]) = x.error := by
  simp [lastError]

theorem EndInStretch.lastError (h : EndInStretch looks text start) :
    lastError looks = some text := by
  obtain ⟨before, stretch, rfl, -, hall⟩ := h
  rcases List.eq_nil_or_concat' stretch with rfl | ⟨stretch, x, rfl⟩
  · exact lastError_concat before _
  · rw [← List.cons_append, ← List.append_assoc, lastError_concat]
    exact hall x (by simp)

/-- **A stretch goes on** at a look at the same text, and begins at a look at another one. -/
theorem endInStretch_concat_iff :
    EndInStretch (looks ++ [x]) text start ↔
      x.error = some text ∧
        if lastError looks = some text then EndInStretch looks text start else x.time = start := by
  constructor
  · rintro ⟨before, stretch, h, hbefore, hall⟩
    rcases List.eq_nil_or_concat' stretch with rfl | ⟨stretch, y, rfl⟩
    · obtain ⟨rfl, hx⟩ := List.append_inj' h rfl
      cases hx
      exact ⟨rfl, by rw [if_neg hbefore]⟩
    · rw [← List.cons_append, ← List.append_assoc] at h
      obtain ⟨rfl, hx⟩ := List.append_inj' h rfl
      cases hx
      have hend : EndInStretch (before ++ ⟨some text, start⟩ :: stretch) text start :=
        ⟨before, stretch, rfl, hbefore, fun y hy => hall y (List.mem_append_left _ hy)⟩
      exact ⟨hall x (by simp), by rwa [if_pos hend.lastError]⟩
  · rintro ⟨hx, h⟩
    split at h
    · obtain ⟨before, stretch, rfl, hbefore, hall⟩ := h
      refine ⟨before, stretch ++ [x], by simp, hbefore, ?_⟩
      exact List.forall_mem_append.2 ⟨hall, by simpa using hx⟩
    · rename_i hlast
      obtain ⟨error, time⟩ := x
      cases hx
      cases h
      exact ⟨looks, [], rfl, hlast, List.forall_mem_nil _⟩

theorem Completes.lastError (h : Completes delay looks text) : lastError looks = some text := by
  obtain ⟨start, hend, -⟩ := h
  exact hend.lastError

theorem completes_concat_iff :
    Completes delay (looks ++ [x]) text ↔
      ∃ start, EndInStretch (looks ++ [x]) text start ∧ start.toInt + delay ≤ x.time.toInt := by
  simp [Completes]

theorem not_stable_nil : ¬ Stable delay [] text := by
  rintro ⟨sofar, later, h, hcomplete, -⟩
  obtain ⟨rfl, -⟩ := List.append_eq_nil_iff.1 h.symm
  cases hcomplete.lastError

/-- **A text stays** until there is no error, or a stretch of another text is completed. -/
theorem stable_concat_iff :
    Stable delay (looks ++ [x]) text ↔
      x.error ≠ none ∧
        (Completes delay (looks ++ [x]) text ∨
          Stable delay looks text ∧ ∀ other, Completes delay (looks ++ [x]) other → other = text) := by
  constructor
  · rintro ⟨sofar, later, h, hcomplete, herror, hothers⟩
    rcases List.eq_nil_or_concat' later with rfl | ⟨later, y, rfl⟩
    · rw [List.append_nil] at h
      subst h
      have hx : x.error = some text := (lastError_concat looks x).symm.trans hcomplete.lastError
      exact ⟨by simp [hx], .inl hcomplete⟩
    · rw [← List.append_assoc] at h
      obtain ⟨rfl, hx⟩ := List.append_inj' h rfl
      cases hx
      refine ⟨herror x (by simp), .inr ⟨⟨sofar, later, rfl, hcomplete, ?_, ?_⟩, ?_⟩⟩
      · exact fun y hy => herror y (List.mem_append_left _ hy)
      · exact fun more hne hmore => hothers more hne (hmore.trans (List.prefix_append _ _))
      · rw [List.append_assoc]
        exact hothers (later ++ [x]) (by simp) List.prefix_rfl
  · rintro ⟨hx, hcomplete | ⟨⟨sofar, later, rfl, hcomplete, herror, hothers⟩, hlast⟩⟩
    · refine ⟨looks ++ [x], [], by simp, hcomplete, List.forall_mem_nil _, ?_⟩
      exact fun more hne hmore => absurd (List.prefix_nil.1 hmore) hne
    · refine ⟨sofar, later ++ [x], by simp, hcomplete, ?_, ?_⟩
      · exact List.forall_mem_append.2 ⟨herror, by simpa using hx⟩
      · intro more hne hmore
        rcases List.prefix_concat_iff.1 hmore with rfl | hmore
        · rwa [← List.append_assoc]
        · exact hothers more hne hmore

end Look

/-! ## What the banner keeps -/

namespace Banner

open Look

/-- Looks at the error one after another. -/
def lookAll (b : Banner) (looks : List Look) : Banner :=
  looks.foldl (fun b x => (b.look x.error x.time).2) b

theorem lookAll_concat (b : Banner) (looks : List Look) (x : Look) :
    b.lookAll (looks ++ [x]) = (b.lookAll looks).observe x.error x.time := by
  rw [lookAll, List.foldl_concat, look_eq]
  rfl

/-- The banner agrees with the history of the looks that were taken at it. -/
structure Recalls (wait : UInt64) (looks : List Look) (b : Banner) : Prop where
  delay : b.delay = wait.toInt64
  candidate : b.candidate = lastError looks
  since : ∀ text start, EndInStretch looks text start ↔ b.candidate = some text ∧ b.since = start
  displayed : ∀ text, b.displayed = some text ↔ Stable wait.toNat looks text

variable {wait : UInt64} {looks : List Look} {b : Banner} {text other : String} {now start : Int64}

theorem recalls_nil (wait : UInt64) : Recalls wait [] (ofDelay wait) where
  delay := rfl
  candidate := rfl
  since _ _ := iff_of_false (fun h => nomatch h.lastError) nofun
  displayed _ := iff_of_false nofun not_stable_nil

namespace Recalls

variable (h : Recalls wait looks b)
include h

/-- The candidate was seen first at one of the looks. -/
theorem isClock_since (hclock : ∀ x ∈ looks, IsClock x.time) (hc : b.candidate = some text) :
    IsClock b.since := by
  obtain ⟨before, stretch, rfl, -⟩ := (h.since text b.since).2 ⟨hc, rfl⟩
  exact hclock ⟨some text, b.since⟩ (by simp)

/-- The stretch that a look at a text is in. -/
theorem endInStretch_iff :
    EndInStretch (looks ++ [⟨some text, now⟩]) other start ↔
      some text = some other ∧ (b.notice text now).since = start := by
  rw [endInStretch_concat_iff, since_notice, ← h.candidate]
  refine and_congr_right ?_
  rintro ⟨⟩
  split
  · rename_i hc
    rw [h.since, and_iff_right hc]
  · rfl

theorem completes_iff :
    Completes wait.toNat (looks ++ [⟨some text, now⟩]) other ↔
      some text = some other ∧ (b.notice text now).since.toInt + wait.toNat ≤ now.toInt := by
  rw [completes_concat_iff]
  simp only [h.endInStretch_iff, and_assoc, exists_and_left, exists_eq_left']

/-- The age of a text, which is reckoned in words, reaches the delay when it does so in numbers. -/
theorem le_age_iff (hwait : wait.toNat < 2 ^ 63) (hclock : ∀ x ∈ looks, IsClock x.time)
    (hnow : IsClock now) :
    b.delay ≤ now - (b.notice text now).since ↔
      (b.notice text now).since.toInt + wait.toNat ≤ now.toInt := by
  have hsince : IsClock (b.notice text now).since := by
    rw [since_notice]
    split
    · rename_i hc
      exact h.isClock_since hclock hc
    · exact hnow
  have hage : (now - (b.notice text now).since).toInt = now.toInt - (b.notice text now).since.toInt :=
    Figure.exact_since hnow hsince
  have hdelay : b.delay.toInt = wait.toNat := by
    rw [h.delay]
    exact FitsWord.toInt64 ⟨by omega, by omega⟩
  rw [Int64.le_iff_toInt_le, hage, hdelay]
  omega

/-- A look at a text keeps the agreement. -/
theorem observe_some (hwait : wait.toNat < 2 ^ 63) (hclock : ∀ x ∈ looks, IsClock x.time)
    (hnow : IsClock now) :
    Recalls wait (looks ++ [⟨some text, now⟩]) (b.observe (some text) now) where
  delay := (b.delay_observe _ now).trans h.delay
  candidate := by simp [observe]
  since other start := by simp [observe, h.endInStretch_iff]
  displayed other := by
    have hcompletes : ∀ other, Completes wait.toNat (looks ++ [⟨some text, now⟩]) other ↔
        text = other ∧ b.delay ≤ now - (b.notice text now).since := by
      intro other
      rw [h.completes_iff, h.le_age_iff hwait hclock hnow, Option.some.injEq]
    rw [stable_concat_iff, observe, displayed_settle, delay_notice, candidate_notice,
      displayed_notice, and_iff_right (Option.some_ne_none text)]
    simp only [hcompletes, ← h.displayed]
    by_cases hdone : b.delay ≤ now - (b.notice text now).since
    · simp only [hdone, if_true, and_true, Option.some.injEq]
      constructor
      · exact .inl
      · rintro (heq | ⟨-, hothers⟩)
        · exact heq
        · exact hothers text rfl
    · simp [hdone]

/-- A look at no error keeps the agreement. -/
theorem observe_none : Recalls wait (looks ++ [⟨none, now⟩]) (b.observe none now) where
  delay := h.delay
  candidate := (lastError_concat looks ⟨none, now⟩).symm
  since _ _ := iff_of_false (fun hend => nomatch (endInStretch_concat_iff.1 hend).1) nofun
  displayed _ := iff_of_false nofun fun hstable => (stable_concat_iff.1 hstable).1 rfl

end Recalls

/-- **What the banner keeps is what its history says.** -/
theorem recalls_lookAll (hwait : wait.toNat < 2 ^ 63) (hclock : ∀ x ∈ looks, IsClock x.time) :
    Recalls wait looks ((ofDelay wait).lookAll looks) := by
  induction looks using List.reverseRecOn with
  | nil => exact recalls_nil wait
  | append_singleton looks x ih =>
    obtain ⟨hlooks, hx⟩ := List.forall_mem_append.1 hclock
    obtain ⟨error, now⟩ := x
    rw [lookAll_concat]
    cases error with
    | none => exact (ih hlooks).observe_none
    | some text => exact (ih hlooks).observe_some hwait hlooks (hx _ (List.mem_singleton_self _))

/-- **The banner shows the stable error.** After any looks at any times of the clock the text on the
screen is the one whose stretch was completed last, if there was an error ever since; there is none
after a look at no error; and a look hands back the text that is on the screen after it. -/
theorem displayed_iff_stable (wait : UInt64) (looks : List Look) (hwait : wait.toNat < 2 ^ 63)
    (hclock : ∀ x ∈ looks, IsClock x.time) :
    (∀ text, ((ofDelay wait).lookAll looks).displayed = some text ↔ Stable wait.toNat looks text) ∧
      (∀ now, ((ofDelay wait).lookAll (looks ++ [⟨none, now⟩])).displayed = none) ∧
      ∀ error now, ((ofDelay wait).lookAll looks).look error now =
        (((ofDelay wait).lookAll (looks ++ [⟨error, now⟩])).displayed,
          (ofDelay wait).lookAll (looks ++ [⟨error, now⟩])) := by
  refine ⟨(recalls_lookAll hwait hclock).displayed, fun now => ?_, fun error now => ?_⟩
  · rw [lookAll_concat, displayed_observe_none]
  · rw [lookAll_concat, look_eq]

/-- **The clock may go back.** A stretch is as old as its first look says, even if the clock was set
back since, and a text that is on the screen stays until another one is stable. -/
theorem stable_while_clock_goes_back :
    let looks : List Look := [⟨some "down", 0⟩, ⟨some "down", 1000⟩, ⟨some "slow", 1700⟩,
      ⟨some "slow", 1200⟩, ⟨some "slow", 2250⟩]
    let later : List Look := looks ++ [⟨some "slow", 2700⟩]
    (1000 : UInt64).toNat < 2 ^ 63 ∧ (∀ x ∈ later, IsClock x.time) ∧
      Stable 1000 looks "down" ∧ ¬ Stable 1000 looks "slow" ∧ Stable 1000 later "slow" ∧
      ((ofDelay 1000).lookAll (later ++ [⟨none, 2800⟩])).displayed = none ∧
      ((ofDelay 1000).lookAll looks).look (some "slow") 2700 =
        (some "slow", (ofDelay 1000).lookAll later) := by
  intro looks later
  have hroom : (1000 : UInt64).toNat < 2 ^ 63 := by decide
  have hclock : ∀ x ∈ later, IsClock x.time := by decide
  have hbefore : ((ofDelay 1000).lookAll looks).displayed = some "down" := by decide
  have hafter : ((ofDelay 1000).lookAll later).displayed = some "slow" := by decide
  obtain ⟨hstable, -, hlook⟩ := displayed_iff_stable 1000 looks hroom
    fun x hx => hclock x (List.mem_append_left _ hx)
  obtain ⟨hstable', hnone, -⟩ := displayed_iff_stable 1000 later hroom hclock
  refine ⟨hroom, hclock, (hstable _).1 hbefore, fun hslow => ?_, (hstable' _).1 hafter, hnone 2800,
    (hlook _ 2700).trans (by rw [hafter])⟩
  exact absurd (hbefore.symm.trans ((hstable "slow").2 hslow)) (by decide)

end Banner

end Switchboard
