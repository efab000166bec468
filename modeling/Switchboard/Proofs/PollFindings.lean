import Mathlib.Data.List.Basic
import Mathlib.Order.Nat
import Switchboard.Duty.Poll
import Switchboard.Proofs.Bounds
import Switchboard.Proofs.ExactArithmetic

/-!
# What a poller remembers of its fetches

Every fetch ends with a finding: a failure, a dashboard with an error of an identity, or a clean
dashboard. The poller keeps a counter and a queue of times; here they are compared with the whole
history of findings.

* `Findings.streak`, `Findings.openErrors`, `Findings.window` — what the history says: the failures
  since the last success, the errors that still count towards a burst, and those of them within the
  window.
* `Backoff.Recalls` — the counter and the queue agree with the history; `Backoff.Recalls.note`: they
  do so after one more finding.
* `Backoff.note_follows` — the burst, the streak and the time of the next fetch.
-/

set_option autoImplicit false

namespace Switchboard

/-- How a fetch ended. -/
inductive Ending where
  | failure
  /-- A dashboard that bears an error of an identity. -/
  | identityError
  | success
  deriving DecidableEq

/-- How a fetch ended, and when that was noted. -/
structure Finding where
  ending : Ending
  time : Int64
  deriving DecidableEq

/-- Failures and errors of an identity count towards a burst. -/
def Finding.isError (n : Finding) : Bool := n.ending != .success

/-- How the fetch of a poll ended. -/
def Ending.ofReply : Except Failure Snapshot → Ending
  | .error _ => failure
  | .ok s => if Poll.hasError s then identityError else success

/-! ## The history

Histories have the latest finding in front. -/

namespace Findings

variable (c : Config)

/-- The failures since the last success of either kind. -/
def streak (past : List Finding) : Nat := (past.takeWhile (·.ending = .failure)).length

/-- Those findings that are no older than the window at this time. -/
def recent (now : Int64) (errors : List Finding) : List Finding :=
  errors.filter fun n => now.toInt - n.time.toInt ≤ (c.burstWindow.toNat : Int)

/-- Those findings that are no older than the window when the latest of them is noted. -/
def window : List Finding → List Finding
  | [] => []
  | n :: past => recent c n.time (n :: past)

/-- So many errors within the window are a burst. -/
def isBurst (errors : List Finding) : Bool := c.burstThreshold.toNat ≤ (window c errors).length

/-- The errors since the last clean success or burst; an error that makes a burst is one of them. -/
def openErrors : List Finding → List Finding
  | [] => []
  | n :: past =>
    if n.isError then n :: if isBurst c (openErrors past) then [] else openErrors past else []

/-- The errors that still count when the next one comes. -/
def kept (past : List Finding) : List Finding :=
  if isBurst c (openErrors c past) then [] else openErrors c past

/-- The findings were noted one after another, on a clock that is never below zero. -/
structure Ordered (past : List Finding) : Prop where
  nonneg : ∀ n ∈ past, 0 ≤ n.time.toInt
  pairwise : past.Pairwise fun n m => m.time.toInt ≤ n.time.toInt

variable {c} {n : Finding} {past : List Finding}

theorem openErrors_cons (h : n.isError) : openErrors c (n :: past) = n :: kept c past := by
  simp [openErrors, h, kept]

theorem openErrors_of_clean (h : n.isError = false) : openErrors c (n :: past) = [] := by
  simp [openErrors, h]

theorem kept_sublist (past : List Finding) : (kept c past).Sublist past := by
  have hopen : (openErrors c past).Sublist past := by
    induction past with
    | nil => exact .slnil
    | cons n past ih =>
      unfold openErrors
      split
      · split
        · exact (List.nil_sublist past).cons_cons n
        · exact ih.cons_cons n
      · exact List.nil_sublist _
  unfold kept
  split
  · exact List.nil_sublist past
  · exact hopen

theorem window_sublist (errors : List Finding) : (window c errors).Sublist errors := by
  cases errors with
  | nil => exact .slnil
  | cons n past => exact List.filter_sublist

theorem isBurst_nil (h : 0 < c.burstThreshold.toNat) : isBurst c [] = false :=
  decide_eq_false (Nat.not_le.2 h)

theorem recent_self : recent c n.time (n :: past) = n :: recent c n.time past := by
  simp [recent]

/-- What is in the window now was in it at any earlier time. -/
theorem recent_recent {now before : Int64} (h : before.toInt ≤ now.toInt) (errors : List Finding) :
    recent c now (recent c before errors) = recent c now errors := by
  rw [recent, recent, List.filter_filter, recent]
  refine List.filter_congr fun n _ => ?_
  rw [← Bool.decide_and, decide_eq_decide]
  omega

/-- The window moves on with every finding. -/
theorem window_cons_kept (h : Ordered (n :: past)) :
    window c (n :: kept c past) = n :: recent c n.time (window c (kept c past)) := by
  rw [window, recent_self]
  have hsub := kept_sublist (c := c) past
  cases hk : kept c past with
  | nil => rfl
  | cons m rest =>
    have hm : m ∈ past := hsub.mem (hk ▸ List.mem_cons_self)
    rw [window, recent_recent (List.rel_of_pairwise_cons h.pairwise hm)]

end Findings

/-! ## The counter and the queue -/

namespace Backoff

variable (c : Config)

/-- The poller takes in a finding. -/
def note (b : Backoff) (n : Finding) : Backoff :=
  match n.ending with
  | .failure => (b.recordFailure c n.time).1
  | .identityError => b.recordSuccess c true n.time
  | .success => b.recordSuccess c false n.time

/-- The counter and the queue agree with the history. -/
structure Recalls (b : Backoff) (past : List Finding) : Prop where
  streak : b.streak.toNat = min (Findings.streak past) (2 ^ 32 - 1)
  recentErrors : b.recentErrors.reverse =
    (Findings.window c (Findings.kept c past)).map (·.time)

/-- Where nothing behind a value that stays would be dropped, dropping from the front is dropping
throughout. -/
theorem dropWhile_eq_filter {α : Type} {p : α → Bool} {l : List α}
    (h : l.Pairwise fun x y => p y → p x) : l.dropWhile p = l.filter (!p ·) := by
  induction l with
  | nil => rfl
  | cons x l ih =>
    obtain ⟨hx, hl⟩ := List.pairwise_cons.1 h
    by_cases hp : p x
    · simp [hp, ih hl]
    · rw [List.dropWhile_cons_of_neg hp, List.filter_eq_self.2]
      intro y hy
      rcases List.mem_cons.1 hy with rfl | hy
      · simpa using hp
      · simpa using fun h => hp (hx y hy h)

variable {c} {b : Backoff} {n : Finding} {past : List Finding}

/-- The age of a time in the queue, in a signed word, is exact. -/
theorem older_iff {x : Int64} (hwindow : FitsWord c.burstWindow.toNat) (hx : 0 ≤ x.toInt)
    (hle : x.toInt ≤ n.time.toInt) :
    c.burstWindow.toInt64 < n.time - x ↔ (c.burstWindow.toNat : Int) < n.time.toInt - x.toInt := by
  have hnow := n.time.toInt_lt
  rw [Int64.lt_iff_toInt_lt, hwindow.toInt64, FitsWord.sub ⟨by omega, by omega⟩]

/-- **The queue holds the window.** It is pruned at its front only, and holds the times of the errors
that the history has in the window. -/
theorem reverse_withError (hb : b.Recalls c past) (hwindow : FitsWord c.burstWindow.toNat)
    (h : Findings.Ordered (n :: past)) :
    (b.withError c n.time).reverse = (Findings.window c (n :: Findings.kept c past)).map (·.time) := by
  have hsub : (Findings.window c (Findings.kept c past)).Sublist past :=
    (Findings.window_sublist _).trans (Findings.kept_sublist past)
  generalize hqueue : Findings.window c (Findings.kept c past) = queue at hsub
  have hle : ∀ m ∈ n :: queue, 0 ≤ m.time.toInt ∧ m.time.toInt ≤ n.time.toInt := by
    intro m hm
    refine ⟨h.nonneg m ((hsub.cons_cons n).mem hm), ?_⟩
    rcases List.mem_cons.1 hm with rfl | hm
    · exact le_rfl
    · exact List.rel_of_pairwise_cons h.pairwise (hsub.mem hm)
  have htimes : b.recentErrors ++ [n.time] = ((n :: queue).map (·.time)).reverse := by
    rw [List.map_cons, List.reverse_cons, ← hqueue, ← hb.recentErrors, List.reverse_reverse]
  have hdrop : (b.recentErrors ++ [n.time]).Pairwise fun x y =>
      decide (c.burstWindow.toInt64 < n.time - y) → decide (c.burstWindow.toInt64 < n.time - x) := by
    rw [htimes, List.pairwise_reverse, List.pairwise_map]
    refine (h.pairwise.sublist (hsub.cons_cons n)).imp_of_mem fun {m m'} hm hm' hmm => ?_
    obtain ⟨h₀, h₁⟩ := hle m hm
    obtain ⟨h₀', h₁'⟩ := hle m' hm'
    rw [decide_eq_true_iff, decide_eq_true_iff, older_iff hwindow h₀ h₁, older_iff hwindow h₀' h₁']
    omega
  rw [withError, dropWhile_eq_filter hdrop, ← List.filter_reverse, htimes, List.reverse_reverse,
    List.filter_map, Findings.window_cons_kept h, ← Findings.recent_self, hqueue]
  refine congrArg _ (List.filter_congr fun m hm => ?_)
  obtain ⟨h₀, h₁⟩ := hle m hm
  simp only [Function.comp_apply, older_iff hwindow h₀ h₁]
  rw [← decide_not, decide_eq_decide]
  omega

theorem isBurst_withError (hb : b.Recalls c past) (hwindow : FitsWord c.burstWindow.toNat)
    (h : Findings.Ordered (n :: past)) (hn : n.isError) :
    isBurst c (b.withError c n.time) = Findings.isBurst c (Findings.openErrors c (n :: past)) := by
  rw [isBurst, Findings.isBurst, Findings.openErrors_cons hn, ← List.length_reverse,
    reverse_withError hb hwindow h, List.length_map]

/-- The limits that the history is compared under: the threshold is not zero, a burst puts the next
fetch off, and a signed word has room for every duration. -/
structure Sound (c : Config) : Prop where
  threshold : 0 < c.burstThreshold.toNat
  cooldown : 0 < c.burstCooldown.toNat
  fits_window : FitsWord c.burstWindow.toNat
  fits_cooldown : FitsWord c.burstCooldown.toNat
  fits_retry : FitsWord c.liveErrorRetryMax.toNat

theorem recalls_nil (hc : Sound c) : ({} : Backoff).Recalls c [] where
  streak := rfl
  recentErrors := by
    rw [Findings.kept, Findings.openErrors, Findings.isBurst_nil hc.threshold]
    rfl

theorem note_success (time : Int64) :
    b.note c ⟨.success, time⟩ = { b with streak := 0, recentErrors := [] } := rfl

/-- A dashboard with an error of an identity ends the streak, and may make a burst. -/
theorem note_identityError (time : Int64) :
    b.note c ⟨.identityError, time⟩ =
      if isBurst c (b.withError c time) then
        { streak := 0, recentErrors := [], nextFetchAt := time + c.burstCooldown.toInt64 }
      else { b with streak := 0, recentErrors := b.withError c time } := rfl

/-- The queue after an error: a burst empties it. -/
theorem recentErrors_note (hc : Sound c) (hn : n.isError) :
    (b.note c n).recentErrors =
      if isBurst c (b.withError c n.time) then [] else b.withError c n.time := by
  have hcooldown : (0 : UInt64) < c.burstCooldown := UInt64.lt_iff_toNat_lt.2 hc.cooldown
  obtain ⟨ending, time⟩ := n
  cases ending with
  | success => cases hn
  | identityError =>
    rw [note_identityError]
    split <;> rfl
  | failure =>
    simp only [note, recordFailure]
    by_cases hburst : isBurst c (b.withError c time)
    · rw [if_pos hburst, if_pos hburst, if_pos hcooldown]
    · rw [if_neg hburst, if_neg hburst, if_neg (by decide)]

/-- The counter of failures goes no further than its type. -/
theorem streak_note (hb : b.Recalls c past) :
    (b.note c n).streak.toNat = min (Findings.streak (n :: past)) (2 ^ 32 - 1) := by
  have hstreak := hb.streak
  obtain ⟨ending, time⟩ := n
  cases ending with
  | success => rfl
  | identityError =>
    rw [note_identityError]
    split <;> rfl
  | failure =>
    have hcons : Findings.streak (⟨.failure, time⟩ :: past) = Findings.streak past + 1 := rfl
    rw [hcons]
    simp only [note, recordFailure]
    split
    · rename_i hmax
      rw [hmax] at hstreak ⊢
      have htop : maxStreak.toNat = 2 ^ 32 - 1 := rfl
      omega
    · rename_i hmax
      have htop : b.streak.toNat ≠ 2 ^ 32 - 1 := fun h => hmax (UInt32.toNat_inj.1 h)
      have hone : (1 : UInt32).toNat = 1 := rfl
      rw [UInt32.toNat_add, hone]
      omega

/-- **The counter and the queue keep agreeing with the history.** -/
theorem Recalls.note (hb : b.Recalls c past) (hc : Sound c) (h : Findings.Ordered (n :: past)) :
    (b.note c n).Recalls c (n :: past) where
  streak := streak_note hb
  recentErrors := by
    rw [Findings.kept]
    cases hn : n.isError with
    | false =>
      obtain ⟨ending, time⟩ := n
      cases ending with
      | success =>
        rw [note_success, Findings.openErrors_of_clean hn, Findings.isBurst_nil hc.threshold]
        rfl
      | _ => cases hn
    | true =>
      rw [recentErrors_note hc hn, isBurst_withError hb hc.fits_window h hn,
        Findings.openErrors_cons hn]
      split
      · rfl
      · exact reverse_withError hb hc.fits_window h

/-! ## The next fetch -/

theorem normalized_liveFetchMin_le (c : Config) : c.normalized.liveFetchMin.toNat ≤ 60000 :=
  UInt64.le_iff_toNat_le.1 c.inBounds_normalized.liveFetchMin

theorem toInt64_eq_ofNat (v : UInt64) : v.toInt64 = Int64.ofNat v.toNat :=
  congrArg UInt64.toInt64 UInt64.ofNat_toNat.symm

/-- The saturating product is cut off by the limit anyway. -/
theorem toNat_retryDelay (c : Config) (streak : UInt32) :
    (retryDelay c streak).toNat =
      min (c.liveErrorRetry.toNat * 2 ^ min (streak.toNat - 1) 20) c.liveErrorRetryMax.toNat := by
  have hmax := c.liveErrorRetryMax.toNat_lt
  have hsize : UInt64.size = 2 ^ 64 := rfl
  rw [retryDelay, UInt64.toNat_min, UInt64.toNat_ofNat_of_lt' (by omega)]
  show min (min (c.liveErrorRetry.toNat * 2 ^ min (streak.toNat - 1) 20) (UInt64.size - 1)) _ = _
  omega

/-- What a failure puts the next fetch off by: the delay of the streak, or that of a burst if it is
longer. -/
def setback (c : Config) (streak : Nat) (burst : Bool) : Nat :=
  max (min (c.liveErrorRetry.toNat * 2 ^ min (streak - 1) 20) c.liveErrorRetryMax.toNat)
    (if burst then c.burstCooldown.toNat else 0)

theorem fits_setback (hc : Sound c) (streak : Nat) (burst : Bool) :
    FitsWord (setback c streak burst) := by
  have hcooldown := hc.fits_cooldown.2
  have hretry := hc.fits_retry.2
  have hle : setback c streak burst ≤ max c.liveErrorRetryMax.toNat c.burstCooldown.toNat := by
    unfold setback
    split <;> omega
  exact ⟨by omega, by omega⟩

theorem toNat_setback (c : Config) (streak : UInt32) (burst : Bool) :
    (max (retryDelay c streak) (if burst then c.burstCooldown else 0)).toNat =
      setback c streak.toNat burst := by
  rw [UInt64.toNat_max, toNat_retryDelay, setback]
  congr 1
  split <;> rfl

theorem nextFetchAt_failure (time : Int64) :
    (b.note c ⟨.failure, time⟩).nextFetchAt = time + Int64.ofNat
      (setback c (b.note c ⟨.failure, time⟩).streak.toNat (isBurst c (b.withError c time))) := by
  rw [← toNat_setback, ← toInt64_eq_ofNat]
  rfl

theorem nextFetchAt_identityError (time : Int64) :
    (b.note c ⟨.identityError, time⟩).nextFetchAt =
      if isBurst c (b.withError c time) then time + Int64.ofNat c.burstCooldown.toNat
      else b.nextFetchAt := by
  rw [note_identityError, ← toInt64_eq_ofNat]
  split <;> rfl

/-- **One more finding.** What the poller makes of it, as the history has it. -/
theorem note_follows (hb : b.Recalls c past) (hc : Sound c) (h : Findings.Ordered (n :: past)) :
    ∃ burst : Bool,
      (burst ↔ c.burstThreshold.toNat ≤
        (Findings.window c (Findings.openErrors c (n :: past))).length) ∧
      (n.isError → isBurst c (b.withError c n.time) = burst ∧
        ((b.note c n).recentErrors = [] ↔ burst)) ∧
      (b.note c n).streak.toNat = min (Findings.streak (n :: past)) (2 ^ 32 - 1) ∧
      match n.ending with
      | .failure =>
        ∃ delay : Nat, FitsWord delay ∧ (b.note c n).nextFetchAt = n.time + Int64.ofNat delay ∧
          delay = max (min (c.liveErrorRetry.toNat * 2 ^ min ((b.note c n).streak.toNat - 1) 20)
            c.liveErrorRetryMax.toNat) (if burst then c.burstCooldown.toNat else 0)
      | .identityError =>
        (b.note c n).nextFetchAt =
          if burst then n.time + Int64.ofNat c.burstCooldown.toNat else b.nextFetchAt
      | .success => (b.note c n).nextFetchAt = b.nextFetchAt := by
  have hburst := isBurst_withError hb hc.fits_window h
  refine ⟨Findings.isBurst c (Findings.openErrors c (n :: past)), decide_eq_true_iff,
    fun hn => ⟨hburst hn, ?_⟩, streak_note hb, ?_⟩
  · have hqueue : b.withError c n.time ≠ [] := by
      rw [← List.reverse_ne_nil_iff, reverse_withError hb hc.fits_window h,
        Findings.window_cons_kept h]
      exact List.cons_ne_nil _ _
    rw [recentErrors_note hc hn, hburst hn]
    split <;> simp_all
  · obtain ⟨ending, time⟩ := n
    cases ending with
    | failure =>
      refine ⟨_, fits_setback hc _ _, nextFetchAt_failure time, ?_⟩
      rw [hburst rfl]
      rfl
    | identityError =>
      dsimp only
      rw [nextFetchAt_identityError, hburst rfl]
    | success => rfl

end Backoff

end Switchboard
