import Switchboard.Proofs.PollTimes
import Switchboard.Proofs.SingleFlight

/-!
# How far fetches are apart

A poll that fetches puts the next fetch off by the shortest time between two, counted from its own
beginning. A burst of errors puts it off by the cooldown, counted from the reply; what was set before
is lost then, also if it was later.

* `Session.Polling` — a poll is under way. `Session.Polling.step`: nothing else fetches until it is
  answered.
* `Session.PutsOff` — no poll fetches before a certain time. `Session.PutsOff.step`: so it stays.
* `Session.fetches_spaced` — how far a fetch that succeeds and a later one are apart.
-/

set_option autoImplicit false

namespace Switchboard.Session

variable {w : Session} {c : CrewId} {s : Shift} {p : Poll} {id : Nat} {due : Int64} {ev next : Event}
  {events : List Event}

/-! ## While a poll is under way -/

/-- A poll fetches past a guard that nobody has held. -/
theorem isFlying_of_fetches (h : w.Fetches c ev) : w.isFlying (c, .poll) = false := by
  obtain ⟨s, p, hbegun, rfl⟩ := h
  generalize hk : Work.poll s p = k at hbegun
  cases runBegun_of_begun hbegun (by rw [← hk]; rfl) with
  | opens s' j hbar hfree =>
    cases j with
    | poll =>
      cases hk
      exact hfree
    | _ => cases hk
  | switching | watching => cases hk

theorem flightOf?_of_poll (h : w.workOf? id = some (.poll s p)) :
    w.flightOf? id = some (s.crew, .poll) := by
  rw [flightOf?, h]
  rfl

/-- The poll of a task is under way, and its crew fetches again no earlier than that. -/
structure Polling (w : Session) (id : Nat) (s : Shift) (p : Poll) (due : Int64) : Prop where
  work : w.workOf? id = some (.poll s p)
  nextFetchAt : (w.backoff s.crew).nextFetchAt = due

theorem polling_of_begun (h : w.begun? ev = some (.poll s p)) :
    (w.step ev).Polling (w.subject ev) s p
      (w.engine.now + w.engine.config.liveFetchMin.toInt64) := by
  obtain ⟨⟨w', x⟩, hr, hwait⟩ := Option.bind_eq_some_iff.1 h
  refine ⟨(workOf?_step_of_advance hr _).trans ((if_pos rfl).trans hwait), ?_⟩
  have hfetches : w.Fetches s.crew ev := ⟨s, p, h, rfl⟩
  have hpaces := paces_step w s.crew ev
  generalize (w.step ev).backoff s.crew = b at hpaces
  cases hpaces with
  | keeps hn hf | notes hn hf => exact absurd hfetches hf
  | fetches => rfl

/-- **Nothing else fetches until the poll is answered.** -/
theorem Polling.step (h : w.Polling id s p due) (hw : w.Numbered) {holder : Option Nat}
    (hm : w.Manned (s.crew, .poll) holder) (ev : Event) :
    ¬ w.Fetches s.crew ev ∧ ((w.step ev).Polling id s p due ∨
      w.subject ev = id ∧ ∃ reply, w.answered? ev = some ⟨.poll s p, reply⟩) := by
  have hflight := flightOf?_of_poll h.work
  have hfetches : ¬ w.Fetches s.crew ev := by
    intro hf
    have hfree := isFlying_of_fetches hf
    rw [hm.isFlying_iff.2 ⟨id, hflight⟩] at hfree
    cases hfree
  refine ⟨hfetches, or_iff_not_imp_right.2 fun hunanswered => ?_⟩
  have hkeeps := (workOf?_step_or_answered hw h.work ev).resolve_right hunanswered
  -- A finding would be that of another poll of the crew, and there is none.
  have hnone : w.finding? s.crew ev = none := by
    refine Option.eq_none_iff_forall_ne_some.2 fun n hn => hunanswered ?_
    obtain ⟨s', p', reply, ha, hcrew, -⟩ := poll_of_finding hn
    have hwork := workOf?_of_answered ha
    have hid := hm.eq_of_flightOf? (hcrew ▸ flightOf?_of_poll hwork) hflight
    rw [hid, h.work] at hwork
    cases hwork
    exact ⟨hid, reply, ha⟩
  refine ⟨hkeeps, ?_⟩
  have hpaces := paces_step w s.crew ev
  rw [← h.nextFetchAt]
  generalize (w.step ev).backoff s.crew = b at hpaces
  cases hpaces with
  | keeps => rfl
  | fetches hn hf => exact absurd hf hfetches
  | notes hn =>
    rw [hnone] at hn
    cases hn

/-- Before the crew fetches again, the poll is answered. -/
theorem Polling.exists_answer (h : w.Polling id s p due) (hw : w.Numbered)
    (hm : ∃ holder, w.Manned (s.crew, .poll) holder) (hnext : (w.run events).Fetches s.crew next) :
    ∃ during answer later reply, events = during ++ answer :: later ∧
      (w.run during).Polling id s p due ∧ (w.run during).subject answer = id ∧
      (w.run during).answered? answer = some ⟨.poll s p, reply⟩ := by
  induction events generalizing w with
  | nil =>
    obtain ⟨holder, hm⟩ := hm
    exact absurd hnext (h.step hw hm next).1
  | cons ev events ih =>
    obtain ⟨holder, hm⟩ := hm
    rcases (h.step hw hm ev).2 with hstep | ⟨hid, reply, ha⟩
    · obtain ⟨during, answer, later, reply, rfl, hd⟩ :=
        ih hstep (hw.step ev) (hm.step hw ev) hnext
      exact ⟨ev :: during, answer, later, reply, rfl, hd⟩
    · exact ⟨[], ev, events, reply, rfl, h, hid, ha⟩

/-- With the answer the crew is at leisure. -/
theorem Polling.idle (h : w.Polling id s p due) (hw : w.Numbered) {holder : Option Nat}
    (hm : w.Manned (s.crew, .poll) holder) {reply : Reply (Work.poll s p).call}
    (hid : w.subject ev = id) (ha : w.answered? ev = some ⟨.poll s p, reply⟩) :
    (w.step ev).Idle s.crew := by
  obtain ⟨hbegun, hended⟩ := ended_of_done ha rfl
  intro id' s' p' hk hcrew
  rcases workOf?_step_cases hw hk with hbefore | ⟨-, hnew⟩
  · have hother : w.flightOf? id' = some (s.crew, .poll) := hcrew ▸ flightOf?_of_poll hbefore
    rw [hm.eq_of_flightOf? hother (flightOf?_of_poll h.work), ← hid, hended] at hk
    cases hk
  · rw [hbegun] at hnew
    cases hnew

/-! ## Between two polls -/

/-- No poll of the crew is under way and none fetches before that time, or it is over. -/
def PutsOff (w : Session) (c : CrewId) (bound : Int) : Prop :=
  w.Idle c ∧ bound ≤ (w.backoff c).nextFetchAt.toInt ∨ bound ≤ w.engine.now.toInt

variable {bound : Int}

theorem PutsOff.of_fetches (h : w.PutsOff c bound) (hf : w.Fetches c ev) :
    bound ≤ w.engine.now.toInt := by
  rcases h with ⟨-, hle⟩ | hle
  · have hpaces := paces_step w c ev
    generalize (w.step ev).backoff c = b at hpaces
    cases hpaces with
    | keeps hn hnot | notes hn hnot => exact absurd hf hnot
    | fetches hn hf hdue => exact hle.trans (Int64.le_iff_toInt_le.1 hdue)
  · exact hle

theorem PutsOff.step (h : w.PutsOff c bound) (hw : w.Numbered)
    (hclock : w.engine.now ≤ (w.step ev).engine.now) : (w.step ev).PutsOff c bound := by
  have hnow : w.engine.now.toInt ≤ (w.step ev).engine.now.toInt := Int64.le_iff_toInt_le.1 hclock
  by_cases hf : w.Fetches c ev
  · exact .inr ((h.of_fetches hf).trans hnow)
  rcases h with ⟨hidle, hle⟩ | hle
  · refine .inl ⟨hidle.step hw hf, ?_⟩
    have hpaces := paces_step w c ev
    generalize (w.step ev).backoff c = b at hpaces
    cases hpaces with
    | keeps => exact hle
    | fetches hn hfetches => exact absurd hfetches hf
    | notes hn =>
      rw [hidle.finding?] at hn
      cases hn
  · exact .inr (hle.trans hnow)

theorem PutsOff.run (h : w.PutsOff c bound) (hw : w.Numbered) (hclock : w.ClockRises events) :
    (w.run events).PutsOff c bound := by
  induction events generalizing w with
  | nil => exact h
  | cons ev events ih => exact ih (h.step hw hclock.1) (hw.step ev) hclock.2

/-- After the answer the crew fetches no earlier than the poller says then. -/
theorem Polling.nextFetchAt_le (h : w.Polling id s p due) (hw : w.Numbered) {holder : Option Nat}
    (hm : w.Manned (s.crew, .poll) holder) {reply : Reply (Work.poll s p).call}
    (hid : w.subject ev = id) (ha : w.answered? ev = some ⟨.poll s p, reply⟩)
    (hclock : w.ClockRises (ev :: events)) (hnext : (w.run (ev :: events)).Fetches s.crew next) :
    ((w.step ev).backoff s.crew).nextFetchAt.toInt ≤ (w.run (ev :: events)).engine.now.toInt := by
  have hoff : (w.step ev).PutsOff s.crew ((w.step ev).backoff s.crew).nextFetchAt.toInt :=
    .inl ⟨h.idle hw hm hid ha, le_rfl⟩
  exact (hoff.run (hw.step ev) hclock.2).of_fetches hnext

/-! ## The distance -/

/-- The reply makes a burst of errors of an identity. -/
def firesBurst (w : Session) (c : CrewId) (snapshot : Snapshot) : Prop :=
  Poll.hasError snapshot ∧
    Backoff.isBurst w.engine.config ((w.backoff c).withError w.engine.config w.engine.now)

instance (w : Session) (c : CrewId) (snapshot : Snapshot) : Decidable (w.firesBurst c snapshot) :=
  inferInstanceAs (Decidable (_ ∧ _))

theorem toInt_add_duration {t : Int64} {d : UInt64} (ht : t.toInt < 2 ^ 63 - 2 ^ 53)
    (hd : d.toNat < 2 ^ 53) : (t + d.toInt64).toInt = t.toInt + d.toNat := by
  have hlow := t.le_toInt
  have hword : d.toInt64.toInt = d.toNat := FitsWord.toInt64 ⟨by omega, by omega⟩
  rw [FitsWord.add (by rw [hword]; exact ⟨by omega, by omega⟩), hword]

variable {snapshot : Snapshot}

/-- What a dashboard makes of the time of the next fetch: a burst sets it, whatever it was. -/
theorem nextFetchAt_of_answer (ha : w.answered? ev = some ⟨.poll s p, .ok snapshot⟩) :
    ((w.step ev).backoff s.crew).nextFetchAt =
      if w.firesBurst s.crew snapshot then w.engine.now + w.engine.config.burstCooldown.toInt64
      else (w.backoff s.crew).nextFetchAt := by
  have hfinding : w.finding? s.crew ev = some ⟨.ofReply (.ok snapshot), w.engine.now⟩ :=
    (finding?_of_answered ha).trans (if_pos rfl)
  rw [backoff_step_of_finding hfinding]
  cases herror : Poll.hasError snapshot with
  | false => simp [firesBurst, Ending.ofReply, herror, Backoff.note_success]
  | true =>
    have hending : Ending.ofReply (.ok snapshot) = .identityError := by simp [Ending.ofReply, herror]
    rw [hending, Backoff.nextFetchAt_identityError, ← Backoff.toInt64_eq_ofNat]
    simp only [firesBurst, herror, true_and]

/-- When the crew fetches again once a dashboard has come. -/
theorem Polling.spaced (h : w.Polling id s p due) (hw : w.Numbered) {holder : Option Nat}
    (hm : w.Manned (s.crew, .poll) holder) (hid : w.subject ev = id)
    (ha : w.answered? ev = some ⟨.poll s p, .ok snapshot⟩)
    (hcooldown : w.engine.config.burstCooldown.toNat < 2 ^ 53)
    (hclock : w.ClockRises (ev :: events)) (hnext : (w.run (ev :: events)).Fetches s.crew next)
    (hlast : (w.run (ev :: events)).engine.now.toInt < 2 ^ 63 - 2 ^ 53) :
    let bound : Int := if w.firesBurst s.crew snapshot then
      w.engine.now.toInt + w.engine.config.burstCooldown.toNat else due.toInt
    ((w.step ev).backoff s.crew).nextFetchAt.toInt = bound ∧
      bound ≤ (w.run (ev :: events)).engine.now.toInt := by
  intro bound
  have hbound : ((w.step ev).backoff s.crew).nextFetchAt.toInt = bound := by
    rw [nextFetchAt_of_answer ha, h.nextFetchAt, apply_ite Int64.toInt,
      toInt_add_duration (hclock.le_now.trans_lt hlast) hcooldown]
  exact ⟨hbound, hbound ▸ h.nextFetchAt_le hw hm hid ha hclock hnext⟩

/-- **How far fetches are apart.** In every run, under a normalized configuration whose cooldown is
less than 2^53, by a clock that does not go back after the first of two fetches of a crew: between them
there is the reply to the first one. If it is a dashboard, however long it took, the second fetch comes
no earlier than the shortest time between two after the beginning of the first; but if the reply makes
a burst, then only no earlier than the cooldown after the reply, whichever of the two is later. -/
theorem fetches_spaced {e : Engine} {random : Source} {config : Config}
    (hconfig : e.config = config.normalized) (hcooldown : e.config.burstCooldown.toNat < 2 ^ 53)
    {before after : List Event} {fetch next : Event} {s : Shift} {p : Poll}
    (hfetch : ((ofSource e random).run before).begun? fetch = some (.poll s p))
    (hclock : ((ofSource e random).run before).ClockRises (fetch :: after))
    (hlast : ((ofSource e random).run (before ++ fetch :: after)).engine.now.toInt <
      2 ^ 63 - 2 ^ 53)
    (hnext : ((ofSource e random).run (before ++ fetch :: after)).Fetches s.crew next) :
    let start := (ofSource e random).run before
    let last := (ofSource e random).run (before ++ fetch :: after)
    ∃ during answer later reply, after = during ++ answer :: later ∧
      let replied := (ofSource e random).run (before ++ fetch :: during)
      replied.subject answer = start.subject fetch ∧
      replied.answered? answer = some ⟨.poll s p, reply⟩ ∧
      ∀ snapshot : Snapshot, reply = .ok snapshot →
        let due : Int :=
          if replied.firesBurst s.crew snapshot then
            replied.engine.now.toInt + e.config.burstCooldown.toNat
          else start.engine.now.toInt + e.config.liveFetchMin.toNat
        ((replied.step answer).backoff s.crew).nextFetchAt.toInt = due ∧
          due ≤ last.engine.now.toInt := by
  intro start last
  have hrun (events : List Event) : (ofSource e random).run (before ++ fetch :: events) =
      (start.step fetch).run events := run_append _ _ _
  have hw (events : List Event) : ((ofSource e random).run events).Numbered :=
    (numbered_ofSource e random).run events
  have hm (events : List Event) := manned_ofSource e random events (s.crew, .poll)
  have hw₀ : (start.step fetch).Numbered := (hw before).step fetch
  obtain ⟨holder₀, hm₀⟩ := hm before
  obtain ⟨during, answer, later, reply, rfl, hpolling, hid, ha⟩ :=
    (polling_of_begun hfetch).exists_answer hw₀ (hm₀.step (hw before) fetch)
      (by rwa [hrun] at hnext)
  rw [← hrun] at hpolling hid ha
  refine ⟨during, answer, later, reply, rfl, hid, ha, ?_⟩
  rintro snapshot rfl
  have hend : (ofSource e random).run (before ++ fetch :: (during ++ answer :: later)) =
      ((ofSource e random).run (before ++ fetch :: during)).run (answer :: later) := by
    rw [hrun, hrun, run_append]
  have hrises : ((ofSource e random).run (before ++ fetch :: during)).ClockRises (answer :: later) := by
    rw [hrun]
    exact (clockRises_append.1 hclock.2).2
  have hdue : (start.engine.now + start.engine.config.liveFetchMin.toInt64).toInt =
      start.engine.now.toInt + e.config.liveFetchMin.toNat := by
    have hmin : e.config.liveFetchMin.toNat ≤ 60000 :=
      hconfig ▸ Backoff.normalized_liveFetchMin_le config
    have hnow : start.engine.now.toInt < 2 ^ 63 - 2 ^ 53 := by
      have hle := ClockRises.le_now hclock
      rw [← run_append] at hle
      exact hle.trans_lt hlast
    rw [config_ofSource, toInt_add_duration hnow (by omega)]
  obtain ⟨holder, hmanned⟩ := hm (before ++ fetch :: during)
  have hspaced := hpolling.spaced (hw _) hmanned hid ha (by rwa [config_ofSource]) hrises
    (by rwa [hend] at hnext) (by rwa [hend] at hlast)
  rw [hdue, config_ofSource, ← hend] at hspaced
  exact hspaced

/-- The shortest time between two fetches is five seconds here. The dashboard comes at once, and its
error is a burst: the cooldown ends before the five seconds do, and the next poll fetches then. -/
theorem second_fetch_after_cooldown :
    let config : Config := { liveFetchMin := 5000, burstThreshold := 1 }
    let e : Engine := { Engine.blank with config := config.normalized }
    let snapshot : Snapshot := { currentError := some "expired" }
    let poll : Event := .ask (.job (.manual 0) .poll)
    let answer : Event := .reply 0 (.fetchDashboard false .gpt) (.ok snapshot)
    let start := ofSource e {}
    let replied := start.run [poll]
    let last := start.run [poll, answer, .pass 900]
    start.begun? poll = some (.poll ⟨.manual, .manual 0⟩ ⟨.gpt⟩) ∧
      start.ClockRises [poll, answer, .pass 900] ∧ last.Fetches .manual poll ∧
      replied.firesBurst .manual snapshot ∧
      ((replied.step answer).backoff .manual).nextFetchAt.toInt = 900 ∧
      900 ≤ last.engine.now.toInt ∧
      last.engine.now.toInt < start.engine.now.toInt + e.config.liveFetchMin.toNat := by
  intro config e snapshot poll answer start replied last
  have hfetch : start.begun? poll = some (.poll ⟨.manual, .manual 0⟩ ⟨.gpt⟩) := by decide +kernel
  have hclock : start.ClockRises [poll, answer, .pass 900] := by
    simp only [ClockRises, and_true]
    decide +kernel
  have hnext : last.Fetches .manual poll :=
    ⟨⟨.manual, .manual 0⟩, ⟨.gpt⟩, by decide +kernel, rfl⟩
  have hfires : replied.firesBurst .manual snapshot := by decide +kernel
  obtain ⟨during, replies, later, reply, hafter, -, ha, hspaced⟩ :=
    @fetches_spaced e {} config rfl (by decide +kernel) [] [answer, .pass 900] poll poll _ _ hfetch
      hclock (by decide +kernel) hnext
  have hduring : during = [] := by
    rcases during with _ | ⟨x, _ | ⟨y, during⟩⟩
    · rfl
    · cases hafter
      cases ha
    · simp at hafter
  subst hduring
  cases hafter
  have hreply : replied.answered? answer =
      some ⟨.poll ⟨.manual, .manual 0⟩ ⟨.gpt⟩, .ok snapshot⟩ :=
    answered?_reply (w := replied) (k := .poll ⟨.manual, .manual 0⟩ ⟨.gpt⟩) (by decide +kernel) _
  cases hreply.symm.trans ha
  obtain ⟨hset, hle⟩ := hspaced snapshot rfl
  have hdue : (if replied.firesBurst .manual snapshot then
      replied.engine.now.toInt + e.config.burstCooldown.toNat
      else start.engine.now.toInt + e.config.liveFetchMin.toNat) = 900 := by decide +kernel
  exact ⟨hfetch, hclock, hnext, hfires, hset.trans hdue, hdue.symm.trans_le hle, by decide +kernel⟩

end Switchboard.Session
