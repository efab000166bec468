import Switchboard.Proofs.Records
import Switchboard.Proofs.DutyRuns
import Switchboard.Proofs.ModelWrites
import Switchboard.Proofs.Outstanding
import Switchboard.Proofs.PollFindings
import Switchboard.Proofs.Scopes

/-!
# When polls are due

The poller of a crew is touched twice by a poll: when it fetches, and when the finding is noted.
Nothing else that happens in a session touches it.

* `Session.paces_step` — what can become of a poller at one event.
-/

set_option autoImplicit false

namespace Switchboard.Session

/-! ## What touches a poller -/

/-- The finding of a poll of the crew that an event brings. -/
def finding? (w : Session) (c : CrewId) (ev : Event) : Option Finding :=
  match w.answered? ev with
  | some ⟨.poll s _, reply⟩ => if s.crew = c then some ⟨.ofReply reply, w.engine.now⟩ else none
  | _ => none

/-- The event makes a poll of the crew fetch. -/
def Fetches (w : Session) (c : CrewId) (ev : Event) : Prop :=
  ∃ s p, w.begun? ev = some (.poll s p) ∧ s.crew = c

theorem backoff_setBackoff (w : Session) (id : CrewId) (b : Backoff) :
    (w.setBackoff id b).backoff = Function.update w.backoff id b := by
  funext c
  cases id <;> cases c <;> rfl

/-- What can become of the pollers when a run begins: a poll that is due fetches, and the next one is
put off by the shortest time between two. -/
inductive Sets (w : Session) (s : Shift) : Session × Progress Work Outcome → Prop where
  | keeps {w' : Session} {p : Progress Work Outcome} (hb : w'.backoff = w.backoff)
      (hp : ∀ s' x, p.waiting? ≠ some (.poll s' x)) : Sets w s (w', p)
  | fetches {w' : Session} {x : Poll} (hdue : (w.backoff s.crew).nextFetchAt ≤ w.engine.now)
      (hb : w'.backoff = Function.update w.backoff s.crew
        { w.backoff s.crew with
          nextFetchAt := w.engine.now + w.engine.config.liveFetchMin.toInt64 }) :
    Sets w s (w', .waiting (.poll s x))

theorem Sets.of_eq {w w' : Session} {s : Shift} {r : Session × Progress Work Outcome}
    (h : w'.Sets s r) (hb : w'.backoff = w.backoff) (he : w'.engine = w.engine) : w.Sets s r := by
  cases h with
  | keeps hr hp => exact .keeps (hr.trans hb) hp
  | fetches hdue hr =>
    rw [hb, he] at hdue hr
    exact .fetches hdue hr

theorem sets_takeOff (w : Session) (s : Shift) (j : Job) : w.Sets s (w.takeOff s j) := by
  cases j with
  | poll =>
    by_cases hnow : w.engine.now < (w.backoff s.crew).nextFetchAt
    · have hbegin : Poll.begin w.engine (w.crew s.crew).backoff =
          (w.backoff s.crew, .done (.skipped .notDue)) := if_pos hnow
      simp only [takeOff, hbegin]
      refine .keeps ?_ (by rintro _ _ ⟨⟩)
      rw [(Guards.setFlight _ s.crew .poll _).backoff, backoff_setBackoff, Function.update_eq_self]
    · have hbegin : Poll.begin w.engine (w.crew s.crew).backoff =
          ({ w.backoff s.crew with
            nextFetchAt := w.engine.now + w.engine.config.liveFetchMin.toInt64 },
          .waiting ⟨w.engine.mode⟩) := if_neg hnow
      simp only [takeOff, hbegin]
      exact .fetches (Int64.not_lt.1 hnow) (backoff_setBackoff w s.crew _)
  | _ => exact .keeps rfl (by rintro _ _ ⟨⟩)

theorem sets_beginJob (w : Session) (s : Shift) (j : Job) : w.Sets s (w.beginJob s j) := by
  unfold beginJob
  split
  · exact .keeps rfl nofun
  · split
    · exact .keeps rfl nofun
    · rename_i flight hf
      exact (sets_takeOff (w.setFlight s.crew j.duty flight) s j).of_eq
        (Guards.setFlight w s.crew j.duty flight).backoff (engine_setCrew w s.crew _)

/-- What can become of the poller of a crew at one event. -/
inductive Paces (w : Session) (c : CrewId) (ev : Event) : Backoff → Prop where
  | keeps (hn : w.finding? c ev = none) (hf : ¬ w.Fetches c ev) : Paces w c ev (w.backoff c)
  /-- A poll that is due fetches, and the next one is put off by the shortest time between two. -/
  | fetches (hn : w.finding? c ev = none) (hf : w.Fetches c ev)
      (hdue : (w.backoff c).nextFetchAt ≤ w.engine.now) :
    Paces w c ev
      { w.backoff c with
        nextFetchAt := w.engine.now + w.engine.config.liveFetchMin.toInt64 }
  | notes {n : Finding} (hn : w.finding? c ev = some n) (hf : ¬ w.Fetches c ev) :
    Paces w c ev ((w.backoff c).note w.engine.config n)

/-- A reply touches a poller only if it is one to a poll. -/
theorem backoff_resume {w : Session} {k : Work} (hk : ∀ s p, k ≠ .poll s p) (r : Reply k.call) :
    (w.resume k r).1.backoff = w.backoff := by
  cases k with
  | poll s p => exact absurd rfl (hk s p)
  | autoSwitch s a => exact (guards_carryOn w s _ _ _).backoff
  | hookWatch s h => exact (guards_carryOn w s _ _ _).backoff
  | recover s x => exact (guards_finishRun w s _ _).backoff
  | keepalive s x => exact (guards_finishRun w s _ _).backoff
  | _ => exact (grounded_resume rfl r).backoff

/-- The reply to a poll is noted by the crew that polls, called off or not. -/
theorem backoff_finish (p : Poll) (e : Engine) (b : Backoff) (cancelled : Bool)
    (reply : Except Failure Snapshot) :
    (p.finish e b cancelled reply).2.1 = b.note e.config ⟨.ofReply reply, e.now⟩ := by
  cases reply with
  | error f => rfl
  | ok s =>
    have hnote : b.note e.config ⟨.ofReply (.ok s), e.now⟩ =
        b.recordSuccess e.config (Poll.hasError s) e.now := by
      cases hs : Poll.hasError s <;> simp [Ending.ofReply, hs, Backoff.note]
    rw [hnote]
    simp only [Poll.finish]
    split <;> rfl

theorem backoff_resumePoll (w : Session) (s : Shift) (p : Poll)
    (reply : Reply (Work.poll s p).call) :
    (w.resume (.poll s p) reply).1.backoff = Function.update w.backoff s.crew
      ((w.backoff s.crew).note w.engine.config ⟨.ofReply reply, w.engine.now⟩) := by
  rw [← backoff_finish p w.engine _ (w.isCancelled s.scope) reply]
  exact (guards_land _ s.crew .poll _).backoff.trans (backoff_setBackoff _ s.crew _)

/-! ## Steps and runs -/

variable {w : Session} {c : CrewId} {events : List Event} {ev : Event}

theorem finding?_eq_none (h : ∀ s p reply, w.answered? ev ≠ some ⟨.poll s p, reply⟩) :
    w.finding? c ev = none := by
  unfold finding?
  split
  · rename_i ha
    exact absurd ha (h _ _ _)
  · rfl

theorem finding?_of_answered {s : Shift} {p : Poll} {reply : Reply p.call}
    (h : w.answered? ev = some ⟨.poll s p, reply⟩) :
    w.finding? c ev = if s.crew = c then some ⟨.ofReply reply, w.engine.now⟩ else none := by
  simp only [finding?, h]

theorem finding?_of_free (h : w.Free (w.subject ev)) : w.finding? c ev = none :=
  finding?_eq_none fun s p reply ha => by
    have hk := workOf?_of_answered ha
    rw [h.workOf?] at hk
    cases hk

/-- A run that an event begins may be a poll of the crew that fetches. -/
theorem Sets.paces {s : Shift} {r : Session × Progress Work Outcome} (h : w.Sets s r)
    (hr : w.advance? ev = some r) (hn : w.finding? c ev = none) : w.Paces c ev (r.1.backoff c) := by
  have hbegun : w.begun? ev = r.2.waiting? := by rw [begun?, hr, Option.bind_some]
  cases h with
  | keeps hb hp =>
    rw [hb]
    refine .keeps hn ?_
    rintro ⟨s', p, hf, -⟩
    exact hp s' p (hbegun.symm.trans hf)
  | @fetches _ x hdue hb =>
    rw [hb]
    by_cases hc : c = s.crew
    · subst hc
      rw [Function.update_self]
      exact .fetches hn ⟨s, x, hbegun, rfl⟩ hdue
    · rw [Function.update_of_ne hc]
      refine .keeps hn ?_
      rintro ⟨s', p, hf, hcrew⟩
      cases hbegun.symm.trans hf
      exact hc hcrew.symm

theorem Paces.of_eq {r : Session × Progress Work Outcome} (hr : w.advance? ev = some r)
    (hn : w.finding? c ev = none) (hb : r.1.backoff = w.backoff)
    (hp : ∀ s p, r.2.waiting? ≠ some (.poll s p)) : w.Paces c ev (r.1.backoff c) := by
  rw [hb]
  refine .keeps hn ?_
  rintro ⟨s, p, hf, -⟩
  rw [begun?, hr, Option.bind_some] at hf
  exact hp s p hf

theorem paces_advance {r : Session × Progress Work Outcome} (hr : w.advance? ev = some r) :
    w.Paces c ev (r.1.backoff c) := by
  cases stretch_of_advance hr with
  | @resume k reply ha =>
    by_cases hk : ∃ s p, k = .poll s p
    · obtain ⟨s, p, rfl⟩ := hk
      have hf : ¬ w.Fetches c ev := by
        rintro ⟨s', p', hf, -⟩
        rw [begun?_of_answered ha] at hf
        cases hf
      rw [backoff_resumePoll]
      by_cases hc : c = s.crew
      · subst hc
        rw [Function.update_self]
        exact .notes ((finding?_of_answered ha).trans (if_pos rfl)) hf
      · rw [Function.update_of_ne hc]
        exact .keeps ((finding?_of_answered ha).trans (if_neg (Ne.symm hc))) hf
    · have hk' : ∀ s p, k ≠ .poll s p := fun s p h => hk ⟨s, p, h⟩
      refine .of_eq hr (finding?_eq_none fun s p r h => ?_) (backoff_resume hk' reply) ?_
      · cases ha.symm.trans h
        exact hk' s p rfl
      · intro s p hw
        have hkind : k.kind = .run s .poll := (kind_resume hw).symm
        cases k with
        | poll s' p' => exact hk' s' p' rfl
        | _ => cases hkind
  | start q hq =>
    subst hq
    have hnone : w.finding? c (.ask q) = none := finding?_eq_none fun s p r h => by cases h
    by_cases hjob : ∃ scope j, q = .job scope j
    · obtain ⟨scope, j, rfl⟩ := hjob
      have hsets := sets_beginJob (w.spawn .request) ⟨.manual, scope⟩ j
      exact (hsets.of_eq (w := w) rfl rfl).paces hr hnone
    · have hq : ∀ scope j, q ≠ .job scope j := fun scope j h => hjob ⟨scope, j, h⟩
      have hb : ((w.spawn .request).start q).1.backoff = w.backoff :=
        (grounded_start (w := w.spawn .request) hq).backoff
      refine .of_eq hr hnone hb fun s p hw => ?_
      cases shift?_start hq hw
  | job s j hf => exact (sets_beginJob w s j).paces hr (finding?_of_free hf)
  | flush crew hf =>
    have hb : (w.beginFlush crew).1.backoff = w.backoff := (grounded_embedFlush w crew _).backoff
    refine .of_eq hr (finding?_of_free hf) hb fun s p hw => ?_
    cases shift?_embedFlush hw
  | sync hf => exact .of_eq hr (finding?_of_free hf) rfl fun s p hw => by cases hw

/-- **What can become of a poller at one event**: it keeps what it has, a poll that is due fetches, or
a finding is noted. -/
theorem paces_step (w : Session) (c : CrewId) (ev : Event) :
    w.Paces c ev ((w.step ev).backoff c) := by
  by_cases hact : ∃ a, ev = .act a
  · obtain ⟨a, rfl⟩ := hact
    rw [step, (grounded_act w a).backoff]
    refine .keeps (finding?_eq_none fun s p r h => by cases h) ?_
    rintro ⟨s, p, hf, -⟩
    cases hf
  have hact' : ∀ a, ev ≠ .act a := fun a he => hact ⟨a, he⟩
  cases h : w.advance? ev with
  | some r =>
    obtain ⟨errand, hs⟩ := step_of_advance h
    rw [hs, (grounded_conclude _ _ _ _).backoff]
    exact paces_advance h
  | none =>
    rw [(grounded_of_quiet h hact').backoff]
    refine .keeps (finding?_eq_none fun s p r ha => ?_) ?_
    · rw [advance?_of_answered ha] at h
      cases h
    · rintro ⟨s, p, hf, -⟩
      rw [begun?, h] at hf
      cases hf

theorem backoff_step_of_finding {n : Finding} (hn : w.finding? c ev = some n) :
    (w.step ev).backoff c = (w.backoff c).note w.engine.config n := by
  have hpaces := paces_step w c ev
  generalize (w.step ev).backoff c = b at hpaces
  cases hpaces with
  | keeps hnone | fetches hnone =>
    rw [hnone] at hn
    cases hn
  | notes hsome =>
    cases hsome.symm.trans hn
    rfl

/-- The findings of the polls of a crew in a run, the latest in front. -/
def findings (w : Session) (c : CrewId) : List Event → List Finding
  | [] => []
  | ev :: events => (w.step ev).findings c events ++ (w.finding? c ev).toList

theorem findings_concat (w : Session) (c : CrewId) (events : List Event) (ev : Event) :
    w.findings c (events ++ [ev]) = ((w.run events).finding? c ev).toList ++ w.findings c events := by
  induction events generalizing w with
  | nil => simp [findings]
  | cons x events ih => simp [findings, ih]

/-- The clock never goes back in the run. -/
def ClockRises (w : Session) : List Event → Prop
  | [] => True
  | ev :: events => w.engine.now ≤ (w.step ev).engine.now ∧ (w.step ev).ClockRises events

theorem clockRises_append {w : Session} {more : List Event} : w.ClockRises (events ++ more) ↔
    w.ClockRises events ∧ (w.run events).ClockRises more := by
  induction events generalizing w with
  | nil => simp [ClockRises]
  | cons x events ih => simp [ClockRises, ih, and_assoc]

theorem clockRises_concat {w : Session} : w.ClockRises (events ++ [ev]) ↔
    w.ClockRises events ∧ (w.run events).engine.now ≤ ((w.run events).step ev).engine.now := by
  simp [clockRises_append, ClockRises]

theorem ClockRises.le_now {w : Session} (h : w.ClockRises events) :
    w.engine.now.toInt ≤ (w.run events).engine.now.toInt := by
  induction events generalizing w with
  | nil => exact le_rfl
  | cons x events ih => exact (Int64.le_iff_toInt_le.1 h.1).trans (ih h.2)

/-- The poller of the crew has never fetched. -/
structure Unused (w : Session) (c : CrewId) : Prop where
  backoff : w.backoff c = {}
  workOf? : ∀ id s p, w.workOf? id = some (.poll s p) → s.crew ≠ c

/-- The poller agrees with the findings, which were noted one after another up to now; the clock is
not below zero once the poller has fetched. -/
structure Informed (w : Session) (c : CrewId) (past : List Finding) : Prop where
  ordered : Findings.Ordered past
  le_now : ∀ n ∈ past, n.time.toInt ≤ w.engine.now.toInt
  recalls : (w.backoff c).Recalls w.engine.config past
  clock : 0 ≤ w.engine.now.toInt ∨ w.Unused c

variable {past : List Finding}

/-- A finding is what the reply to a poll of the crew says, noted at once. -/
theorem poll_of_finding {n : Finding} (hn : w.finding? c ev = some n) :
    ∃ (s : Shift) (p : Poll) (reply : Reply p.call),
      w.answered? ev = some ⟨.poll s p, reply⟩ ∧ s.crew = c ∧
        n = ⟨.ofReply reply, w.engine.now⟩ := by
  unfold finding? at hn
  split at hn
  · rename_i s p reply ha
    split at hn
    · rename_i hs
      cases hn
      exact ⟨s, p, reply, ha, hs, rfl⟩
    · cases hn
  · cases hn

theorem time_of_finding {n : Finding} (hn : w.finding? c ev = some n) : n.time = w.engine.now := by
  obtain ⟨s, p, reply, -, -, rfl⟩ := poll_of_finding hn
  rfl

/-- No poll of the crew is under way. -/
def Idle (w : Session) (c : CrewId) : Prop :=
  ∀ id s p, w.workOf? id = some (.poll s p) → s.crew ≠ c

/-- A poller that waits for no reply learns nothing. -/
theorem Idle.finding? (h : w.Idle c) : w.finding? c ev = none := by
  refine Option.eq_none_iff_forall_ne_some.2 fun n hn => ?_
  obtain ⟨s, p, reply, ha, hs, -⟩ := poll_of_finding hn
  exact h _ s p (workOf?_of_answered ha) hs

theorem Idle.step (h : w.Idle c) (hw : w.Numbered) (hf : ¬ w.Fetches c ev) : (w.step ev).Idle c := by
  intro id s p hk
  rcases workOf?_step_cases hw hk with hk | ⟨-, hbegun⟩
  · exact h id s p hk
  · exact fun hs => hf ⟨s, p, hbegun, hs⟩

theorem Unused.idle (h : w.Unused c) : w.Idle c := h.workOf?

/-- An event that brings a finding comes when the clock is not below zero. -/
theorem Informed.nonneg_now (h : w.Informed c past) {n : Finding} (hn : w.finding? c ev = some n) :
    0 ≤ w.engine.now.toInt := by
  refine h.clock.resolve_right fun hu => ?_
  rw [hu.idle.finding?] at hn
  cases hn

theorem Informed.ordered_cons (h : w.Informed c past) {n : Finding}
    (hn : w.finding? c ev = some n) : Findings.Ordered (n :: past) where
  nonneg m hm := by
    rcases List.mem_cons.1 hm with rfl | hm
    · rw [time_of_finding hn]
      exact h.nonneg_now hn
    · exact h.ordered.nonneg m hm
  pairwise := by
    refine List.pairwise_cons.2 ⟨fun m hm => ?_, h.ordered.pairwise⟩
    rw [time_of_finding hn]
    exact h.le_now m hm

/-- A poller fetches for the first time when the clock is not below zero. -/
theorem Unused.step (h : w.Unused c) (hw : w.Numbered) (ev : Event) :
    0 ≤ w.engine.now.toInt ∨ (w.step ev).Unused c := by
  have hpaces := paces_step w c ev
  generalize hb : (w.step ev).backoff c = b at hpaces
  cases hpaces with
  | keeps hn hf =>
    exact .inr ⟨hb.trans h.backoff, h.idle.step hw hf⟩
  | fetches hn hf hdue =>
    rw [h.backoff] at hdue
    exact .inl (Int64.le_iff_toInt_le.1 hdue)
  | notes hn hf =>
    rw [h.idle.finding?] at hn
    cases hn

theorem Informed.step (h : w.Informed c past) (hw : w.Numbered)
    (hc : Backoff.Sound w.engine.config) (hclock : w.engine.now ≤ (w.step ev).engine.now) :
    (w.step ev).Informed c ((w.finding? c ev).toList ++ past) := by
  have hnow : w.engine.now.toInt ≤ (w.step ev).engine.now.toInt := Int64.le_iff_toInt_le.1 hclock
  have hlater : ∀ n ∈ past, n.time.toInt ≤ (w.step ev).engine.now.toInt :=
    fun n hn => (h.le_now n hn).trans hnow
  have hclock : 0 ≤ (w.step ev).engine.now.toInt ∨ (w.step ev).Unused c := by
    rcases h.clock with h₀ | hu
    · exact .inl (h₀.trans hnow)
    · exact (hu.step hw ev).imp_left (·.trans hnow)
  have hpaces := paces_step w c ev
  generalize hb : (w.step ev).backoff c = b at hpaces
  cases hpaces with
  | keeps hn hf =>
    rw [hn]
    refine ⟨h.ordered, hlater, ?_, hclock⟩
    rw [hb, config_step hw]
    exact h.recalls
  | fetches hn hf hdue =>
    rw [hn]
    refine ⟨h.ordered, hlater, ?_, hclock⟩
    rw [hb, config_step hw]
    exact ⟨h.recalls.streak, h.recalls.recentErrors⟩
  | @notes n hn hf =>
    rw [hn]
    have hord := h.ordered_cons hn
    refine ⟨hord, ?_, ?_, hclock⟩
    · intro m hm
      rcases List.mem_cons.1 hm with rfl | hm
      · rw [time_of_finding hn]
        exact hnow
      · exact hlater m hm
    · rw [hb, config_step hw]
      exact h.recalls.note hc hord

theorem informed_run {e : Engine} {random : Source} (hc : Backoff.Sound e.config) (c : CrewId)
    {events : List Event} (hclock : (ofSource e random).ClockRises events) :
    ((ofSource e random).run events).Informed c ((ofSource e random).findings c events) := by
  induction events using List.reverseRecOn with
  | nil =>
    exact
      { ordered := ⟨nofun, .nil⟩
        le_now := nofun
        recalls := by cases c <;> exact Backoff.recalls_nil hc
        clock := .inr ⟨by cases c <;> rfl, fun id s p h => by cases h⟩ }
  | append_singleton events ev ih =>
    rw [run_concat, findings_concat]
    obtain ⟨hbefore, hlast⟩ := clockRises_concat.1 hclock
    refine (ih hbefore).step ((numbered_ofSource e random).run events) ?_ hlast
    rwa [config_ofSource]

/-- A normalized configuration whose durations fit into the clock keeps the limits that the history
is compared under. -/
theorem sound_normalized {config : Config} (hcooldown : 0 < config.normalized.burstCooldown.toNat)
    (hwindow : FitsWord config.normalized.burstWindow.toNat)
    (hfits : FitsWord config.normalized.burstCooldown.toNat)
    (hretry : FitsWord config.normalized.liveErrorRetryMax.toNat) :
    Backoff.Sound config.normalized where
  threshold := UInt64.le_iff_toNat_le.1 config.inBounds_normalized.burstThreshold
  cooldown := hcooldown
  fits_window := hwindow
  fits_cooldown := hfits
  fits_retry := hretry

end Switchboard.Session
