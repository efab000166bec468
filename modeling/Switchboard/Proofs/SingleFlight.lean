import Switchboard.Proofs.Records
import Switchboard.Proofs.DutyRuns
import Switchboard.Proofs.ModelWrites
import Switchboard.Proofs.Outstanding
import Switchboard.Proofs.Scopes

/-!
# Single flight

Each crew has one guard for each duty, which all loops of the duty share, whatever scope they were
started under. A run is past its guard while its task waits for a reply.

* `Session.Turns` — what can happen to the runs at one event: a run begins, a run ends, or neither.
* `Session.Manned` — a guard is held exactly by the task whose run is under way;
  `Session.manned_ofSource` says so of every run of a session.
* `Session.single_flight` — so there is one run at a time, its end frees the guard, and there is one
  open scope of a kind.
* `Session.runs_across_a_restart` — two loops of automatic switching that overlap.
-/

set_option autoImplicit false

namespace Switchboard

/-- The run that the work belongs to: which duty it is of, and which crew does it. -/
def Work.flight? : Work → Option (CrewId × Duty)
  | poll s _ => some (s.crew, .poll)
  | autoSwitch s _ => some (s.crew, .autoSwitch)
  | recover s _ => some (s.crew, .recover)
  | hookWatch s _ => some (s.crew, .hookWatch)
  | keepalive s _ => some (s.crew, .keepalive)
  | _ => none

theorem Work.flight?_of_shift? {k : Work} (h : k.shift? = none) : k.flight? = none := by
  cases k with
  | poll | autoSwitch | recover | hookWatch | keepalive => cases h
  | _ => rfl

namespace Session

variable {w w' : Session}

/-- The guard of a duty is held. -/
def isFlying (w : Session) (x : CrewId × Duty) : Bool := ((w.flights x.1).get x.2).running

/-- The run that a task is on, past its guard. -/
def flightOf? (w : Session) (id : Nat) : Option (CrewId × Duty) := (w.workOf? id).bind (·.flight?)

theorem Grounded.isFlying (h : w.Grounded w') : w'.isFlying = w.isFlying := by
  unfold Session.isFlying
  rw [h.flights]

/-! ## Runs of duties -/

/-- What can happen to the runs when a task is taken on: its run before and after, and the
guards. -/
inductive Turns (w : Session) :
    Option (CrewId × Duty) → Session × Progress Work Outcome → Prop where
  /-- The task stays on its run, if it is on one. -/
  | keep {before : Option (CrewId × Duty)} {w' : Session} {p : Progress Work Outcome}
      (hb : p.waiting?.bind (·.flight?) = before) (h : w'.isFlying = w.isFlying) :
    Turns w before (w', p)
  /-- A run begins, past a guard that nobody has held. -/
  | begins {x : CrewId × Duty} {w' : Session} {k : Work} (hk : k.flight? = some x)
      (hfree : w.isFlying x = false) (h : w'.isFlying = Function.update w.isFlying x true) :
    Turns w none (w', .waiting k)
  /-- The run is done, and frees its guard. -/
  | ends {x : CrewId × Duty} {w' : Session} {o : Outcome}
      (h : w'.isFlying = Function.update w.isFlying x false) :
    Turns w (some x) (w', .done o)

theorem isFlying_setFlight (w : Session) (crew : CrewId) (d : Duty) (f : Flight) :
    (w.setFlight crew d f).isFlying = Function.update w.isFlying (crew, d) f.running := by
  funext ⟨c, d'⟩
  by_cases hd : d' = d
  · subst hd
    cases crew <;> cases c <;> simp [isFlying, flights, setFlight, setCrew, Session.crew]
  · have hne : (c, d') ≠ (crew, d) := fun h => hd (Prod.mk.inj h).2
    rw [Function.update_of_ne hne]
    cases crew <;> cases c <;>
      simp [isFlying, flights, setFlight, setCrew, Session.crew, ByDuty.get_set_of_ne _ _ hd]

theorem Turns.land (w' : Session) {crew : CrewId} {d : Duty} (h : w'.isFlying = w.isFlying)
    (o : Outcome) :
    w.Turns (some (crew, d)) (w'.land crew d (.done o)) :=
  .ends (by rw [isFlying_setFlight w' crew d ⟨false⟩, h])

theorem Turns.carryOn {σ : Type} {s : Shift} {d : Duty} {f : σ → Work}
    (hf : ∀ k, (f k).flight? = some (s.crew, d)) (r : Engine × Progress σ Tick) :
    w.Turns (some (s.crew, d)) (w.carryOn s d f r) := by
  obtain ⟨e, p⟩ := r
  cases p with
  | waiting k => exact .keep (hf k) rfl
  | done t => exact .land (w := w) { w with engine := e } rfl _

theorem Turns.finishRun (s : Shift) (d : Duty) (r : Engine × Tick) :
    w.Turns (some (s.crew, d)) (w.finishRun s d r) :=
  .land (w := w) { w with engine := r.1 } rfl _

/-- A poller that is touched is no guard. -/
theorem isFlying_setBackoff (w : Session) (crew : CrewId) (b : Backoff) :
    (w.setBackoff crew b).isFlying = w.isFlying := by
  funext ⟨c, d⟩
  cases crew <;> cases c <;> rfl

theorem turns_resume (k : Work) (r : Reply k.call) : w.Turns k.flight? (w.resume k r) := by
  cases hs : k.shift? with
  | none =>
    rw [Work.flight?_of_shift? hs]
    refine .keep ?_ (grounded_resume hs r).isFlying
    rw [Option.bind_eq_none_iff]
    exact fun k' hk' => Work.flight?_of_shift? ((shift?_resume hk').trans hs)
  | some s =>
    cases k with
    | poll s' p =>
      refine .land (w := w) _ ?_ _
      exact isFlying_setBackoff _ s'.crew _
    | autoSwitch s' a => exact .carryOn (fun _ => rfl) _
    | recover s' x => exact .finishRun s' .recover _
    | hookWatch s' h => exact .carryOn (fun _ => rfl) _
    | keepalive s' x => exact .finishRun s' .keepalive _
    | _ => cases hs

theorem turns_takeOff {s : Shift} {j : Job} {flight : Flight}
    (h : ((w.crew s.crew).flights.get j.duty).tryBegin? = some flight) :
    w.Turns none ((w.setFlight s.crew j.duty flight).takeOff s j) := by
  obtain ⟨hfree, rfl⟩ := Flight.tryBegin?_eq_some_iff.1 h
  have hset := isFlying_setFlight w s.crew j.duty ⟨true⟩
  have hback (b : Backoff) :
      ((w.setFlight s.crew j.duty ⟨true⟩).setBackoff s.crew b).isFlying =
        Function.update w.isFlying (s.crew, j.duty) true :=
    (isFlying_setBackoff _ s.crew b).trans hset
  cases j with
  | poll =>
    simp only [takeOff]
    split
    · rename_i b p hp
      exact .begins rfl hfree (hback b)
    · -- A poll that is not due frees its guard at once.
      rename_i b o hp
      refine .keep rfl ?_
      rw [isFlying_setFlight, hback]
      exact (Function.update_idem ..).trans (Function.update_eq_self_iff.2 hfree.symm)
  | _ => exact .begins rfl hfree hset

theorem turns_beginJob (s : Shift) (j : Job) : w.Turns none (w.beginJob s j) := by
  unfold beginJob
  split
  · exact .keep rfl rfl
  · split
    · exact .keep rfl rfl
    · rename_i flight h
      exact turns_takeOff h

theorem Turns.of_grounded {w₀ : Session} (hg : w.Grounded w₀)
    {before : Option (CrewId × Duty)} {r : Session × Progress Work Outcome}
    (h : w₀.Turns before r) : w.Turns before r := by
  cases h with
  | keep hb h => exact .keep hb (h.trans hg.isFlying)
  | begins hk hfree h =>
    rw [hg.isFlying] at hfree h
    exact .begins hk hfree h
  | ends h =>
    rw [hg.isFlying] at h
    exact .ends h

theorem flightOf?_of_workOf? {id : Nat} (h : w.workOf? id = none) : w.flightOf? id = none := by
  rw [flightOf?, h, Option.bind_none]

/-- **What an event does to the runs.** -/
theorem turns_advance (hw : w.Numbered) {ev : Event} {r : Session × Progress Work Outcome}
    (h : w.advance? ev = some r) : w.Turns (w.flightOf? (w.subject ev)) r := by
  cases stretch_of_advance h with
  | @resume k reply ha =>
    rw [flightOf?, workOf?_of_answered ha]
    exact turns_resume k reply
  | start q hq =>
    subst hq
    have hnone : w.flightOf? (w.subject (.ask q)) = none :=
      flightOf?_of_workOf? (by simp [subject, workOf?, hw.task?_next])
    rw [hnone]
    refine .of_grounded (Directs.spawn w .request).grounded ?_
    by_cases hjob : ∃ scope j, q = .job scope j
    · obtain ⟨scope, j, rfl⟩ := hjob
      exact turns_beginJob ⟨.manual, scope⟩ j
    · have hq : ∀ scope j, q ≠ .job scope j := fun scope j h => hjob ⟨scope, j, h⟩
      exact .keep (Option.bind_eq_none_iff.2 fun k hk =>
        Work.flight?_of_shift? (shift?_start hq hk)) (grounded_start hq).isFlying
  | job s j hf =>
    rw [flightOf?_of_workOf? hf.workOf?]
    exact turns_beginJob s j
  | flush crew hf =>
    rw [flightOf?_of_workOf? hf.workOf?]
    exact .keep (Option.bind_eq_none_iff.2 fun k hk =>
      Work.flight?_of_shift? (shift?_embedFlush hk)) (grounded_embedFlush w crew _).isFlying
  | sync hf =>
    rw [flightOf?_of_workOf? hf.workOf?]
    exact .keep rfl rfl

/-! ## Who is on a run -/

/-- Nobody is on the run, or one task is, and the guard says whether. -/
structure Manned (w : Session) (x : CrewId × Duty) (holder : Option Nat) : Prop where
  isFlying : w.isFlying x = holder.isSome
  flightOf?_iff : ∀ id, w.flightOf? id = some x ↔ holder = some id

variable {x : CrewId × Duty} {holder : Option Nat}

theorem Manned.of_eq (h : w.Manned x holder) (hf : w'.isFlying x = w.isFlying x)
    (hw : ∀ id, w'.flightOf? id = some x ↔ w.flightOf? id = some x) : w'.Manned x holder :=
  ⟨hf.trans h.isFlying, fun id => (hw id).trans (h.flightOf?_iff id)⟩

/-- Two tasks on one run are one task. -/
theorem Manned.eq_of_flightOf? (h : w.Manned x holder) {i j : Nat} (hi : w.flightOf? i = some x)
    (hj : w.flightOf? j = some x) : i = j :=
  Option.some.inj (((h.flightOf?_iff i).1 hi).symm.trans ((h.flightOf?_iff j).1 hj))

theorem flightOf?_step_of_advance {p : Progress Work Outcome} {ev : Event}
    (h : w.advance? ev = some (w', p)) (id : Nat) :
    (w.step ev).flightOf? id =
      if id = w.subject ev then p.waiting?.bind (·.flight?) else w.flightOf? id := by
  rw [flightOf?, workOf?_step_of_advance h]
  split <;> rfl

theorem isFlying_step_of_advance {p : Progress Work Outcome} {ev : Event}
    (h : w.advance? ev = some (w', p)) : (w.step ev).isFlying = w'.isFlying := by
  obtain ⟨errand, hs⟩ := step_of_advance h
  rw [hs, (grounded_conclude w' _ errand p).isFlying]

/-- What can happen to one run: nothing, or the task begins it, or ends it. -/
theorem Turns.at {before : Option (CrewId × Duty)} {p : Progress Work Outcome}
    (h : w.Turns before (w', p)) (x : CrewId × Duty) :
    (w'.isFlying x = w.isFlying x ∧ (p.waiting?.bind (·.flight?) = some x ↔ before = some x)) ∨
      (w.isFlying x = false ∧ w'.isFlying x = true ∧ p.waiting?.bind (·.flight?) = some x) ∨
      (before = some x ∧ w'.isFlying x = false ∧ p.waiting?.bind (·.flight?) = none) := by
  cases h with
  | keep hb h => exact .inl ⟨congrFun h x, by rw [hb]⟩
  | @begins y _ k hk hfree h =>
    by_cases hy : x = y
    · subst hy
      exact .inr (.inl ⟨hfree, by simp [h], hk⟩)
    · refine .inl ⟨by rw [h, Function.update_of_ne hy], ?_⟩
      simp [Progress.waiting?, hk, Ne.symm hy]
  | @ends y _ o h =>
    by_cases hy : x = y
    · subst hy
      exact .inr (.inr ⟨rfl, by simp [h], rfl⟩)
    · refine .inl ⟨by rw [h, Function.update_of_ne hy], ?_⟩
      simp [Progress.waiting?, Ne.symm hy]

theorem Manned.advance (h : w.Manned x holder) (hw : w.Numbered) {ev : Event}
    {r : Session × Progress Work Outcome} (ha : w.advance? ev = some r) :
    ∃ holder', (w.step ev).Manned x holder' := by
  obtain ⟨w', p⟩ := r
  have hfly := congrFun (isFlying_step_of_advance ha) x
  have hof := flightOf?_step_of_advance ha
  rcases (turns_advance hw ha).at x with ⟨hf, hp⟩ | ⟨hfree, hf, hp⟩ | ⟨hb, hf, hp⟩
  · refine ⟨holder, h.of_eq (hfly.trans hf) fun id => ?_⟩
    rw [hof]
    split
    · rename_i heq
      rw [heq, hp]
    · rfl
  · -- The guard was free, so that nobody else is on the run.
    have hnone : holder = none := by
      rw [h.isFlying] at hfree
      simpa using hfree
    refine ⟨some (w.subject ev), hfly.trans hf, fun id => ?_⟩
    rw [hof]
    split
    · rename_i heq
      simp [heq, hp]
    · rename_i hne
      rw [h.flightOf?_iff, hnone]
      simp [Ne.symm hne]
  · -- Nobody but the task was on the run.
    have hsome : holder = some (w.subject ev) := (h.flightOf?_iff _).1 hb
    refine ⟨none, hfly.trans hf, fun id => ?_⟩
    rw [hof]
    split
    · simp [hp]
    · rename_i hne
      rw [h.flightOf?_iff, hsome]
      simp [Ne.symm hne]

theorem Manned.step (h : w.Manned x holder) (hw : w.Numbered) (ev : Event) :
    ∃ holder', (w.step ev).Manned x holder' := by
  by_cases hact : ∃ a, ev = .act a
  · obtain ⟨a, rfl⟩ := hact
    refine ⟨holder, h.of_eq (congrFun (grounded_act w a).isFlying x) fun id => ?_⟩
    rw [flightOf?, show (w.step (.act a)).workOf? id = _ from (grows_act w a).workOf? id]
    rfl
  · have hact' : ∀ a, ev ≠ .act a := fun a he => hact ⟨a, he⟩
    cases ha : w.advance? ev with
    | some r => exact h.advance hw ha
    | none =>
      refine ⟨holder, h.of_eq (congrFun (grounded_of_quiet ha hact').isFlying x) fun id => ?_⟩
      rw [flightOf?, (still_of_quiet hw ha hact').workOf? id]
      rfl

/-- **A guard is held exactly by the task whose run is under way.** -/
theorem manned_ofSource (e : Engine) (random : Source) (events : List Event)
    (x : CrewId × Duty) : ∃ holder, ((ofSource e random).run events).Manned x holder := by
  refine (numbered_ofSource e random).run_induction (P := fun w => ∃ holder, w.Manned x holder)
    (fun w ev hw ⟨holder, h⟩ => h.step hw ev) ⟨none, ?_, fun id => ?_⟩ events
  · obtain ⟨c, d⟩ := x
    cases c <;> cases d <;> rfl
  · simp [flightOf?, show (ofSource e random).workOf? id = none from rfl]

theorem manned_run (e : Engine) (events : List Event) (x : CrewId × Duty) :
    ∃ holder, ((ofEngine e).run events).Manned x holder := manned_ofSource e {} events x

theorem Manned.isFlying_iff (h : w.Manned x holder) :
    w.isFlying x ↔ ∃ id, w.flightOf? id = some x := by
  simp only [h.isFlying, Option.isSome_iff_exists, h.flightOf?_iff]

end Session

/-- The task is on a run, past its guard. -/
def Task.isOn (x : CrewId × Duty) (t : Task) : Bool := t.stage.work?.bind (·.flight?) = some x

namespace Session

variable {w : Session} {x : CrewId × Duty} {holder : Option Nat}

theorem isOn_iff {t : Task} (hw : w.Numbered) (ht : t ∈ w.tasks) :
    t.isOn x ↔ w.flightOf? t.id = some x := by
  simp [Task.isOn, flightOf?, workOf?, hw.task?_eq_some ht]

theorem exists_isOn_iff (hw : w.Numbered) :
    (∃ t ∈ w.tasks, t.isOn x) ↔ ∃ id, w.flightOf? id = some x := by
  constructor
  · rintro ⟨t, ht, hx⟩
    exact ⟨t.id, (isOn_iff hw ht).1 hx⟩
  · rintro ⟨id, hid⟩
    obtain ⟨k, hk, -⟩ := Option.bind_eq_some_iff.1 hid
    obtain ⟨t, ht, -⟩ := workOf?_eq_some_iff.1 hk
    have hmem : t ∈ w.tasks := List.mem_of_find?_eq_some ht
    obtain rfl : t.id = id := by simpa using List.find?_some ht
    exact ⟨t, hmem, (isOn_iff hw hmem).2 hid⟩

theorem Manned.countP_isOn_le_one (h : w.Manned x holder) (hw : w.Numbered) :
    w.tasks.countP (·.isOn x) ≤ 1 := by
  have held {t : Task} (ht : t ∈ w.tasks) (hx : t.isOn x) : holder = some t.id :=
    (h.flightOf?_iff _).1 ((isOn_iff hw ht).1 hx)
  exact countP_le_one hw.nodup fun t ht u hu hxt hxu =>
    Option.some.inj ((held ht hxt).symm.trans (held hu hxu))

theorem barrier?_ne_inFlight (e : Engine) (j : Job) : barrier? e j ≠ some (inFlight j) := by
  cases j with
  | poll =>
    simp only [barrier?, Poll.barrier?]
    split
    · simp [inFlight]
    · split <;> simp [inFlight]
  | hookWatch => simp [barrier?]
  | _ =>
    simp only [barrier?]
    split <;> simp [inFlight]

theorem takeOff_ne_inFlight (s : Shift) (j : Job) : (w.takeOff s j).2 ≠ .done (inFlight j) := by
  intro h
  cases j with
  | poll =>
    simp only [takeOff] at h
    split at h
    · cases h
    · rename_i b o hp
      unfold Poll.begin at hp
      split at hp
      · cases hp
        cases h
      · cases hp
  | _ => cases h

/-- A run comes to nothing on account of another one exactly if no gate keeps it off and the guard
is held. -/
theorem beginJob_eq_inFlight_iff {s : Shift} {j : Job} :
    (w.beginJob s j).2 = .done (inFlight j) ↔
      barrier? w.engine j = none ∧ w.isFlying (s.crew, j.duty) := by
  unfold beginJob
  split
  · rename_i o hb
    simp only [hb, reduceCtorEq, false_and, iff_false]
    rintro h
    cases h
    exact barrier?_ne_inFlight w.engine j hb
  · rename_i hb
    simp only [hb, true_and]
    cases hf : w.isFlying (s.crew, j.duty) with
    | true =>
      have hguard : ((w.crew s.crew).flights.get j.duty).running = true := hf
      simp [Flight.tryBegin?, hguard]
    | false =>
      have hguard : ((w.crew s.crew).flights.get j.duty).running = false := hf
      simp [Flight.tryBegin?, hguard, takeOff_ne_inFlight]

/-! ## Scopes -/

theorem moves_resume (k : Work) (r : Reply k.call) : w.book.Moves (w.resume k r).1.book := by
  cases hs : k.shift? with
  | none => exact (grounded_resume hs r).book
  | some s =>
    obtain ⟨e, h⟩ := crews_resume (w := w) (hs ▸ rfl) r
    rw [h.book]
    exact .refl

theorem moves_advance {ev : Event} {r : Session × Progress Work Outcome}
    (h : w.advance? ev = some r) : w.book.Moves r.1.book := by
  cases stretch_of_advance h with
  | @resume k reply ha => exact moves_resume k reply
  | start q hq =>
    by_cases hjob : ∃ scope j, q = .job scope j
    · obtain ⟨scope, j, rfl⟩ := hjob
      rw [start, (crews_beginJob _ _ j).book]
      exact (Directs.spawn w .request).book
    · have hg := grounded_start (w := w.spawn .request) fun scope j h => hjob ⟨scope, j, h⟩
      exact ((Directs.spawn w .request).grounded.trans hg).book
  | job s j hf => rw [(crews_beginJob w s j).book]
  | flush crew hf => exact (grounded_embedFlush w crew _).book
  | sync hf => exact .refl

/-- **What an event does to the scopes.** -/
theorem moves_step (ev : Event) : w.book.Moves (w.step ev).book := by
  by_cases hact : ∃ a, ev = .act a
  · obtain ⟨a, rfl⟩ := hact
    exact (grounded_act w a).book
  · cases ha : w.advance? ev with
    | some r =>
      obtain ⟨w', p⟩ := r
      obtain ⟨errand, hs⟩ := step_of_advance ha
      rw [hs]
      exact (moves_advance ha).trans (grounded_conclude w' _ errand p).book
    | none => exact (grounded_of_quiet ha fun a he => hact ⟨a, he⟩).book

theorem moves_run (w : Session) (events : List Event) : w.book.Moves (w.run events).book := by
  induction events generalizing w with
  | nil => exact .refl
  | cons ev events ih => exact (moves_step ev).trans (ih (w.step ev))

/-- A scope that was open is open, or it is cancelled. -/
theorem isOpen_or_isCancelled {e : Engine} {events before : List Event} (hb : before <+: events)
    {s : Scope} (h : ((ofEngine e).run before).book.isOpen s) :
    ((ofEngine e).run events).book.isOpen s ∨ ((ofEngine e).run events).isCancelled s := by
  obtain ⟨after, rfl⟩ := hb
  rw [run_append]
  rcases (moves_run ((ofEngine e).run before) after).isOpen_or_cancelled h with ho | hc
  · exact .inl ho
  · have hmem : s ∈ (((ofEngine e).run before).run after).cancelled := hc
    exact .inr (by simp [isCancelled, hmem])

/-- **Single flight.** In every run of a session, however automatic switching and keepalive are
turned on and off in between: at most one task is on a run of a duty by a crew, whatever scopes the
tasks were started under; a run that is to be made comes to nothing on account of another one
exactly if no gate keeps it off and a task is on such a run right then, so that no run that is over
stands in the way; and of the scopes of automatic switching that have ever been open, all but the
open one are cancelled, and likewise those of keepalive. -/
theorem single_flight (e : Engine) (events : List Event) :
    (∀ x, ((ofEngine e).run events).tasks.countP (·.isOn x) ≤ 1) ∧
      (∀ s j, (((ofEngine e).run events).beginJob s j).2 = .done (inFlight j) ↔
        barrier? ((ofEngine e).run events).engine j = none ∧
          ∃ t ∈ ((ofEngine e).run events).tasks, t.isOn (s.crew, j.duty)) ∧
      (∀ before n, before <+: events → ((ofEngine e).run before).autoSwitch = some n →
        ((ofEngine e).run events).autoSwitch = some n ∨
          ((ofEngine e).run events).isCancelled (.autoSwitch n)) ∧
      ∀ before n, before <+: events → ((ofEngine e).run before).keepalive = some n →
        ((ofEngine e).run events).keepalive = some n ∨
          ((ofEngine e).run events).isCancelled (.keepalive n) := by
  have hw := (numbered_ofEngine e).run events
  refine ⟨fun x => ?_, fun s j => ?_, fun before n hb h => ?_, fun before n hb h => ?_⟩
  · obtain ⟨holder, h⟩ := manned_run e events x
    exact h.countP_isOn_le_one hw
  · obtain ⟨holder, h⟩ := manned_run e events (s.crew, j.duty)
    rw [beginJob_eq_inFlight_iff, h.isFlying_iff, exists_isOn_iff hw]
  · have ho := isOpen_or_isCancelled (e := e) hb (s := .autoSwitch n) (decide_eq_true h)
    exact ho.imp_left of_decide_eq_true
  · have ho := isOpen_or_isCancelled (e := e) hb (s := .keepalive n) (decide_eq_true h)
    exact ho.imp_left of_decide_eq_true

/-- **Two loops overlap.** Automatic switching is turned off and on again while its question is
under way. The loop of the new scope is kept off by the run of the cancelled one, and once the reply
has come, which is dropped, the next run begins. -/
theorem runs_across_a_restart :
    let events : List Event :=
      [.ask (.setAutoSwitch true), .turn 1, .pass 30000, .wake 1, .ask (.setAutoSwitch false),
        .ask (.setAutoSwitch true), .turn 5, .pass 30000]
    let late : Event := .reply 1 (.autoSwitchTick .gpt) (.ok { action := "none" })
    let next : Shift := ⟨.standing, .autoSwitch 1⟩
    ((ofEngine Engine.blank).run events).flightOf? 1 = some (.standing, .autoSwitch) ∧
      ((ofEngine Engine.blank).run events).isCancelled (.autoSwitch 0) ∧
      ((ofEngine Engine.blank).run events).autoSwitch = some 1 ∧
      (((ofEngine Engine.blank).run events).beginJob next .autoSwitch).2 =
        .done (.tick .inFlight) ∧
      ((ofEngine Engine.blank).run (events ++ [.wake 5])).flightOf? 5 = none ∧
      ((ofEngine Engine.blank).run (events ++ [late, .wake 5])).flightOf? 5 =
        some (.standing, .autoSwitch) := by
  intro events late next
  have hold : ((ofEngine Engine.blank).run events).flightOf? 1 = some (.standing, .autoSwitch) := by
    decide +kernel
  have hopen : barrier? ((ofEngine Engine.blank).run events).engine .autoSwitch = none := by
    decide +kernel
  obtain ⟨-, hflight, hscopes, -⟩ := single_flight Engine.blank events
  have hw := (numbered_ofEngine Engine.blank).run events
  refine ⟨hold, ?_, by decide +kernel, ?_, by decide +kernel, by decide +kernel⟩
  · have h := hscopes (events.take 1) 0 (List.take_prefix 1 events) (by decide +kernel)
    exact h.resolve_left (by decide +kernel)
  · exact (hflight next .autoSwitch).2 ⟨hopen, (exists_isOn_iff hw).2 ⟨1, hold⟩⟩

end Session

end Switchboard
