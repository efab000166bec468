import Mathlib.Data.List.Induction
import Switchboard.Proofs.Advance
import Switchboard.Proofs.OrderLog

/-!
# The queues of orders in a run

Every order that is queued brings a task of its own, and all these tasks go after the one queue: the
first that has its turn sends what waits, and goes on with what comes in the meantime; the others
find nothing to do. `Session.orderLog` is the log of a run, and `Session.Stands` says how far a
queue is: it is held exactly while one task waits for a reply about it.

* `OrderQueue.Moves` — what a queue can do when a task is taken on.
* `Session.queueMoves_of_advance` — whatever task is taken on, this is all that a queue does.
* `Session.Stands.step` — whatever happens, the queue goes on as the log says, so that the log of
  every run is legal (`Session.stands_run`).
-/

set_option autoImplicit false

namespace Switchboard

open Saves (Step Steps)

/-! ## The queue -/

namespace OrderQueue

/-- What a queue can do when a task is taken on: the reply to a save is taken in, `true` standing
for a success, and a save may wait afterwards. -/
inductive Moves : OrderQueue → Option (Flush × Bool) → OrderQueue → Option Flush → Prop where
  | apart (q : OrderQueue) : Moves q none q none
  | next (q : OrderQueue) (e : Engine) :
    Moves q none (Flush.next q e).1 (Flush.next q e).2.2.waiting?
  | resume (q : OrderQueue) (e : Engine) (f : Flush) (r : Reply f.call) :
    Moves q (some (f, r.isOk)) (f.resume q e r).1 (f.resume q e r).2.2.waiting?

/-- The calls that a queue makes, as entries of its log. -/
def callEntry (f : Flush) : OrderEntry := .called f.call

variable {q q' : OrderQueue} {f : Flush} {ok : Bool} {b : Option Flush}

theorem next_of_running (h : q.saving.running) (e : Engine) :
    (Flush.next q e).1 = q ∧ (Flush.next q e).2.2.waiting? = none := by
  rcases q with ⟨_ | names, ⟨_ | _⟩⟩
  · cases h
  · exact ⟨rfl, rfl⟩
  · cases h
  · exact ⟨rfl, rfl⟩

/-- A save that holds the queue keeps all others from beginning. -/
theorem Moves.eq_of_running (h : Moves q none q' b) (hq : q.saving.running) :
    q' = q ∧ b = none := by
  cases h with
  | apart => exact ⟨rfl, rfl⟩
  | next e => exact next_of_running hq e

/-- A queue that is not held sends the order that waits, if there is one. -/
theorem steps_next (hq : q.saving.running = false) (e : Engine) {phase : SavePhase}
    (hp : phase.isHeld = false) (hn : q.pending = none → phase = .free) :
    Steps ⟨q.pending, phase⟩ ((Flush.next q e).2.2.waiting?.map callEntry).toList
        ⟨(Flush.next q e).1.pending, .of (Flush.next q e).2.2.waiting?⟩ ∧
      (Flush.next q e).1.saving.running = (Flush.next q e).2.2.waiting?.isSome := by
  rcases q with ⟨_ | names, ⟨_ | _⟩⟩
  · rw [hn rfl]
    exact ⟨.nil, rfl⟩
  · cases hq
  · exact ⟨.single (.send hp), rfl⟩
  · cases hq

theorem Moves.steps_of_free (h : Moves q none q' b) (hq : q.saving.running = false) :
    Steps ⟨q.pending, .free⟩ (b.map callEntry).toList ⟨q'.pending, .of b⟩ ∧
      q'.saving.running = b.isSome := by
  cases h with
  | apart => exact ⟨.nil, hq⟩
  | next e => exact steps_next hq e rfl fun _ => rfl

/-- The end of a save: the order that waits is sent at once. -/
theorem steps_release (q : OrderQueue) (e : Engine) :
    Steps ⟨q.pending, .afterSave q.pending⟩
        ((Flush.release q e).2.2.waiting?.map callEntry).toList
        ⟨(Flush.release q e).1.pending, .of (Flush.release q e).2.2.waiting?⟩ ∧
      (Flush.release q e).1.saving.running = (Flush.release q e).2.2.waiting?.isSome := by
  refine steps_next (q := { q with saving := q.saving.finish }) rfl e ?_ ?_
  · cases q.pending <;> rfl
  · intro hn
    rw [hn]
    rfl

/-- A reply that is taken in leads on as the log says. -/
theorem Moves.steps_of_taken (h : Moves q (some (f, ok)) q' b) (hq : q.saving.running) :
    Steps ⟨q.pending, .waiting f⟩ (.replied f.call ok :: (b.map callEntry).toList)
        ⟨q'.pending, .of b⟩ ∧
      q'.saving.running = b.isSome := by
  cases h with
  | resume e f r =>
    cases f with
    | saving names =>
      cases r with
      | error failure =>
        refine ⟨.cons (.fail names) (.single ?_), hq⟩
        exact .reread e.mode _ rfl
      | ok s =>
        have hr := steps_release q (Flush.accept q e s)
        exact ⟨.cons (.finish (.saving names) true rfl) hr.1, hr.2⟩
    | rereading l =>
      have hr := steps_release q (l.finish e r).1
      exact ⟨.cons (.finish (.rereading l) _ rfl) hr.1, hr.2⟩

end OrderQueue

namespace Session

/-! ## The log of a run -/

/-- The save of this crew whose reply an event brings, and whether it is a success. -/
def saveAnswered? (c : CrewId) (w : Session) (ev : Event) : Option (Flush × Bool) :=
  (w.answered? ev).bind fun a => (a.1.flushOf? c).map (·, a.2.isOk)

/-- The save of this crew with which an event makes a task wait. -/
def saveBegun? (c : CrewId) (w : Session) (ev : Event) : Option Flush :=
  (w.begun? ev).bind (·.flushOf? c)

/-- What an event means to the queue of a crew. -/
def orderEntries (c : CrewId) (w : Session) (ev : Event) : List OrderEntry :=
  match ev with
  | .act (.queueOrder c' names) => if c' = c then [.queued names] else []
  | ev =>
    ((w.saveAnswered? c ev).map fun x => .replied x.1.call x.2).toList ++
      ((w.saveBegun? c ev).map OrderQueue.callEntry).toList

theorem orderEntries_of_not_act {c : CrewId} {w : Session} {ev : Event} (h : ∀ a, ev ≠ .act a) :
    w.orderEntries c ev =
      ((w.saveAnswered? c ev).map fun x => .replied x.1.call x.2).toList ++
        ((w.saveBegun? c ev).map OrderQueue.callEntry).toList := by
  cases ev with
  | act a => exact absurd rfl (h a)
  | _ => rfl

/-- The log of the queue of a crew over a run. -/
def orderLog (c : CrewId) (w : Session) : List Event → List OrderEntry
  | [] => []
  | ev :: events => w.orderEntries c ev ++ (w.step ev).orderLog c events

theorem orderLog_concat (c : CrewId) (w : Session) (events : List Event) (ev : Event) :
    w.orderLog c (events ++ [ev]) = w.orderLog c events ++ (w.run events).orderEntries c ev := by
  induction events generalizing w with
  | nil => simp [orderLog]
  | cons x events ih => simp [orderLog, ih]

/-! ## What a stretch does to a queue -/

/-- How a queue moves in a stretch of work. -/
def QueueMoves (c : CrewId) (w : Session) (taken : Option (Flush × Bool))
    (r : Session × Progress Work Outcome) : Prop :=
  (w.crew c).orders.Moves taken (r.1.crew c).orders (r.2.waiting?.bind (·.flushOf? c))

variable {c : CrewId} {w : Session}

theorem queueMoves_of_eq {r : Session × Progress Work Outcome}
    (ho : (r.1.crew c).orders = (w.crew c).orders)
    (hw : r.2.waiting?.bind (·.flushOf? c) = none) : QueueMoves c w none r := by
  unfold QueueMoves
  rw [ho, hw]
  exact .apart _

theorem queueMoves_beginJob (w : Session) (c : CrewId) (s : Shift) (j : Job) :
    QueueMoves c w none (w.beginJob s j) :=
  queueMoves_of_eq ((crews_beginJob w s j).orders c) (flushOf?_beginJob s j c)

theorem orders_embedFlush (w : Session) (c : CrewId)
    (r : OrderQueue × Engine × Progress Flush Unit) :
    ((w.embedFlush c r).1.crew c).orders = r.1 := by
  rw [embedFlush, fst_embed]
  cases c <;> rfl

theorem waiting_embedFlush (w : Session) (c : CrewId)
    (r : OrderQueue × Engine × Progress Flush Unit) :
    (w.embedFlush c r).2.waiting?.bind (·.flushOf? c) = r.2.2.waiting? := by
  obtain ⟨q, e, p⟩ := r
  cases p with
  | waiting f => exact Work.flushOf?_eq_some_iff.2 rfl
  | done u => rfl

/-- A save for one crew leaves the queue of the other one alone. -/
theorem queueMoves_embedFlush_of_ne {c' : CrewId} (hc : c' ≠ c)
    (r : OrderQueue × Engine × Progress Flush Unit) : QueueMoves c w none (w.embedFlush c' r) := by
  obtain ⟨q, e, p⟩ := r
  apply queueMoves_of_eq
  · cases c <;> cases c' <;> first | exact absurd rfl hc | (cases p <;> rfl)
  · cases p with
    | waiting f => simp [embedFlush, embed, ask, Progress.waiting?, Work.flushOf?, hc]
    | done u => rfl

theorem queueMoves_beginFlush (w : Session) (c c' : CrewId) :
    QueueMoves c w none (w.beginFlush c') := by
  by_cases hc : c' = c
  · subst hc
    unfold QueueMoves beginFlush
    rw [orders_embedFlush, waiting_embedFlush]
    exact .next _ _
  · exact queueMoves_embedFlush_of_ne hc _

theorem queueMoves_resume (w : Session) (c : CrewId) (k : Work) (r : Reply k.call) :
    QueueMoves c w ((k.flushOf? c).map (·, r.isOk)) (w.resume k r) := by
  cases k with
  | flush c' f =>
    by_cases hc : c' = c
    · subst hc
      have ht : (Work.flush c' f).flushOf? c' = some f := Work.flushOf?_eq_some_iff.2 rfl
      unfold QueueMoves
      rw [ht, resume, orders_embedFlush, waiting_embedFlush]
      exact .resume _ _ f r
    · simp only [Work.flushOf?, hc, if_false]
      exact queueMoves_embedFlush_of_ne hc _
  | _ => exact queueMoves_of_eq ((aside_resume (fun _ => rfl) r).orders c) (flushOf?_resume rfl r)

/-- The queue of a crew moves by the reply that is taken in and the save that is begun. -/
theorem queueMoves_of_advance (c : CrewId) {ev : Event} {r : Session × Progress Work Outcome}
    (h : w.advance? ev = some r) : QueueMoves c w (w.saveAnswered? c ev) r := by
  have answered (ha : (w.answered? ev).map (fun a => w.resume a.1 a.2) = some r) :
      QueueMoves c w (w.saveAnswered? c ev) r := by
    obtain ⟨⟨k, reply⟩, hk, rfl⟩ := Option.map_eq_some_iff.1 ha
    unfold saveAnswered?
    rw [hk, Option.bind_some]
    exact queueMoves_resume w c k reply
  cases ev with
  | reply id k reply => exact answered h
  | expire id => exact answered h
  | ask r' =>
    have hs (hr : r' ≠ .flush) : QueueMoves c w none ((w.spawn .request).start r') :=
      queueMoves_of_eq (((aside_start hr).orders c).trans ((Directs.spawn w .request).orders c))
        (flushOf?_start hr c)
    cases r' with
    | awaitDashboard => cases h
    | flush =>
      cases h
      have hf := queueMoves_beginFlush (w.spawn .request) c .manual
      unfold QueueMoves at hf
      rw [(Directs.spawn w .request).orders c] at hf
      exact hf
    | _ =>
      cases h
      exact hs (by simp)
  | turn id =>
    simp only [advance?] at h
    split at h
    · cases h
      exact queueMoves_beginJob w c _ _
    · cases h
      exact queueMoves_beginFlush w c _
    · cases h
  | wake id =>
    simp only [advance?] at h
    split at h
    · split at h
      · cases h
        exact queueMoves_beginJob w c _ _
      · cases h
    · split at h
      · cases h
        exact queueMoves_of_eq ((Directs.setEngine w _).orders c) rfl
      · cases h
    · cases h
  | _ => cases h

/-! ## The queue and the tasks -/

/-- The save of this crew with which a task waits. -/
def saveOf? (c : CrewId) (w : Session) (id : Nat) : Option Flush :=
  (w.workOf? id).bind (·.flushOf? c)

/-- A task that waits for a save of this crew holds its queue, so that there is no other. -/
structure Holding (c : CrewId) (w : Session) (holder : Option (Nat × Flush)) : Prop where
  running : (w.crew c).orders.saving.running = holder.isSome
  saveOf? : ∀ id, w.saveOf? c id = (holder.filter (·.1 == id)).map (·.2)

/-- How far the queue of this crew is with its saves, by what is in it and by who holds it. -/
def Stands (c : CrewId) (w : Session) (s : Saves) : Prop :=
  ∃ holder, w.Holding c holder ∧ s = ⟨(w.crew c).orders.pending, .of (holder.map (·.2))⟩

theorem stands_ofEngine (c : CrewId) (e : Engine) : (ofEngine e).Stands c ⟨none, .free⟩ := by
  refine ⟨none, ⟨?_, fun _ => rfl⟩, ?_⟩
  · cases c <;> rfl
  · cases c <;> rfl

theorem Stands.pending_eq {s : Saves} (h : w.Stands c s) :
    s.pending = (w.crew c).orders.pending := by
  obtain ⟨holder, -, rfl⟩ := h
  rfl

theorem Stands.phase_eq_free_iff {s : Saves} (h : w.Stands c s) :
    s.phase = .free ↔ (w.crew c).orders.saving.running = false := by
  obtain ⟨holder, hh, rfl⟩ := h
  rw [hh.running]
  cases holder <;> simp [SavePhase.of]

/-- A queue is idle when nothing waits in it and nobody holds it. -/
theorem Stands.isIdle_iff {s : Saves} (h : w.Stands c s) :
    (w.crew c).orders.isIdle ↔ s = ⟨none, .free⟩ := by
  have hp := h.pending_eq
  have hf := h.phase_eq_free_iff
  obtain ⟨pending, phase⟩ := s
  subst hp
  simp only [OrderQueue.isIdle, Bool.and_eq_true, Bool.not_eq_true', Option.isNone_iff_eq_none,
    Saves.mk.injEq, ← hf, and_comm]

theorem Stands.isSettled {s : Saves} (h : w.Stands c s) : s.phase.isSettled := by
  obtain ⟨holder, -, rfl⟩ := h
  exact SavePhase.isSettled_of _

theorem Holding.of_eq {w' : Session} {holder : Option (Nat × Flush)} (h : w.Holding c holder)
    (hr : (w'.crew c).orders.saving = (w.crew c).orders.saving)
    (hs : ∀ id, w'.saveOf? c id = w.saveOf? c id) : w'.Holding c holder where
  running := by rw [hr, h.running]
  saveOf? id := by rw [hs, h.saveOf?]

theorem saveOf?_of_workOf?_eq {w' : Session} (h : ∀ id, w'.workOf? id = w.workOf? id) (id : Nat) :
    w'.saveOf? c id = w.saveOf? c id := by
  unfold saveOf?
  rw [h]

theorem Stands.of_eq {w' : Session} {s : Saves} (h : w.Stands c s)
    (ho : (w'.crew c).orders = (w.crew c).orders) (hs : ∀ id, w'.saveOf? c id = w.saveOf? c id) :
    w'.Stands c s := by
  obtain ⟨holder, hh, rfl⟩ := h
  exact ⟨holder, hh.of_eq (by rw [ho]) hs, by rw [ho]⟩

theorem Stands.act {s : Saves} (h : w.Stands c s) (a : Action) :
    ∃ s', (w.act a).Stands c s' ∧ Steps s (w.orderEntries c (.act a)) s' := by
  have ho := orders_act w a c
  have hs := saveOf?_of_workOf?_eq (c := c) (grows_act w a).workOf?
  by_cases hq : ∃ names, a = .queueOrder c names
  · obtain ⟨names, rfl⟩ := hq
    obtain ⟨holder, hh, rfl⟩ := h
    simp only [if_true] at ho
    refine ⟨⟨some names, .of (holder.map (·.2))⟩, ⟨holder, hh.of_eq (by rw [ho]; rfl) hs, ?_⟩, ?_⟩
    · rw [ho]
      rfl
    · simp only [orderEntries, if_true]
      exact .single (.queue names (SavePhase.isSettled_of _))
  · cases a with
    | queueOrder c' names =>
      have hc : c' ≠ c := fun hc => hq ⟨names, by rw [hc]⟩
      simp only [hc, if_false] at ho
      simp only [orderEntries, hc, if_false]
      exact ⟨s, h.of_eq ho hs, .nil⟩
    | _ => exact ⟨s, h.of_eq ho hs, .nil⟩

/-- Work is taken on by a task that has none, unless a reply is taken in. -/
theorem workOf?_subject (hw : w.Numbered) {ev : Event} {r : Session × Progress Work Outcome}
    (h : w.advance? ev = some r) (ha : w.answered? ev = none) :
    w.workOf? (w.subject ev) = none := by
  cases ev with
  | ask r' =>
    unfold workOf?
    rw [subject, hw.task?_next]
    rfl
  | turn id =>
    simp only [advance?] at h
    split at h
    · rename_i ht
      exact workOf?_of_stage ht rfl
    · rename_i ht
      exact workOf?_of_stage ht rfl
    · cases h
  | wake id =>
    simp only [advance?] at h
    split at h
    · rename_i ht
      exact workOf?_of_stage ht rfl
    · rename_i ht
      exact workOf?_of_stage ht rfl
    · cases h
  | _ => simp [advance?, ha] at h

theorem saveOf?_subject (hw : w.Numbered) {ev : Event} {r : Session × Progress Work Outcome}
    (h : w.advance? ev = some r) :
    w.saveOf? c (w.subject ev) = (w.saveAnswered? c ev).map (·.1) := by
  unfold saveOf? saveAnswered?
  cases ha : w.answered? ev with
  | none =>
    rw [workOf?_subject hw h ha]
    rfl
  | some a =>
    rw [workOf?_of_answered ha]
    simp [Function.comp_def]

/-- The queue after a stretch of the only task that may wait for a save of this crew. -/
theorem stands_of_subject {id : Nat} {b : Option Flush}
    (hr : (w.crew c).orders.saving.running = b.isSome)
    (hs : ∀ j, w.saveOf? c j = if j = id then b else none) :
    w.Stands c ⟨(w.crew c).orders.pending, .of b⟩ := by
  refine ⟨b.map (id, ·), ⟨?_, fun j => ?_⟩, ?_⟩
  · rw [hr, Option.isSome_map]
  · rw [hs]
    cases b with
    | none => simp
    | some f => by_cases hj : j = id <;> simp [hj, Ne.symm, Option.filter]
  · cases b <;> rfl

theorem Holding.eq_of_saveOf? {holder : Option (Nat × Flush)} (h : w.Holding c holder) {id : Nat}
    {f : Flush} (hf : w.saveOf? c id = some f) : holder = some (id, f) := by
  rw [h.saveOf?, Option.map_eq_some_iff] at hf
  obtain ⟨⟨id', f'⟩, hf, rfl⟩ := hf
  obtain ⟨hh, hid⟩ := Option.filter_eq_some_iff.1 hf
  rw [hh, show id' = id from beq_iff_eq.1 hid]

theorem orderEntries_of_advance {ev : Event} {r : Session × Progress Work Outcome}
    (h : w.advance? ev = some r) :
    w.orderEntries c ev =
      ((w.saveAnswered? c ev).map fun x => .replied x.1.call x.2).toList ++
        ((r.2.waiting?.bind (·.flushOf? c)).map OrderQueue.callEntry).toList := by
  have hact : ∀ a, ev ≠ .act a := by
    rintro a rfl
    cases h
  rw [orderEntries_of_not_act hact, saveBegun?, begun?, h, Option.bind_some]

/-- **A step that takes a task on** leads the queue on as the log says. -/
theorem Stands.advance {s : Saves} (hst : w.Stands c s) (hw : w.Numbered) {ev : Event}
    {r : Session × Progress Work Outcome} (h : w.advance? ev = some r) :
    ∃ s', (w.step ev).Stands c s' ∧ Steps s (w.orderEntries c ev) s' := by
  obtain ⟨w', p⟩ := r
  have hm := queueMoves_of_advance c h
  have hid := saveOf?_subject (c := c) hw h
  rw [orderEntries_of_advance h]
  obtain ⟨errand, hstep⟩ := step_of_advance h
  have ho : ((w.step ev).crew c).orders = (w'.crew c).orders := by rw [hstep, orders_conclude]
  have hs (j : Nat) : (w.step ev).saveOf? c j =
      if j = w.subject ev then p.waiting?.bind (·.flushOf? c) else w.saveOf? c j := by
    unfold saveOf?
    rw [workOf?_step_of_advance h]
    split <;> rfl
  unfold QueueMoves at hm
  rw [← ho] at hm
  dsimp only at hm ⊢
  generalize p.waiting?.bind (·.flushOf? c) = b at hm hs ⊢
  obtain ⟨holder, hh, rfl⟩ := id hst
  cases ht : w.saveAnswered? c ev with
  | some x =>
    -- The task that is answered is the one that holds the queue.
    obtain ⟨f, ok⟩ := x
    rw [ht] at hm hid
    obtain rfl := hh.eq_of_saveOf? hid
    obtain ⟨hsteps, hrun⟩ := hm.steps_of_taken hh.running
    have hs' (j : Nat) : (w.step ev).saveOf? c j = if j = w.subject ev then b else none := by
      rw [hs, hh.saveOf?]
      by_cases hj : j = w.subject ev <;> simp [hj, Option.filter, Ne.symm]
    exact ⟨_, stands_of_subject hrun hs', hsteps⟩
  | none =>
    rw [ht] at hm hid
    cases hrun : (w.crew c).orders.saving.running with
    | true =>
      obtain ⟨hq, rfl⟩ := hm.eq_of_running hrun
      refine ⟨_, hst.of_eq hq fun j => ?_, .nil⟩
      rw [hs]
      split
      · rename_i hj
        rw [hj, hid]
        rfl
      · rfl
    | false =>
      -- Nobody holds the queue, so that the task may.
      obtain ⟨hsteps, hrun'⟩ := hm.steps_of_free hrun
      rw [hh.running] at hrun
      obtain rfl := Option.isNone_iff_eq_none.1 (Option.isSome_eq_false_iff.1 hrun)
      have hs' (j : Nat) : (w.step ev).saveOf? c j = if j = w.subject ev then b else none := by
        rw [hs, hh.saveOf?]
        rfl
      exact ⟨_, stands_of_subject hrun' hs', hsteps⟩

/-- **Every step leads the queue on as the log says.** -/
theorem Stands.step {s : Saves} (hst : w.Stands c s) (hw : w.Numbered) (ev : Event) :
    ∃ s', (w.step ev).Stands c s' ∧ Steps s (w.orderEntries c ev) s' := by
  by_cases ha : ∃ a, ev = .act a
  · obtain ⟨a, rfl⟩ := ha
    exact hst.act a
  cases h : w.advance? ev with
  | some r => exact hst.advance hw h
  | none =>
    have hq := still_of_quiet hw h fun a he => ha ⟨a, he⟩
    have hn : w.orderEntries c ev = [] := by
      have hanswered : w.answered? ev = none := by
        cases hr : w.answered? ev with
        | none => rfl
        | some a =>
          rw [advance?_of_answered hr] at h
          cases h
      rw [orderEntries_of_not_act fun a he => ha ⟨a, he⟩]
      simp [saveAnswered?, saveBegun?, begun?, hanswered, h]
    rw [hn]
    exact ⟨s, hst.of_eq (hq.orders c) (saveOf?_of_workOf?_eq hq.workOf?), .nil⟩

/-- **The log of every run is legal**, up to where the queue stands. -/
theorem stands_run (c : CrewId) (e : Engine) (events : List Event) :
    ∃ s, ((ofEngine e).run events).Stands c s ∧
      Steps ⟨none, .free⟩ ((ofEngine e).orderLog c events) s := by
  induction events using List.reverseRecOn with
  | nil => exact ⟨_, stands_ofEngine c e, .nil⟩
  | append_singleton events ev ih =>
    obtain ⟨s, hst, hl⟩ := ih
    obtain ⟨s', hst', hl'⟩ := hst.step ((numbered_ofEngine e).run events) ev
    rw [run_append, run_cons, run_nil, orderLog_concat]
    exact ⟨s', hst', hl.append hl'⟩

end Session

end Switchboard
