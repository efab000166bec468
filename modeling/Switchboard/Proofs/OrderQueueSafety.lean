import Switchboard.Proofs.ModelWrites
import Switchboard.Proofs.OrderRuns

/-!
# Safety of the queue of orders

The log of a run is legal, which says all about the order of the calls. It does not say that a call
is made at all: `Session.Awake` does, since an order that waits has a task that will see to it.

* `Session.awake_run` — while an order waits, it is on its way: no wake-up is lost.
* `Session.orders_saved_one_by_one` — one call at a time, with the latest order; none is lost, and
  what failed is read back.
-/

set_option autoImplicit false

namespace Switchboard

namespace Session

variable {c : CrewId} {w : Session}

/-! ## No order is left lying -/

/-- The entries of an event end with an order only if that is what is queued. -/
theorem eq_queueOrder_of_getLast? {ev : Event} {names : List String}
    (h : (w.orderEntries c ev).getLast? = some (.queued names)) :
    ev = .act (.queueOrder c names) := by
  by_cases ha : ∃ a, ev = .act a
  · obtain ⟨a, rfl⟩ := ha
    cases a with
    | queueOrder c' names' =>
      simp only [orderEntries] at h
      split at h
      · rename_i hc
        cases h
        rw [hc]
      · cases h
    | _ => cases h
  · rw [orderEntries_of_not_act fun a he => ha ⟨a, he⟩, List.getLast?_append] at h
    cases hb : w.saveBegun? c ev <;> cases hs : w.saveAnswered? c ev <;>
      simp [hb, hs, OrderQueue.callEntry] at h

/-- A task that is to save what waits in a queue that nobody holds does so when it has its turn. -/
theorem orderEntries_turn {t : Task} (hw : w.Numbered) (ht : t ∈ w.tasks)
    (he : t.errand = .flush c) (hf : t.stage = .fresh) (hp : (w.crew c).orders.pending.isSome)
    (hr : (w.crew c).orders.saving.running = false) : w.orderEntries c (.turn t.id) ≠ [] := by
  have htask : w.task? t.id = some ⟨t.id, .flush c, .fresh⟩ := by
    rw [hw.task?_eq_some ht, ← he, ← hf]
  have ha : w.advance? (.turn t.id) = some (w.beginFlush c) := by
    simp only [advance?, htask]
  obtain ⟨names, hp⟩ := Option.isSome_iff_exists.1 hp
  have hnext := (Flush.next_eq_waiting_iff (e := w.engine)).2 ⟨hr, names, hp, rfl, rfl, rfl⟩
  rw [orderEntries_of_advance ha, beginFlush, waiting_embedFlush, hnext]
  simp [Progress.waiting?]

/-- An order that waits is on its way: another one is being saved, or a task has yet to have its
turn. -/
def Awake (c : CrewId) (w : Session) : Prop :=
  (w.crew c).orders.pending.isSome → (w.crew c).orders.saving.running = false →
    ∃ t ∈ w.tasks, t.errand = .flush c ∧ t.stage = .fresh

/-- **No wake-up is lost.** -/
theorem Awake.step {s : Saves} (h : w.Awake c) (hst : w.Stands c s) (hw : w.Numbered) (ev : Event) :
    (w.step ev).Awake c := by
  intro hp hr
  obtain ⟨s', hst', hsteps⟩ := hst.step hw ev
  rcases hsteps.last_of_free (hst'.phase_eq_free_iff.2 hr) with
    ⟨hn, rfl⟩ | ⟨names, hl, -⟩ | ⟨f, ok, -, -, hnone⟩
  · rw [← hst'.pending_eq, hst.pending_eq] at hp
    rw [← hst'.phase_eq_free_iff, hst.phase_eq_free_iff] at hr
    obtain ⟨t, ht, he, hf⟩ := h hp hr
    have hev : ev ≠ .turn t.id := by
      rintro rfl
      exact orderEntries_turn hw ht he hf hp hr hn
    exact ⟨t, mem_step_of_fresh hw ht hf hev, he, hf⟩
  · obtain rfl := eq_queueOrder_of_getLast? hl
    refine ⟨⟨w.nextTask, .flush c, .fresh⟩, ?_, rfl, rfl⟩
    cases c <;> simp [Session.step, Session.act, queueOrder, spawn, setCrew, onEngine]
  · rw [← hst'.pending_eq, hnone] at hp
    cases hp

theorem awake_run (c : CrewId) (e : Engine) (events : List Event) :
    ((ofEngine e).run events).Awake c := by
  induction events using List.reverseRecOn with
  | nil =>
    intro hp
    cases c <;> cases hp
  | append_singleton events ev ih =>
    obtain ⟨s, hst, -⟩ := stands_run c e events
    rw [run_append, run_cons, run_nil]
    exact ih.step hst ((numbered_ofEngine e).run events) ev

/-- While a queue is not idle, a task is there that goes on with it. -/
theorem Awake.exists_task {s : Saves} (h : w.Awake c) (hst : w.Stands c s)
    (hi : (w.crew c).orders.isIdle = false) :
    ∃ t ∈ w.tasks, (t.errand = .flush c ∧ t.stage = .fresh) ∨
      ∃ f, t.stage = .working (.flush c f) := by
  cases hr : (w.crew c).orders.saving.running with
  | true =>
    obtain ⟨holder, hh, -⟩ := hst
    rw [hh.running] at hr
    obtain ⟨⟨id, f⟩, rfl⟩ := Option.isSome_iff_exists.1 hr
    have hf : w.saveOf? c id = some f := by
      rw [hh.saveOf?]
      simp [Option.filter]
    obtain ⟨k, hk, hkf⟩ := Option.bind_eq_some_iff.1 hf
    obtain rfl := Work.flushOf?_eq_some_iff.1 hkf
    obtain ⟨t, ht, hs⟩ := workOf?_eq_some_iff.1 hk
    exact ⟨t, List.mem_of_find?_eq_some ht, .inr ⟨f, hs⟩⟩
  | false =>
    have hp : (w.crew c).orders.pending.isSome := by
      rw [OrderQueue.isIdle, hr] at hi
      simpa using hi
    obtain ⟨t, ht, hf⟩ := h hp hr
    exact ⟨t, ht, .inl hf⟩

/-! ## One save at a time -/

end Session

/-- The task waits for the reply to the save of an order of this crew. -/
def Task.isSaving (c : CrewId) (t : Task) : Bool :=
  match t.stage with
  | .working (.flush c' (.saving _)) => c' = c
  | _ => false

theorem Task.isSaving_iff {c : CrewId} {t : Task} :
    t.isSaving c ↔ ∃ names, t.stage = .working (.flush c (.saving names)) := by
  unfold isSaving
  split
  · rename_i c' names ht
    simp [ht]
  · rename_i ht
    simp only [Bool.false_eq_true, false_iff, not_exists]
    exact fun names h => ht c names h

namespace Session

/-- No two tasks wait for the save of an order. -/
theorem Stands.countP_isSaving_le_one {c : CrewId} {w : Session} {s : Saves} (h : w.Stands c s)
    (hw : w.Numbered) : w.tasks.countP (·.isSaving c) ≤ 1 := by
  obtain ⟨holder, hh, -⟩ := h
  have held {t : Task} (ht : t ∈ w.tasks) (hs : t.isSaving c) :
      ∃ f, holder = some (t.id, f) := by
    obtain ⟨names, hs⟩ := Task.isSaving_iff.1 hs
    have hf : w.saveOf? c t.id = some (.saving names) := by
      unfold saveOf?
      rw [workOf?_eq_some_iff.2 ⟨t, hw.task?_eq_some ht, hs⟩]
      exact Work.flushOf?_eq_some_iff.2 rfl
    exact ⟨_, hh.eq_of_saveOf? hf⟩
  refine countP_le_one hw.nodup fun t ht u hu hst hsu => ?_
  obtain ⟨f, hf⟩ := held ht hst
  obtain ⟨g, hg⟩ := held hu hsu
  rw [hf] at hg
  exact congrArg Prod.fst (Option.some.inj hg)

/-- **Orders are saved one by one, and none that counts is lost.** In every run, whatever comes in
between: not more than one task waits for the save of an order; the order that is sent is always
the one queued last by then, and the orders sent are some of those queued, in that order; whenever
the queue is idle, the order sent last is the one queued last, and until then a task is there that
goes on with it; when a save ends (done, or failed and read back), the latest of the orders that
came since it was sent is sent, and no other before the next one is queued; and after a save that
failed the dashboard is asked for once before the next order is sent. -/
theorem orders_saved_one_by_one (c : CrewId) (e : Engine) (events : List Event) :
    ((ofEngine e).run events).tasks.countP (·.isSaving c) ≤ 1 ∧
      (∀ before names after,
        (ofEngine e).orderLog c events = before ++ .called (.reorderProfiles names) :: after →
        (queuedOrders before).getLast? = some names) ∧
      (sentOrders ((ofEngine e).orderLog c events)).Sublist
        (queuedOrders ((ofEngine e).orderLog c events)) ∧
      ((((ofEngine e).run events).crew c).orders.isIdle →
        (sentOrders ((ofEngine e).orderLog c events)).getLast? =
          (queuedOrders ((ofEngine e).orderLog c events)).getLast?) ∧
      ((((ofEngine e).run events).crew c).orders.isIdle = false →
        ∃ t ∈ ((ofEngine e).run events).tasks, (t.errand = .flush c ∧ t.stage = .fresh) ∨
          ∃ f, t.stage = .working (.flush c f)) ∧
      (∀ before names log x after,
        (ofEngine e).orderLog c events =
          before ++ .called (.reorderProfiles names) :: log ++ x :: after →
        x.ends → (∀ y ∈ log, y.ends = false) →
        sentOrders (untilQueued after) = (queuedOrders log).getLast?.toList) ∧
      ∀ before names after,
        (ofEngine e).orderLog c events =
          before ++ .replied (.reorderProfiles names) false :: after →
        ∃ m, callsOf (untilSent after) = [.fetchDashboard false m] := by
  obtain ⟨s, hst, hl⟩ := stands_run c e events
  have hcount := hst.countP_isSaving_le_one ((numbered_ofEngine e).run events)
  refine ⟨hcount, ?_, ?_, ?_, ?_, ?_, ?_⟩
  · intro before names after h
    rw [h] at hl
    exact hl.latest_of_sent
  · exact (List.sublist_append_left _ _).trans hl.sublist
  · intro hidle
    obtain rfl := hst.isIdle_iff.1 hidle
    simpa using hl.latest
  · exact (awake_run c e events).exists_task hst
  · intro before names log x after h hx hy
    rw [h] at hl
    exact hl.sent_after_hold hst.isSettled hx hy
  · intro before names after h
    rw [h] at hl
    exact hl.reads_back_of_failed hst.isSettled

/-- Two orders come while the first is being saved; its save fails and is read back, and then the
latest is saved. The queue is idle again when that is done. -/
theorem orders_queued_during_failing_save :
    let s : Snapshot := { profiles := [{ name := "a" }, { name := "b" }] }
    let events : List Event :=
      [.act (.queueOrder .manual ["b"]), .turn 0, .act (.queueOrder .manual ["x"]),
        .act (.queueOrder .manual ["a"]), .turn 1,
        .reply 0 (.reorderProfiles ["b"]) (.error (.reported "down")),
        .reply 0 (.fetchDashboard false .gpt) (.ok s), .turn 2,
        .reply 0 (.reorderProfiles ["a"]) (.ok s)]
    let log := (ofEngine Engine.blank).orderLog .manual events
    ((ofEngine Engine.blank).run events).manual.orders.isIdle ∧
      sentOrders log = [["b"], ["a"]] ∧ queuedOrders log = [["b"], ["x"], ["a"]] ∧
      (sentOrders log).getLast? = (queuedOrders log).getLast? ∧
      ∃ before after, log = before ++ .replied (.reorderProfiles ["b"]) false :: after ∧
        ∃ m, callsOf (untilSent after) = [.fetchDashboard false m] := by
  intro s events log
  have hlog : log = [.queued ["b"], .called (.reorderProfiles ["b"]), .queued ["x"], .queued ["a"],
      .replied (.reorderProfiles ["b"]) false, .called (.fetchDashboard false .gpt),
      .replied (.fetchDashboard false .gpt) true, .called (.reorderProfiles ["a"]),
      .replied (.reorderProfiles ["a"]) true] := by decide +kernel
  have hidle : ((ofEngine Engine.blank).run events).manual.orders.isIdle := by decide +kernel
  obtain ⟨-, -, -, hlast, -, -, hread⟩ := orders_saved_one_by_one .manual Engine.blank events
  refine ⟨hidle, ?_, ?_, hlast hidle, [_, _, _, _], _, hlog, hread [_, _, _, _] _ _ hlog⟩
  · rw [hlog]
    rfl
  · rw [hlog]
    rfl

end Session

end Switchboard
