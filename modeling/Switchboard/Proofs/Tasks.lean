import Switchboard.Proofs.Frames

/-!
# The tasks of a session

Which task waits for which reply (`Session.workOf?`), and what the operations on tasks do to it.

* `Session.workOf?_conclude` — settling a task at its new stage concerns no other task.
* `Session.Numbered` — tasks have ids of their own, and the next id is free.
* `Session.Aside` — new tasks have come, none of which has had a turn, and no queue of orders has
  changed; this is all that most work does beside what it does to the engine.
* `Session.Still` — no work has gone on, and the queues, the model and the settings are as before.
-/

set_option autoImplicit false

namespace Switchboard

/-- What an activity waits with, if it waits. -/
def Progress.waiting? {σ ρ : Type} : Progress σ ρ → Option σ
  | waiting s => some s
  | done _ => none

/-- The work that a task at this stage waits with. -/
def Stage.work? : Stage → Option Work
  | working k => some k
  | _ => none

/-- The save of an order from the queue of this crew. -/
def Work.flushOf? (c : CrewId) : Work → Option Flush
  | flush c' f => if c' = c then some f else none
  | _ => none

theorem Work.flushOf?_eq_some_iff {c : CrewId} {k : Work} {f : Flush} :
    k.flushOf? c = some f ↔ k = flush c f := by
  cases k with
  | flush c' f' => by_cases h : c' = c <;> simp [flushOf?, h]
  | _ => simp [flushOf?]

/-- The two gates. -/
def Engine.gates (e : Engine) : BusyGate × BlockingGate := (e.busy, e.blocking)

theorem Stage.work?_eq_some_iff {s : Stage} {k : Work} : s.work? = some k ↔ s = working k := by
  cases s <;> simp [work?]

namespace Session

/-- The work that the task with this id waits with. -/
def workOf? (w : Session) (id : Nat) : Option Work := (w.task? id).bind (·.stage.work?)

theorem workOf?_eq_some_iff {w : Session} {id : Nat} {k : Work} :
    w.workOf? id = some k ↔ ∃ t, w.task? id = some t ∧ t.stage = .working k := by
  simp only [workOf?, Option.bind_eq_some_iff, Stage.work?_eq_some_iff]

/-- Tasks have ids of their own, and the next id is free. -/
structure Numbered (w : Session) : Prop where
  nodup : (w.tasks.map (·.id)).Nodup
  lt_next : ∀ t ∈ w.tasks, t.id < w.nextTask

theorem id_of_task? {w : Session} {id : Nat} {t : Task} (h : w.task? id = some t) :
    t.id = id := by
  simpa using List.find?_some h

theorem Numbered.lt_of_task? {w : Session} (h : w.Numbered) {id : Nat} {t : Task}
    (ht : w.task? id = some t) : id < w.nextTask := by
  rw [← id_of_task? ht]
  exact h.lt_next t (List.mem_of_find?_eq_some ht)

theorem Numbered.task?_next {w : Session} (h : w.Numbered) : w.task? w.nextTask = none := by
  simp only [task?, List.find?_eq_none, beq_iff_eq]
  exact fun t ht => Nat.ne_of_lt (h.lt_next t ht)

theorem Numbered.task?_eq_some {w : Session} (h : w.Numbered) {t : Task} (ht : t ∈ w.tasks) :
    w.task? t.id = some t := by
  obtain ⟨before, after, hw⟩ := List.append_of_mem ht
  have hn := h.nodup
  simp only [hw, List.map_append, List.map_cons, List.nodup_append] at hn
  simp only [task?, List.find?_eq_some_iff_append, beq_self_eq_true, true_and]
  refine ⟨before, after, hw, fun u hu => ?_⟩
  simpa using hn.2.2 u.id (List.mem_map_of_mem hu) t.id (by simp)

/-- Tasks that must be the same one are not more than one. -/
theorem countP_le_one {tasks : List Task} (hn : (tasks.map (·.id)).Nodup) {p : Task → Bool}
    (hp : ∀ t ∈ tasks, ∀ u ∈ tasks, p t → p u → t.id = u.id) : tasks.countP p ≤ 1 := by
  induction tasks with
  | nil => exact Nat.zero_le 1
  | cons t tasks ih =>
    rw [List.map_cons, List.nodup_cons] at hn
    rw [List.countP_cons]
    split
    · rename_i ht
      have hz : tasks.countP p = 0 := by
        rw [List.countP_eq_zero]
        intro u hu hpu
        have hid := hp t List.mem_cons_self u (List.mem_cons_of_mem _ hu) ht hpu
        exact hn.1 (hid ▸ List.mem_map_of_mem hu)
      omega
    · exact ih hn.2 fun u hu v hv =>
        hp u (List.mem_cons_of_mem _ hu) v (List.mem_cons_of_mem _ hv)

theorem numbered_ofEngine (e : Engine) : (ofEngine e).Numbered where
  nodup := List.nodup_nil
  lt_next _ ht := absurd ht List.not_mem_nil

theorem numbered_ofSource (e : Engine) (random : Source) : (ofSource e random).Numbered :=
  ⟨(numbered_ofEngine e).nodup, (numbered_ofEngine e).lt_next⟩

/-! ## Operations on tasks -/

@[simp] theorem cancelled_setCrew (w : Session) (id : CrewId) (c : Crew) :
    (w.setCrew id c).cancelled = w.cancelled := by
  cases id <;> rfl

theorem task?_setTask (w : Session) (id j : Nat) (errand : Errand) (stage : Stage) :
    (w.setTask id errand stage).task? j =
      if j = id then (w.task? j).map fun _ => ⟨id, errand, stage⟩ else w.task? j := by
  have hf : ((fun t : Task => t.id == j) ∘ fun t => if t.id = id then ⟨id, errand, stage⟩ else t) =
      fun t => t.id == j := by
    funext t
    by_cases ht : t.id = id <;> simp [ht]
  simp only [task?, setTask, List.find?_map, hf]
  cases h : w.tasks.find? (·.id == j) with
  | none => simp
  | some t =>
    have ht : t.id = j := by simpa using List.find?_some h
    by_cases hj : j = id <;> simp [ht, hj]

theorem task?_endTask (w : Session) (id j : Nat) :
    (w.endTask id).task? j = if j = id then none else w.task? j := by
  simp only [task?, endTask, List.find?_filter]
  split
  · rename_i hj
    subst hj
    simp
  · rename_i hj
    congr 1
    funext t
    by_cases ht : t.id = j <;> simp [ht, hj]

theorem task?_spawn_next (w : Session) (errand : Errand) :
    ((w.spawn errand).task? w.nextTask).isSome := by
  simp [task?, spawn, List.find?_append]

theorem workOf?_setTask {w : Session} {id : Nat} (h : (w.task? id).isSome) (j : Nat)
    (errand : Errand) (stage : Stage) :
    (w.setTask id errand stage).workOf? j = if j = id then stage.work? else w.workOf? j := by
  unfold workOf?
  rw [task?_setTask]
  split
  · rename_i hj
    subst hj
    obtain ⟨t, ht⟩ := Option.isSome_iff_exists.1 h
    simp [ht]
  · rfl

theorem workOf?_endTask (w : Session) (id j : Nat) :
    (w.endTask id).workOf? j = if j = id then none else w.workOf? j := by
  unfold workOf?
  rw [task?_endTask]
  split <;> rfl

theorem Numbered.setTask {w : Session} (h : w.Numbered) (id : Nat) (errand : Errand)
    (stage : Stage) : (w.setTask id errand stage).Numbered := by
  have hid : ∀ t : Task, (if t.id = id then (⟨id, errand, stage⟩ : Task) else t).id = t.id := by
    intro t
    split
    · rename_i ht
      exact ht.symm
    · rfl
  constructor
  · simpa [Session.setTask, Function.comp_def, hid] using h.nodup
  · intro t ht
    obtain ⟨u, hu, rfl⟩ := List.mem_map.1 ht
    rw [hid]
    exact h.lt_next u hu

theorem Numbered.endTask {w : Session} (h : w.Numbered) (id : Nat) : (w.endTask id).Numbered where
  nodup := h.nodup.sublist (List.filter_sublist.map _)
  lt_next t ht := h.lt_next t (List.mem_filter.1 ht).1

theorem Numbered.spawn {w : Session} (h : w.Numbered) (errand : Errand) :
    (w.spawn errand).Numbered := by
  constructor
  · simp only [Session.spawn, List.map_append, List.map_cons, List.map_nil, List.nodup_append]
    refine ⟨h.nodup, by simp, ?_⟩
    intro a ha b hb
    obtain ⟨t, ht, rfl⟩ := List.mem_map.1 ha
    obtain rfl := List.mem_singleton.1 hb
    exact Nat.ne_of_lt (h.lt_next t ht)
  · intro t ht
    rcases List.mem_append.1 ht with ht | ht
    · exact Nat.lt_succ_of_lt (h.lt_next t ht)
    · obtain rfl := List.mem_singleton.1 ht
      exact Nat.lt_succ_self _

/-! ## New tasks beside the old ones -/

/-- Nothing has happened to the tasks, but that others were added, nor to the queues of orders, and
what was cancelled stays so. -/
structure Aside (w w' : Session) : Prop where
  grows : w.Grows w'
  orders : ∀ c, (w'.crew c).orders = (w.crew c).orders
  cancelled : w.cancelled ⊆ w'.cancelled

namespace Grows

theorem workOf? {w w' : Session} (h : w.Grows w') (j : Nat) : w'.workOf? j = w.workOf? j := by
  have key {ts : List Task} {n : Nat} (hs : Spawned w.tasks w.nextTask ts n) :
      (ts.find? (·.id == j)).bind (·.stage.work?) = w.workOf? j := by
    induction hs with
    | refl => rfl
    | @spawn ts n errand _ ih =>
      rw [← ih, List.find?_append]
      cases ts.find? (·.id == j) with
      | some t => rfl
      | none => by_cases hj : n = j <;> simp [hj, Stage.work?]
  exact key h

theorem isSome_task? {w w' : Session} (h : w.Grows w') {id : Nat} (ht : (w.task? id).isSome) :
    (w'.task? id).isSome := by
  have key {ts : List Task} {n : Nat} (hs : Spawned w.tasks w.nextTask ts n) :
      (ts.find? (·.id == id)).isSome := by
    induction hs with
    | refl => exact ht
    | spawn errand _ ih => simp [List.find?_append, ih]
  exact key h

theorem mem {w w' : Session} (h : w.Grows w') {t : Task} (ht : t ∈ w.tasks) : t ∈ w'.tasks := by
  have key {ts : List Task} {n : Nat} (hs : Spawned w.tasks w.nextTask ts n) : t ∈ ts := by
    induction hs with
    | refl => exact ht
    | spawn errand _ ih => exact List.mem_append_left _ ih
  exact key h

theorem numbered {w w' : Session} (h : w.Grows w') (hw : w.Numbered) : w'.Numbered := by
  have key {ts : List Task} {n : Nat} (hs : Spawned w.tasks w.nextTask ts n) :
      ({ w with tasks := ts, nextTask := n } : Session).Numbered := by
    induction hs with
    | refl => exact hw
    | spawn errand _ ih => exact ih.spawn errand
  exact ⟨(key h).nodup, (key h).lt_next⟩

end Grows

namespace Aside

theorem trans {w w' w'' : Session} (h : w.Aside w') (h' : w'.Aside w'') : w.Aside w'' :=
  ⟨h.grows.trans h'.grows, fun c => (h'.orders c).trans (h.orders c),
    List.Subset.trans h.cancelled h'.cancelled⟩

end Aside

theorem Directs.aside {w w' : Session} {e : Engine} (h : w.Directs e w') : w.Aside w' :=
  ⟨h.grows, h.orders, h.cancelled⟩

theorem Crews.aside {w w' : Session} (h : w.Crews w') : w.Aside w' :=
  ⟨h.grows, h.orders, h.cancelled ▸ List.Subset.refl _⟩

/-! ## Settling a task at its new stage -/

theorem mem_setTask {w : Session} {t : Task} (ht : t ∈ w.tasks) {id : Nat} (hid : t.id ≠ id)
    (errand : Errand) (stage : Stage) : t ∈ (w.setTask id errand stage).tasks :=
  List.mem_map.2 ⟨t, ht, if_neg hid⟩

theorem mem_endTask {w : Session} {t : Task} (ht : t ∈ w.tasks) {id : Nat} (hid : t.id ≠ id) :
    t ∈ (w.endTask id).tasks := List.mem_filter.2 ⟨ht, bne_iff_ne.2 hid⟩

/-- No work has gone on, the other tasks are where they were, and the queues of orders, the model,
the settings, the gates and what is cancelled are as before. -/
structure Still (w : Session) (id : Nat) (w' : Session) : Prop where
  workOf? : ∀ j, w'.workOf? j = w.workOf? j
  others : ∀ t ∈ w.tasks, t.id ≠ id → t ∈ w'.tasks
  numbered : w.Numbered → w'.Numbered
  orders : ∀ c, (w'.crew c).orders = (w.crew c).orders
  model : w'.engine.model = w.engine.model
  settings : w'.engine.settings = w.engine.settings
  gates : w'.engine.gates = w.engine.gates
  cancelled : w'.cancelled = w.cancelled

theorem Still.refl (w : Session) (id : Nat) : w.Still id w :=
  ⟨fun _ => rfl, fun _ ht _ => ht, fun hw => hw, fun _ => rfl, rfl, rfl, rfl, rfl⟩

theorem Settles.model {w w' : Session} (h : w.Settles w') : w'.engine.model = w.engine.model :=
  h.engine.congr Engine.model fun _ _ _ => rfl

theorem Settles.settings {w w' : Session} (h : w.Settles w') :
    w'.engine.settings = w.engine.settings := h.engine.congr Engine.settings fun _ _ _ => rfl

theorem Settles.gates {w w' : Session} (h : w.Settles w') : w'.engine.gates = w.engine.gates :=
  h.engine.congr Engine.gates fun _ _ _ => rfl

/-- The task was settled and is no longer at work. Nothing has happened to the others. -/
structure Idles (w : Session) (id : Nat) (w' : Session) : Prop extends w.Settles w' where
  workOf? : ∀ j, w'.workOf? j = if j = id then none else w.workOf? j
  others : ∀ t ∈ w.tasks, t.id ≠ id → t ∈ w'.tasks
  numbered : w.Numbered → w'.Numbered

namespace Idles

theorem still {w w' : Session} {id : Nat} (h : w.Idles id w') (hid : w.workOf? id = none) :
    w.Still id w' where
  workOf? j := by
    rw [h.workOf?]
    split
    · rename_i hj
      rw [hj, hid]
    · rfl
  others := h.others
  numbered := h.numbered
  orders := h.orders
  model := h.model
  settings := h.settings
  gates := h.gates
  cancelled := h.cancelled

theorem setTask (w : Session) (id : Nat) (errand : Errand) {stage : Stage}
    (h : stage.work? = none) : w.Idles id (w.setTask id errand stage) where
  toSettles := (Rests.setTask w id errand stage).settles
  workOf? j := by
    unfold Session.workOf?
    rw [task?_setTask]
    split
    · cases w.task? j <;> simp [h]
    · rfl
  others _ ht hid := mem_setTask ht hid errand stage
  numbered hw := hw.setTask id errand stage

theorem endTask (w : Session) (id : Nat) : w.Idles id (w.endTask id) where
  toSettles := (Rests.endTask w id).settles
  workOf? := workOf?_endTask w id
  others _ ht hid := mem_endTask ht hid
  numbered hw := hw.endTask id

theorem deliver (w : Session) (id : Nat) (o : Outcome) : w.Idles id (w.deliver id o) where
  toSettles := (Rests.deliver w id o).settles
  workOf? := workOf?_endTask w id
  others _ ht hid := mem_endTask ht hid
  numbered hw := ⟨(hw.endTask id).nodup, (hw.endTask id).lt_next⟩

theorem rest (w : Session) (id : Nat) (errand : Errand) (ms : UInt64) :
    w.Idles id (w.rest id errand ms) := setTask w id errand rfl

/-- What was settled before is none of the tasks' business, as long as they are left alone. -/
theorem after {w w' w'' : Session} {id : Nat} (h : w'.Idles id w'') (hs : w.Settles w')
    (ht : w'.tasks = w.tasks) : w.Idles id w'' where
  toSettles := hs.trans h.toSettles
  workOf? j := by
    have hw (j : Nat) : w'.workOf? j = w.workOf? j := by simp only [Session.workOf?, task?, ht]
    rw [h.workOf?, hw]
  others t hmem hid := h.others t (ht ▸ hmem) hid
  numbered hw := h.numbered ⟨ht ▸ hw.nodup, hs.nextTask.symm ▸ ht ▸ hw.lt_next⟩

theorem planKeepalive (w : Session) (id : Nat) (s : Shift) : w.Idles id (w.planKeepalive id s) := by
  unfold Session.planKeepalive
  split
  · exact endTask w id
  · rename_i ms random _
    have hdrawn : w.Rests { w with random := random } := ⟨_, _, _, rfl⟩
    exact (rest _ id _ _).after hdrawn.settles rfl

theorem restAfter (w : Session) (id : Nat) (r : Routine) (s : Shift) (o : Outcome) :
    w.Idles id (w.restAfter id r s o) := by
  unfold Session.restAfter
  cases r with
  | poll next => exact setTask w id _ rfl
  | autoSwitch => exact rest w id _ _
  | recover => exact rest w id _ _
  | hookWatch => exact rest w id _ _
  | keepalive reason =>
    dsimp only
    split
    · exact rest w id _ _
    · exact planKeepalive w id s

theorem conclude_done (w : Session) (id : Nat) (errand : Errand) (o : Outcome) :
    w.Idles id (w.conclude id errand (.done o)) := by
  cases errand with
  | request => exact deliver w id o
  | loop r s => exact restAfter w id r s o
  | sync => exact endTask w id
  | flush crew => exact endTask w id

theorem afterWatch (w : Session) (id : Nat) (errand : Errand) :
    w.Idles id (w.afterWatch id errand) := by
  unfold Session.afterWatch
  split
  · rename_i r s
    split
    · exact endTask w id
    · have hc := Settles.setChecked w s.crew true
      have ht : (w.setCrew s.crew { w.crew s.crew with startupChecked := true }).tasks = w.tasks := by
        cases s.crew <;> rfl
      dsimp only
      split
      · exact (endTask _ id).after hc ht
      · rename_i p random _
        have hdrawn (v : Session) : v.Settles { v with random := random } :=
          Rests.settles ⟨_, _, _, rfl⟩
        exact (rest _ id _ _).after ((hc.trans (hdrawn _)).trans (.setStatus _ _)) ht
  · exact deliver w id _

theorem watch (w : Session) (id : Nat) (errand : Errand) : w.Idles id (w.watch id errand) := by
  unfold Session.watch
  split
  · exact endTask w id
  split
  · exact afterWatch w id errand
  · exact setTask w id errand rfl

end Idles

/-- **Settling a task at its new stage concerns no other task.** -/
theorem workOf?_conclude {w : Session} {id : Nat} (h : (w.task? id).isSome) (errand : Errand)
    (p : Progress Work Outcome) (j : Nat) :
    (w.conclude id errand p).workOf? j = if j = id then p.waiting? else w.workOf? j := by
  cases p with
  | waiting k => exact workOf?_setTask h j errand (.working k)
  | done o => exact (Idles.conclude_done w id errand o).workOf? j

theorem mem_conclude {w : Session} {t : Task} (ht : t ∈ w.tasks) {id : Nat} (hid : t.id ≠ id)
    (errand : Errand) (p : Progress Work Outcome) : t ∈ (w.conclude id errand p).tasks := by
  cases p with
  | waiting k => exact mem_setTask ht hid errand _
  | done o => exact (Idles.conclude_done w id errand o).others t ht hid

theorem Numbered.conclude {w : Session} (h : w.Numbered) (id : Nat) (errand : Errand)
    (p : Progress Work Outcome) : (w.conclude id errand p).Numbered := by
  cases p with
  | waiting k => exact h.setTask id errand _
  | done o => exact (Idles.conclude_done w id errand o).numbered h

theorem orders_conclude (w : Session) (id : Nat) (errand : Errand) (p : Progress Work Outcome)
    (c : CrewId) : ((w.conclude id errand p).crew c).orders = (w.crew c).orders :=
  (rests_conclude w id errand p).settles.orders c

/-- Settling a task does nothing to the engine. -/
theorem engine_conclude (w : Session) (id : Nat) (errand : Errand) (p : Progress Work Outcome) :
    (w.conclude id errand p).engine = w.engine :=
  (rests_conclude w id errand p).congr Session.engine fun _ _ _ _ => rfl

theorem model_conclude (w : Session) (id : Nat) (errand : Errand) (p : Progress Work Outcome) :
    (w.conclude id errand p).engine.model = w.engine.model :=
  congrArg Engine.model (engine_conclude w id errand p)

theorem cancelled_conclude (w : Session) (id : Nat) (errand : Errand)
    (p : Progress Work Outcome) : (w.conclude id errand p).cancelled = w.cancelled :=
  (rests_conclude w id errand p).settles.cancelled

theorem nextTask_conclude (w : Session) (id : Nat) (errand : Errand) (p : Progress Work Outcome) :
    (w.conclude id errand p).nextTask = w.nextTask := (rests_conclude w id errand p).settles.nextTask

end Session

end Switchboard
