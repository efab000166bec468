import Switchboard.Proofs.WorkKinds

/-!
# How an event takes work on

Most events take one task on: something is begun for it, or a reply is taken in, until the task
waits for the next reply or is done. `Session.advance?` is that stretch, before the task is settled
at its new stage, and the remaining events are *quiet*: they neither end nor begin a call.

* `Session.taken_of_advance` — a step is its stretch and `conclude`, on the errand of the task.
* `Session.workOf?_step_of_advance` — the task that is taken on waits with what was begun, and all
  others as before.
* `Session.lull_of_quiet` — what a quiet event can do; `Session.settles_or_passes`,
  `Session.still_of_quiet`: it settles a task at most, and nothing of it is seen by others.
* `Session.Numbered.run` — tasks have ids of their own, in every session that a run leads to.
-/

set_option autoImplicit false

namespace Switchboard

namespace Session

/-- The work whose reply an event brings, with the reply. -/
def answered? (w : Session) : Event → Option ((k : Work) × Reply k.call)
  | .reply id c r =>
    match w.workOf? id with
    | some k => if h : c = k.call then some ⟨k, h ▸ r⟩ else none
    | none => none
  | .expire id =>
    (w.workOf? id).bind fun k => k.limit?.map fun ms => ⟨k, .error (Load.timeout ms)⟩
  | _ => none

/-- How far an event takes a task, with the session by then. -/
def advance? (w : Session) (ev : Event) : Option (Session × Progress Work Outcome) :=
  match ev with
  | .ask .awaitDashboard => none
  | .ask r => some ((w.spawn .request).start r)
  | .turn id =>
    match w.task? id with
    | some ⟨_, .loop .hookWatch s, .fresh⟩ => some (w.beginJob s .hookWatch)
    | some ⟨_, .flush crew, .fresh⟩ => some (w.beginFlush crew)
    | _ => none
  | .wake id =>
    match w.task? id with
    | some ⟨_, .loop r s, .resting due⟩ =>
      if due ≤ w.uptime then some (w.beginJob s r.job) else none
    | some ⟨_, .sync, .resting due⟩ =>
      if due ≤ w.uptime then some (w.ask .load (Load.begin w.engine true none none)) else none
    | _ => none
  | ev => (w.answered? ev).map fun a => w.resume a.1 a.2

/-- The work with which an event makes a task wait for a reply. -/
def begun? (w : Session) (ev : Event) : Option Work := (w.advance? ev).bind (·.2.waiting?)

/-- The task that an event is about. -/
def subject (w : Session) : Event → Nat
  | .turn id | .reply id _ _ | .expire id | .wake id | .quit id | .arrive id => id
  | .ask _ | .act _ | .pass _ => w.nextTask

theorem answered?_reply {w : Session} {id : Nat} {k : Work} (h : w.workOf? id = some k)
    (r : Reply k.call) : w.answered? (.reply id k.call r) = some ⟨k, r⟩ := by
  simp [answered?, h]

/-- A reply is taken in by the task that has waited for it. -/
theorem workOf?_of_answered {w : Session} {ev : Event} {a : (k : Work) × Reply k.call}
    (h : w.answered? ev = some a) : w.workOf? (w.subject ev) = some a.1 := by
  cases ev with
  | reply id c r =>
    simp only [answered?] at h
    split at h
    · rename_i k hk
      split at h
      · cases h
        exact hk
      · cases h
    · cases h
  | expire id =>
    simp only [answered?, Option.bind_eq_some_iff, Option.map_eq_some_iff] at h
    obtain ⟨k, hk, ms, -, rfl⟩ := h
    exact hk
  | _ => cases h

/-- Work without a time limit is answered by a reply to its call only. -/
theorem reply_of_answered {w : Session} {ev : Event} {k : Work} {r : Reply k.call}
    (h : w.answered? ev = some ⟨k, r⟩) (hl : k.limit? = none) :
    ev = .reply (w.subject ev) k.call r := by
  have hk : w.workOf? (w.subject ev) = some k := workOf?_of_answered h
  cases ev with
  | reply id c r' =>
    simp only [subject] at hk
    simp only [answered?, hk] at h
    split at h
    · rename_i hc
      subst hc
      cases h
      rfl
    · cases h
  | expire id =>
    simp only [subject] at hk
    simp [answered?, hk, hl] at h
  | _ => cases h

theorem workOf?_of_stage {w : Session} {id id' : Nat} {errand : Errand} {stage : Stage}
    (ht : w.task? id = some ⟨id', errand, stage⟩) (hs : stage.work? = none) :
    w.workOf? id = none := by
  simp [workOf?, ht, hs]

theorem advance?_of_answered {w : Session} {ev : Event} {a : (k : Work) × Reply k.call}
    (h : w.answered? ev = some a) : w.advance? ev = some (w.resume a.1 a.2) := by
  cases ev with
  | reply | expire => simp [advance?, h]
  | _ => cases h

theorem begun?_of_answered {w : Session} {ev : Event} {k : Work} {r : Reply k.call}
    (h : w.answered? ev = some ⟨k, r⟩) : w.begun? ev = (w.resume k r).2.waiting? := by
  rw [begun?, advance?_of_answered h, Option.bind_some]

/-! ## A step is its stretch and `conclude` -/

theorem receive_eq (w : Session) (t : Task) (k : Work) (r : Reply k.call) :
    w.receive t k k.call r = (w.resume k r).1.conclude t.id t.errand (w.resume k r).2 := by
  simp [receive]

/-- A task that an event answers stays on its errand. -/
theorem step_of_answered {w : Session} {ev : Event} {k : Work} {r : Reply k.call}
    (h : w.answered? ev = some ⟨k, r⟩) :
    ∃ id errand, w.task? (w.subject ev) = some ⟨id, errand, .working k⟩ ∧
      w.step ev = (w.resume k r).1.conclude (w.subject ev) errand (w.resume k r).2 := by
  have hk := workOf?_of_answered h
  obtain ⟨⟨id', errand, stage⟩, ht, rfl : stage = .working k⟩ := workOf?_eq_some_iff.1 hk
  refine ⟨id', errand, ht, ?_⟩
  cases ev with
  | reply id c r' =>
    simp only [subject] at ht hk ⊢
    simp only [answered?, hk] at h
    split at h
    · rename_i hc
      subst hc
      cases h
      simp only [step, ht, receive_eq]
    · cases h
  | expire id =>
    simp only [subject] at ht hk ⊢
    simp only [answered?, hk, Option.bind_some, Option.map_eq_some_iff] at h
    obtain ⟨ms, hms, ha⟩ := h
    cases ha
    simp only [step, ht, hms, receive_eq]
  | _ => cases h

/-- The errand on which an event takes a task on, and how far it takes it. -/
inductive Taken (w : Session) (ev : Event) : Errand → Session × Progress Work Outcome → Prop where
  /-- A reply is taken in. -/
  | resume {id : Nat} {errand : Errand} {k : Work} {r : Reply k.call}
      (ht : w.task? (w.subject ev) = some ⟨id, errand, .working k⟩)
      (h : w.answered? ev = some ⟨k, r⟩) : Taken w ev errand (w.resume k r)
  /-- A caller asks for something. -/
  | start (r : Request) (h : ev = .ask r) : Taken w ev .request ((w.spawn .request).start r)
  /-- A loop makes a run; its routine goes by the time of the next one. -/
  | job {id : Nat} {r r' : Routine} {s : Shift} {stage : Stage}
      (ht : w.task? (w.subject ev) = some ⟨id, .loop r s, stage⟩) (hs : stage.work? = none)
      (hj : r'.job = r.job) : Taken w ev (.loop r' s) (w.beginJob s r.job)
  /-- An order is saved. -/
  | flush {id : Nat} {crew : CrewId} {stage : Stage}
      (ht : w.task? (w.subject ev) = some ⟨id, .flush crew, stage⟩) (hs : stage.work? = none) :
    Taken w ev (.flush crew) (w.beginFlush crew)
  /-- The identity is synced in the background. -/
  | sync {id : Nat} {stage : Stage}
      (ht : w.task? (w.subject ev) = some ⟨id, .sync, stage⟩) (hs : stage.work? = none) :
    Taken w ev .sync (w.ask .load (Load.begin w.engine true none none))

/-- **A step is its stretch and `conclude`**, on the errand of the task. -/
theorem taken_of_advance {w : Session} {ev : Event} {r : Session × Progress Work Outcome}
    (h : w.advance? ev = some r) :
    ∃ errand, w.Taken ev errand r ∧ w.step ev = r.1.conclude (w.subject ev) errand r.2 := by
  have answered (ha : (w.answered? ev).map (fun a => w.resume a.1 a.2) = some r) :
      ∃ errand, w.Taken ev errand r ∧ w.step ev = r.1.conclude (w.subject ev) errand r.2 := by
    obtain ⟨⟨k, reply⟩, hans, rfl⟩ := Option.map_eq_some_iff.1 ha
    obtain ⟨id, errand, ht, hs⟩ := step_of_answered hans
    exact ⟨errand, .resume ht hans, hs⟩
  cases ev with
  | reply id c reply => exact answered h
  | expire id => exact answered h
  | ask q =>
    cases q with
    | awaitDashboard => cases h
    | _ =>
      obtain rfl := Option.some.inj h
      exact ⟨.request, .start _ rfl, rfl⟩
  | turn id =>
    simp only [advance?] at h
    split at h
    · rename_i s ht
      obtain rfl := Option.some.inj h
      refine ⟨.loop .hookWatch s, .job ht rfl rfl, ?_⟩
      simp only [step, ht, firstTurn, enterLoop, runLoop, Routine.job, subject]
    · rename_i crew ht
      obtain rfl := Option.some.inj h
      refine ⟨.flush crew, .flush ht rfl, ?_⟩
      simp only [step, ht, firstTurn, subject]
    · cases h
  | wake id =>
    simp only [advance?] at h
    split at h
    · rename_i r' s due ht
      split at h
      · rename_i hd
        obtain rfl := Option.some.inj h
        simp only [step, ht, if_pos hd, subject]
        -- A poll moves its grid on, which its run does not depend on.
        cases r' with
        | poll next =>
          exact ⟨.loop (.poll (nextPoint w.engine.config due w.uptime)) s, .job ht rfl rfl, rfl⟩
        | _ => exact ⟨_, .job ht rfl rfl, rfl⟩
      · cases h
    · rename_i due ht
      split at h
      · rename_i hd
        obtain rfl := Option.some.inj h
        refine ⟨.sync, .sync ht rfl, ?_⟩
        simp only [step, ht, if_pos hd, subject]
        rfl
      · cases h
    · cases h
  | _ => cases h

theorem step_of_advance {w w' : Session} {ev : Event} {p : Progress Work Outcome}
    (h : w.advance? ev = some (w', p)) :
    ∃ errand, w.step ev = w'.conclude (w.subject ev) errand p := by
  obtain ⟨errand, -, hs⟩ := taken_of_advance h
  exact ⟨errand, hs⟩

/-- The task is there, and does not wait for a reply. -/
structure Free (w : Session) (id : Nat) : Prop where
  isSome_task? : (w.task? id).isSome
  workOf? : w.workOf? id = none

theorem free_of_stage {w : Session} {id id' : Nat} {errand : Errand} {stage : Stage}
    (ht : w.task? id = some ⟨id', errand, stage⟩) (hs : stage.work? = none) : w.Free id :=
  ⟨by simp [ht], workOf?_of_stage ht hs⟩

/-- What can happen between the event that takes a task on and `conclude`. -/
inductive Stretch (w : Session) (ev : Event) : Session × Progress Work Outcome → Prop where
  /-- A reply is taken in. -/
  | resume {k : Work} {r : Reply k.call} (h : w.answered? ev = some ⟨k, r⟩) :
    Stretch w ev (w.resume k r)
  /-- A caller asks for something. -/
  | start (r : Request) (h : ev = .ask r) : Stretch w ev ((w.spawn .request).start r)
  /-- A loop makes a run. -/
  | job (s : Shift) (j : Job) (h : w.Free (w.subject ev)) : Stretch w ev (w.beginJob s j)
  /-- An order is saved. -/
  | flush (crew : CrewId) (h : w.Free (w.subject ev)) : Stretch w ev (w.beginFlush crew)
  /-- The identity is synced in the background. -/
  | sync (h : w.Free (w.subject ev)) :
    Stretch w ev (w.ask .load (Load.begin w.engine true none none))

theorem Taken.stretch {w : Session} {ev : Event} {errand : Errand}
    {r : Session × Progress Work Outcome} (h : w.Taken ev errand r) : w.Stretch ev r := by
  cases h with
  | resume ht ha => exact .resume ha
  | start q hq => exact .start q hq
  | job ht hs hj => exact .job _ _ (free_of_stage ht hs)
  | flush ht hs => exact .flush _ (free_of_stage ht hs)
  | sync ht hs => exact .sync (free_of_stage ht hs)

theorem stretch_of_advance {w : Session} {ev : Event} {r : Session × Progress Work Outcome}
    (h : w.advance? ev = some r) : w.Stretch ev r := by
  obtain ⟨errand, ht, -⟩ := taken_of_advance h
  exact ht.stretch

/-! ## Steps -/

theorem grows_embedFlush (w : Session) (crew : CrewId)
    (r : OrderQueue × Engine × Progress Flush Unit) : w.Grows (w.embedFlush crew r).1 :=
  (Directs.setEngine w _).grows.trans (queues_embedFlush w crew r).grows

theorem grows_resume (w : Session) (k : Work) (r : Reply k.call) : w.Grows (w.resume k r).1 := by
  cases k with
  | flush c f => exact grows_embedFlush w c _
  | _ => exact (aside_resume (fun _ => rfl) r).grows

theorem grows_start (w : Session) (q : Request) : w.Grows (w.start q).1 := by
  by_cases h : q = .flush
  · subst h
    exact grows_embedFlush w .manual _
  · exact (aside_start h).grows

theorem Stretch.grows {w : Session} {ev : Event} {r : Session × Progress Work Outcome}
    (h : w.Stretch ev r) : w.Grows r.1 := by
  cases h with
  | resume ha => exact grows_resume w _ _
  | start q hq => exact (Directs.spawn w .request).grows.trans (grows_start _ q)
  | job s j hf => exact (crews_beginJob w s j).grows
  | flush crew hf => exact grows_embedFlush w crew _
  | sync hf => exact (Directs.setEngine w _).grows

/-- The task that an event takes on is there. -/
theorem grows_of_advance {w w' : Session} {ev : Event} {p : Progress Work Outcome}
    (h : w.advance? ev = some (w', p)) :
    w.Grows w' ∧ (w'.task? (w.subject ev)).isSome := by
  have hstretch := stretch_of_advance h
  have hg : w.Grows w' := hstretch.grows
  refine ⟨hg, ?_⟩
  generalize hr : (w', p) = r at hstretch
  cases hstretch with
  | resume ha =>
    obtain ⟨t, ht, -⟩ := workOf?_eq_some_iff.1 (workOf?_of_answered ha)
    exact hg.isSome_task? (by simp [ht])
  | start q hq =>
    subst hq
    have hq' := (grows_start (w.spawn .request) q).isSome_task? (task?_spawn_next w .request)
    rwa [← hr] at hq'
  | job s j hf => exact hg.isSome_task? hf.isSome_task?
  | flush crew hf => exact hg.isSome_task? hf.isSome_task?
  | sync hf => exact hg.isSome_task? hf.isSome_task?

/-- **After a step that takes a task on**, this task waits with what was begun, and all others as
before. -/
theorem workOf?_step_of_advance {w w' : Session} {ev : Event} {p : Progress Work Outcome}
    (h : w.advance? ev = some (w', p)) (j : Nat) :
    (w.step ev).workOf? j = if j = w.subject ev then p.waiting? else w.workOf? j := by
  obtain ⟨errand, hs⟩ := step_of_advance h
  obtain ⟨hg, ht⟩ := grows_of_advance h
  rw [hs, workOf?_conclude ht, hg.workOf?]

/-- A task that an event answers waits with what it has begun. -/
theorem workOf?_step_of_answered {w : Session} {ev : Event} {k : Work} {r : Reply k.call}
    (h : w.answered? ev = some ⟨k, r⟩) : (w.step ev).workOf? (w.subject ev) = w.begun? ev := by
  rw [workOf?_step_of_advance (advance?_of_answered h)]
  exact (if_pos rfl).trans (begun?_of_answered h).symm

/-- A reply that is the end of the work begins nothing, and leaves its task without work. -/
theorem ended_of_done {w : Session} {ev : Event} {k : Work} {r : Reply k.call} {o : Outcome}
    (h : w.answered? ev = some ⟨k, r⟩) (ho : (w.resume k r).2 = .done o) :
    w.begun? ev = none ∧ (w.step ev).workOf? (w.subject ev) = none := by
  have hbegun : w.begun? ev = none := by
    rw [begun?_of_answered h, ho]
    rfl
  exact ⟨hbegun, (workOf?_step_of_answered h).trans hbegun⟩

theorem grows_queueOrder (w : Session) (crew : CrewId) (names : List String) :
    w.Grows (w.queueOrder crew names) := by
  obtain ⟨w', hq, hw⟩ := queues_queueOrder w crew names
  rw [hw]
  exact ((Directs.onEngine w _).grows.trans hq.grows).trans (Directs.spawn w' _).grows

theorem grows_act (w : Session) (a : Action) : w.Grows (w.act a) := by
  by_cases hq : ∃ crew names, a = .queueOrder crew names
  · obtain ⟨crew, names, rfl⟩ := hq
    exact grows_queueOrder w crew names
  · obtain ⟨e, h⟩ := directs_act (w := w) fun crew names h => hq ⟨crew, names, h⟩
    exact h.grows

/-- What a caller does at once leaves the queues of orders alone, unless it queues an order. -/
theorem orders_act (w : Session) (a : Action) (c : CrewId) :
    ((w.act a).crew c).orders =
      match a with
      | .queueOrder c' names => if c' = c then (w.crew c).orders.put names else (w.crew c).orders
      | _ => (w.crew c).orders := by
  cases a with
  | queueOrder crew names => cases crew <;> cases c <;> rfl
  | setKeepalive b => exact (directs_setKeepalive w b).orders c
  | startLoop scope d => exact (Directs.spawn w _).orders c
  | cancel s => exact (Directs.cancel w s).orders c
  | _ => exact (Directs.setEngine w _).orders c

/-- A reply that nobody waits for changes nothing. -/
theorem step_of_not_answered {w : Session} {id : Nat} {c : Call} {r : Reply c}
    (h : w.answered? (.reply id c r) = none) : w.step (.reply id c r) = w := by
  simp only [step]
  split
  · rename_i id' errand k ht
    simp only [answered?, workOf?, ht, Option.bind_some, Stage.work?] at h
    have hc : c ≠ k.call := by
      rintro hc
      simp [hc] at h
    simp [receive, hc]
  · rfl

theorem step_expire_of_not_answered {w : Session} {id : Nat}
    (h : w.answered? (.expire id) = none) : w.step (.expire id) = w := by
  simp only [step]
  split
  · rename_i id' errand k ht
    simp only [answered?, workOf?, ht, Option.bind_some, Stage.work?, Option.map_eq_none_iff] at h
    simp [h]
  · rfl

/-- What a quiet event can do. -/
inductive Lull (w : Session) (ev : Event) : Session → Prop where
  /-- The event does not fit, or it does nothing. -/
  | same : Lull w ev w
  | pass (ms : Nat) : Lull w ev (w.step (.pass ms))
  /-- A caller waits for the dashboard. -/
  | await (h : w.subject ev = w.nextTask) :
    Lull w ev ((w.spawn .request).watch (w.subject ev) .request)
  /-- A task stands at a stage where it waits for no reply. -/
  | stand (errand : Errand) {stage : Stage} (hs : stage.work? = none)
      (hid : w.workOf? (w.subject ev) = none) :
    Lull w ev (w.setTask (w.subject ev) errand stage)
  /-- A loop rests before its first run. -/
  | rest (r : Routine) (s : Shift) (hid : w.workOf? (w.subject ev) = none) :
    Lull w ev (w.restAfter (w.subject ev) r s .nothing)
  /-- A task waits for the dashboard. -/
  | watch (errand : Errand) (hid : w.workOf? (w.subject ev) = none) :
    Lull w ev (w.watch (w.subject ev) errand)
  /-- The wait for the dashboard is over. -/
  | arrive (errand : Errand) (hid : w.workOf? (w.subject ev) = none) :
    Lull w ev (w.afterWatch (w.subject ev) errand)
  /-- A task ends at rest. -/
  | quit (hid : w.workOf? (w.subject ev) = none) : Lull w ev (w.endTask (w.subject ev))

theorem lull_firstTurn {w : Session} {id id' : Nat} {errand : Errand}
    (ht : w.task? id = some ⟨id', errand, .fresh⟩) (h : w.advance? (.turn id) = none) :
    w.Lull (.turn id) (w.firstTurn ⟨id, errand, .fresh⟩) := by
  have hid : w.workOf? (w.subject (.turn id)) = none := workOf?_of_stage ht rfl
  simp only [advance?, ht] at h
  cases errand with
  | request => exact .same
  | flush crew => cases h
  | sync => exact .stand .sync rfl hid
  | loop r s =>
    cases r with
    | poll next => exact .stand _ rfl hid
    | autoSwitch => exact .rest .autoSwitch s hid
    | recover => exact .rest .recover s hid
    | hookWatch => cases h
    | keepalive reason => exact .watch _ hid

/-- **What a quiet event does**, unless it is what a caller does at once. -/
theorem lull_of_quiet {w : Session} {ev : Event} (h : w.advance? ev = none)
    (ha : ∀ a, ev ≠ .act a) : w.Lull ev (w.step ev) := by
  cases ev with
  | act a => exact absurd rfl (ha a)
  | pass ms => exact .pass ms
  | ask r =>
    cases r with
    | awaitDashboard => exact .await rfl
    | _ => cases h
  | turn id =>
    simp only [step]
    split
    · rename_i ht
      exact lull_firstTurn ht h
    · exact .same
  | wake id =>
    simp only [step]
    split
    · rename_i id' errand due ht
      split
      · rename_i hd
        simp only [advance?, ht] at h
        cases errand with
        | loop r s => simp [hd] at h
        | sync => simp [hd] at h
        | _ => exact .same
      · exact .same
    · exact .same
  | quit id =>
    simp only [step]
    split
    · rename_i ht
      split
      · exact .quit (workOf?_of_stage ht rfl)
      · exact .same
    · exact .same
  | arrive id =>
    simp only [step]
    split
    · rename_i errand due ht
      split
      · exact .arrive errand (workOf?_of_stage ht rfl)
      · exact .same
    · exact .same
  | reply id c r =>
    rw [step_of_not_answered (Option.map_eq_none_iff.1 h)]
    exact .same
  | expire id =>
    rw [step_expire_of_not_answered (Option.map_eq_none_iff.1 h)]
    exact .same

/-- **A quiet event settles a task at most**, which may be a new one, or time passes. -/
theorem settles_or_passes {w : Session} {ev : Event} (h : w.advance? ev = none)
    (ha : ∀ a, ev ≠ .act a) :
    (∃ w', (w' = w ∨ w' = w.spawn .request) ∧ w'.Settles (w.step ev)) ∨
      ∃ ms, w.step ev = w.step (.pass ms) := by
  generalize hs : w.step ev = w'
  cases hs ▸ lull_of_quiet h ha with
  | same => exact .inl ⟨w, .inl rfl, .refl w⟩
  | pass ms => exact .inr ⟨ms, rfl⟩
  | await hnext => exact .inl ⟨_, .inr rfl, settles_watch _ _ .request⟩
  | stand errand hstage hid => exact .inl ⟨w, .inl rfl, (Rests.setTask w _ errand _).settles⟩
  | rest r s hid => exact .inl ⟨w, .inl rfl, (rests_restAfter w _ r s .nothing).settles⟩
  | watch errand hid => exact .inl ⟨w, .inl rfl, settles_watch w _ errand⟩
  | arrive errand hid => exact .inl ⟨w, .inl rfl, settles_afterWatch w _ errand⟩
  | quit hid => exact .inl ⟨w, .inl rfl, (Rests.endTask w _).settles⟩

/-- **A quiet event** ends no call and begins none, and changes neither the queues of orders nor the
model nor the settings, unless it is what a caller does at once. -/
theorem still_of_quiet {w : Session} {ev : Event} (hw : w.Numbered) (h : w.advance? ev = none)
    (ha : ∀ a, ev ≠ .act a) : w.Still (w.subject ev) (w.step ev) := by
  generalize hs : w.step ev = w'
  cases hs ▸ lull_of_quiet h ha with
  | same => exact .refl w _
  | pass ms =>
    exact
      { workOf? := fun _ => rfl
        others := fun _ ht _ => ht
        numbered := fun hw => ⟨hw.nodup, hw.lt_next⟩
        orders := fun c => by cases c <;> rfl
        model := rfl
        settings := rfl
        gates := rfl
        cancelled := rfl }
  | await hnext =>
    have hid : w.workOf? (w.subject ev) = none := by simp [workOf?, hnext, hw.task?_next]
    have h := Idles.watch (w.spawn .request) (w.subject ev) .request
    have hg := (Directs.spawn w .request).grows
    exact
      { workOf? := fun j => (h.still ((hg.workOf? _).trans hid)).workOf? j |>.trans (hg.workOf? j)
        others := fun t ht hne => h.others t (hg.mem ht) hne
        numbered := fun hw => h.numbered (hg.numbered hw)
        orders := fun c => (h.orders c).trans ((Directs.spawn w .request).orders c)
        model := h.model
        settings := h.settings
        gates := h.gates
        cancelled := h.cancelled }
  | stand errand hstage hid => exact (Idles.setTask w _ errand hstage).still hid
  | rest r s hid => exact (Idles.restAfter w _ r s .nothing).still hid
  | watch errand hid => exact (Idles.watch w _ errand).still hid
  | arrive errand hid => exact (Idles.afterWatch w _ errand).still hid
  | quit hid => exact (Idles.endTask w _).still hid

theorem Numbered.step {w : Session} (hw : w.Numbered) (ev : Event) : (w.step ev).Numbered := by
  cases h : w.advance? ev with
  | some a =>
    obtain ⟨w', p⟩ := a
    obtain ⟨errand, hs⟩ := step_of_advance h
    rw [hs]
    exact ((grows_of_advance h).1.numbered hw).conclude _ _ _
  | none =>
    by_cases ha : ∃ a, ev = .act a
    · obtain ⟨a, rfl⟩ := ha
      exact (grows_act w a).numbered hw
    · exact (still_of_quiet hw h fun a he => ha ⟨a, he⟩).numbered hw

/-- An event concerns one task only. -/
theorem mem_step {w : Session} (hw : w.Numbered) {ev : Event} {t : Task} (ht : t ∈ w.tasks)
    (hid : t.id ≠ w.subject ev) : t ∈ (w.step ev).tasks := by
  cases h : w.advance? ev with
  | some a =>
    obtain ⟨w', p⟩ := a
    obtain ⟨errand, hs⟩ := step_of_advance h
    rw [hs]
    exact mem_conclude ((grows_of_advance h).1.mem ht) hid errand p
  | none =>
    by_cases ha : ∃ a, ev = .act a
    · obtain ⟨a, rfl⟩ := ha
      exact (grows_act w a).mem ht
    · exact (still_of_quiet hw h fun a he => ha ⟨a, he⟩).others t ht hid

/-- A task that has not had its turn stays until it has. -/
theorem mem_step_of_fresh {w : Session} (hw : w.Numbered) {ev : Event} {t : Task}
    (ht : t ∈ w.tasks) (hf : t.stage = .fresh) (hev : ev ≠ .turn t.id) :
    t ∈ (w.step ev).tasks := by
  by_cases hid : t.id = w.subject ev
  · have htask : w.task? t.id = some ⟨t.id, t.errand, .fresh⟩ := by
      rw [hw.task?_eq_some ht, ← hf]
    have hne : t.id ≠ w.nextTask := Nat.ne_of_lt (hw.lt_next t ht)
    cases ev with
    | turn id => exact absurd (congrArg Event.turn hid.symm) hev
    | ask r => exact absurd hid hne
    | act a => exact absurd hid hne
    | pass ms => exact absurd hid hne
    | _ =>
      simp only [subject] at hid
      subst hid
      simpa [step, htask] using ht
  · exact mem_step hw ht hid

theorem Numbered.run {w : Session} (hw : w.Numbered) (events : List Event) :
    (w.run events).Numbered := run_induction (fun _ ev h => h.step ev) hw events

/-- What every step of a numbered session keeps, a whole run keeps. -/
theorem Numbered.run_induction {P : Session → Prop}
    (hP : ∀ (w : Session) ev, w.Numbered → P w → P (w.step ev)) {w : Session} (hw : w.Numbered)
    (h : P w) (events : List Event) : P (w.run events) := by
  induction events generalizing w with
  | nil => exact h
  | cons ev events ih => exact ih (hw.step ev) (hP w ev hw h)

/-! ### Ids of tasks -/

/-- Ids of tasks are given away in turn. -/
theorem nextTask_le_step (w : Session) (ev : Event) : w.nextTask ≤ (w.step ev).nextTask := by
  by_cases hact : ∃ a, ev = .act a
  · obtain ⟨a, rfl⟩ := hact
    exact (grows_act w a).le
  cases h : w.advance? ev with
  | some r =>
    obtain ⟨w', p⟩ := r
    obtain ⟨errand, hstep⟩ := step_of_advance h
    rw [hstep, nextTask_conclude]
    exact (grows_of_advance h).1.le
  | none =>
    rcases settles_or_passes h fun a he => hact ⟨a, he⟩ with ⟨w', hw', hs⟩ | ⟨ms, hm⟩
    · rw [hs.nextTask]
      rcases hw' with rfl | rfl
      · exact Nat.le_refl _
      · exact Nat.le_succ _
    · exact Nat.le_of_eq (congrArg Session.nextTask hm).symm

/-- The task that is taken on has been given its id. -/
theorem subject_lt_nextTask {w : Session} (hw : w.Numbered) {ev : Event}
    {r : Session × Progress Work Outcome} (h : w.advance? ev = some r) :
    w.subject ev < (w.step ev).nextTask := by
  obtain ⟨w', p⟩ := r
  obtain ⟨errand, hstep⟩ := step_of_advance h
  obtain ⟨hg, ht⟩ := grows_of_advance h
  obtain ⟨t, ht⟩ := Option.isSome_iff_exists.1 ht
  rw [hstep, nextTask_conclude, ← id_of_task? ht]
  exact (hg.numbered hw).lt_next t (List.mem_of_find?_eq_some ht)

/-! ### What is cancelled -/

theorem cancelled_embedFlush (w : Session) (crew : CrewId)
    (r : OrderQueue × Engine × Progress Flush Unit) :
    w.cancelled ⊆ (w.embedFlush crew r).1.cancelled :=
  (queues_embedFlush w crew r).cancelled ▸ List.Subset.refl _

theorem cancelled_resume (w : Session) (k : Work) (r : Reply k.call) :
    w.cancelled ⊆ (w.resume k r).1.cancelled := by
  cases k with
  | flush c f => exact cancelled_embedFlush w c _
  | _ => exact (aside_resume (fun _ => rfl) r).cancelled

theorem cancelled_start (w : Session) (q : Request) :
    w.cancelled ⊆ (w.start q).1.cancelled := by
  by_cases h : q = .flush
  · subst h
    exact cancelled_embedFlush w .manual _
  · exact (aside_start h).cancelled

theorem cancelled_act (w : Session) (a : Action) : w.cancelled ⊆ (w.act a).cancelled := by
  by_cases hq : ∃ crew names, a = .queueOrder crew names
  · obtain ⟨crew, names, rfl⟩ := hq
    obtain ⟨w', hq, hw⟩ := queues_queueOrder w crew names
    rw [act, hw]
    exact hq.cancelled ▸ List.Subset.refl _
  · obtain ⟨e, h⟩ := directs_act (w := w) fun crew names h => hq ⟨crew, names, h⟩
    exact h.cancelled

theorem cancelled_advance {w : Session} {ev : Event} {r : Session × Progress Work Outcome}
    (h : w.advance? ev = some r) : w.cancelled ⊆ r.1.cancelled := by
  cases stretch_of_advance h with
  | resume ha => exact cancelled_resume w _ _
  | start q hq => exact cancelled_start (w.spawn .request) q
  | job s j ha => exact (crews_beginJob w s j).aside.cancelled
  | flush crew ha => exact cancelled_embedFlush w crew _
  | sync ha => exact List.Subset.refl _

/-- **What was cancelled stays so.** -/
theorem cancelled_step {w : Session} (hw : w.Numbered) (ev : Event) :
    w.cancelled ⊆ (w.step ev).cancelled := by
  by_cases ha : ∃ a, ev = .act a
  · obtain ⟨a, rfl⟩ := ha
    exact cancelled_act w a
  · cases h : w.advance? ev with
    | some a =>
      obtain ⟨w', p⟩ := a
      obtain ⟨errand, hs⟩ := step_of_advance h
      rw [hs, cancelled_conclude]
      exact cancelled_advance h
    | none =>
      rw [(still_of_quiet hw h fun a he => ha ⟨a, he⟩).cancelled]
      exact List.Subset.refl _

end Session

end Switchboard
