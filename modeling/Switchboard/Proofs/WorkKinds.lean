import Switchboard.Proofs.Tasks

/-!
# Kinds of work

Work is of one kind until it is done: what a caller asks for begins work of the kind that the request
is about, and the work that goes on from it stays of that kind.

* `Work.kind` — what kind of work it is.
* `Session.waiting_beginJob` — a run begins past its barrier and its guard, with its first call.
* `Session.kind_start`, `Session.kind_resume` — work is of the kind that was asked for, and stays so.
* `Session.directs_start`, `Session.directs_resume` — work that is no concern of a crew leaves the crews
  alone; `Session.crews_resume`: a run of a duty concerns guards and pollers only.
-/

set_option autoImplicit false

namespace Switchboard

/-- Who does the duty that the work belongs to, and under which scope. -/
def Work.shift? : Work → Option Shift
  | poll s _ | autoSwitch s _ | recover s _ | hookWatch s _ | keepalive s _ => some s
  | _ => none

/-- What kind of work it is. -/
inductive Work.Kind where
  | load
  | refresh
  | switch
  | manualAction
  | bareAction
  | hookInstall
  | flush (crew : CrewId)
  | run (s : Shift) (d : Duty)
  | startup
  | turnOff
  | stop

/-- The kind of the work. -/
def Work.kind : Work → Kind
  | load _ => .load
  | refresh _ => .refresh
  | switch _ => .switch
  | manualAction _ => .manualAction
  | bareAction _ => .bareAction
  | hookInstall _ => .hookInstall
  | flush crew _ => .flush crew
  | poll s _ => .run s .poll
  | autoSwitch s _ => .run s .autoSwitch
  | recover s _ => .run s .recover
  | hookWatch s _ => .run s .hookWatch
  | keepalive s _ => .run s .keepalive
  | startup _ => .startup
  | turnOff => .turnOff
  | stop => .stop

/-- Who does the duty that work of this kind belongs to, and under which scope. -/
def Work.Kind.shift? : Kind → Option Shift
  | run s _ => some s
  | _ => none

theorem Work.shift?_kind (k : Work) : k.kind.shift? = k.shift? := by
  cases k <;> rfl

/-- The kind of work that is asked for, if anything is begun for it. -/
def Request.kind? : Request → Option Work.Kind
  | load .. | setMode _ => some .load
  | switch _ => some .switch
  | refresh .. | refreshAll _ | keepaliveNow => some .refresh
  | action _ => some .manualAction
  | bareAction .. => some .bareAction
  | installHook => some .hookInstall
  | job scope j => some (.run ⟨.manual, scope⟩ j.duty)
  | flush => some (.flush .manual)
  | awaitDashboard => none
  | startup => some .startup
  | setAutoSwitch _ => some .turnOff
  | shutdown => some .stop

/-- What a request does to the settings at once. -/
def Request.setting (e : Engine) : Request → Engine
  | setMode m => e.setMode m
  | setAutoSwitch enabled => e.updateSettings ({ · with autoSwitch := enabled })
  | _ => e

/-- What a run of a duty waits with at first. -/
def Job.opening (e : Engine) (s : Shift) : Job → Work
  | poll => .poll s ⟨e.mode⟩
  | autoSwitch => .autoSwitch s (.begin e)
  | recover => .recover s (.begin e)
  | hookWatch => .hookWatch s .checking
  | keepalive reason => .keepalive s ⟨reason⟩

namespace Session

variable {w : Session}

/-! ## What kind of work begins, and goes on -/

theorem waiting?_embed {σ ρ : Type} (f : σ → Work) (g : ρ → Outcome)
    (r : Engine × Progress σ ρ) : (w.embed f g r).2.waiting? = r.2.waiting?.map f := by
  obtain ⟨e, p⟩ := r
  cases p <;> rfl

theorem waiting?_carryOn {σ : Type} (s : Shift) (d : Duty) (f : σ → Work)
    (r : Engine × Progress σ Tick) : (w.carryOn s d f r).2.waiting? = r.2.waiting?.map f := by
  obtain ⟨e, p⟩ := r
  cases p <;> rfl

theorem kind_embed {σ ρ : Type} {f : σ → Work} {g : ρ → Outcome} {r : Engine × Progress σ ρ}
    {k : Work} (h : (w.embed f g r).2.waiting? = some k) {kind : Work.Kind}
    (hf : ∀ x, (f x).kind = kind) : k.kind = kind := by
  rw [waiting?_embed, Option.map_eq_some_iff] at h
  obtain ⟨x, -, rfl⟩ := h
  exact hf x

theorem kind_embedFlush {crew : CrewId} {r : OrderQueue × Engine × Progress Flush Unit} {k : Work}
    (h : (w.embedFlush crew r).2.waiting? = some k) : k.kind = .flush crew :=
  kind_embed h fun _ => rfl

theorem kind_carryOn {σ : Type} {s : Shift} {d : Duty} {f : σ → Work}
    {r : Engine × Progress σ Tick} {k : Work} (h : (w.carryOn s d f r).2.waiting? = some k)
    {kind : Work.Kind} (hf : ∀ x, (f x).kind = kind) : k.kind = kind := by
  rw [waiting?_carryOn, Option.map_eq_some_iff] at h
  obtain ⟨x, -, rfl⟩ := h
  exact hf x

/-- **A run begins** past its barrier and its guard, with its first call. -/
theorem waiting_beginJob {s : Shift} {j : Job} {k : Work}
    (h : (w.beginJob s j).2.waiting? = some k) :
    barrier? w.engine j = none ∧ ((w.crew s.crew).flights.get j.duty).running = false ∧
      k = j.opening w.engine s := by
  unfold beginJob at h
  split at h
  · cases h
  · rename_i hb
    split at h
    · cases h
    · rename_i flight hf
      refine ⟨hb, (Flight.tryBegin?_eq_some_iff.1 hf).1, ?_⟩
      cases j with
      | poll =>
        simp only [takeOff] at h
        split at h
        · rename_i b p hp
          unfold Poll.begin at hp
          split at hp
          · cases hp
          · cases hp
            exact (Option.some.inj h).symm.trans (by simp [Job.opening, setFlight])
        · cases h
      | _ => exact (Option.some.inj h).symm.trans (by simp [Job.opening, setFlight])

theorem kind_opening (e : Engine) (s : Shift) (j : Job) : (j.opening e s).kind = .run s j.duty := by
  cases j <;> rfl

/-- A start that has launched the loops waits only for the reset of a duty that is turned off. -/
theorem waiting_launch {settings : Settings} {k : Work}
    (h : (w.launch settings).2.waiting? = some k) :
    k = .startup (.resetting settings) ∧ settings.autoSwitch = false := by
  unfold launch finishStartup at h
  dsimp only at h
  split at h
  · cases h
  · rename_i hoff
    cases h
    exact ⟨rfl, by simpa using hoff⟩

theorem kind_launch {settings : Settings} {k : Work}
    (h : (w.launch settings).2.waiting? = some k) : k.kind = .startup := by
  rw [(waiting_launch h).1]
  rfl

/-- **The work that begins is of the kind that is asked for.** -/
theorem kind_start {q : Request} {k : Work} (h : (w.start q).2.waiting? = some k) :
    q.kind? = some k.kind := by
  cases q with
  | job scope j =>
    obtain ⟨-, -, rfl⟩ := waiting_beginJob h
    rw [kind_opening]
    rfl
  | switch | refresh =>
    rw [kind_embed h fun _ => rfl]
    rfl
  | flush =>
    rw [kind_embedFlush h]
    rfl
  | awaitDashboard => cases h
  | setAutoSwitch enabled =>
    simp only [start, setAutoSwitch] at h
    split at h
    · cases h
    · split at h <;> cases h
      rfl
  | shutdown =>
    simp only [start, shutdown] at h
    split at h <;> cases h
    rfl
  | _ =>
    cases h
    rfl

/-- **Work that goes on stays of its kind.** -/
theorem kind_resume {k k' : Work} {r : Reply k.call}
    (h : (w.resume k r).2.waiting? = some k') : k'.kind = k.kind := by
  cases k with
  | switch | bareAction | hookInstall => exact kind_embed h fun _ => rfl
  | flush crew f => exact kind_embedFlush h
  | autoSwitch | hookWatch => exact kind_carryOn h fun _ => rfl
  | manualAction p =>
    simp only [resume, resumeManual] at h
    split at h <;> cases h
    rfl
  | startup x =>
    cases x with
    | loading settings l =>
      simp only [resume, resumeStartup, afterLoading] at h
      split at h
      · cases h
        rfl
      · exact kind_launch h
    | refreshing settings x => exact kind_launch h
    | resetting settings => cases h
  | _ => cases h

theorem shift?_start {q : Request} (hq : ∀ scope j, q ≠ .job scope j) {k : Work}
    (h : (w.start q).2.waiting? = some k) : k.shift? = none := by
  have hk := kind_start h
  rw [← k.shift?_kind]
  generalize k.kind = kind at hk
  cases q with
  | job scope j => exact absurd rfl (hq scope j)
  | _ =>
    cases hk
    try rfl

theorem shift?_embedFlush {crew : CrewId} {r : OrderQueue × Engine × Progress Flush Unit}
    {k : Work} (h : (w.embedFlush crew r).2.waiting? = some k) : k.shift? = none := by
  rw [← k.shift?_kind, kind_embedFlush h]
  rfl

theorem shift?_resume {k k' : Work} {r : Reply k.call}
    (h : (w.resume k r).2.waiting? = some k') : k'.shift? = k.shift? := by
  rw [← k'.shift?_kind, kind_resume h, k.shift?_kind]

/-! ## What is left alone -/

/-- **What is asked for**, unless a crew is to do it, leaves the crews alone, and the engine but for its
surface and the setting that the request is about. -/
theorem directs_start {q : Request} (hq : ∀ scope j, q ≠ .job scope j) (hf : q ≠ .flush) :
    ∃ e, (q.setting w.engine).Fronts e ∧ w.Directs e (w.start q).1 := by
  cases q with
  | job scope j => exact absurd rfl (hq scope j)
  | flush => exact absurd rfl hf
  | switch name =>
    rw [start, fst_embed]
    refine ⟨_, ?_, .setEngine w _⟩
    unfold Switch.begin
    split <;> exact ⟨_, _, _, _, rfl⟩
  | refresh name force =>
    rw [start, fst_embed]
    refine ⟨_, ?_, .setEngine w _⟩
    unfold Refresh.begin
    split <;> exact ⟨_, _, _, _, rfl⟩
  | startup =>
    refine ⟨_, ?_, .setEngine w _⟩
    cases w.engine.settings.mode <;> exact ⟨_, _, _, _, rfl⟩
  | setAutoSwitch enabled => exact ⟨_, .refl _, directs_setAutoSwitch w enabled⟩
  | shutdown => exact ⟨_, .refl _, directs_shutdown w⟩
  | bareAction | awaitDashboard => exact ⟨_, .refl _, .refl w⟩
  | _ => exact ⟨_, ⟨_, _, _, _, rfl⟩, .setEngine w _⟩

/-- **Work that goes on**, unless a crew does it, leaves the crews alone. -/
theorem directs_resume {k : Work} (hk : k.shift? = none) (hf : ∀ c, k.flushOf? c = none)
    (r : Reply k.call) : ∃ e, w.Directs e (w.resume k r).1 := by
  cases k with
  | poll | autoSwitch | recover | hookWatch | keepalive => cases hk
  | flush crew f => simp [Work.flushOf?] at hf
  | switch | bareAction | hookInstall =>
    rw [resume, fst_embed]
    exact ⟨_, .setEngine w _⟩
  | manualAction p =>
    simp only [resume, resumeManual]
    split
    · exact ⟨_, .refl w⟩
    · exact ⟨_, .setEngine w _⟩
  | startup s =>
    cases s with
    | loading settings l =>
      obtain ⟨e, -, he⟩ := opens_afterLoading (w.onEngine fun e => (l.finish e r).1) settings
      exact ⟨e, (Directs.onEngine w _).after he.toDirects⟩
    | refreshing settings x =>
      exact ⟨_, (Directs.onEngine w _).after (opens_launch _ settings).toDirects⟩
    | resetting settings => exact ⟨_, (opens_finishStartup w settings).toDirects⟩
  | turnOff => exact ⟨_, .setStatus w _⟩
  | stop => exact ⟨_, .cancel w .root⟩
  | _ => exact ⟨_, .setEngine w _⟩

/-- **A run that goes on** concerns the engine, the guards and the pollers. -/
theorem crews_resume {k : Work} (hk : k.shift?.isSome) (r : Reply k.call) :
    ∃ e, { w with engine := e }.Crews (w.resume k r).1 := by
  cases k with
  | poll s p => exact ⟨_, crews_resumePoll w s p r⟩
  | autoSwitch s a => exact ⟨_, (guards_carryOn w s _ _ _).crews⟩
  | hookWatch s h => exact ⟨_, (guards_carryOn w s _ _ _).crews⟩
  | recover s x => exact ⟨_, (guards_finishRun w s _ _).crews⟩
  | keepalive s x => exact ⟨_, (guards_finishRun w s _ _).crews⟩
  | _ => cases hk

/-- What a caller does at once leaves the crews alone, unless it queues an order. -/
theorem directs_act {a : Action} (ha : ∀ crew names, a ≠ .queueOrder crew names) :
    ∃ e, w.Directs e (w.act a) := by
  cases a with
  | queueOrder crew names => exact absurd rfl (ha crew names)
  | setKeepalive b => exact ⟨_, directs_setKeepalive w b⟩
  | startLoop scope d => exact ⟨_, .spawn w _⟩
  | cancel s => exact ⟨_, .cancel w s⟩
  | _ => exact ⟨_, .setEngine w _⟩

/-- An order is queued for a task that saves it. -/
theorem queues_queueOrder (w : Session) (crew : CrewId) (names : List String) :
    ∃ w' : Session, (w.onEngine (·.reorderDisplay names)).Queues w' ∧
      w.queueOrder crew names = w'.spawn (.flush crew) :=
  ⟨_, .setOrders _ crew _, rfl⟩

/-- A request or a reply that is no concern of the queues of orders adds tasks at most. -/
theorem aside_start {q : Request} (hf : q ≠ .flush) : w.Aside (w.start q).1 := by
  by_cases hjob : ∃ scope j, q = .job scope j
  · obtain ⟨scope, j, rfl⟩ := hjob
    exact (crews_beginJob w _ j).aside
  · obtain ⟨e, -, h⟩ := directs_start (w := w) (fun scope j h => hjob ⟨scope, j, h⟩) hf
    exact h.aside

theorem aside_resume {k : Work} (hf : ∀ c, k.flushOf? c = none) (r : Reply k.call) :
    w.Aside (w.resume k r).1 := by
  cases hs : k.shift? with
  | none =>
    obtain ⟨e, h⟩ := directs_resume (w := w) hs hf r
    exact h.aside
  | some s =>
    obtain ⟨e, h⟩ := crews_resume (w := w) (hs ▸ rfl) r
    exact (Directs.setEngine w e).aside.trans h.aside

/-- No save of an order comes of other work. -/
theorem flushOf?_start {q : Request} (hf : q ≠ .flush) (c : CrewId) :
    (w.start q).2.waiting?.bind (·.flushOf? c) = none := by
  refine Option.bind_eq_none_iff.2 fun k hk => Option.eq_none_iff_forall_ne_some.2 fun f hkf => ?_
  obtain rfl := Work.flushOf?_eq_some_iff.1 hkf
  have hkind := kind_start hk
  cases q with
  | flush => exact hf rfl
  | _ => cases hkind

theorem flushOf?_resume {k : Work} {c : CrewId} (hf : k.flushOf? c = none) (r : Reply k.call) :
    (w.resume k r).2.waiting?.bind (·.flushOf? c) = none := by
  refine Option.bind_eq_none_iff.2 fun k' hk' => Option.eq_none_iff_forall_ne_some.2 fun f hkf => ?_
  obtain rfl := Work.flushOf?_eq_some_iff.1 hkf
  have hkind := kind_resume hk'
  cases k with
  | flush c' f' =>
    cases hkind
    simp [Work.flushOf?] at hf
  | _ => cases hkind

theorem flushOf?_beginJob (s : Shift) (j : Job) (c : CrewId) :
    (w.beginJob s j).2.waiting?.bind (·.flushOf? c) = none := by
  refine Option.bind_eq_none_iff.2 fun k hk => ?_
  obtain ⟨-, -, rfl⟩ := waiting_beginJob hk
  cases j <;> rfl

end Session

end Switchboard
