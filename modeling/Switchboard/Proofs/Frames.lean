import Switchboard.Proofs.ScopeBook
import Switchboard.Session.Step

/-!
# What is left alone

What happens in a session concerns a small part of it at a time. Each function of a session has one
frame here, which says what it leaves alone; everything that is to be as it was is read off from that.

* `Engine.Tells`, `Engine.Fronts` — nothing has happened to an engine but on the status line, or there
  and to the gates.
* `Session.Rests`, `Session.Settles` — a task was settled at a new stage: `Session.rests_conclude`,
  `Session.settles_watch`.
* `Session.Guards`, `Session.Crews` — only the guards of runs are other ones, or these and the pollers:
  `Session.guards_land`, `Session.crews_beginJob`; `Session.Queues`: only the queues of orders are.
* `Session.Grows` — tasks were added.
* `Session.Directs` — loops were started, and scopes opened and closed:
  `Session.directs_setAutoSwitch`; `Session.Opens`: no scope was closed, `Session.opens_launch`.
-/

set_option autoImplicit false

namespace Switchboard

universe u

/-! ## The surface of an engine -/

namespace Engine

variable {e e' e'' : Engine}

/-- Nothing has happened but on the status line. -/
def Tells (e e' : Engine) : Prop :=
  ∃ text notices, e' = { e with status := text, statusNotices := notices }

/-- Nothing has happened but on the status line and to the gates. -/
def Fronts (e e' : Engine) : Prop :=
  ∃ text notices busy blocking,
    e' = { e with status := text, statusNotices := notices, busy := busy, blocking := blocking }

namespace Tells

theorem refl (e : Engine) : e.Tells e := ⟨e.status, e.statusNotices, rfl⟩

theorem setStatus (e : Engine) (text : String) : e.Tells (e.setStatus text) := ⟨_, _, rfl⟩

theorem trans (h : e.Tells e') (h' : e'.Tells e'') : e.Tells e'' := by
  obtain ⟨_, _, rfl⟩ := h
  obtain ⟨_, _, rfl⟩ := h'
  exact ⟨_, _, rfl⟩

theorem fronts (h : e.Tells e') : e.Fronts e' := by
  obtain ⟨text, notices, rfl⟩ := h
  exact ⟨text, notices, e.busy, e.blocking, rfl⟩

/-- What does not look at the status line is as before. -/
theorem congr {α : Sort u} (f : Engine → α)
    (hf : ∀ (e : Engine) (text : String) (notices : Nat),
      f { e with status := text, statusNotices := notices } = f e)
    (h : e.Tells e') : f e' = f e := by
  obtain ⟨text, notices, rfl⟩ := h
  exact hf e text notices

end Tells

namespace Fronts

theorem refl (e : Engine) : e.Fronts e := (Tells.refl e).fronts

theorem trans_tells (h : e.Fronts e') (h' : e'.Tells e'') : e.Fronts e'' := by
  obtain ⟨_, _, busy, blocking, rfl⟩ := h
  obtain ⟨_, _, rfl⟩ := h'
  exact ⟨_, _, busy, blocking, rfl⟩

/-- What looks neither at the status line nor at the gates is as before. -/
theorem congr {α : Sort u} (f : Engine → α)
    (hf : ∀ (e : Engine) (text : String) (notices : Nat) (busy : BusyGate)
      (blocking : BlockingGate),
      f { e with status := text, statusNotices := notices, busy := busy, blocking := blocking } =
        f e)
    (h : e.Fronts e') : f e' = f e := by
  obtain ⟨text, notices, busy, blocking, rfl⟩ := h
  exact hf e text notices busy blocking

end Fronts

end Engine

namespace Session

/-- The scopes of the session. -/
def book (w : Session) : ScopeBook := ⟨w.autoSwitch, w.keepalive, w.scopes, w.cancelled⟩

/-- The flights of both crews. -/
def flights (w : Session) (c : CrewId) : ByDuty Flight := (w.crew c).flights

/-- What the poller of a crew remembers. -/
def backoff (w : Session) (c : CrewId) : Backoff := (w.crew c).backoff

variable {w w' w'' : Session}

@[simp] theorem book_setCrew (w : Session) (id : CrewId) (c : Crew) :
    (w.setCrew id c).book = w.book := by
  cases id <;> rfl

/-! ## Settling a task -/

/-- A task was settled at a new stage: nothing has happened but to the tasks, to what callers are told
and to the random numbers. -/
def Rests (w w' : Session) : Prop :=
  ∃ tasks outcomes random,
    w' = { w with tasks := tasks, outcomes := outcomes, random := random }

/-- A task was settled, which may have told something on the status line, and made the first plan of its
crew. -/
structure Settles (w w' : Session) : Prop where
  engine : w.engine.Tells w'.engine
  crew : ∀ c, ∃ checked, w'.crew c = { w.crew c with startupChecked := checked }
  book : w'.book = w.book
  uptime : w'.uptime = w.uptime
  nextTask : w'.nextTask = w.nextTask

namespace Rests

/-- What looks at none of that is as before. -/
theorem congr {α : Sort u} (f : Session → α)
    (hf : ∀ (w : Session) (tasks : List Task) (outcomes : List (Nat × Outcome)) (random : Source),
      f { w with tasks := tasks, outcomes := outcomes, random := random } = f w)
    (h : w.Rests w') : f w' = f w := by
  obtain ⟨tasks, outcomes, random, rfl⟩ := h
  exact hf w tasks outcomes random

theorem setTask (w : Session) (id : Nat) (errand : Errand) (stage : Stage) :
    w.Rests (w.setTask id errand stage) := ⟨_, _, _, rfl⟩

theorem endTask (w : Session) (id : Nat) : w.Rests (w.endTask id) := ⟨_, _, _, rfl⟩

theorem deliver (w : Session) (id : Nat) (o : Outcome) : w.Rests (w.deliver id o) := ⟨_, _, _, rfl⟩

theorem settles (h : w.Rests w') : w.Settles w' := by
  obtain ⟨tasks, outcomes, random, rfl⟩ := h
  exact ⟨.refl _, fun c => ⟨(w.crew c).startupChecked, by cases c <;> rfl⟩, rfl, rfl, rfl⟩

end Rests

namespace Settles

theorem refl (w : Session) : w.Settles w := Rests.settles ⟨_, _, _, rfl⟩

theorem trans (h : w.Settles w') (h' : w'.Settles w'') : w.Settles w'' where
  engine := h.engine.trans h'.engine
  crew c := by
    obtain ⟨checked, hc⟩ := h.crew c
    obtain ⟨checked', hc'⟩ := h'.crew c
    exact ⟨checked', by rw [hc', hc]⟩
  book := h'.book.trans h.book
  uptime := h'.uptime.trans h.uptime
  nextTask := h'.nextTask.trans h.nextTask

theorem setChecked (w : Session) (id : CrewId) (checked : Bool) :
    w.Settles (w.setCrew id { w.crew id with startupChecked := checked }) where
  engine := engine_setCrew w id _ ▸ .refl _
  crew c := by cases id <;> cases c <;> exact ⟨_, rfl⟩
  book := book_setCrew w id _
  uptime := by cases id <;> rfl
  nextTask := by cases id <;> rfl

theorem setStatus (w : Session) (text : String) : w.Settles (w.onEngine (·.setStatus text)) :=
  ⟨.setStatus _ _, fun c => ⟨(w.crew c).startupChecked, by cases c <;> rfl⟩, rfl, rfl, rfl⟩

theorem flights (h : w.Settles w') : w'.flights = w.flights := by
  funext c
  obtain ⟨checked, hc⟩ := h.crew c
  exact (congrArg Crew.flights hc :)

theorem backoff (h : w.Settles w') : w'.backoff = w.backoff := by
  funext c
  obtain ⟨checked, hc⟩ := h.crew c
  exact (congrArg Crew.backoff hc :)

theorem orders (h : w.Settles w') (c : CrewId) : (w'.crew c).orders = (w.crew c).orders := by
  obtain ⟨checked, hc⟩ := h.crew c
  exact (congrArg Crew.orders hc :)

theorem cancelled (h : w.Settles w') : w'.cancelled = w.cancelled :=
  congrArg ScopeBook.cancelled h.book

end Settles

theorem rests_planKeepalive (w : Session) (id : Nat) (s : Shift) :
    w.Rests (w.planKeepalive id s) := by
  unfold planKeepalive
  split
  · exact .endTask w id
  · exact ⟨_, _, _, rfl⟩

theorem rests_restAfter (w : Session) (id : Nat) (r : Routine) (s : Shift) (o : Outcome) :
    w.Rests (w.restAfter id r s o) := by
  cases r with
  | keepalive reason =>
    simp only [restAfter]
    split
    · exact .setTask w id _ _
    · exact rests_planKeepalive w id s
  | _ => exact .setTask w id _ _

/-- **Settling a task at its new stage** leaves everything else alone. -/
theorem rests_conclude (w : Session) (id : Nat) (errand : Errand) (p : Progress Work Outcome) :
    w.Rests (w.conclude id errand p) := by
  cases p with
  | waiting k => exact .setTask w id errand _
  | done o =>
    cases errand with
    | request => exact .deliver w id o
    | loop r s => exact rests_restAfter w id r s o
    | sync => exact .endTask w id
    | flush crew => exact .endTask w id

theorem settles_afterWatch (w : Session) (id : Nat) (errand : Errand) :
    w.Settles (w.afterWatch id errand) := by
  unfold afterWatch
  split
  · rename_i r s
    split
    · exact (Rests.endTask w id).settles
    · have hc := Settles.setChecked w s.crew true
      dsimp only
      split
      · exact hc.trans (Rests.endTask _ id).settles
      · have hdrawn (v : Session) (random : Source) : v.Rests { v with random := random } :=
          ⟨_, _, _, rfl⟩
        exact ((hc.trans (hdrawn _ _).settles).trans (.setStatus _ _)).trans
          (Rests.setTask _ id _ _).settles
  · exact (Rests.deliver w id _).settles

theorem settles_watch (w : Session) (id : Nat) (errand : Errand) :
    w.Settles (w.watch id errand) := by
  unfold watch
  split
  · exact (Rests.endTask w id).settles
  split
  · exact settles_afterWatch w id errand
  · exact (Rests.setTask w id errand _).settles

/-! ## Runs of duties -/

/-- Only the guards of runs are other ones. -/
def Guards (w w' : Session) : Prop :=
  ∃ f g, w' = { w with
    standing := { w.standing with flights := f }
    manual := { w.manual with flights := g } }

/-- Only the guards of runs and the pollers are other ones. -/
def Crews (w w' : Session) : Prop :=
  ∃ f b g d, w' = { w with
    standing := { w.standing with flights := f, backoff := b }
    manual := { w.manual with flights := g, backoff := d } }

namespace Guards

theorem setFlight (w : Session) (id : CrewId) (d : Duty) (f : Flight) :
    w.Guards (w.setFlight id d f) := by
  cases id <;> exact ⟨_, _, rfl⟩

theorem crews (h : w.Guards w') : w.Crews w' := by
  obtain ⟨f, g, rfl⟩ := h
  exact ⟨f, _, g, _, rfl⟩

theorem backoff (h : w.Guards w') : w'.backoff = w.backoff := by
  obtain ⟨f, g, rfl⟩ := h
  funext c
  cases c <;> rfl

end Guards

namespace Crews

theorem refl (w : Session) : w.Crews w := ⟨_, _, _, _, rfl⟩

theorem trans (h : w.Crews w') (h' : w'.Crews w'') : w.Crews w'' := by
  obtain ⟨_, _, _, _, rfl⟩ := h
  obtain ⟨_, _, _, _, rfl⟩ := h'
  exact ⟨_, _, _, _, rfl⟩

theorem setBackoff (w : Session) (id : CrewId) (b : Backoff) : w.Crews (w.setBackoff id b) := by
  cases id <;> exact ⟨_, _, _, _, rfl⟩

/-- What looks neither at guards nor at pollers is as before. -/
theorem congr {α : Sort u} (f : Session → α)
    (hf : ∀ (w : Session) (standing manual : ByDuty Flight) (b d : Backoff),
      f { w with
        standing := { w.standing with flights := standing, backoff := b }
        manual := { w.manual with flights := manual, backoff := d } } = f w)
    (h : w.Crews w') : f w' = f w := by
  obtain ⟨standing, b, manual, d, rfl⟩ := h
  exact hf w standing manual b d

theorem engine (h : w.Crews w') : w'.engine = w.engine := h.congr Session.engine fun _ _ _ _ _ => rfl

theorem book (h : w.Crews w') : w'.book = w.book := h.congr Session.book fun _ _ _ _ _ => rfl

theorem cancelled (h : w.Crews w') : w'.cancelled = w.cancelled :=
  congrArg ScopeBook.cancelled h.book

theorem orders (h : w.Crews w') (c : CrewId) : (w'.crew c).orders = (w.crew c).orders :=
  h.congr (fun w => (w.crew c).orders) fun _ _ _ _ _ => by cases c <;> rfl

end Crews

theorem guards_land (w : Session) (crew : CrewId) (d : Duty) (p : Progress Work Outcome) :
    w.Guards (w.land crew d p).1 := by
  cases p with
  | waiting k => exact ⟨_, _, rfl⟩
  | done o => exact .setFlight w crew d _

theorem guards_carryOn {σ : Type} (w : Session) (s : Shift) (d : Duty) (f : σ → Work)
    (r : Engine × Progress σ Tick) : { w with engine := r.1 }.Guards (w.carryOn s d f r).1 := by
  obtain ⟨e, p⟩ := r
  cases p with
  | waiting k => exact ⟨_, _, rfl⟩
  | done t => exact guards_land _ s.crew d _

theorem guards_finishRun (w : Session) (s : Shift) (d : Duty) (r : Engine × Tick) :
    { w with engine := r.1 }.Guards (w.finishRun s d r).1 := guards_land _ s.crew d _

theorem crews_takeOff (w : Session) (s : Shift) (j : Job) : w.Crews (w.takeOff s j).1 := by
  cases j with
  | poll =>
    simp only [takeOff]
    split
    · exact .setBackoff w s.crew _
    · exact (Crews.setBackoff w s.crew _).trans (guards_land _ s.crew .poll _).crews
  | _ => exact .refl w

/-- **To begin a run** concerns the guards and the pollers only. -/
theorem crews_beginJob (w : Session) (s : Shift) (j : Job) : w.Crews (w.beginJob s j).1 := by
  unfold beginJob
  split
  · exact .refl w
  · split
    · exact .refl w
    · exact (Guards.setFlight w s.crew j.duty _).crews.trans (crews_takeOff _ s j)

theorem crews_resumePoll (w : Session) (s : Shift) (p : Poll) (reply : Reply p.call) :
    { w with engine :=
      (p.finish w.engine (w.crew s.crew).backoff (w.isCancelled s.scope) reply).1 }.Crews
        (w.resumePoll s p reply).1 :=
  (Crews.setBackoff _ s.crew _).trans (guards_land _ s.crew .poll _).crews

/-! ## Commands -/

theorem fst_embed {σ ρ : Type} (w : Session) (f : σ → Work) (g : ρ → Outcome)
    (r : Engine × Progress σ ρ) : (w.embed f g r).1 = { w with engine := r.1 } := by
  obtain ⟨e, p⟩ := r
  cases p <;> rfl

/-- Only the queues of orders are other ones. -/
def Queues (w w' : Session) : Prop :=
  ∃ q q', w' = { w with
    standing := { w.standing with orders := q }
    manual := { w.manual with orders := q' } }

namespace Queues

theorem setOrders (w : Session) (crew : CrewId) (q : OrderQueue) :
    w.Queues (w.setCrew crew { w.crew crew with orders := q }) := by
  cases crew <;> exact ⟨_, _, rfl⟩

theorem engine (h : w.Queues w') : w'.engine = w.engine := by
  obtain ⟨q, q', rfl⟩ := h
  rfl

theorem book (h : w.Queues w') : w'.book = w.book := by
  obtain ⟨q, q', rfl⟩ := h
  rfl

theorem cancelled (h : w.Queues w') : w'.cancelled = w.cancelled :=
  congrArg ScopeBook.cancelled h.book

theorem flights (h : w.Queues w') : w'.flights = w.flights := by
  obtain ⟨q, q', rfl⟩ := h
  funext c
  cases c <;> rfl

theorem backoff (h : w.Queues w') : w'.backoff = w.backoff := by
  obtain ⟨q, q', rfl⟩ := h
  funext c
  cases c <;> rfl

end Queues

theorem queues_embedFlush (w : Session) (crew : CrewId)
    (r : OrderQueue × Engine × Progress Flush Unit) :
    { w with engine := r.2.1 }.Queues (w.embedFlush crew r).1 := by
  rw [embedFlush, fst_embed]
  cases crew <;> exact ⟨_, _, rfl⟩

/-! ## New tasks beside the old ones -/

/-- Tasks were added, none of which has had a turn. -/
inductive Spawned (tasks : List Task) (next : Nat) : List Task → Nat → Prop where
  | refl : Spawned tasks next tasks next
  | spawn {tasks' : List Task} {next' : Nat} (errand : Errand) :
    Spawned tasks next tasks' next' →
      Spawned tasks next (tasks' ++ [⟨next', errand, .fresh⟩]) (next' + 1)

/-- Nothing has happened to the tasks, but that others were added. -/
def Grows (w w' : Session) : Prop := Spawned w.tasks w.nextTask w'.tasks w'.nextTask

theorem Spawned.trans {ts ts' ts'' : List Task} {n n' n'' : Nat} (h : Spawned ts n ts' n')
    (h' : Spawned ts' n' ts'' n'') : Spawned ts n ts'' n'' := by
  induction h' with
  | refl => exact h
  | spawn errand _ ih => exact .spawn errand ih

theorem Spawned.le {ts ts' : List Task} {n n' : Nat} (h : Spawned ts n ts' n') : n ≤ n' := by
  induction h with
  | refl => exact Nat.le_refl n
  | spawn errand _ ih => exact Nat.le_succ_of_le ih

theorem Queues.grows (h : w.Queues w') : w.Grows w' := by
  obtain ⟨_, _, rfl⟩ := h
  exact .refl

theorem Crews.grows (h : w.Crews w') : w.Grows w' := by
  obtain ⟨_, _, _, _, rfl⟩ := h
  exact .refl

/-! ## The runtime -/

/-- Loops were started, and scopes opened and closed. Nothing else has happened but on the status line
of this engine. -/
structure Directs (w : Session) (e : Engine) (w' : Session) : Prop where
  grows : w.Grows w'
  crew : w'.crew = w.crew
  book : w.book.Moves w'.book
  engine : e.Tells w'.engine

namespace Directs

variable {e : Engine}

/-- What comes later may be told of another engine. -/
theorem after {e' : Engine} (h : w.Directs e w') (h' : w'.Directs e' w'') : w.Directs e' w'' :=
  ⟨Spawned.trans h.grows h'.grows, h'.crew.trans h.crew, h.book.trans h'.book, h'.engine⟩

theorem trans (h : w.Directs e w') (h' : w'.Directs w'.engine w'') : w.Directs e w'' :=
  { h.after h' with engine := h.engine.trans h'.engine }

theorem flights (h : w.Directs e w') : w'.flights = w.flights := by
  unfold Session.flights
  rw [h.crew]

theorem backoff (h : w.Directs e w') : w'.backoff = w.backoff := by
  unfold Session.backoff
  rw [h.crew]

theorem orders (h : w.Directs e w') (c : CrewId) : (w'.crew c).orders = (w.crew c).orders := by
  rw [h.crew]

theorem cancelled (h : w.Directs e w') : w.cancelled ⊆ w'.cancelled := h.book.cancelled

/-- A move of the scopes. -/
theorem move (hc : w'.crew = w.crew) (hg : w.Grows w') (he : w'.engine = w.engine)
    (hb : w.book.Move w'.book) : w.Directs w.engine w' := ⟨hg, hc, .single hb, he ▸ .refl _⟩

theorem refl (w : Session) : w.Directs w.engine w := ⟨.refl, rfl, .refl, .refl _⟩

theorem onEngine (w : Session) (f : Engine → Engine) : w.Directs (f w.engine) (w.onEngine f) :=
  ⟨.refl, rfl, .refl, .refl _⟩

theorem setEngine (w : Session) (e : Engine) : w.Directs e { w with engine := e } :=
  ⟨.refl, rfl, .refl, .refl _⟩

theorem setStatus (w : Session) (text : String) :
    w.Directs w.engine (w.onEngine (·.setStatus text)) := ⟨.refl, rfl, .refl, .setStatus _ _⟩

theorem spawn (w : Session) (errand : Errand) : w.Directs w.engine (w.spawn errand) :=
  ⟨.spawn errand .refl, rfl, .refl, .refl _⟩

theorem cancel (w : Session) (s : Scope) : w.Directs w.engine (w.cancel s) :=
  .move rfl .refl rfl (.cancel s)

end Directs

/-- Loops were started, and scopes opened; none was cancelled. -/
structure Opens (w : Session) (e : Engine) (w' : Session) : Prop extends w.Directs e w' where
  cancelled_eq : w'.cancelled = w.cancelled

namespace Opens

theorem trans {e : Engine} (h : w.Opens e w') (h' : w'.Opens w'.engine w'') : w.Opens e w'' :=
  ⟨h.toDirects.trans h'.toDirects, h'.cancelled_eq.trans h.cancelled_eq⟩

theorem refl (w : Session) : w.Opens w.engine w := ⟨.refl w, rfl⟩

theorem setStatus (w : Session) (text : String) :
    w.Opens w.engine (w.onEngine (·.setStatus text)) := ⟨.setStatus w text, rfl⟩

theorem spawn (w : Session) (errand : Errand) : w.Opens w.engine (w.spawn errand) :=
  ⟨.spawn w errand, rfl⟩

end Opens

theorem opens_startAutoSwitch (w : Session) : w.Opens w.engine w.startAutoSwitch := by
  unfold startAutoSwitch
  split
  · exact .refl w
  · rename_i h
    have hopen : w.Opens w.engine { w with autoSwitch := some w.scopes, scopes := w.scopes + 1 } :=
      ⟨.move rfl .refl rfl (.openAutoSwitch h), rfl⟩
    exact ((hopen.trans (.spawn _ _)).trans (.spawn _ _)).trans (.setStatus _ _)

theorem directs_closeAutoSwitch (w : Session) : w.Directs w.engine w.closeAutoSwitch.1 := by
  unfold closeAutoSwitch
  split
  · exact .refl w
  · rename_i n h
    exact .move rfl .refl rfl (.closeAutoSwitch h)

theorem opens_startKeepalive (w : Session) : w.Opens w.engine w.startKeepalive := by
  unfold startKeepalive
  split
  · exact .refl w
  · rename_i h
    have hopen : w.Opens w.engine { w with keepalive := some w.scopes, scopes := w.scopes + 1 } :=
      ⟨.move rfl .refl rfl (.openKeepalive h), rfl⟩
    exact hopen.trans (.spawn _ _)

theorem directs_closeKeepalive (w : Session) : w.Directs w.engine w.closeKeepalive := by
  unfold closeKeepalive
  split
  · exact .refl w
  · rename_i n h
    exact .move rfl .refl rfl (.closeKeepalive h)

theorem directs_setKeepalive (w : Session) (enabled : Bool) :
    w.Directs (w.engine.updateSettings ({ · with keepalive := enabled })) (w.setKeepalive enabled) := by
  have h := Directs.onEngine w (·.updateSettings ({ · with keepalive := enabled }))
  unfold setKeepalive
  dsimp only
  split
  · exact h.trans (opens_startKeepalive _).toDirects
  · exact (h.trans (directs_closeKeepalive _)).trans (.setStatus _ _)

theorem directs_setAutoSwitch (w : Session) (enabled : Bool) :
    w.Directs (w.engine.updateSettings ({ · with autoSwitch := enabled }))
      (w.setAutoSwitch enabled).1 := by
  have h := Directs.onEngine w (·.updateSettings ({ · with autoSwitch := enabled }))
  unfold setAutoSwitch
  dsimp only
  split
  · exact h.trans (opens_startAutoSwitch _).toDirects
  · have hc := h.trans (directs_closeAutoSwitch _)
    split
    · rename_i w' hw
      rw [hw] at hc
      exact hc
    · rename_i w' hw
      rw [hw] at hc
      exact hc.trans (.setStatus _ _)

theorem directs_shutdown (w : Session) : w.Directs w.engine w.shutdown.1 := by
  have h := directs_closeAutoSwitch w
  unfold shutdown
  split
  · rename_i w' hw
    rw [hw] at h
    exact h
  · rename_i w' hw
    rw [hw] at h
    exact h.trans (.cancel w' .root)

theorem opens_finishStartup (w : Session) (settings : Settings) :
    w.Opens w.engine (w.finishStartup settings).1 := by
  unfold finishStartup
  dsimp only
  split
  · exact opens_startKeepalive w
  · exact .refl w

theorem opens_launch (w : Session) (settings : Settings) :
    w.Opens w.engine (w.launch settings).1 := by
  have h := (Opens.spawn w (.loop (.ofDuty .poll w.uptime) ⟨.standing, .root⟩)).trans
    (.spawn _ (.loop (.ofDuty .hookWatch w.uptime) ⟨.standing, .root⟩))
  unfold launch
  dsimp only
  split
  · exact (h.trans (opens_startAutoSwitch _)).trans (opens_finishStartup _ settings)
  · exact h

/-- Once the dashboard is loaded, the start may go on with a refresh, behind the busy gate. -/
theorem opens_afterLoading (w : Session) (settings : Settings) :
    ∃ e, w.engine.Fronts e ∧ w.Opens e (w.afterLoading settings).1 := by
  have goOn (v : Session) (hw : w.Opens w.engine v) :
      ∃ e, w.engine.Fronts e ∧ w.Opens e
        (if settings.refreshOnStartup then
          ({ v with engine := (Refresh.beginAll v.engine false).1 },
            Progress.waiting (ρ := Outcome)
              (.startup (.refreshing settings (Refresh.beginAll v.engine false).2)))
        else v.launch settings).1 := by
    split
    · have hg : w.engine.Fronts (Refresh.beginAll v.engine false).1 := by
        obtain ⟨text, notices, hv⟩ := hw.engine
        rw [hv]
        exact ⟨_, _, _, _, rfl⟩
      exact ⟨_, hg, ⟨hw.grows, hw.crew, hw.book, .refl _⟩, hw.cancelled_eq⟩
    · exact ⟨_, .refl _, hw.trans (opens_launch _ settings)⟩
  unfold afterLoading
  cases settings.mode with
  | gpt => exact goOn w (.refl w)
  | openCode => exact goOn _ (.spawn w .sync)

end Session

end Switchboard
