import Switchboard.Session.Resume

/-!
# Steps of a session

A session goes on by events: a caller asks for something or does something, a task has its turn, the
backend replies, time passes. `Session.step` takes one event; an event that does not fit the stage of
its task changes nothing, so that `Session.run` is defined for every list of events, whatever their
order.
-/

set_option autoImplicit false

namespace Switchboard

/-- Something that happens to a session. -/
inductive Event where
  /-- A caller asks for something; the request becomes the next task. -/
  | ask (r : Request)
  /-- A caller does something at once. -/
  | act (a : Action)
  /-- A fresh task has its first turn. -/
  | turn (id : Nat)
  /-- The backend replies to the call that a task waits for. -/
  | reply (id : Nat) (c : Call) (r : Reply c)
  /-- The time limit of a task's call has passed. -/
  | expire (id : Nat)
  /-- A resting task goes on, since it is time to. -/
  | wake (id : Nat)
  /-- A resting task ends, since its scope is cancelled. -/
  | quit (id : Nat)
  /-- A watching task goes on, since there is a model or no more time. -/
  | arrive (id : Nat)
  /-- Time passes. -/
  | pass (ms : Nat)

namespace Session

/-! ## Loops -/

/-- The task rests for some time. -/
def rest (w : Session) (id : Nat) (errand : Errand) (ms : UInt64) : Session :=
  w.setTask id errand (.resting (w.timeAfter ms.toNat))

/-- What a run of a duty came to. -/
def tickOf : Outcome → Option Tick
  | .tick t => some t
  | _ => none

/-- Plans the next run of keepalive; a plan that cannot be made ends the loop. -/
def planKeepalive (w : Session) (id : Nat) (s : Shift) : Session :=
  match (Keepalive.periodicDelay w.engine.config).run w.random with
  | none => w.endTask id
  | some (ms, random) => { w with random := random }.rest id (.loop (.keepalive .periodic) s) ms

/-- A loop rests after a run. -/
def restAfter (w : Session) (id : Nat) (r : Routine) (s : Shift) (o : Outcome) : Session :=
  let c := w.engine.config
  match r with
  | .poll next => w.setTask id (.loop r s) (.resting next)
  | .autoSwitch => w.rest id (.loop r s) c.autoSwitchTick
  | .recover => w.rest id (.loop r s) c.recoverTick
  | .hookWatch => w.rest id (.loop r s) c.hookPoll
  | .keepalive _ =>
    if (tickOf o).any (·.shouldRetry) then w.rest id (.loop r s) c.busyRetry
    else w.planKeepalive id s

/-- A task is as far as its work has come. -/
def conclude (w : Session) (id : Nat) (errand : Errand) : Progress Work Outcome → Session
  | .waiting k => w.setTask id errand (.working k)
  | .done o =>
    match errand with
    | .request => w.deliver id o
    | .loop r s => w.restAfter id r s o
    | .sync | .flush _ => w.endTask id

/-- A loop makes a run. -/
def runLoop (w : Session) (id : Nat) (r : Routine) (s : Shift) : Session :=
  let (w, p) := w.beginJob s r.job
  w.conclude id (.loop r s) p

/-! ## Waiting for the dashboard -/

/-- How long a task waits for the dashboard, in milliseconds, if a word has room for that. -/
def patience? (c : Config) : Option UInt64 :=
  let ms := c.waitStep.toNat * c.waitSteps.toNat
  if ms < UInt64.size then some (.ofNat ms) else none

/-- The wait for the dashboard is over: keepalive makes its first plan, a caller gets the names. -/
def afterWatch (w : Session) (id : Nat) (errand : Errand) : Session :=
  match errand with
  | .loop _ s =>
    if w.isCancelled s.scope then w.endTask id
    else
      let c := w.crew s.crew
      let w := w.setCrew s.crew { c with startupChecked := true }
      match (KeepaliveRun.firstPlan w.engine (!c.startupChecked)).run w.random with
      | none => w.endTask id
      | some (p, random) =>
        ({ w with random := random }.onEngine
          (·.setStatus (p.announcement w.engine.config))).rest id (.loop (.keepalive p.reason) s)
          p.delay
  | _ => w.deliver id (.names (w.engine.model.map (·.snapshot.names)))

/-- A task waits for the dashboard, unless it is there. One that cannot tell how long to wait ends. -/
def watch (w : Session) (id : Nat) (errand : Errand) : Session :=
  match patience? w.engine.config with
  | none => w.endTask id
  | some ms =>
    if w.engine.model.isSome then w.afterWatch id errand
    else w.setTask id errand (.watching (w.timeAfter ms.toNat))

/-! ## Events -/

/-- A loop has its first turn. -/
def enterLoop (w : Session) (id : Nat) (r : Routine) (s : Shift) : Session :=
  match r with
  | .poll _ => w.setTask id (.loop (.poll w.uptime) s) (.resting w.uptime)
  | .autoSwitch | .recover => w.restAfter id r s .nothing
  | .hookWatch => w.runLoop id r s
  | .keepalive _ => w.watch id (.loop r s)

/-- A task has its first turn. -/
def firstTurn (w : Session) (t : Task) : Session :=
  match t.errand with
  | .request => w
  | .loop r s => w.enterLoop t.id r s
  | .sync => w.rest t.id .sync w.engine.config.backgroundSyncDelay
  | .flush crew =>
    let (w, p) := w.beginFlush crew
    w.conclude t.id t.errand p

/-- The point of the polling grid that comes next, the one that was due being `due`. -/
def nextPoint (c : Config) (due uptime : Nat) : Nat :=
  due + c.livePoll.toNat * ((uptime - due) / c.livePoll.toNat + 1)

/-- A task goes on after a rest that was due to end at a time. -/
def wakeUp (w : Session) (t : Task) (due : Nat) : Session :=
  match t.errand with
  | .loop (.poll _) s => w.runLoop t.id (.poll (nextPoint w.engine.config due w.uptime)) s
  | .loop r s => w.runLoop t.id r s
  | .sync =>
    let (e, l) := Load.begin w.engine true none none
    { w with engine := e }.conclude t.id t.errand (.waiting (.load l))
  | .request | .flush _ => w

/-- A caller asks for something. -/
def takeRequest (w : Session) (r : Request) : Session :=
  let id := w.nextTask
  let w := w.spawn .request
  match r with
  | .awaitDashboard => w.watch id .request
  | r =>
    let (w, p) := w.start r
    w.conclude id .request p

/-- The backend replies to a task. -/
def receive (w : Session) (t : Task) (k : Work) (c : Call) (r : Reply c) : Session :=
  if h : c = k.call then
    let (w, p) := w.resume k (h ▸ r)
    w.conclude t.id t.errand p
  else w

/-- One event. -/
def step (w : Session) : Event → Session
  | .ask r => w.takeRequest r
  | .act a => w.act a
  | .turn id =>
    match w.task? id with
    | some ⟨_, errand, .fresh⟩ => w.firstTurn ⟨id, errand, .fresh⟩
    | _ => w
  | .reply id c r =>
    match w.task? id with
    | some ⟨_, errand, .working k⟩ => w.receive ⟨id, errand, .working k⟩ k c r
    | _ => w
  | .expire id =>
    match w.task? id with
    | some ⟨_, errand, .working k⟩ =>
      match k.limit? with
      | some ms => w.receive ⟨id, errand, .working k⟩ k k.call (.error (Load.timeout ms))
      | none => w
    | _ => w
  | .wake id =>
    match w.task? id with
    | some ⟨_, errand, .resting due⟩ =>
      if due ≤ w.uptime then w.wakeUp ⟨id, errand, .resting due⟩ due else w
    | _ => w
  | .quit id =>
    match w.task? id with
    | some ⟨_, errand, .resting _⟩ =>
      if errand.scope?.any w.isCancelled then w.endTask id else w
    | _ => w
  | .arrive id =>
    match w.task? id with
    | some ⟨_, errand, .watching due⟩ =>
      if w.engine.model.isSome || due ≤ w.uptime then w.afterWatch id errand else w
    | _ => w
  | .pass ms =>
    { w with uptime := w.uptime + ms }.onEngine fun e => { e with now := e.now + Int64.ofNat ms }

/-- All events, one after another. -/
def run (w : Session) (events : List Event) : Session := events.foldl step w

@[simp] theorem run_nil (w : Session) : w.run [] = w := rfl

@[simp] theorem run_cons (w : Session) (e : Event) (events : List Event) :
    w.run (e :: events) = (w.step e).run events := rfl

theorem run_append (w : Session) (events more : List Event) :
    w.run (events ++ more) = (w.run events).run more := by
  simp [run]

/-- What a step keeps, a run keeps. -/
theorem run_induction {P : Session → Prop} (h : ∀ w e, P w → P (w.step e)) {w : Session}
    (hw : P w) (events : List Event) : P (w.run events) := by
  induction events generalizing w with
  | nil => exact hw
  | cons e events ih => exact ih (h w e hw)

/-- A session at the start of the program. -/
def ofEngine (e : Engine) : Session := { engine := e }

/-- A session at the start of the program, whose random choices are drawn from this source. -/
def ofSource (e : Engine) (random : Source) : Session := { ofEngine e with random := random }

end Session

end Switchboard
