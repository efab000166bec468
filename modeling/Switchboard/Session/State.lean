import Switchboard.Session.Work

/-!
# The state of a session

A session is the engine with everything that is under way around it: two crews, the scopes that were
opened and cancelled, and the tasks. A task has an errand and stands at a stage of it. A session
takes tasks one step at a time, so that everything between two waits happens at once.
-/

set_option autoImplicit false

namespace Switchboard

/-- What a crew keeps between the runs of its duties. -/
structure Crew where
  flights : ByDuty Flight := .all {}
  backoff : Backoff := {}
  /-- A plan of keepalive has asked already whether the accounts are stale. -/
  startupChecked : Bool := false
  orders : OrderQueue := {}
  deriving DecidableEq, Inhabited

/-- A duty that is done over and over. -/
inductive Routine where
  /-- Polls start on a grid of times; `next` is the next of them. -/
  | poll (next : Nat)
  | autoSwitch
  | recover
  | hookWatch
  | keepalive (reason : Keepalive.Reason)
  deriving DecidableEq, Inhabited

namespace Routine

/-- The run that the routine makes next. -/
def job : Routine → Job
  | poll _ => .poll
  | autoSwitch => .autoSwitch
  | recover => .recover
  | hookWatch => .hookWatch
  | keepalive reason => .keepalive reason

/-- The routine of a duty, at this time. -/
def ofDuty (d : Duty) (uptime : Nat) : Routine :=
  match d with
  | .poll => poll uptime
  | .autoSwitch => autoSwitch
  | .recover => recover
  | .hookWatch => hookWatch
  | .keepalive => keepalive .periodic

end Routine

/-- What a task is for. -/
inductive Errand where
  /-- A caller waits for the outcome. -/
  | request
  | loop (r : Routine) (s : Shift)
  /-- The identity is synced once, some time after the start. -/
  | sync
  | flush (crew : CrewId)
  deriving DecidableEq, Inhabited

/-- The scope whose cancellation ends the task while it rests. -/
def Errand.scope? : Errand → Option Scope
  | loop _ s => some s.scope
  | sync => some .root
  | request | flush _ => none

/-- How far a task has come. -/
inductive Stage where
  /-- It has not had its first turn. -/
  | fresh
  | working (w : Work)
  /-- It rests until this time. -/
  | resting (due : Nat)
  /-- It waits for a model, until this time at most. -/
  | watching (due : Nat)
  deriving DecidableEq

/-- Something that goes on by itself. -/
structure Task where
  id : Nat
  errand : Errand
  stage : Stage
  deriving DecidableEq

/-- The engine and everything that is under way around it. -/
structure Session where
  engine : Engine
  /-- How long the session has lasted, in milliseconds; unlike the clock it is never set. -/
  uptime : Nat := 0
  random : Source := {}
  standing : Crew := {}
  manual : Crew := {}
  /-- The scopes that were cancelled, those within the root not counted with it. -/
  cancelled : List Scope := []
  /-- The open scope of automatic switching. -/
  autoSwitch : Option Nat := none
  /-- The open scope of keepalive. -/
  keepalive : Option Nat := none
  /-- How many scopes were opened. -/
  scopes : Nat := 0
  tasks : List Task := []
  /-- The id of the next task. -/
  nextTask : Nat := 0
  /-- What has come of the tasks that callers wait for. -/
  outcomes : List (Nat × Outcome) := []

namespace Session

/-- The crew with this name. -/
def crew (w : Session) : CrewId → Crew
  | .standing => w.standing
  | .manual => w.manual

/-- The session with one crew replaced. -/
def setCrew (w : Session) (id : CrewId) (c : Crew) : Session :=
  match id with
  | .standing => { w with standing := c }
  | .manual => { w with manual := c }

/-- The longest wait, in milliseconds. The loops bound no wait from above, but they wait on the timer
of the asynchronous runtime, whose far future is thirty years ahead: a wait that is meant to be longer
ends there. -/
def longestWait : Nat := 30 * 365 * 24 * 3600000

/-- The time when a wait of so many milliseconds ends. -/
def timeAfter (w : Session) (ms : Nat) : Nat := w.uptime + min ms longestWait

/-- The session with its engine changed. -/
def onEngine (w : Session) (f : Engine → Engine) : Session := { w with engine := f w.engine }

/-- The scope is cancelled, itself or with the root. -/
def isCancelled (w : Session) (s : Scope) : Bool :=
  w.cancelled.contains s || (s.isInRoot && w.cancelled.contains .root)

/-- Cancels a scope. -/
def cancel (w : Session) (s : Scope) : Session := { w with cancelled := s :: w.cancelled }

/-- The session with the flight of a duty changed. -/
def setFlight (w : Session) (id : CrewId) (d : Duty) (f : Flight) : Session :=
  let c := w.crew id
  w.setCrew id { c with flights := c.flights.set d f }

/-! ## Tasks -/

/-- The task with this id. -/
def task? (w : Session) (id : Nat) : Option Task := w.tasks.find? (·.id == id)

/-- Adds a task. -/
def spawn (w : Session) (errand : Errand) : Session :=
  { w with tasks := w.tasks ++ [⟨w.nextTask, errand, .fresh⟩], nextTask := w.nextTask + 1 }

/-- Moves a task to another stage of an errand. -/
def setTask (w : Session) (id : Nat) (errand : Errand) (stage : Stage) : Session :=
  { w with
    tasks := w.tasks.map fun t => if t.id = id then ⟨id, errand, stage⟩ else t }

/-- Ends a task. -/
def endTask (w : Session) (id : Nat) : Session :=
  { w with tasks := w.tasks.filter (·.id != id) }

/-- Ends a task that a caller waits for. -/
def deliver (w : Session) (id : Nat) (o : Outcome) : Session :=
  { w.endTask id with outcomes := (id, o) :: w.outcomes }

@[simp] theorem crew_setCrew_self (w : Session) (id : CrewId) (c : Crew) :
    (w.setCrew id c).crew id = c := by
  cases id <;> rfl

@[simp] theorem engine_setCrew (w : Session) (id : CrewId) (c : Crew) :
    (w.setCrew id c).engine = w.engine := by
  cases id <;> rfl

end Session

end Switchboard
