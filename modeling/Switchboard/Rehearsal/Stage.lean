import Switchboard.Rehearsal.Backend
import Switchboard.Session.Step

/-!
# Rehearsals

A rehearsal runs a session against a scripted backend, in virtual time. Tasks that can go on wait in
a line, and others wait for their timers. The caller is in the foreground: what it does comes first,
and whenever it waits the tasks in the line have their turns, each up to its next wait. Time passes
only when nobody can go on, and then up to the next timer.

Everything that happens to the session is an event of `Session.step`.
-/

set_option autoImplicit false

namespace Switchboard

namespace Rehearsal

/-- What the caller does next. A step reports a result, of a type that the caller chooses. -/
inductive Step (ρ : Type) where
  /-- Asks for something and waits for the outcome; the report looks at the session, too. -/
  | ask (r : Request) (report : Outcome → Session → ρ)
  /-- Makes a run of a duty under its current scope and waits for what it comes to. -/
  | job (j : Job) (report : Outcome → Session → ρ)
  /-- Does something at once; the report compares the session before and after. -/
  | act (a : Action) (report : Session → Session → ρ)
  /-- Only looks at the session. -/
  | look (report : Session → ρ)
  /-- Cancels the current scope. -/
  | cancel
  /-- Takes a new scope. -/
  | renew
  /-- Starts a loop under the current scope. -/
  | startLoop (d : Duty)
  | enterBusy
  /-- Leaves the busy gate, if it was entered; reports whether it was. -/
  | leaveBusy (report : Bool → ρ)
  | block (message : String)
  /-- Uncovers the screen, if it was covered; reports whether it was. -/
  | unblock (report : Bool → ρ)
  /-- Changes the backend. -/
  | prepare (change : Backend → Backend)
  | sleep (ms : Nat)
  /-- Lets everybody go on who can. -/
  | settle
  /-- Gives a step to a task of its own. -/
  | spawn (name : String) (s : Step ρ)
  /-- Waits for the task with this name, and reports its result. -/
  | join (name : String)

/-- The next thing that a task does. -/
inductive Turn (ρ : Type) where
  /-- A step that was given to a task of its own begins. -/
  | begin (name : String) (s : Step ρ)
  /-- A step that sleeps is over. -/
  | awake (name : String)
  /-- The caller's sleep is over. -/
  | callerAwake
  | first (id : Nat)
  | reply (id : Nat) (c : Call) (r : ScriptedReply)
  | expire (id : Nat)
  | wake (id : Nat)
  | quit (id : Nat)
  | arrive (id : Nat)

/-- The task of the session that has the turn. -/
def Turn.task? {ρ : Type} : Turn ρ → Option Nat
  | first id | reply id _ _ | expire id | wake id | quit id | arrive id => some id
  | begin _ _ | awake _ | callerAwake => none

/-- A turn that comes at some time. -/
structure Timer (ρ : Type) where
  due : Nat
  turn : Turn ρ

/-- A step that was given to a task of its own. -/
inductive Spawned (ρ : Type) where
  /-- A task of the session does it. -/
  | task (id : Nat) (report : Outcome → Session → ρ)
  | finished (result : ρ)

/-- A call, and what could be seen when it was made. -/
structure CallRecord where
  time : Nat
  call : Call
  status : String
  busy : Bool
  blocking : Option String

/-- What is known after a step of the caller. -/
structure Entry (ρ : Type) where
  result : ρ
  session : Session
  /-- The watchers of the status were notified. -/
  statusSet : Bool
  /-- The watchers of the model were notified. -/
  modelSet : Bool
  calls : List CallRecord

end Rehearsal

open Rehearsal

/-- A session on its stage: the backend, the caller, and who goes on next. -/
structure Rehearsal (ρ : Type) where
  session : Session
  backend : Backend
  /-- The serial number of the caller's scope. -/
  scope : Nat := 0
  /-- How often the caller has entered the busy gate and not left it. -/
  holds : Nat := 0
  /-- How often the caller has covered the screen and not uncovered it. -/
  covers : Nat := 0
  /-- The task that the caller waits for. -/
  foreground : Option Nat := none
  /-- The turn that follows at once. -/
  now : Option (Turn ρ) := none
  /-- The turns that wait in the line. -/
  line : List (Turn ρ) := []
  /-- The turns that wait for their time, in the order in which they were put there. -/
  timers : List (Timer ρ) := []
  /-- Tasks with smaller ids have been put into the line. -/
  known : Nat := 0
  spawned : List (String × Spawned ρ) := []
  /-- The calls since the last entry, in reverse. -/
  calls : List CallRecord := []
  /-- The clock of the session stands still while virtual time passes, as the clock on the wall does
  when nobody really waits. -/
  clockStands : Bool := false

namespace Rehearsal

variable {ρ : Type}

/-- The session goes on by an event. -/
def happen (r : Rehearsal ρ) (e : Event) : Rehearsal ρ := { r with session := r.session.step e }

/-- The caller's scope. -/
def currentScope (r : Rehearsal ρ) : Scope := .manual r.scope

/-- Puts a turn at the end of the line. -/
def enqueue (r : Rehearsal ρ) (t : Turn ρ) : Rehearsal ρ := { r with line := r.line ++ [t] }

/-- Lets a turn come at some time, or at once if that is past. -/
def schedule (r : Rehearsal ρ) (due : Nat) (t : Turn ρ) : Rehearsal ρ :=
  if due ≤ r.session.uptime then { r with now := some t }
  else { r with timers := r.timers ++ [⟨due, t⟩] }

/-- Writes a call down. -/
def record (r : Rehearsal ρ) (c : Call) : Rehearsal ρ :=
  let e := r.session.engine
  { r with
    calls := ⟨r.session.uptime, c, e.status, e.busy.isBusy, e.blocking.message⟩ :: r.calls }

/-- The backend takes a call; the turn that follows is its reply, or the end of the time limit if
that comes first. -/
def takeCall (r : Rehearsal ρ) (id : Nat) (k : Work) : Rehearsal ρ :=
  let r := r.record k.call
  let (b, s) := r.backend.take k.call.method
  let r := { r with backend := b }
  let due := r.session.timeAfter s.delay
  match k.limit?.filter fun ms => r.session.timeAfter ms.toNat < due with
  | some ms => r.schedule (r.session.timeAfter ms.toNat) (.expire id)
  | none => r.schedule due (.reply id k.call s)

/-- What a task waits for after its turn. -/
def follow (r : Rehearsal ρ) (id : Nat) : Rehearsal ρ :=
  match (r.session.task? id).map Task.stage with
  | some (.working k) => r.takeCall id k
  | some (.resting due) => r.schedule due (.wake id)
  | some (.watching due) => r.schedule due (.arrive id)
  | _ => r

/-- An effect of a scripted reply. -/
def effect (r : Rehearsal ρ) : Effect → Rehearsal ρ
  | .cancel => r.happen (.act (.cancel r.currentScope))
  | .act a => r.happen (.act a)

/-- The backend replies to a task. -/
def answer (r : Rehearsal ρ) (id : Nat) (c : Call) (s : ScriptedReply) : Rehearsal ρ :=
  let r := s.effects.foldl effect r
  let (b, reply) := r.backend.reply c s
  { r with backend := b.noteInstall c reply }.happen (.reply id c reply)

/-! ## The line -/

/-- A turn of this task is in the line. -/
def isInLine (r : Rehearsal ρ) (id : Nat) : Bool := r.line.any fun t => t.task? == some id

/-- A task that waits for a timer has a turn without it. -/
def interrupt (r : Rehearsal ρ) (id : Nat) (t : Turn ρ) : Rehearsal ρ :=
  { r with timers := r.timers.filter fun x => x.turn.task? != some id }.enqueue t

/-- The turn that a task gets without waiting for its timer: its scope is cancelled, there is a
model, or it has never had one. -/
def urgentTurn? (w : Session) (known : Nat) (t : Task) : Option (Turn ρ) :=
  match t.stage with
  | .fresh => if known ≤ t.id then some (.first t.id) else none
  | .resting _ => if t.errand.scope?.any w.isCancelled then some (.quit t.id) else none
  | .watching _ => if w.engine.model.isSome then some (.arrive t.id) else none
  | .working _ => none

/-- Puts everybody into the line who can go on without a timer. -/
def gather (r : Rehearsal ρ) : Rehearsal ρ :=
  let r := r.session.tasks.foldl
    (fun r t =>
      match urgentTurn? r.session r.known t with
      | some turn =>
        if r.isInLine t.id || r.foreground == some t.id then r else r.interrupt t.id turn
      | none => r)
    r
  { r with known := r.session.nextTask }

/-! ## Turns -/

/-- Notes the result of a step that was given to a task of its own. -/
def finish (r : Rehearsal ρ) (name : String) (result : ρ) : Rehearsal ρ :=
  { r with spawned := (name, .finished result) :: r.spawned }

/-- What a step does that needs no waiting, and its result. -/
def immediate [Inhabited ρ] (r : Rehearsal ρ) : Step ρ → Rehearsal ρ × ρ
  | .act a report =>
    let before := r.session
    let r := r.happen (.act a)
    (r, report before r.session)
  | .look report => (r, report r.session)
  | .cancel => (r.happen (.act (.cancel r.currentScope)), default)
  | .renew => ({ r with scope := r.scope + 1 }, default)
  | .startLoop d => (r.happen (.act (.startLoop r.currentScope d)), default)
  | .enterBusy => ({ r.happen (.act .enterBusy) with holds := r.holds + 1 }, default)
  | .leaveBusy report =>
    if 0 < r.holds then ({ r.happen (.act .leaveBusy) with holds := r.holds - 1 }, report true)
    else (r, report false)
  | .block message =>
    ({ r.happen (.act (.block message)) with covers := r.covers + 1 }, default)
  | .unblock report =>
    if 0 < r.covers then ({ r.happen (.act .unblock) with covers := r.covers - 1 }, report true)
    else (r, report false)
  | .prepare change => ({ r with backend := change r.backend }, default)
  | _ => (r, default)

/-- A task asks for something. -/
def ask (r : Rehearsal ρ) (q : Request) : Rehearsal ρ × Nat :=
  let id := r.session.nextTask
  ((r.happen (.ask q)).follow id, id)

/-- A step begins in a task of its own. -/
def beginStep [Inhabited ρ] (r : Rehearsal ρ) (name : String) : Step ρ → Rehearsal ρ
  | .ask q report =>
    let (r, id) := r.ask q
    { r with spawned := (name, .task id report) :: r.spawned }
  | .job j report =>
    let (r, id) := r.ask (.job r.currentScope j)
    { r with spawned := (name, .task id report) :: r.spawned }
  | .sleep ms => r.schedule (r.session.timeAfter ms) (.awake name)
  | s =>
    let (r, result) := r.immediate s
    r.finish name result

/-- What has come of a task, once it is over. -/
def outcome? (r : Rehearsal ρ) (id : Nat) : Option Outcome :=
  (r.session.outcomes.find? (·.1 == id)).map (·.2)

/-- Notes the results of the steps whose tasks are over now. -/
def harvest (r : Rehearsal ρ) : Rehearsal ρ :=
  { r with
    spawned := r.spawned.map fun
      | (name, .task id report) =>
        match r.outcome? id with
        | some o => (name, .finished (report o r.session))
        | none => (name, .task id report)
      | other => other }

/-- One turn. -/
def take [Inhabited ρ] (r : Rehearsal ρ) (t : Turn ρ) : Rehearsal ρ :=
  (match t with
    | .begin name s => r.beginStep name s
    | .awake name => r.finish name default
    | .callerAwake => r
    | .first id => (r.happen (.turn id)).follow id
    | .reply id c s => (r.answer id c s).follow id
    | .expire id => (r.happen (.expire id)).follow id
    | .wake id => (r.happen (.wake id)).follow id
    | .quit id => r.happen (.quit id)
    | .arrive id => (r.happen (.arrive id)).follow id).harvest.gather

/-- The turns that follow at once, one after another. -/
def pursue [Inhabited ρ] : Nat → Rehearsal ρ → Rehearsal ρ
  | 0, r => r
  | fuel + 1, r =>
    match r.now with
    | some t => pursue fuel ({ r with now := none }.take t)
    | none => r

/-- Everybody in the line has a turn, also those who join it. -/
def settle [Inhabited ρ] : Nat → Rehearsal ρ → Rehearsal ρ
  | 0, r => r
  | fuel + 1, r =>
    match r.line with
    | [] => r
    | t :: rest => settle fuel (pursue fuel ({ r with line := rest }.take t))

/-- The turn is one of the caller. -/
def isCallers (r : Rehearsal ρ) (t : Turn ρ) : Bool :=
  match t with
  | .callerAwake => true
  | t => t.task?.isSome && t.task? == r.foreground

/-- The time of the next timer. -/
def nextDue? (r : Rehearsal ρ) : Option Nat := (r.timers.map (·.due)).min?

/-- Time passes; a clock that stands still is put back. -/
def pass (r : Rehearsal ρ) (ms : Nat) : Rehearsal ρ :=
  let r := r.happen (.pass ms)
  if r.clockStands then r.happen (.act (.advanceClock (-Int64.ofNat ms))) else r

/-- Time passes up to this time. The turns that are due then go into the line, but the caller's,
which comes at once. -/
def passTo (r : Rehearsal ρ) (due : Nat) : Rehearsal ρ :=
  let r := r.pass (due - r.session.uptime)
  let ripe := (r.timers.filter (·.due ≤ due)).map (·.turn)
  { r with
    timers := r.timers.filter fun x => !(x.due ≤ due)
    line := r.line ++ ripe.filter fun t => !r.isCallers t
    now := ripe.find? r.isCallers }

/-- The caller, who watches for the dashboard, sees it. -/
def notice (r : Rehearsal ρ) : Rehearsal ρ :=
  match r.foreground.bind r.session.task? with
  | some ⟨id, _, .watching _⟩ =>
    if r.session.engine.model.isSome then
      { r with
        timers := r.timers.filter fun x => x.turn.task? != some id
        now := some (.arrive id) }
    else r
  | _ => r

/-- Goes on until the caller's wait is over. -/
def await [Inhabited ρ] (isOver : Rehearsal ρ → Bool) : Nat → Rehearsal ρ → Rehearsal ρ
  | 0, r => r
  | fuel + 1, r =>
    if isOver r then r
    else
      let r := pursue fuel (settle fuel r).notice
      if isOver r then r
      else
        match r.nextDue? with
        | none => r
        | some due => await isOver fuel (pursue fuel (r.passTo due))

/-! ## Steps -/

/-- The result of a step that was given to a task of its own, once it is there. -/
def result? (r : Rehearsal ρ) (name : String) : Option ρ :=
  match (r.spawned.find? (·.1 == name)).map Prod.snd with
  | some (.finished result) => some result
  | _ => none

/-- The caller asks for something and waits for it. -/
def askAndWait [Inhabited ρ] (fuel : Nat) (r : Rehearsal ρ) (q : Request)
    (report : Outcome → Session → ρ) : Rehearsal ρ × ρ :=
  let (r, id) := { r with foreground := some r.session.nextTask }.ask q
  let r := await (fun r => (r.outcome? id).isSome) fuel (pursue fuel r).gather
  ({ r with foreground := none }, report ((r.outcome? id).getD .nothing) r.session)

/-- One step of the caller. -/
def perform [Inhabited ρ] (fuel : Nat) (r : Rehearsal ρ) (s : Step ρ) : Rehearsal ρ × ρ :=
  match s with
  | .ask q report => r.askAndWait fuel q report
  | .job j report => r.askAndWait fuel (.job r.currentScope j) report
  | .sleep ms =>
    let target := r.session.timeAfter ms
    let r := await (fun r => target ≤ r.session.uptime && r.now.isNone) fuel
      (r.schedule target .callerAwake)
    (settle fuel { r with now := none }, default)
  | .settle => (settle fuel r, default)
  | .spawn name s => (settle fuel (r.enqueue (.begin name s)), default)
  | .join name =>
    let r := settle fuel (await (fun r => (r.result? name).isSome) fuel r)
    (r, (r.result? name).getD default)
  | s =>
    let (r, result) := r.immediate s
    (r.gather, result)

/-- One step of the caller, and what is known after it. -/
def stage [Inhabited ρ] (fuel : Nat) (r : Rehearsal ρ) (s : Step ρ) : Rehearsal ρ × Entry ρ :=
  let before := r.session.engine
  let (r, result) := r.perform fuel s
  let after := r.session.engine
  ({ r with calls := [] },
    { result := result, session := r.session
      statusSet := after.statusNotices != before.statusNotices
      modelSet := after.modelNotices != before.modelNotices
      calls := r.calls.reverse })

/-- More turns than anybody has in one rehearsal. -/
def manyTurns : Nat := Nat.pow 2 48

/-- All steps of the caller, and what is known after each. -/
def play [Inhabited ρ] (r : Rehearsal ρ) : List (Step ρ) → List (Entry ρ)
  | [] => []
  | s :: rest =>
    let (r, e) := r.stage manyTurns s
    e :: play r rest

end Rehearsal

end Switchboard
