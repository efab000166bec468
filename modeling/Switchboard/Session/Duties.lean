import Switchboard.Session.State

/-!
# Runs of duties

A run begins unless a gate is closed or another run of the same duty is under way in the crew, and
it is in flight until it is done: `land` ends the flight on every way out.
-/

set_option autoImplicit false

namespace Switchboard.Session

/-- What keeps a run from being made. The hook watch asks nobody. -/
def barrier? (e : Engine) : Job → Option Outcome
  | .poll => (Poll.barrier? e).map fun reason => .poll (.skipped reason)
  | .hookWatch => none
  | _ => if e.isGated then some (.tick .gated) else none

/-- What a run comes to when another one is under way. -/
def inFlight : Job → Outcome
  | .poll => .poll (.skipped .inFlight)
  | _ => .tick .inFlight

/-- Ends the flight of a run that is done. -/
def land (w : Session) (crew : CrewId) (d : Duty) :
    Progress Work Outcome → Session × Progress Work Outcome
  | .waiting k => (w, .waiting k)
  | .done o => (w.setFlight crew d ⟨false⟩, .done o)

/-- The session with the polling times of a crew changed. -/
def setBackoff (w : Session) (id : CrewId) (b : Backoff) : Session :=
  w.setCrew id { w.crew id with backoff := b }

/-- Begins a run whose flight has begun. -/
def takeOff (w : Session) (s : Shift) : Job → Session × Progress Work Outcome
  | .poll =>
    match Poll.begin w.engine (w.crew s.crew).backoff with
    | (b, .waiting p) => (w.setBackoff s.crew b, .waiting (.poll s p))
    | (b, .done o) => (w.setBackoff s.crew b).land s.crew .poll (.done (.poll o))
  | .autoSwitch => (w, .waiting (.autoSwitch s (.begin w.engine)))
  | .recover => (w, .waiting (.recover s (.begin w.engine)))
  | .hookWatch => (w, .waiting (.hookWatch s .checking))
  | .keepalive reason => (w, .waiting (.keepalive s ⟨reason⟩))

/-- Makes a run of a duty, up to its first call. -/
def beginJob (w : Session) (s : Shift) (j : Job) : Session × Progress Work Outcome :=
  match barrier? w.engine j with
  | some o => (w, .done o)
  | none =>
    match ((w.crew s.crew).flights.get j.duty).tryBegin? with
    | none => (w, .done (inFlight j))
    | some flight => (w.setFlight s.crew j.duty flight).takeOff s j

/-- Goes on with a run whose step is taken, `f` giving it its place among all work. -/
def carryOn {σ : Type} (w : Session) (s : Shift) (d : Duty) (f : σ → Work)
    (r : Engine × Progress σ Tick) : Session × Progress Work Outcome :=
  match r with
  | (e, .waiting k) => ({ w with engine := e }, .waiting (f k))
  | (e, .done t) => { w with engine := e }.land s.crew d (.done (.tick t))

/-- Ends a poll. -/
def resumePoll (w : Session) (s : Shift) (p : Poll) (reply : Reply p.call) :
    Session × Progress Work Outcome :=
  let (e, b, o) := p.finish w.engine (w.crew s.crew).backoff (w.isCancelled s.scope) reply
  ({ w with engine := e }.setBackoff s.crew b).land s.crew .poll (.done (.poll o))

/-- Goes on with a run of automatic switching. -/
def resumeAutoSwitch (w : Session) (s : Shift) (a : AutoSwitch) (reply : Reply a.call) :
    Session × Progress Work Outcome :=
  w.carryOn s .autoSwitch (.autoSwitch s) (a.resume w.engine (w.isCancelled s.scope) reply)

/-- Goes on with a run of the hook watch. -/
def resumeHookWatch (w : Session) (s : Shift) (h : HookWatch) (reply : Reply h.call) :
    Session × Progress Work Outcome :=
  w.carryOn s .hookWatch (.hookWatch s) (h.resume w.engine (w.isCancelled s.scope) reply)

/-- Ends a run that has a single call. -/
def finishRun (w : Session) (s : Shift) (d : Duty) (r : Engine × Tick) :
    Session × Progress Work Outcome :=
  { w with engine := r.1 }.land s.crew d (.done (.tick r.2))

end Switchboard.Session
