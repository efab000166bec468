import Switchboard.Backoff
import Switchboard.Call
import Switchboard.Duty.Tick
import Switchboard.Engine

/-!
# Polling

A poll fetches the dashboard, unless a gate is closed or its time has not come, and replaces the
model if something has changed. A dashboard is dropped when polling was called off or the mode has
changed in the meantime; for the times of later polls it counts as a success all the same.
-/

set_option autoImplicit false

namespace Switchboard

/-- A poll that waits for the dashboard of the mode it was begun in. -/
structure Poll where
  mode : Mode
  deriving DecidableEq

namespace Poll

/-- Why nothing was fetched. -/
inductive Skip where
  | busy
  | blocking
  | inFlight
  | notDue
  deriving DecidableEq, Repr

/-- What a poll came to. -/
inductive Outcome where
  | skipped (reason : Skip)
  | unchanged
  | applied
  | discarded
  | failed (retry : UInt64)
  deriving DecidableEq

/-- The call that the poll waits for. -/
def call (p : Poll) : Call := .fetchDashboard false p.mode

/-- The gate that keeps polls off. -/
def barrier? (e : Engine) : Option Skip :=
  if e.busy.isBusy then some .busy
  else if e.blocking.isBlocking then some .blocking
  else none

/-- Begins a poll, and puts the next one off by the shortest time between two, unless the time of
this one has not come. -/
def begin (e : Engine) (b : Backoff) : Backoff × Progress Poll Outcome :=
  if e.now < b.nextFetchAt then (b, .done (.skipped .notDue))
  else ({ b with nextFetchAt := e.now + e.config.liveFetchMin.toInt64 }, .waiting ⟨e.mode⟩)

/-- The snapshot bears an error, if only one of an identity. -/
def hasError (s : Snapshot) : Bool := s.currentError.any fun text => !Text.isBlankText text

/-- Ends the poll. -/
def finish (p : Poll) (e : Engine) (b : Backoff) (cancelled : Bool)
    (reply : Except Failure Snapshot) : Engine × Backoff × Outcome :=
  match reply with
  | .error _ =>
    let (b, retry) := b.recordFailure e.config e.now
    (e, b, .failed retry)
  | .ok s =>
    let b := b.recordSuccess e.config (hasError s) e.now
    if cancelled || e.mode != p.mode then (e, b, .discarded)
    else (e.applyIfChanged s, b, if e.differs s then .applied else .unchanged)

end Poll

end Switchboard
