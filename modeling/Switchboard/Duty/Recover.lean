import Switchboard.Call
import Switchboard.Duty.Tick
import Switchboard.Engine

/-!
# Thread recovery

The backend is asked to get stuck sessions going again. Only what it has done for good reaches the
status line; failures pass in silence.
-/

set_option autoImplicit false

namespace Switchboard

/-- A run that waits for the report. -/
structure Recover where
  mode : Mode
  deriving DecidableEq

namespace Recover

/-- The call that the run waits for. -/
def call (r : Recover) : Call := .recoverTick r.mode

/-- Begins a run. -/
def begin (e : Engine) : Recover := ⟨e.mode⟩

/-- What a report says on the status line, if it is worth it. -/
def text? (r : RecoverReport) : Option String :=
  (Text.filled? r.message).filter fun _ => r.isDefinitive

/-- Ends the run. -/
def finish (e : Engine) (cancelled : Bool) (reply : Except Failure RecoverReport) :
    Engine × Tick :=
  match cancelled, reply with
  | true, _ => (e, .discarded)
  | false, .error _ => (e, .ran)
  | false, .ok r =>
    match text? r with
    | some text => (e.setStatus text, .ran)
    | none => (e, .ran)

end Recover

end Switchboard
