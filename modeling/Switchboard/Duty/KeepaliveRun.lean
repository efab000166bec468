import Switchboard.Call
import Switchboard.Duty.Tick
import Switchboard.Engine
import Switchboard.Keepalive.Plan

/-!
# Runs of keepalive

A run has the backend renew all tokens, for the reason that it was planned for.
-/

set_option autoImplicit false

namespace Switchboard

/-- A run that waits for the dashboard. -/
structure KeepaliveRun where
  reason : Keepalive.Reason
  deriving DecidableEq

namespace KeepaliveRun

/-- The call that the run waits for. -/
def call (_ : KeepaliveRun) : Call := .runKeepaliveAll

/-- Ends the run. -/
def finish (k : KeepaliveRun) (e : Engine) (cancelled : Bool) (reply : Except Failure Snapshot) :
    Engine × Tick :=
  match cancelled, reply with
  | true, _ => (e, .discarded)
  | false, .ok s =>
    ((e.applySnapshot s false).setStatus (Keepalive.successText e.config k.reason), .ran)
  | false, .error f =>
    (e.setStatus (Keepalive.failureText k.reason ++ ": " ++ f.message), .ran)

/-- The plan for the first run, by the last run that the model knows of. -/
def firstPlan (e : Engine) (checkStartup : Bool) : Draw Keepalive.Plan :=
  Keepalive.firstPlan e.config (e.model.bind (·.snapshot.lastKeepaliveAt)) e.now checkStartup

end KeepaliveRun

end Switchboard
