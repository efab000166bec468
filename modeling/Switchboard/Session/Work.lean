import Switchboard.Command.Switch
import Switchboard.Duty.AutoSwitch
import Switchboard.Duty.HookWatch
import Switchboard.Duty.KeepaliveRun
import Switchboard.Duty.Poll
import Switchboard.Duty.Recover
import Switchboard.OrderQueue

/-!
# Work in progress

`Work` is everything that can wait for a reply of the backend, and `Outcome` what can come of it.
Duties are done by a crew, under a scope: once the scope is cancelled, the duty is called off. The
scopes of automatic switching and keepalive lie within the root scope of the runtime.
-/

set_option autoImplicit false

namespace Switchboard

/-- Two crews do the duties: the standing one of the runtime, and one that a caller leads by
hand. -/
inductive CrewId where
  | standing
  | manual
  deriving DecidableEq, Repr, Inhabited

/-- What can be cancelled. -/
inductive Scope where
  /-- The runtime as a whole. -/
  | root
  /-- Automatic switching, as it was turned on some time. -/
  | autoSwitch (serial : Nat)
  /-- Keepalive, as it was turned on some time. -/
  | keepalive (serial : Nat)
  /-- What a caller leads by hand. -/
  | manual (serial : Nat)
  deriving DecidableEq, Repr, Inhabited

/-- The scope is cancelled together with the root. -/
def Scope.isInRoot : Scope → Bool
  | manual _ => false
  | _ => true

/-- Who does a duty, and under which scope. -/
structure Shift where
  crew : CrewId
  scope : Scope
  deriving DecidableEq, Inhabited

/-- A run of a duty that is to be done. -/
inductive Job where
  | poll
  | autoSwitch
  | recover
  | hookWatch
  | keepalive (reason : Keepalive.Reason)
  deriving DecidableEq, Inhabited

/-- The duty that a run is one of. -/
def Job.duty : Job → Duty
  | poll => .poll
  | autoSwitch => .autoSwitch
  | recover => .recover
  | hookWatch => .hookWatch
  | keepalive _ => .keepalive

/-- The start of the runtime, which waits for a reply. It goes by the settings that it was begun
with. -/
inductive Startup where
  | loading (settings : Settings) (l : Load)
  | refreshing (settings : Settings) (r : Refresh)
  | resetting (settings : Settings)
  deriving DecidableEq

/-- The call that the start waits for. -/
def Startup.call : Startup → Call
  | loading _ l => l.call
  | refreshing _ r => r.call
  | resetting _ => .autoSwitchReset

/-- What waits for a reply. -/
inductive Work where
  | load (l : Load)
  | refresh (r : Refresh)
  | switch (s : Switch)
  /-- The action after a switch, for a user. -/
  | manualAction (p : PostSwitch)
  /-- The action after a switch, and nothing else. -/
  | bareAction (p : PostSwitch)
  | hookInstall (h : HookInstall)
  | flush (crew : CrewId) (f : Flush)
  | poll (s : Shift) (p : Poll)
  | autoSwitch (s : Shift) (a : AutoSwitch)
  | recover (s : Shift) (r : Recover)
  | hookWatch (s : Shift) (h : HookWatch)
  | keepalive (s : Shift) (k : KeepaliveRun)
  | startup (s : Startup)
  /-- Automatic switching is being turned off. -/
  | turnOff
  /-- The runtime is being stopped. -/
  | stop
  deriving DecidableEq

namespace Work

/-- The call whose reply the work waits for. -/
def call : Work → Call
  | load l => l.call
  | refresh r => r.call
  | switch s => s.call
  | manualAction p => p.call
  | bareAction p => p.call
  | hookInstall h => h.call
  | flush _ f => f.call
  | poll _ p => p.call
  | autoSwitch _ a => a.call
  | recover _ r => r.call
  | hookWatch _ h => h.call
  | keepalive _ k => k.call
  | startup s => s.call
  | turnOff => .autoSwitchReset
  | stop => .autoSwitchReset

/-- The longest time that the work waits for the reply. -/
def limit? : Work → Option UInt64
  | load l | startup (.loading _ l) | flush _ (.rereading l) => l.limit
  | _ => none

end Work

/-- What has come of a piece of work. -/
inductive Outcome where
  | nothing
  | model (r : ModelResult)
  | text (r : TextResult)
  | poll (o : Poll.Outcome)
  | tick (t : Tick)
  /-- The names of the profiles, if there is a model. -/
  | names (n : Option (List String))
  deriving Inhabited

end Switchboard
