import Switchboard.Call
import Switchboard.Engine

/-!
# The action after a switch

The action runs by the effective strategy. The hook strategy needs the hook: if that is missing the
action fails, and it never falls back to a restart. `PostSwitch` is the action as such; a user who
asks for it holds the busy gate and reads of it on the status line (`Manual`).
-/

set_option autoImplicit false

namespace Switchboard

/-- The text that an action answers with. -/
abbrev TextResult := Except Failure String

/-- An action that waits for a reply. -/
inductive PostSwitch where
  /-- Is the hook installed? -/
  | checking
  /-- The action runs. -/
  | acting (s : Strategy)
  deriving DecidableEq

namespace PostSwitch

/-- The call that the action waits for. -/
def call : PostSwitch → Call
  | checking => .isHookInstalled
  | acting s => .runPostSwitchAction s

/-- Begins the action by the strategy that is effective. -/
def begin (requested : Strategy) (automatic : Bool) : PostSwitch :=
  match requested.effective automatic with
  | .hook => checking
  | .restart => acting .restart

/-- Goes on with the action. -/
def resume : (p : PostSwitch) → Reply p.call → Progress PostSwitch TextResult
  | checking, .error f => .done (.error f)
  | checking, .ok false => .done (.error .hookMissing)
  | checking, .ok true => .waiting (acting .hook)
  | acting _, reply => .done reply

/-- An action that nobody asked for is begun by asking for the hook. -/
@[simp] theorem begin_automatic (requested : Strategy) : begin requested true = checking := rfl

end PostSwitch

namespace Manual

/-- The status text while the action runs. -/
def startText : Strategy → String
  | .hook => "正在执行方案2（Hook 提速重启 Extension Host）..."
  | .restart => "正在执行方案1（重启 Extension Host）..."

/-- The status text of a failure. -/
def failureText (f : Failure) : String :=
  if f.isOwn then f.message else "执行策略失败: " ++ f.message

/-- Begins the action for a user. -/
def begin (e : Engine) (s : Strategy) : Engine × PostSwitch :=
  (e.enterBusy.setStatus (startText s), .begin s false)

/-- Ends the action for a user. -/
def finish (e : Engine) (r : TextResult) : Engine :=
  match r with
  | .ok text => (e.setStatus text).leaveBusy
  | .error f => (e.setStatus (failureText f)).leaveBusy

end Manual

end Switchboard
