import Switchboard.Command.HookInstall
import Switchboard.Duty.Tick

/-!
# Watching the hook

An update of the extension drops the hook. The version that the hook was last seen with is kept in
the settings; when another one is found, the hook is installed anew, with the busy gate held. The
two questions that find it out are asked whatever the gates are.
-/

set_option autoImplicit false

namespace Switchboard

/-- A run that waits for a reply. -/
inductive HookWatch where
  /-- Is the hook installed? -/
  | checking
  /-- Which version is in use? -/
  | reading
  | installing (previous current : String)
  /-- Which version is in use, now that the hook is installed? -/
  | rereading (previous current message : String)
  deriving DecidableEq

namespace HookWatch

/-- The call that the run waits for. -/
def call : HookWatch → Call
  | checking => .isHookInstalled
  | reading => .getExtensionInfo
  | installing _ _ => .installHook
  | rereading _ _ _ => .getExtensionInfo

/-- What starts the status text after an installation. -/
def found (previous current : String) : String :=
  "检测到 Codex 扩展版本更新（" ++ previous ++ " -> " ++ current ++ "），"

/-- Compares the version in use with the one that the hook was last seen with. -/
def compare (e : Engine) (current : String) : Engine × Progress HookWatch Tick :=
  match e.settings.hookVersion with
  | none => (e.setHookVersion current, .done .idle)
  | some previous =>
    if previous = current then (e, .done .idle)
    else if e.isGated then (e, .done .gated)
    else (e.enterBusy, .waiting (installing previous current))

/-- Ends a run that has tried to install, with a status text unless it was called off. -/
def conclude (e : Engine) (cancelled : Bool) (text : String) : Engine × Tick :=
  if cancelled then (e.leaveBusy, .discarded) else ((e.setStatus text).leaveBusy, .ran)

/-- Takes in the version in use. -/
def afterReading (e : Engine) (cancelled : Bool) (version : Option String) :
    Engine × Progress HookWatch Tick :=
  match version, cancelled with
  | none, _ => (e, .done .idle)
  | some _, true => (e, .done .discarded)
  | some current, false => compare e current

/-- Goes on with the run; the flag says that the duty has been called off by now. -/
def resume :
    (h : HookWatch) → Engine → Bool → Reply h.call → Engine × Progress HookWatch Tick
  | checking, e, cancelled, reply =>
    match reply, cancelled with
    | .ok true, false => (e, .waiting reading)
    | _, _ => (e, .done .idle)
  | reading, e, cancelled, reply => afterReading e cancelled (HookInstall.version? reply)
  | installing previous current, e, cancelled, reply =>
    match reply with
    | .ok message => (e, .waiting (rereading previous current message))
    | .error f =>
      let (e, t) :=
        conclude e cancelled (found previous current ++ "自动更新 Hook 失败: " ++ f.message)
      (e, .done t)
  | rereading previous current message, e, cancelled, reply =>
    let e := e.setHookVersion ((HookInstall.version? reply).getD current)
    let (e, t) :=
      conclude e cancelled
        (found previous current ++ "已自动执行“安装/更新方案2 Hook 提速版”。" ++ message)
    (e, .done t)

end HookWatch

end Switchboard
