import Switchboard.Command.PostSwitch

/-!
# Installing the hook

The hook is installed or brought up to date, and the extension version that it was installed for is
noted. The busy gate is held all the while.
-/

set_option autoImplicit false

namespace Switchboard

/-- An installation that waits for a reply. -/
inductive HookInstall where
  | installing
  /-- The hook is installed; `message` is what the backend said. -/
  | reading (message : String)
  deriving DecidableEq

namespace HookInstall

/-- The call that the installation waits for. -/
def call : HookInstall → Call
  | installing => .installHook
  | reading _ => .getExtensionInfo

/-- Begins the installation. -/
def begin (e : Engine) : Engine × HookInstall :=
  (e.enterBusy.setStatus "正在安装/更新方案2 Hook 提速版...", installing)

/-- The version in a reply, if there is one. -/
def version? (reply : Except Failure ExtensionInfo) : Option String :=
  match reply with
  | .ok info => info.currentVersion
  | .error _ => none

/-- Goes on with the installation. A version that cannot be read leaves the one noted before. -/
def resume : (h : HookInstall) → Engine → Reply h.call → Engine × Progress HookInstall TextResult
  | installing, e, .error f =>
    ((e.setStatus ("安装 Hook 失败: " ++ f.message)).leaveBusy, .done (.error f))
  | installing, e, .ok message => (e, .waiting (reading message))
  | reading message, e, reply =>
    let e := match version? reply with
      | some v => e.setHookVersion v
      | none => e
    ((e.setStatus message).leaveBusy, .done (.ok message))

end HookInstall

end Switchboard
