import Switchboard.Session.Resume

/-!
# A scripted backend

A backend for rehearsals: it answers from a script, and where that says nothing, from a small state
of its own. A scripted reply may come late, and may do things to the session before it comes.
-/

set_option autoImplicit false

namespace Switchboard

/-- The methods of the backend. -/
inductive Method where
  | fetchDashboard
  | applyProfile
  | refreshQuota
  | refreshAllQuota
  | reorderProfiles
  | runKeepaliveAll
  | autoSwitchTick
  | autoSwitchReset
  | recoverTick
  | isHookInstalled
  | installHook
  | getExtensionInfo
  | runPostSwitchAction
  deriving DecidableEq, Repr

/-- The method that a call is of. -/
def Call.method : Call → Method
  | fetchDashboard _ _ => .fetchDashboard
  | applyProfile _ _ => .applyProfile
  | refreshQuota _ _ _ => .refreshQuota
  | refreshAllQuota _ _ => .refreshAllQuota
  | reorderProfiles _ => .reorderProfiles
  | runKeepaliveAll => .runKeepaliveAll
  | autoSwitchTick _ => .autoSwitchTick
  | autoSwitchReset => .autoSwitchReset
  | recoverTick _ => .recoverTick
  | isHookInstalled => .isHookInstalled
  | installHook => .installHook
  | getExtensionInfo => .getExtensionInfo
  | runPostSwitchAction _ => .runPostSwitchAction

/-- An answer to a call of any method. -/
inductive Value where
  | dashboard (s : Snapshot)
  | autoSwitch (r : AutoSwitchReport)
  | recover (r : RecoverReport)
  | flag (b : Bool)
  | text (s : String)
  | info (i : ExtensionInfo)
  | nothing
  deriving DecidableEq

/-- The value as an answer to the call, if it is of the right kind. -/
def Value.answer? : Value → (c : Call) → Option c.Answer
  | dashboard s, .fetchDashboard _ _ => some s
  | dashboard s, .applyProfile _ _ => some s
  | dashboard s, .refreshQuota _ _ _ => some s
  | dashboard s, .refreshAllQuota _ _ => some s
  | dashboard s, .reorderProfiles _ => some s
  | dashboard s, .runKeepaliveAll => some s
  | autoSwitch r, .autoSwitchTick _ => some r
  | nothing, .autoSwitchReset => some ()
  | recover r, .recoverTick _ => some r
  | flag b, .isHookInstalled => some b
  | text s, .installHook => some s
  | text s, .runPostSwitchAction _ => some s
  | info i, .getExtensionInfo => some i
  | _, _ => none

/-- What a scripted reply does to the session before it comes. -/
inductive Effect where
  /-- The caller's scope is cancelled. -/
  | cancel
  | act (a : Action)
  deriving DecidableEq

/-- A reply of the script. -/
structure ScriptedReply where
  /-- How late the reply comes, in milliseconds. -/
  delay : Nat := 0
  effects : List Effect := []
  /-- The reply, if it is not left to the backend. -/
  result : Option (Except Failure Value) := none

/-- The backend of a rehearsal. -/
structure Backend where
  dashboard : Snapshot := {}
  hasHook : Bool := false
  version : Option String := none
  script : List (Method × ScriptedReply) := []

namespace Backend

/-- Takes the next reply that is scripted for a method. -/
def take (b : Backend) (m : Method) : Backend × ScriptedReply :=
  match b.script.find? (·.1 = m) with
  | some (_, r) => ({ b with script := b.script.eraseP (·.1 = m) }, r)
  | none => (b, {})

/-- The backend's own answer to a call. -/
def answer (b : Backend) : (c : Call) → Backend × c.Answer
  | .fetchDashboard _ _ | .refreshQuota _ _ _ | .refreshAllQuota _ _ | .runKeepaliveAll =>
    (b, b.dashboard)
  | .applyProfile name _ =>
    let s := { b.dashboard with activeProfile := some name }
    ({ b with dashboard := s }, s)
  | .reorderProfiles names =>
    let s := { b.dashboard with profiles := arrange b.dashboard.profiles names }
    ({ b with dashboard := s }, s)
  | .autoSwitchTick _ => (b, { action := "idle" })
  | .autoSwitchReset => (b, ())
  | .recoverTick _ => (b, { action := "idle" })
  | .isHookInstalled => (b, b.hasHook)
  | .installHook => (b, "Hook 已安装")
  | .getExtensionInfo => (b, ⟨b.version, b.version.toList⟩)
  | .runPostSwitchAction s => (b, "已执行 " ++ s.name)

/-- The reply to a call, scripted or the backend's own. -/
def reply (b : Backend) (c : Call) (r : ScriptedReply) : Backend × Reply c :=
  match r.result with
  | some (.error f) => (b, .error f)
  | some (.ok v) =>
    match v.answer? c with
    | some a => (b, .ok a)
    | none => (b, .error (.reported "no such answer"))
  | none => let (b, a) := b.answer c; (b, .ok a)

/-- A hook that was installed without a failure is there. -/
def noteInstall (b : Backend) (c : Call) (r : Reply c) : Backend :=
  match c, r with
  | .installHook, .ok _ => { b with hasHook := true }
  | _, _ => b

end Backend

end Switchboard
