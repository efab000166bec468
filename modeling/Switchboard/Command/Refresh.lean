import Switchboard.Command.Load

/-!
# Refreshing quotas and tokens

A refresh asks the backend for the quota of one profile or of all, or to renew all tokens, which
keeps the accounts alive. `Dashboard.finish` is what a command does with a dashboard that a status
text of its own belongs to.
-/

set_option autoImplicit false

namespace Switchboard

/-- The profile that a command is about: the one named, or else the selected one. -/
def Engine.target? (e : Engine) (name : Option String) : Option String :=
  Text.filled? name <|> e.selected

namespace Dashboard

/-- Begins a command that brings a dashboard. -/
def begin (e : Engine) (before : String) : Engine := e.enterBusy.setStatus before

/-- Ends a command that brings a dashboard, with the status text of a success or what starts that
of a failure. -/
def finish (success failure : String) (e : Engine) (reply : Except Failure Snapshot) :
    Engine × ModelResult :=
  match reply with
  | .ok s => (((e.applySnapshot s false).setStatus success).leaveBusy, .ok (e.reconciled s false))
  | .error f => ((e.setStatus (failure ++ ": " ++ f.message)).leaveBusy, .error f)

end Dashboard

/-- A refresh that waits for the dashboard. -/
inductive Refresh where
  /-- The quota of one profile, with the status text of a success. -/
  | one (name : String) (mode : Mode) (force : Bool) (success : String)
  /-- The quotas of all profiles. -/
  | all (mode : Mode) (force : Bool)
  /-- The tokens of all profiles. -/
  | tokens
  deriving DecidableEq

namespace Refresh

/-- The call that the refresh waits for. -/
def call : Refresh → Call
  | one name mode force _ => .refreshQuota name mode force
  | all mode force => .refreshAllQuota mode force
  | tokens => .runKeepaliveAll

/-- Begins to refresh the quota of one profile. -/
def begin (e : Engine) (name : Option String) (force : Bool) :
    Engine × Progress Refresh ModelResult :=
  match e.target? name with
  | none => (e.setStatus Failure.nothingSelected.message, .done (.error .nothingSelected))
  | some target =>
    let label := e.label target
    (Dashboard.begin e ("正在刷新额度: " ++ label ++ "..."),
      .waiting (one target e.mode force ("已刷新额度: " ++ label)))

/-- Begins to refresh all quotas. -/
def beginAll (e : Engine) (force : Bool) : Engine × Refresh :=
  (Dashboard.begin e "正在刷新全部账号额度...", all e.mode force)

/-- Begins to renew all tokens. -/
def beginTokens (e : Engine) : Engine × Refresh :=
  (Dashboard.begin e "正在手动保活（刷新全部账号 Token）...", tokens)

/-- Ends the refresh. -/
def finish : (r : Refresh) → Engine → Reply r.call → Engine × ModelResult
  | one _ _ _ success, e, reply => Dashboard.finish success (success ++ "失败") e reply
  | all _ _, e, reply => Dashboard.finish "已刷新全部账号额度" "已刷新全部账号额度失败" e reply
  | tokens, e, reply =>
    Dashboard.finish "手动保活完成，全部账号 Token 已刷新。" "手动保活失败" e reply

end Refresh

end Switchboard
