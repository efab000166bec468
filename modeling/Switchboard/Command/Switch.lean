import Switchboard.Command.Refresh

/-!
# Switching to a profile

A switch has two parts: the backend applies the profile, and then its quota is calibrated. The
screen is covered all the while; the busy gate is held for the first part only. Once the profile is
applied the switch stands, whatever comes of the calibration.
-/

set_option autoImplicit false

namespace Switchboard

/-- A switch that waits for a reply. -/
inductive Switch where
  /-- The backend applies the profile. -/
  | applying (target : String) (mode : Mode) (label : String)
  /-- The quota is calibrated; `model` is what the first part made. -/
  | calibrating (target : String) (mode : Mode) (label : String) (model : Model)
  deriving DecidableEq

namespace Switch

/-- The call that the switch waits for. -/
def call : Switch → Call
  | applying target mode _ => .applyProfile target mode
  | calibrating target mode _ _ => .refreshQuota target mode false

/-- The status text while the profile is applied. -/
def switchingText (label : String) : String := "正在切换账号: " ++ label ++ "..."

/-- The status text once the profile is applied. -/
def switchedText (label : String) : String := "已切换到账号: " ++ label

/-- Begins to switch the current mode to a profile. -/
def begin (e : Engine) (name : Option String) : Engine × Progress Switch ModelResult :=
  match e.target? name with
  | none => (e.setStatus Failure.nothingSelected.message, .done (.error .nothingSelected))
  | some target =>
    let label := e.label target
    (Dashboard.begin (e.block (switchingText label)) (switchingText label),
      .waiting (applying target e.mode label))

/-- Goes on with the calibration, if the profile was applied. -/
def afterApply (target : String) (mode : Mode) (label : String) (e : Engine)
    (reply : Except Failure Snapshot) : Engine × Progress Switch ModelResult :=
  match Dashboard.finish (switchedText label) (switchedText label ++ "失败") e reply with
  | (e, .error f) => (e.unblock, .done (.error f))
  | (e, .ok m) =>
    ((e.remember mode target).block ("正在校准额度: " ++ label ++ "..."),
      .waiting (calibrating target mode label m))

/-- Ends the switch. -/
def afterCalibration (label : String) (m : Model) (e : Engine)
    (reply : Except Failure Snapshot) : Engine × ModelResult :=
  match reply with
  | .ok s =>
    (((e.applySnapshot s false).setStatus (switchedText label)).unblock,
      .ok (e.reconciled s false))
  | .error f =>
    ((e.setStatus (switchedText label ++ "（额度校准失败: " ++ f.message ++ "）")).unblock, .ok m)

/-- Goes on with the switch. -/
def resume : (s : Switch) → Engine → Reply s.call → Engine × Progress Switch ModelResult
  | applying target mode label, e, reply => afterApply target mode label e reply
  | calibrating _ _ label m, e, reply =>
    let (e, r) := afterCalibration label m e reply
    (e, .done r)

end Switch

end Switchboard
