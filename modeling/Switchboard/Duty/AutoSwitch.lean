import Switchboard.Command.PostSwitch
import Switchboard.Duty.Tick

/-!
# Automatic switching

The backend is asked whether it has switched to another account. If it has, the switch is finished
here: the profile is remembered and selected, and then, in GPT mode, the action after a switch runs;
in OpenCode mode the profile is applied once more, to calibrate the local credentials. Every switch
that names its profile is recorded in the history with what became of it.
-/

set_option autoImplicit false

namespace Switchboard

/-- A switch of the backend that is being finished. -/
structure Switched where
  /-- The mode that the backend was asked about. -/
  mode : Mode
  /-- The profile that was in use before. -/
  previous : Option String
  /-- The profile that is in use now, if the backend has named it. -/
  target : Option String
  /-- What the backend says about the switch. -/
  base : String
  deriving DecidableEq

/-- A run that waits for a reply. -/
inductive AutoSwitch where
  | ticking (mode : Mode)
  /-- The action after the switch is under way. -/
  | acting (s : Switched) (p : PostSwitch)
  /-- The profile is applied once more. -/
  | calibrating (s : Switched) (name : String)
  deriving DecidableEq

namespace Switched

/-- How a switch ended, as the history has it. -/
inductive Result where
  | switched
  | postActionFailed
  deriving DecidableEq

/-- The name in the history. -/
def Result.name : Result → String
  | switched => "switched"
  | postActionFailed => "post_action_failed"

/-- Records the switch in the history, if its profile is known. -/
def record (s : Switched) (e : Engine) (r : Result) (message : Option String) : Engine :=
  match s.target with
  | none => e
  | some target => e.recordSwitch ⟨s.mode, s.previous, target, r.name, message⟩

/-- What the run came to. -/
def tick (cancelled : Bool) : Tick := if cancelled then .discarded else .ran

/-- Shows a status text, unless automatic switching was called off. -/
def report (e : Engine) (cancelled : Bool) (text : String) : Engine :=
  if cancelled then e else e.setStatus text

/-- What helps a user whose action has failed. -/
def tip : String := "方案2提速失败，可在设置中心切换到方案1（直接重启 Extension Host）。"

/-- Finishes the switch after the action. -/
def finishAction (s : Switched) (e : Engine) (cancelled : Bool) (r : TextResult) : Engine :=
  match r with
  | .ok message =>
    s.record (report e cancelled (s.base ++ " " ++ message)) .switched (some message)
  | .error f =>
    s.record (report e cancelled (s.base ++ " 切后动作失败: " ++ f.message ++ "。" ++ tip))
      .postActionFailed (some f.message)

/-- Finishes the switch after the calibration. -/
def finishCalibration (s : Switched) (e : Engine) (cancelled : Bool)
    (reply : Except Failure Snapshot) : Engine :=
  match reply with
  | .ok snapshot =>
    let e := if cancelled then e else e.applySnapshot snapshot false
    s.record (report e cancelled (s.base ++ "（已自动执行一次手动切号校准）")) .switched none
  | .error f =>
    s.record (report e cancelled (s.base ++ " 自动切后校准失败: " ++ f.message))
      .postActionFailed (some f.message)

end Switched

namespace AutoSwitch

/-- The call that the run waits for. -/
def call : AutoSwitch → Call
  | ticking mode => .autoSwitchTick mode
  | acting _ p => p.call
  | calibrating _ name => .applyProfile name .openCode

/-- Begins a run. -/
def begin (e : Engine) : AutoSwitch := ticking e.mode

/-- What the report says on the status line, if it is worth it. -/
def routineText? (r : AutoSwitchReport) : Option String :=
  (Text.filled? r.message).filter fun _ => !r.isQuiet

/-- The switch that a report tells of. -/
def switchedOf (e : Engine) (mode : Mode) (r : AutoSwitchReport) : Switched where
  mode := mode
  previous := e.remembered mode <|> e.model.bind (·.current)
  target := Text.filled? r.switchedTo
  base := (Text.filled? r.message).getD "已切换账号。"

/-- Remembers and selects the profile that is in use now. -/
def adopt (s : Switched) (e : Engine) : Engine :=
  match s.target with
  | none => e
  | some name => (e.remember s.mode name).select name

/-- Begins to finish a switch. -/
def pursue (s : Switched) (e : Engine) : Engine × Progress AutoSwitch Tick :=
  match s.mode, s.target with
  | .gpt, _ => (e, .waiting (acting s (.begin e.settings.strategy true)))
  | .openCode, some name => (e, .waiting (calibrating s name))
  | .openCode, none => (e.setStatus s.base, .done .ran)

/-- Takes in a report. -/
def takeReport (mode : Mode) (e : Engine) (r : AutoSwitchReport) :
    Engine × Progress AutoSwitch Tick :=
  let s := switchedOf e mode r
  let e := match r.dashboard with
    | some snapshot => e.applySnapshot snapshot false
    | none => e
  if r.switched then pursue s (adopt s e)
  else
    match routineText? r with
    | some text => (e.setStatus text, .done .ran)
    | none => (e, .done .ran)

/-- Takes in the reply to the question whether the backend has switched. -/
def afterTick (mode : Mode) (e : Engine) (cancelled : Bool)
    (reply : Except Failure AutoSwitchReport) : Engine × Progress AutoSwitch Tick :=
  match cancelled, reply with
  | true, _ => (e, .done .discarded)
  | false, .error f => (e.setStatus ("无感换号检测失败: " ++ f.message), .done .ran)
  | false, .ok r => takeReport mode e r

/-- Takes in how far the action has come. -/
def afterAction (s : Switched) (e : Engine) (cancelled : Bool) :
    Progress PostSwitch TextResult → Engine × Progress AutoSwitch Tick
  | .waiting p => (e, .waiting (acting s p))
  | .done r => (s.finishAction e cancelled r, .done (Switched.tick cancelled))

/-- Goes on with the run; the flag says that the duty has been called off by now. -/
def resume :
    (a : AutoSwitch) → Engine → Bool → Reply a.call → Engine × Progress AutoSwitch Tick
  | ticking mode, e, cancelled, reply => afterTick mode e cancelled reply
  | acting s p, e, cancelled, reply => afterAction s e cancelled (p.resume reply)
  | calibrating s _, e, cancelled, reply =>
    (s.finishCalibration e cancelled reply, .done (Switched.tick cancelled))

end AutoSwitch

end Switchboard
