import Switchboard.Call
import Switchboard.Engine

/-!
# Loading the dashboard

The busy gate is held from the start to the end. A load may have a time limit, after which it fails
and a reply that comes later is not looked at.
-/

set_option autoImplicit false

namespace Switchboard

/-- What a command makes of the reply to a call for the dashboard. -/
abbrev ModelResult := Except Failure Model

/-- A load that waits for the dashboard. -/
structure Load where
  sync : Bool
  mode : Mode
  /-- The status text of a success. -/
  message : Option String
  /-- The longest time, in milliseconds, that the load waits. -/
  limit : Option UInt64 := none
  deriving DecidableEq

namespace Load

/-- The call that the load waits for. -/
def call (l : Load) : Call := .fetchDashboard l.sync l.mode

/-- Begins a load in the current mode. -/
def begin (e : Engine) (sync : Bool) (message : Option String) (limit : Option UInt64) :
    Engine × Load :=
  (e.enterBusy, ⟨sync, e.mode, message, limit⟩)

/-- The failure when the time limit has passed. -/
def timeout (limit : UInt64) : Failure := .timedOut "加载账号" (max (limit.toNat / 1000) 1)

/-- Ends the load. An identity error of the mode the load was begun in has the last word on the
status line. -/
def finish (l : Load) (e : Engine) (reply : Except Failure Snapshot) : Engine × ModelResult :=
  match reply with
  | .error f => ((e.setStatus ("加载失败: " ++ f.message)).leaveBusy, .error f)
  | .ok s =>
    let m := e.reconciled s false
    let e := e.applySnapshot s false
    let e := match l.message with
      | some text => e.setStatus text
      | none => e
    let e := match IdentityError.shown m.snapshot l.mode with
      | some detail => e.setStatus ("当前账号读取失败: " ++ detail)
      | none => e
    (e.leaveBusy, .ok m)

end Load

end Switchboard
