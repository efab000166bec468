import Switchboard.Failure
import Switchboard.Report
import Switchboard.Strategy

/-!
# Calls to the backend

Everything that the program asks of its backend, and what kind of answer each call has. The backend
may take any time to reply, and its reply may be a failure.
-/

set_option autoImplicit false

namespace Switchboard

/-- A question or an order to the backend. -/
inductive Call where
  | fetchDashboard (sync : Bool) (mode : Mode)
  | applyProfile (name : String) (mode : Mode)
  | refreshQuota (name : String) (mode : Mode) (force : Bool)
  | refreshAllQuota (mode : Mode) (force : Bool)
  | reorderProfiles (names : List String)
  | runKeepaliveAll
  | autoSwitchTick (mode : Mode)
  | autoSwitchReset
  | recoverTick (mode : Mode)
  | isHookInstalled
  | installHook
  | getExtensionInfo
  | runPostSwitchAction (strategy : Strategy)
  deriving DecidableEq, Inhabited

namespace Call

/-- What the backend answers to the call. -/
def Answer : Call → Type
  | fetchDashboard _ _ | applyProfile _ _ | refreshQuota _ _ _ | refreshAllQuota _ _
  | reorderProfiles _ | runKeepaliveAll => Snapshot
  | autoSwitchTick _ => AutoSwitchReport
  | autoSwitchReset => Unit
  | recoverTick _ => RecoverReport
  | isHookInstalled => Bool
  | installHook | runPostSwitchAction _ => String
  | getExtensionInfo => ExtensionInfo

end Call

/-- The backend's reply to a call: an answer or a failure. -/
abbrev Reply (c : Call) := Except Failure c.Answer

/-- How far an activity has come: it waits, in the state `s`, for the reply to a call, or it is
done. -/
inductive Progress (σ ρ : Type) where
  | waiting (s : σ)
  | done (r : ρ)

namespace Progress

variable {σ τ ρ : Type}

/-- The same progress of an activity that is a part of another one. -/
def within (f : σ → τ) : Progress σ ρ → Progress τ ρ
  | waiting s => waiting (f s)
  | done r => done r

end Progress

end Switchboard
