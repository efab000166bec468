import Switchboard.Snapshot

/-!
# Reports of the backend

What the backend answers to a tick of the two background services, and what it knows about the
installed extension.
-/

set_option autoImplicit false

namespace Switchboard

open Json

/-- The answer to a tick of automatic switching. -/
structure AutoSwitchReport where
  action : String
  message : Option String := none
  switchedTo : Option String := none
  reloadTriggered : Bool := false
  pendingReason : Option String := none
  dashboard : Option Snapshot := none
  deriving DecidableEq, Inhabited

namespace AutoSwitchReport

/-- Another account is in use now. -/
def switched (r : AutoSwitchReport) : Bool := r.action == "switched"

/-- A routine outcome, which is not worth a status text. -/
def isQuiet (r : AutoSwitchReport) : Bool :=
  r.action == "idle" || r.action == "cooldown" || r.action == "no_candidate_cooldown"

/-- All fields, under the names they have on the wire. -/
def toJson (r : AutoSwitchReport) : Json :=
  .object
    [("action", .string r.action), ("message", opt .string r.message),
      ("switchedTo", opt .string r.switchedTo), ("reloadTriggered", .bool r.reloadTriggered),
      ("pendingReason", opt .string r.pendingReason),
      ("dashboard", opt Snapshot.toJson r.dashboard)]

/-- The fields of the report. -/
def slots : List Slot :=
  [slot "action" Decoder.string, slot "message" (Decoder.optional Decoder.string),
    slot "switchedTo" (Decoder.optional Decoder.string), slot "reloadTriggered" Decoder.boolean,
    slot "pendingReason" (Decoder.optional Decoder.string),
    slot "dashboard" (Decoder.optional Snapshot.ofDoc)]

/-- Reads a report; only the action is required. -/
def ofDoc : Decoder AutoSwitchReport :=
  record slots fun r => do
    return {
      action := ← r.required "action" Decoder.string
      message := ← r.optional "message" Decoder.string
      switchedTo := ← r.optional "switchedTo" Decoder.string
      reloadTriggered := ← r.withDefault "reloadTriggered" Decoder.boolean false
      pendingReason := ← r.optional "pendingReason" Decoder.string
      dashboard := ← r.optional "dashboard" Snapshot.ofDoc }

end AutoSwitchReport

/-- The answer to a tick of thread recovery. -/
structure RecoverReport where
  action : String
  message : Option String := none
  deriving DecidableEq, Inhabited

namespace RecoverReport

/-- A thread was recovered, or could not be. -/
def isDefinitive (r : RecoverReport) : Bool :=
  r.action == "thread_recovered" || r.action == "thread_recover_failed"

/-- All fields, under the names they have on the wire. -/
def toJson (r : RecoverReport) : Json :=
  .object [("action", .string r.action), ("message", opt .string r.message)]

/-- Reads a report; only the action is required. -/
def ofDoc : Decoder RecoverReport :=
  record [slot "action" Decoder.string, slot "message" (Decoder.optional Decoder.string)]
    fun r => do
      return {
        action := ← r.required "action" Decoder.string
        message := ← r.optional "message" Decoder.string }

end RecoverReport

/-- The versions of the extension: the one in use and all that are installed. -/
structure ExtensionInfo where
  currentVersion : Option String := none
  allVersions : List String := []
  deriving DecidableEq, Inhabited

namespace ExtensionInfo

/-- All fields, under the names they have on the wire. -/
def toJson (e : ExtensionInfo) : Json :=
  .object
    [("currentVersion", opt .string e.currentVersion),
      ("allVersions", list .string e.allVersions)]

/-- Reads what is known; no field is required. -/
def ofDoc : Decoder ExtensionInfo :=
  record
    [slot "currentVersion" (Decoder.optional Decoder.string),
      slot "allVersions" (Decoder.listOf Decoder.string)]
    fun r => do
      return {
        currentVersion := ← r.optional "currentVersion" Decoder.string
        allVersions := ← r.withDefault "allVersions" (Decoder.listOf Decoder.string) [] }

end ExtensionInfo

end Switchboard
