import Switchboard.Identity
import Switchboard.Profile

/-!
# Snapshots

A snapshot is what the backend answers: all profiles, the live identity of each mode, and the last
error that it met with an identity. On the wire the two identities are `current` and
`opencodeCurrent`.
-/

set_option autoImplicit false

namespace Switchboard

open Json

/-- The backend's answer to a call for the dashboard. -/
structure Snapshot where
  appName : String := ""
  activeProfile : Option String := none
  identities : ByMode (Option Identity) := .both none
  currentError : Option String := none
  currentErrorMode : Option Mode := none
  lastKeepaliveAt : Option Int64 := none
  profiles : List Profile := []
  deriving DecidableEq, Inhabited

namespace Snapshot

/-- The live identity of a mode. -/
def identity (s : Snapshot) (m : Mode) : Option Identity := s.identities.get m

/-- The first profile with this name. -/
def profile? (s : Snapshot) (name : String) : Option Profile := s.profiles.find? (·.name == name)

/-- Some profile has this name. -/
def contains (s : Snapshot) (name : String) : Bool := (s.profile? name).isSome

/-- The names of the profiles, in their order. -/
def names (s : Snapshot) : List String := s.profiles.map (·.name)

/-- All fields, under the names they have on the wire. -/
def toJson (s : Snapshot) : Json :=
  .object
    [("appName", .string s.appName), ("activeProfile", opt .string s.activeProfile),
      ("current", opt Identity.toJson s.identities.gpt),
      ("opencodeCurrent", opt Identity.toJson s.identities.openCode),
      ("currentError", opt .string s.currentError),
      ("currentErrorMode", opt Mode.toJson s.currentErrorMode),
      ("lastKeepaliveAt", opt int64 s.lastKeepaliveAt),
      ("profiles", list Profile.toJson s.profiles)]

/-- The fields of a snapshot. -/
def slots : List Slot :=
  [slot "appName" Decoder.string, slot "activeProfile" (Decoder.optional Decoder.string),
    slot "current" (Decoder.optional Identity.ofDoc),
    slot "opencodeCurrent" (Decoder.optional Identity.ofDoc),
    slot "currentError" (Decoder.optional Decoder.string),
    slot "currentErrorMode" (Decoder.optional Mode.ofDoc),
    slot "lastKeepaliveAt" (Decoder.optional Decoder.int64),
    slot "profiles" (Decoder.listOf Profile.ofDoc)]

/-- Reads a snapshot; no field is required. -/
def ofDoc : Decoder Snapshot :=
  record slots fun r => do
    return {
      appName := ← r.withDefault "appName" Decoder.string ""
      activeProfile := ← r.optional "activeProfile" Decoder.string
      identities := {
        gpt := ← r.optional "current" Identity.ofDoc
        openCode := ← r.optional "opencodeCurrent" Identity.ofDoc }
      currentError := ← r.optional "currentError" Decoder.string
      currentErrorMode := ← r.optional "currentErrorMode" Mode.ofDoc
      lastKeepaliveAt := ← r.optional "lastKeepaliveAt" Decoder.int64
      profiles := ← r.withDefault "profiles" (Decoder.listOf Profile.ofDoc) [] }

end Snapshot

end Switchboard
