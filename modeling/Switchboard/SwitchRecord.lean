import Switchboard.Mode

/-!
# The record of a switch

One line of the history of automatic switches: from which profile to which, in which mode, and how
it ended.
-/

set_option autoImplicit false

namespace Switchboard

open Json

/-- What is known of a switch when it is written down. -/
structure SwitchEvent where
  mode : Mode
  fromProfile : Option String
  toProfile : String
  result : String
  message : Option String
  deriving DecidableEq, Inhabited

/-- A switch in the history. -/
structure SwitchRecord extends SwitchEvent where
  id : String
  createdAt : String
  deriving DecidableEq, Inhabited

namespace SwitchRecord

/-- All fields, under the names they have on the wire. -/
def toJson (r : SwitchRecord) : Json :=
  .object
    [("id", .string r.id), ("mode", r.mode.toJson), ("from_profile", opt .string r.fromProfile),
      ("to_profile", .string r.toProfile), ("result", .string r.result),
      ("message", opt .string r.message), ("created_at", .string r.createdAt)]

/-- The fields of a record. -/
def slots : List Slot :=
  [slot "id" Decoder.string, slot "mode" Mode.ofDoc,
    slot "from_profile" (Decoder.optional Decoder.string), slot "to_profile" Decoder.string,
    slot "result" Decoder.string, slot "message" (Decoder.optional Decoder.string),
    slot "created_at" Decoder.string]

/-- Reads a record. -/
def ofDoc : Decoder SwitchRecord :=
  record slots fun r => do
    return {
      id := ← r.required "id" Decoder.string
      mode := ← r.required "mode" Mode.ofDoc
      fromProfile := ← r.nullable "from_profile" Decoder.string
      toProfile := ← r.required "to_profile" Decoder.string
      result := ← r.required "result" Decoder.string
      message := ← r.nullable "message" Decoder.string
      createdAt := ← r.required "created_at" Decoder.string }

/-- The digits of a number, filled up with zeros to this width. -/
def digits (width n : Nat) : String :=
  let ds := (Nat.repr n).toList
  String.ofList (List.replicate (width - ds.length) '0' ++ ds)

/-- The record of the switch with this serial number. The id has the length of a UUID, and a later
record bears a later time. -/
def ofEvent (serial : Nat) (e : SwitchEvent) : SwitchRecord :=
  { e with
    id := "00000000-0000-4000-8000-" ++ digits 12 serial
    createdAt := "2026-11-18T12:00:00." ++ digits 20 serial ++ "+00:00" }

end SwitchRecord

end Switchboard
