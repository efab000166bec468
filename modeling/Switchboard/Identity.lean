import Switchboard.Quota

/-!
# Live identities

The account that a tool is signed in with right now, as the backend sees it.
-/

set_option autoImplicit false

namespace Switchboard

open Json

/-- What the backend reads of the account that is live. -/
structure Identity where
  email : Option String := none
  workspaceName : Option String := none
  workspaceId : Option String := none
  displayWorkspace : String := ""
  quota : Quota := {}
  checkedAt : Option String := none
  deriving DecidableEq, Inhabited

namespace Identity

/-- All fields, under the names they have on the wire. -/
def toJson (i : Identity) : Json :=
  .object <|
    [("email", opt .string i.email), ("workspaceName", opt .string i.workspaceName),
      ("workspaceId", opt .string i.workspaceId),
      ("displayWorkspace", .string i.displayWorkspace)] ++
    i.quota.fields ++
    [("checkedAt", opt .string i.checkedAt)]

/-- The fields of an identity. -/
def slots : List Slot :=
  [slot "email" (Decoder.optional Decoder.string),
    slot "workspaceName" (Decoder.optional Decoder.string),
    slot "workspaceId" (Decoder.optional Decoder.string),
    slot "displayWorkspace" Decoder.string] ++
  Quota.slots ++
  [slot "checkedAt" (Decoder.optional Decoder.string)]

/-- Reads an identity; no field is required. -/
def ofDoc : Decoder Identity :=
  record slots fun r => do
    return {
      email := ← r.optional "email" Decoder.string
      workspaceName := ← r.optional "workspaceName" Decoder.string
      workspaceId := ← r.optional "workspaceId" Decoder.string
      displayWorkspace := ← r.withDefault "displayWorkspace" Decoder.string ""
      quota := ← Quota.ofRecord r
      checkedAt := ← r.optional "checkedAt" Decoder.string }

end Identity

end Switchboard
