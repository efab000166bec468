import Switchboard.Mode
import Switchboard.Quota

/-!
# Profiles

A profile is a stored account. Its name is its key, though nothing keeps two profiles from sharing
one.
-/

set_option autoImplicit false

namespace Switchboard

open Json

/-- The modes that an account can be used in. -/
structure Support where
  gpt : Bool := true
  openCode : Bool := false
  deriving DecidableEq, Inhabited

namespace Support

/-- The account can be used in this mode. -/
def supports (s : Support) : Mode → Bool
  | .gpt => s.gpt
  | .openCode => s.openCode

/-- Both modes, each with whether the account can be used in it. -/
def toJson (s : Support) : Json := .object [("gpt", .bool s.gpt), ("opencode", .bool s.openCode)]

/-- Reads the modes; both are required. -/
def ofDoc : Decoder Support :=
  record [slot "gpt" Decoder.boolean, slot "opencode" Decoder.boolean] fun r => do
    return {
      gpt := ← r.required "gpt" Decoder.boolean
      openCode := ← r.required "opencode" Decoder.boolean }

end Support

/-- A stored account, with what was last known of its quota. -/
structure Profile where
  name : String
  email : Option String := none
  workspaceName : Option String := none
  workspaceId : Option String := none
  workspaceAlias : Option String := none
  support : Support := {}
  displayWorkspace : String := ""
  quota : Quota := {}
  lastCheckedAt : Option String := none
  lastError : Option String := none
  status : String := ""
  isActive : Bool := false
  deriving DecidableEq, Inhabited

namespace Profile

/-- All fields, under the names they have on the wire. -/
def toJson (p : Profile) : Json :=
  .object <|
    [("name", .string p.name), ("email", opt .string p.email),
      ("workspaceName", opt .string p.workspaceName), ("workspaceId", opt .string p.workspaceId),
      ("workspaceAlias", opt .string p.workspaceAlias), ("support", p.support.toJson),
      ("displayWorkspace", .string p.displayWorkspace)] ++
    p.quota.fields ++
    [("lastCheckedAt", opt .string p.lastCheckedAt), ("lastError", opt .string p.lastError),
      ("status", .string p.status), ("isActive", .bool p.isActive)]

/-- The fields of a profile. -/
def slots : List Slot :=
  [slot "name" Decoder.string, slot "email" (Decoder.optional Decoder.string),
    slot "workspaceName" (Decoder.optional Decoder.string),
    slot "workspaceId" (Decoder.optional Decoder.string),
    slot "workspaceAlias" (Decoder.optional Decoder.string), slot "support" Support.ofDoc,
    slot "displayWorkspace" Decoder.string] ++
  Quota.slots ++
  [slot "lastCheckedAt" (Decoder.optional Decoder.string),
    slot "lastError" (Decoder.optional Decoder.string), slot "status" Decoder.string,
    slot "isActive" Decoder.boolean]

/-- Reads a profile; only the name is required. -/
def ofDoc : Decoder Profile :=
  record slots fun r => do
    return {
      name := ← r.required "name" Decoder.string
      email := ← r.optional "email" Decoder.string
      workspaceName := ← r.optional "workspaceName" Decoder.string
      workspaceId := ← r.optional "workspaceId" Decoder.string
      workspaceAlias := ← r.optional "workspaceAlias" Decoder.string
      support := ← r.withDefault "support" Support.ofDoc {}
      displayWorkspace := ← r.withDefault "displayWorkspace" Decoder.string ""
      quota := ← Quota.ofRecord r
      lastCheckedAt := ← r.optional "lastCheckedAt" Decoder.string
      lastError := ← r.optional "lastError" Decoder.string
      status := ← r.withDefault "status" Decoder.string ""
      isActive := ← r.withDefault "isActive" Decoder.boolean false }

end Profile

end Switchboard
