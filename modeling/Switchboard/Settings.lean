import Switchboard.Mode
import Switchboard.Strategy

/-!
# Settings

What the user has chosen, and what has to outlive a restart: the extension version that the hook
was last seen with, and for each mode the profile that was used last.
-/

set_option autoImplicit false

namespace Switchboard

open Json

/-- What the user has chosen, and the profile used last in each mode. -/
structure Settings where
  mode : Mode := .gpt
  autoSwitch : Bool := true
  refreshOnStartup : Bool := false
  keepalive : Bool := true
  strategy : Strategy := .restart
  hookVersion : Option String := none
  remembered : ByMode (Option String) := .both none
  deriving DecidableEq, Inhabited

namespace Settings

/-- The remembered profiles, as JSON. -/
def rememberedToJson (r : ByMode (Option String)) : Json :=
  .object [("gpt", opt .string r.gpt), ("opencode", opt .string r.openCode)]

/-- The remembered profiles in a document. -/
def rememberedOfDoc : Decoder (ByMode (Option String)) :=
  record
    [slot "gpt" (Decoder.optional Decoder.string),
      slot "opencode" (Decoder.optional Decoder.string)] fun r => do
    return {
      gpt := ← r.nullable "gpt" Decoder.string
      openCode := ← r.nullable "opencode" Decoder.string }

/-- All fields, under the names they have on the wire. -/
def toJson (s : Settings) : Json :=
  .object
    [("app_mode", s.mode.toJson), ("auto_switch_enabled", .bool s.autoSwitch),
      ("auto_refresh_on_startup", .bool s.refreshOnStartup),
      ("keepalive_enabled", .bool s.keepalive), ("post_switch_strategy", s.strategy.toJson),
      ("hook_version_snapshot", opt .string s.hookVersion),
      ("active_profile_by_mode", rememberedToJson s.remembered)]

/-- The fields of settings. -/
def slots : List Slot :=
  [slot "app_mode" Mode.ofDoc, slot "auto_switch_enabled" Decoder.boolean,
    slot "auto_refresh_on_startup" Decoder.boolean, slot "keepalive_enabled" Decoder.boolean,
    slot "post_switch_strategy" Strategy.ofDoc,
    slot "hook_version_snapshot" (Decoder.optional Decoder.string),
    slot "active_profile_by_mode" rememberedOfDoc]

/-- Reads settings; only values that may be null may be absent. -/
def ofDoc : Decoder Settings :=
  record slots fun r => do
    return {
      mode := ← r.required "app_mode" Mode.ofDoc
      autoSwitch := ← r.required "auto_switch_enabled" Decoder.boolean
      refreshOnStartup := ← r.required "auto_refresh_on_startup" Decoder.boolean
      keepalive := ← r.required "keepalive_enabled" Decoder.boolean
      strategy := ← r.required "post_switch_strategy" Strategy.ofDoc
      hookVersion := ← r.nullable "hook_version_snapshot" Decoder.string
      remembered := ← r.required "active_profile_by_mode" rememberedOfDoc }

/-- The profile used last in the current mode. -/
def rememberedNow (s : Settings) : Option String := s.remembered.get s.mode

end Settings

end Switchboard
