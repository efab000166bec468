import Switchboard.Settings
import Switchboard.Store.Cell
import Switchboard.SwitchRecord

/-!
# Tables

The database holds one row of settings, or none, and the rows of the switch history. Rows are read
column by column: a settings row with a cell of the wrong kind cannot be read at all, and a history
row like that is passed over.
-/

set_option autoImplicit false

namespace Switchboard.Store

/-- The one row of the settings, as it is stored. -/
structure SettingsRow where
  mode : Cell
  autoSwitch : Cell
  refreshOnStartup : Cell
  keepalive : Cell
  strategy : Cell
  hookVersion : Cell
  rememberedGpt : Cell
  rememberedOpenCode : Cell
  deriving DecidableEq, Inhabited

namespace SettingsRow

/-- The row that holds these settings. -/
def ofSettings (s : Settings) : SettingsRow where
  mode := .text s.mode.name
  autoSwitch := .ofBool s.autoSwitch
  refreshOnStartup := .ofBool s.refreshOnStartup
  keepalive := .ofBool s.keepalive
  strategy := .text s.strategy.name
  hookVersion := .ofText? s.hookVersion
  rememberedGpt := .ofText? s.remembered.gpt
  rememberedOpenCode := .ofText? s.remembered.openCode

/-- The row of a new database. -/
def fresh : SettingsRow := ofSettings {}

/-- The settings in a row. Blank texts count as absent, and unknown names as the default. -/
def settings? (r : SettingsRow) : Option Settings := do
  let d : Settings := {}
  return {
    mode := (Mode.parse? (← r.mode.text?)).getD d.mode
    autoSwitch := ← r.autoSwitch.bool?
    refreshOnStartup := ← r.refreshOnStartup.bool?
    keepalive := ← r.keepalive.bool?
    strategy := (Strategy.parse? (← r.strategy.text?)).getD d.strategy
    hookVersion := Text.filled? (← r.hookVersion.optionalText?)
    remembered := {
      gpt := Text.filled? (← r.rememberedGpt.optionalText?)
      openCode := Text.filled? (← r.rememberedOpenCode.optionalText?) } }

/-- What is read is what was written, blank texts apart. -/
theorem settings?_ofSettings (s : Settings) :
    (ofSettings s).settings? = some { s with
      hookVersion := Text.filled? s.hookVersion
      remembered := ⟨Text.filled? s.remembered.gpt, Text.filled? s.remembered.openCode⟩ } := by
  simp [settings?, ofSettings, Cell.text?]

/-- The columns of the settings table. -/
inductive Column where
  | id
  | mode
  | autoSwitch
  | refreshOnStartup
  | keepalive
  | strategy
  | hookVersion
  | rememberedGpt
  | rememberedOpenCode
  | updatedAt
  deriving DecidableEq

namespace Column

/-- All columns. -/
def all : List Column :=
  [id, mode, autoSwitch, refreshOnStartup, keepalive, strategy, hookVersion, rememberedGpt,
    rememberedOpenCode, updatedAt]

/-- The name in the table. -/
def name : Column → String
  | id => "id"
  | mode => "app_mode"
  | autoSwitch => "auto_switch_enabled"
  | refreshOnStartup => "auto_refresh_on_startup"
  | keepalive => "keepalive_enabled"
  | strategy => "post_switch_strategy"
  | hookVersion => "hook_version_snapshot"
  | rememberedGpt => "active_profile_gpt"
  | rememberedOpenCode => "active_profile_opencode"
  | updatedAt => "updated_at"

/-- Other names of the id, which is the number of the row. -/
def idNames : List String := ["rowid", "oid", "_rowid_"]

/-- The column with this name, in large or small letters. -/
def ofName? (s : String) : Option Column :=
  let s := s.map Char.toLower
  if idNames.contains s then some id else all.find? (·.name == s)

/-- The column must have a value. -/
def isRequired : Column → Bool
  | id | hookVersion | rememberedGpt | rememberedOpenCode => false
  | _ => true

/-- The column is one of integers. -/
def isInteger : Column → Bool
  | id | autoSwitch | refreshOnStartup | keepalive => true
  | _ => false

end Column

/-- The row with one cell replaced; the id stays. -/
def set (r : SettingsRow) (column : Column) (value : Cell) : SettingsRow :=
  let value := if column.isInteger then value.asInteger else value.asText
  match column with
  | .mode => { r with mode := value }
  | .autoSwitch => { r with autoSwitch := value }
  | .refreshOnStartup => { r with refreshOnStartup := value }
  | .keepalive => { r with keepalive := value }
  | .strategy => { r with strategy := value }
  | .hookVersion => { r with hookVersion := value }
  | .rememberedGpt => { r with rememberedGpt := value }
  | .rememberedOpenCode => { r with rememberedOpenCode := value }
  | .id | .updatedAt => r

end SettingsRow

/-- A row of the history, as it is stored. -/
structure HistoryRow where
  id : Cell
  mode : Cell
  fromProfile : Cell
  toProfile : Cell
  result : Cell
  message : Cell
  createdAt : Cell
  deriving DecidableEq, Inhabited

namespace HistoryRow

/-- The row of a record. -/
def ofRecord (r : SwitchRecord) : HistoryRow where
  id := .text r.id
  mode := .text r.mode.name
  fromProfile := .ofText? r.fromProfile
  toProfile := .text r.toProfile
  result := .text r.result
  message := .ofText? r.message
  createdAt := .text r.createdAt

/-- The row as a table of texts takes it. -/
def asTexts (r : HistoryRow) : HistoryRow where
  id := r.id.asText
  mode := r.mode.asText
  fromProfile := r.fromProfile.asText
  toProfile := r.toProfile.asText
  result := r.result.asText
  message := r.message.asText
  createdAt := r.createdAt.asText

/-- The first column that must have a value and has none. -/
def missing? (r : HistoryRow) : Option String :=
  ([("mode", r.mode), ("to_profile", r.toProfile), ("result", r.result),
    ("created_at", r.createdAt)].find? (·.2 == .null)).map (·.1)

/-- The record in a row; an unknown mode counts as the default. -/
def record? (r : HistoryRow) : Option SwitchRecord := do
  return {
    id := ← r.id.text?
    mode := (Mode.parse? (← r.mode.text?)).getD .gpt
    fromProfile := ← r.fromProfile.optionalText?
    toProfile := ← r.toProfile.text?
    result := ← r.result.text?
    message := ← r.message.optionalText?
    createdAt := ← r.createdAt.text? }

@[simp] theorem record?_ofRecord (r : SwitchRecord) : (ofRecord r).record? = some r := by
  simp [record?, ofRecord, Cell.text?]

end HistoryRow

/-- The two tables. -/
structure Database where
  settings : Option SettingsRow := some .fresh
  /-- The rows of the history, the one inserted last in front. -/
  history : List HistoryRow := []
  deriving DecidableEq, Inhabited

namespace Database

/-- The rows, the newest first; of rows with equal times, the one inserted last. -/
def newestFirst (d : Database) : List HistoryRow :=
  d.history.mergeSort fun a b => Cell.rankLe b.createdAt.rank a.createdAt.rank

/-- The first `limit` rows, all of them for a negative limit. -/
def listed (d : Database) (limit : Int64) : List HistoryRow :=
  if limit < 0 then d.newestFirst else d.newestFirst.take limit.toInt.toNat

end Database

end Switchboard.Store
