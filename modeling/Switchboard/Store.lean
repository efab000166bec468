import Switchboard.DataDirectory
import Switchboard.Store.Database

/-!
# The store

Settings and switch history lie in a database file in the data directory. Every operation opens the
file anew, and so finds whatever is there by then: `Store.Place` says what that can be. A failed
operation leaves everything as it was and names its `Fault`.
-/

set_option autoImplicit false

namespace Switchboard

namespace Store

/-- What is found where the database file should be. -/
inductive Place where
  /-- There is no data directory. -/
  | absent
  /-- A file stands in the place of the data directory. -/
  | obstructed
  /-- A directory stands in the place of the file. -/
  | directory
  /-- The file is no database. -/
  | garbage
  | database (d : Database)
  deriving DecidableEq, Inhabited

/-- Why an operation failed. -/
inductive Fault where
  | createDirectory
  | openFile
  | prepare
  | readSettings
  | writeSettings
  | writeHistory
  | notADatabase
  | missingValue (table column : String)
  | repeatedId
  | unknownColumn (name : String)
  /-- The value cannot be an id. -/
  | notAnId
  /-- The id of the settings row is one. -/
  | otherId
  deriving DecidableEq

/-- The text of a fault, for a data directory at this path. -/
def Fault.message (directory : String) : Fault → String
  | createDirectory => "创建数据目录失败: " ++ directory
  | openFile => "打开数据库失败: " ++ joinPath directory "codex-switch-runtime.db"
  | prepare => "初始化数据库失败"
  | readSettings => "读取本地设置失败"
  | writeSettings => "写入本地设置失败"
  | writeHistory => "写入切换历史失败"
  | notADatabase => "file is not a database"
  | missingValue table column => "NOT NULL constraint failed: " ++ table ++ "." ++ column
  | repeatedId => "UNIQUE constraint failed: switch_history.id"
  | unknownColumn name => "no such column: " ++ name
  | notAnId => "datatype mismatch"
  | otherId => "CHECK constraint failed: id = 1"

end Store

/-- The store is what is found on the disk. -/
structure Store where
  place : Store.Place := .absent
  deriving DecidableEq, Inhabited

namespace Store

/-- The database, if there is one; `broken` is the fault of a file that is none. -/
def database (s : Store) (broken : Fault) : Except Fault Database :=
  match s.place with
  | .absent | .obstructed | .directory => .error .openFile
  | .garbage => .error broken
  | .database d => .ok d

/-- The store with this database. -/
def withDatabase (d : Database) : Store := ⟨.database d⟩

/-- Makes the directory and the tables, and the row of settings if that is missing. -/
def init (s : Store) : Except Fault Store :=
  match s.place with
  | .absent => .ok (withDatabase {})
  | .obstructed => .error .createDirectory
  | .directory => .error .openFile
  | .garbage => .error .prepare
  | .database d => .ok (withDatabase { d with settings := d.settings <|> some .fresh })

/-- The settings; the defaults if there is no row. -/
def load (s : Store) : Except Fault Settings := do
  let d ← s.database .readSettings
  match d.settings with
  | none => return {}
  | some row => row.settings?.elim (.error .readSettings) .ok

/-- Writes the settings over those in the row; without a row nothing is written. -/
def save (s : Store) (settings : Settings) : Except Fault Store := do
  let d ← s.database .writeSettings
  return withDatabase { d with settings := d.settings.map fun _ => .ofSettings settings }

/-- Adds a record to the history. -/
def add (s : Store) (r : SwitchRecord) : Except Fault Store := do
  let d ← s.database .writeHistory
  return withDatabase { d with history := .ofRecord r :: d.history }

/-- The newest records, `limit` rows at most; a limit beyond the signed range is none. -/
def list (s : Store) (limit : UInt64) : Except Fault (List SwitchRecord) := do
  let d ← s.database .notADatabase
  return (d.listed limit.toInt64).filterMap (·.record?)

/-- Why a column of the settings row does not take a value. -/
def refusal? (column : SettingsRow.Column) (value : Cell) : Option Fault :=
  match column, value.asInteger with
  | .id, .int n => if n = 1 then none else some .otherId
  | .id, _ => some .notAnId
  | _, .null => if column.isRequired then some (.missingValue "app_settings" column.name) else none
  | _, _ => none

/-- Replaces one cell of the settings row; tells how many rows there were. -/
def setCell (s : Store) (column : String) (value : Cell) : Except Fault (Store × Nat) := do
  let d ← s.database .notADatabase
  match SettingsRow.Column.ofName? column, d.settings with
  | none, _ => throw (.unknownColumn column)
  | some _, none => return (s, 0)
  | some c, some row =>
    match refusal? c value with
    | some fault => throw fault
    | none => return (withDatabase { d with settings := some (row.set c value) }, 1)

/-- Deletes the settings row; tells how many rows there were. -/
def deleteSettings (s : Store) : Except Fault (Store × Nat) := do
  let d ← s.database .notADatabase
  return (withDatabase { d with settings := none }, d.settings.toList.length)

/-- Inserts a row into the history as it is. -/
def insertRow (s : Store) (row : HistoryRow) : Except Fault Store := do
  let d ← s.database .notADatabase
  let row := row.asTexts
  match row.missing? with
  | some column => throw (.missingValue "switch_history" column)
  | none =>
    if row.id ≠ .null ∧ d.history.any (·.id == row.id) then throw .repeatedId
    return withDatabase { d with history := row :: d.history }

/-- Deletes the data directory with all that is in it. -/
def removeDirectory (s : Store) : Store :=
  match s.place with
  | .obstructed => s
  | _ => ⟨.absent⟩

/-- After an operation that could be done, the store as it left it; otherwise as it was. -/
def orKeep (s : Store) (r : Except Fault Store) : Store :=
  match r with
  | .ok t => t
  | .error _ => s

end Store

end Switchboard
