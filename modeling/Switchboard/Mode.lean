import Switchboard.Text.Blank
import Switchboard.Json.Decode

/-!
# Modes

An account is used for one of two tools, the mode. A stored mode is read with white space at its
ends and the case of ASCII letters ignored; on the wire only the exact name counts.
-/

set_option autoImplicit false

namespace Switchboard

open Json

/-- The program that the accounts are used with. -/
inductive Mode where
  | gpt
  | openCode
  deriving DecidableEq, Repr, Inhabited

namespace Mode

/-- The name in settings and on the wire. -/
def name : Mode → String
  | gpt => "gpt"
  | openCode => "opencode"

/-- The name on the screen. -/
def label : Mode → String
  | gpt => "GPT"
  | openCode => "OpenCode"

/-- The mode with exactly this name. -/
def ofName? (s : String) : Option Mode :=
  if s = "gpt" then some gpt else if s = "opencode" then some openCode else none

/-- The mode that a stored text names. -/
def parse? (raw : String) : Option Mode :=
  ofName? (String.ofList ((Text.trimChars raw.toList).map Char.toLower))

/-- The name of the mode. -/
def toJson (m : Mode) : Json := .string m.name

/-- Reads the name of a mode. -/
def ofDoc : Decoder Mode := Decoder.oneOf ofName?

theorem ofName?_name (m : Mode) : ofName? m.name = some m := by
  cases m <;> rfl

@[simp] theorem parse?_name (m : Mode) : parse? m.name = some m := by
  cases m <;> decide +kernel

end Mode

/-- One value for each mode. -/
structure ByMode (α : Type) where
  gpt : α
  openCode : α
  deriving DecidableEq, Repr, Inhabited

namespace ByMode

variable {α β : Type}

/-- The same value for both modes. -/
def both (a : α) : ByMode α := ⟨a, a⟩

/-- The value of a mode. -/
def get (v : ByMode α) : Mode → α
  | .gpt => v.gpt
  | .openCode => v.openCode

/-- The values with that of one mode replaced. -/
def set (v : ByMode α) (m : Mode) (a : α) : ByMode α :=
  match m with
  | .gpt => { v with gpt := a }
  | .openCode => { v with openCode := a }

@[simp] theorem get_set_self (v : ByMode α) (m : Mode) (a : α) : (v.set m a).get m = a := by
  cases m <;> rfl

theorem get_set_of_ne (v : ByMode α) {m n : Mode} (a : α) (h : n ≠ m) :
    (v.set m a).get n = v.get n := by
  cases m <;> cases n <;> simp_all [get, set]

@[simp] theorem set_get_self (v : ByMode α) (m : Mode) : v.set m (v.get m) = v := by
  cases m <;> rfl

@[simp] theorem set_set (v : ByMode α) (m : Mode) (a b : α) : (v.set m a).set m b = v.set m b := by
  cases m <;> rfl

theorem set_comm (v : ByMode α) {m n : Mode} (h : m ≠ n) (a b : α) :
    (v.set m a).set n b = (v.set n b).set m a := by
  cases m <;> cases n <;> simp_all [set]

end ByMode

end Switchboard
