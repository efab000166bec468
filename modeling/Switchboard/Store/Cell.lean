import Switchboard.Store.Spelling

/-!
# Cells

What a column of a table holds. A column of texts takes a number as its digits, and a column of
integers takes a text that spells a whole number as that number; everything else is kept as it is,
and is found to be of the wrong kind only when it is read.
-/

set_option autoImplicit false

namespace Switchboard.Store

/-- A value in a column of a table. -/
inductive Cell where
  | null
  | int (n : Int64)
  | text (s : String)
  | blob (bytes : List UInt8)
  deriving DecidableEq, Inhabited

namespace Cell

/-- An optional text as it is written. -/
def ofText? : Option String → Cell
  | some s => text s
  | none => null

/-- A truth value as it is written. -/
def ofBool (b : Bool) : Cell := int (if b then 1 else 0)

/-- What a column of texts makes of a value. -/
def asText : Cell → Cell
  | int n => text n.toInt.repr
  | c => c

/-- What a column of integers makes of a value. -/
def asInteger : Cell → Cell
  | text s => (wholeNumber? s).elim (text s) int
  | c => c

/-- The text in a cell. -/
def text? : Cell → Option String
  | text s => some s
  | _ => none

/-- The text in a cell that may be empty. -/
def optionalText? : Cell → Option (Option String)
  | null => some none
  | text s => some (some s)
  | _ => none

/-- The truth value in a cell: any number but zero is true. -/
def bool? : Cell → Option Bool
  | int n => some (n != 0)
  | _ => none

@[simp] theorem bool?_ofBool (b : Bool) : (ofBool b).bool? = some b := by
  cases b <;> rfl

@[simp] theorem optionalText?_ofText? (s : Option String) :
    (ofText? s).optionalText? = some s := by
  cases s <;> rfl

/-- Cells in the order of the database: numbers, then texts by their bytes, then blobs. -/
def rank : Cell → Nat × List UInt8
  | null => (0, [])
  | int _ => (1, [])
  | text s => (2, s.toUTF8.toList)
  | blob bytes => (3, bytes)

/-- The first rank comes before the second, or they are the same. -/
def rankLe (a b : Nat × List UInt8) : Bool :=
  a.1 < b.1 || (a.1 == b.1 && bytesLe a.2 b.2)
where
  /-- Order by the first byte that differs; a shorter text comes first. -/
  bytesLe : List UInt8 → List UInt8 → Bool
    | [], _ => true
    | _ :: _, [] => false
    | x :: xs, y :: ys => x < y || (x == y && bytesLe xs ys)

end Cell

end Switchboard.Store
