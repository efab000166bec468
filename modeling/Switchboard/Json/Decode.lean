import Switchboard.Json.Doc
import Switchboard.Json.Numeral

/-!
# Typed readings of a document

A decoder turns a `Doc` into a value or names the first flaw met from left to right: a text that
is `malformed`, or a value that is `mismatched` (of the wrong kind or out of range, missing,
repeated, or an unknown name).

A record is an object with known keys, or an array with the values in the order of the keys.
Unknown keys are passed over. `Record.ofDoc` checks everything a record holds and gives its fields,
from which `Record.get` takes one.
-/

set_option autoImplicit false

namespace Switchboard.Json

/-- Why a text has no reading as a type. -/
inductive Flaw where
  | malformed
  | mismatched
  deriving DecidableEq, Repr

/-- A reading of documents as values of a type. -/
abbrev Decoder (α : Type) := Doc → Except Flaw α

mutual

/-- The document, all of it, is JSON. -/
def Doc.isSound : Doc → Bool
  | .null | .bool _ | .number _ | .string _ => true
  | .array items => itemsSound items
  | .object fields => fieldsSound fields
  | .fault => false

/-- Every item is JSON. -/
def itemsSound : List Doc → Bool
  | [] => true
  | d :: rest => d.isSound && itemsSound rest

/-- Every field is JSON. -/
def fieldsSound : List (Key × Doc) → Bool
  | [] => true
  | (key, d) :: rest => key != .missing && d.isSound && fieldsSound rest

end

/-- The flaw of a document of the wrong kind. What opens a container is wrong at once; any other
value is read first. -/
def Doc.flaw : Doc → Flaw
  | .fault | .string none => .malformed
  | .number text => if Numeral.ofText text = .real false then .malformed else .mismatched
  | _ => .mismatched

namespace Decoder

/-- A string without an escape that stands for half a character. -/
def string : Decoder String
  | .string (some s) => .ok s
  | d => .error d.flaw

/-- `true` or `false`. -/
def boolean : Decoder Bool
  | .bool b => .ok b
  | d => .error d.flaw

/-- A number written without fraction and exponent, of any size. -/
def integer : Decoder Int
  | .number text =>
    match Numeral.ofText text with
    | .integer n => .ok n
    | .real true => .error .mismatched
    | .real false => .error .malformed
  | d => .error d.flaw

/-- An integer of the signed 64-bit range. -/
def int64 : Decoder Int64 := fun d => do
  let n ← integer d
  if Int64.minValue.toInt ≤ n ∧ n ≤ Int64.maxValue.toInt then .ok (Int64.ofInt n)
  else .error .mismatched

/-- An integer of the unsigned 64-bit range. -/
def uint64 : Decoder UInt64 := fun d => do
  let n ← integer d
  if 0 ≤ n ∧ n < UInt64.size then .ok (UInt64.ofNat n.toNat) else .error .mismatched

/-- An integer of the unsigned 32-bit range. -/
def uint32 : Decoder UInt32 := fun d => do
  let n ← integer d
  if 0 ≤ n ∧ n < UInt32.size then .ok (UInt32.ofNat n.toNat) else .error .mismatched

/-- A value that may be `null`. -/
def optional {α : Type} (f : Decoder α) : Decoder (Option α)
  | .null => .ok none
  | d => some <$> f d

/-- A list of values. -/
def listOf {α : Type} (f : Decoder α) : Decoder (List α)
  | .array items => items.mapM f
  | d => .error d.flaw

/-- Nothing but `null`. -/
def unit : Decoder Unit
  | .null => .ok ()
  | d => .error d.flaw

/-- One of some names, given as a string, or as an object whose one key is the name and whose
value is `null`. -/
def oneOf {α : Type} (name? : String → Option α) : Decoder α
  | .string (some s) => (name? s).elim (.error .mismatched) .ok
  | .object ((.text s, d) :: rest) =>
    match name? s with
    | none => .error .mismatched
    | some a => do
      unit d
      if rest.isEmpty then .ok a else .error .malformed
  | _ => .error .malformed

end Decoder

/-- A known key of a record, and the check of its value. -/
structure Slot where
  key : String
  check : Doc → Except Flaw Unit

/-- The slot of a key whose values are read by `f`. -/
def slot {α : Type} (key : String) (f : Decoder α) : Slot := ⟨key, fun d => (fun _ => ()) <$> f d⟩

/-- The fields found in a record, and whether it was given as an object. -/
structure Record where
  fields : List (String × Doc)
  isObject : Bool

namespace Record

/-- The fields with known keys, from left to right: each key at most once, each value of its
slot's kind, and everything else JSON. -/
def scan (slots : List Slot) (seen : List String) :
    List (Key × Doc) → Except Flaw (List (String × Doc))
  | [] => .ok []
  | (.text key, d) :: rest =>
    match slots.find? (·.key == key) with
    | none => if d.isSound then scan slots seen rest else .error .malformed
    | some s =>
      if seen.contains key then .error .mismatched
      else do
        s.check d
        let rest ← scan slots (key :: seen) rest
        return (key, d) :: rest
  | _ :: _ => .error .malformed

/-- The fields of a record whose values are given in the order of the keys. -/
def ofItems (slots : List Slot) (items : List Doc) : List (Key × Doc) :=
  (slots.map fun s => Key.text s.key).zip items

/-- The record that a document holds. -/
def ofDoc (slots : List Slot) : Decoder Record
  | .object fields => do
    let fields ← scan slots [] fields
    return ⟨fields, true⟩
  | .array items => do
    let fields ← scan slots [] (ofItems slots items)
    return ⟨fields, false⟩
  | d => .error d.flaw

/-- The value of a field; `absent` stands for a field that is not there. -/
def get {α : Type} (r : Record) (key : String) (f : Decoder α) (absent : Option α) :
    Except Flaw α :=
  match r.fields.find? (·.1 == key) with
  | some (_, d) => f d
  | none => absent.elim (.error .mismatched) .ok

/-- A field that must be there. -/
def required {α : Type} (r : Record) (key : String) (f : Decoder α) : Except Flaw α :=
  r.get key f none

/-- A field that may be missing, and then has a value of its own. -/
def withDefault {α : Type} (r : Record) (key : String) (f : Decoder α) (a : α) : Except Flaw α :=
  r.get key f (some a)

/-- A field that may be missing or `null`. -/
def optional {α : Type} (r : Record) (key : String) (f : Decoder α) : Except Flaw (Option α) :=
  r.get key (Decoder.optional f) (some none)

/-- A field that may be `null`, and may be missing from an object. -/
def nullable {α : Type} (r : Record) (key : String) (f : Decoder α) : Except Flaw (Option α) :=
  r.get key (Decoder.optional f) (if r.isObject then some none else none)

end Record

/-- The record reading of a type: its slots, and how its value is made from the fields. An array
must not go on behind the last slot. -/
def record {α : Type} (slots : List Slot) (make : Record → Except Flaw α) : Decoder α := fun d => do
  let r ← Record.ofDoc slots d
  let a ← make r
  match d with
  | .array items => if items.length ≤ slots.length then .ok a else .error .malformed
  | _ => .ok a

/-- A text read as one value of a type. -/
def decodeText {α : Type} (f : Decoder α) (text : String) : Except Flaw α := do
  let r := Reading.ofText text
  let a ← f r.doc
  if r.isWhole then .ok a else .error .malformed

end Switchboard.Json
