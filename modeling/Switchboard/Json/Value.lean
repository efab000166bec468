import Switchboard.Json.Token

/-!
# JSON values and their compact text

`Json.tokens` lists the tokens of a value and `Json.compact` spells them without any space.
Numbers are integers: nothing else is ever written here.
-/

set_option autoImplicit false

namespace Switchboard

/-- A value that is to be written. -/
inductive Json where
  | null
  | bool (b : Bool)
  | int (n : Int)
  | string (s : String)
  | array (items : List Json)
  | object (fields : List (String × Json))

namespace Json

mutual

/-- The tokens of a value. -/
def tokens : Json → List Token
  | null => [.null]
  | bool b => [.bool b]
  | int n => [.number (decimal n)]
  | string s => [.string (some s.toList)]
  | array [] => [.openBracket, .closeBracket]
  | array (x :: xs) => .openBracket :: (tokens x ++ itemTokens xs)
  | object [] => [.openBrace, .closeBrace]
  | object ((key, x) :: fields) =>
    .openBrace :: .string (some key.toList) :: .colon :: (tokens x ++ fieldTokens fields)

/-- The tokens of the items that follow an item, up to the closing bracket. -/
def itemTokens : List Json → List Token
  | [] => [.closeBracket]
  | x :: xs => .comma :: (tokens x ++ itemTokens xs)

/-- The tokens of the fields that follow a field, up to the closing brace. -/
def fieldTokens : List (String × Json) → List Token
  | [] => [.closeBrace]
  | (key, x) :: fields =>
    .comma :: .string (some key.toList) :: .colon :: (tokens x ++ fieldTokens fields)

end

/-- The compact text of a value, as characters. -/
def chars (v : Json) : List Char := v.tokens.flatMap Token.chars

/-- The compact text of a value. -/
def compact (v : Json) : String := String.ofList v.chars

/-- An optional value, absence written as `null`. -/
def opt {α : Type} (f : α → Json) : Option α → Json
  | some a => f a
  | none => null

/-- A signed 64-bit number. -/
def int64 (n : Int64) : Json := int n.toInt

/-- An unsigned 64-bit number. -/
def uint64 (n : UInt64) : Json := int n.toNat

/-- A list of values. -/
def list {α : Type} (f : α → Json) (xs : List α) : Json := array (xs.map f)

end Json

end Switchboard
