import Switchboard.Number.Double

/-!
# Numbers of a JSON text

A number without a point and without an exponent names an integer if a 64-bit word, signed or
unsigned, can hold it; minus zero is no integer. Every other number is a real one, and it is in
range if it stays finite when its first digits, as many as fit 64 bits, and its power of ten are
both rounded to doubles and multiplied.
-/

set_option autoImplicit false

namespace Switchboard.Json

/-- What a number of a text is good for. -/
inductive Numeral where
  | integer (n : Int)
  | real (inRange : Bool)
  deriving DecidableEq, Repr

/-- The product of two numbers stays finite when each is rounded to a double. -/
def isFiniteProduct (m n : Nat) : Bool :=
  let a := Double.nearest m 1
  let b := Double.nearest n 1
  a.num * b.num < (Nat.pow 2 1024 - Nat.pow 2 970) * (a.den * b.den)

/-- `significand · 10 ^ exponent` stays finite as a double. -/
def isFinite (significand : Nat) (exponent : Int) : Bool :=
  if significand = 0 ∨ exponent < 0 then true
  else if 308 < exponent then false
  else isFiniteProduct significand (Nat.pow 10 exponent.toNat)

/-- As many of the digits as a 64-bit word can hold, continuing from `n`, and how many. -/
def leading (n count : Nat) : List Char → Nat × Nat
  | [] => (n, count)
  | c :: digits =>
    let next := 10 * n + (c.toNat - 48)
    if next < UInt64.size then leading next (count + 1) digits else (n, count)

/-- The exponent that the rest of a number gives after its digits. -/
def exponentOf : List Char → Int
  | _ :: '+' :: digits => Nat.ofDigitChars 10 digits 0
  | _ :: '-' :: digits => -(Nat.ofDigitChars 10 digits 0 : Int)
  | _ :: digits => Nat.ofDigitChars 10 digits 0
  | [] => 0

/-- The number without its sign. -/
def unsigned (text : List Char) : List Char :=
  match text with
  | '-' :: rest => rest
  | rest => rest

/-- A number of a text, read as a real one. -/
def realOf (text : List Char) : Numeral :=
  let text := unsigned text
  let whole := text.takeWhile Char.isDigit
  let rest := text.dropWhile Char.isDigit
  let fraction := match rest with
    | '.' :: rest => rest.takeWhile Char.isDigit
    | _ => []
  let rest := match rest with
    | '.' :: rest => rest.dropWhile Char.isDigit
    | rest => rest
  let (significand, count) := leading 0 0 (whole ++ fraction)
  .real (isFinite significand (exponentOf rest + whole.length - count))

/-- A number of a text. -/
def Numeral.ofText (text : List Char) : Numeral :=
  if (unsigned text).all Char.isDigit then
    let n := Nat.ofDigitChars 10 (unsigned text) 0
    if text.head? = some '-' then
      if 0 < n ∧ n ≤ UInt64.size / 2 then .integer (-n) else realOf text
    else if n < UInt64.size then .integer n else realOf text
  else realOf text

end Switchboard.Json
