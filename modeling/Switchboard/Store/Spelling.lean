import Switchboard.Number.Double

/-!
# Whole numbers spelt by texts

A text spells a number by a sign, digits with a point among them or not, and a power of ten; blanks
around it do no harm. Digits alone spell the number that they are. With a point or a power of ten
they spell the nearest double, which may be a whole number although the digits are not, and zero
although some of them are not.
-/

set_option autoImplicit false

namespace Switchboard.Store

/-- The value of a row of decimal digits. -/
def digitsValue (s : List Char) : Nat := s.foldl (fun n c => 10 * n + (c.toNat - 48)) 0

/-- A blank between a number and the ends of its text. -/
def isSpace (c : Char) : Bool := c == ' ' || (9 ≤ c.toNat && c.toNat ≤ 13)

/-- The parts of a number that is spelt in decimal digits. -/
structure Spelling where
  negative : Bool
  whole : List Char
  /-- The digits after the point, if there is one. -/
  fraction : Option (List Char)
  /-- The power of ten, if there is one. -/
  exponent : Option Int
  deriving DecidableEq, Repr

/-- Reads a sign; none is a plus. -/
def takeSign : List Char → Bool × List Char
  | '-' :: rest => (true, rest)
  | '+' :: rest => (false, rest)
  | rest => (false, rest)

/-- Reads the digits after a point, if there is one. -/
def takeFraction : List Char → Option (List Char) × List Char
  | '.' :: rest => (some (rest.takeWhile Char.isDigit), rest.dropWhile Char.isDigit)
  | rest => (none, rest)

/-- Reads the power of ten that ends a number, or nothing at the end of it. -/
def exponent? : List Char → Option (Option Int)
  | [] => some none
  | c :: rest =>
    let (negative, digits) := takeSign rest
    if (c == 'e' || c == 'E') && !digits.isEmpty && digits.all Char.isDigit then
      some (some (if negative then -(digitsValue digits : Int) else digitsValue digits))
    else none

namespace Spelling

/-- The spelling that a text is. -/
def ofText? (s : String) : Option Spelling :=
  let core := ((s.toList.dropWhile isSpace).reverse.dropWhile isSpace).reverse
  let (negative, rest) := takeSign core
  let (fraction, last) := takeFraction (rest.dropWhile Char.isDigit)
  let whole := rest.takeWhile Char.isDigit
  if whole.isEmpty && (fraction.getD []).isEmpty then none
  else (exponent? last).map (⟨negative, whole, fraction, ·⟩)

/-- The spelling is one by digits alone. -/
def isPlain (p : Spelling) : Bool := p.fraction.isNone && p.exponent.isNone

/-- The double nearest to the number without its sign, if that is whole. Numbers beyond the range of
words and below the least double are not worked out. -/
def wholeDouble? (p : Spelling) : Option Nat :=
  let fraction := p.fraction.getD []
  let n := digitsValue (p.whole ++ fraction)
  let exponent := p.exponent.getD 0 - fraction.length
  let size := (Nat.toDigits 10 n).length + exponent
  if n = 0 ∨ size < -324 then some 0
  else if 20 < size then none
  else (Double.nearest (n * Nat.pow 10 exponent.toNat) (Nat.pow 10 (-exponent).toNat)).whole?

/-- The whole number that is spelt, if a signed 64-bit word can hold it. -/
def value? (p : Spelling) : Option Int64 := do
  let n ← if p.isPlain then some (digitsValue p.whole) else p.wholeDouble?
  let least := if p.isPlain then Int64.minValue.toInt else Int64.minValue.toInt + 1
  let signed : Int := if p.negative then -n else n
  if least ≤ signed ∧ signed ≤ Int64.maxValue.toInt then some (Int64.ofInt signed) else none

end Spelling

/-- The whole number that a text spells, if a signed 64-bit word can hold it. -/
def wholeNumber? (s : String) : Option Int64 := (Spelling.ofText? s).bind Spelling.value?

end Switchboard.Store
