/-!
# Doubles

A double is a significand of at most 53 bits times a power of two, the least of which is `-1074`.
`Double.nearest` is the double next to a quotient of natural numbers. No upper end is set here: what
a machine has no room for is merely a large number. All of it is exact arithmetic.
-/

set_option autoImplicit false

namespace Switchboard

/-- A double that is not negative: `significand · 2 ^ exponent`. -/
structure Double where
  significand : Nat
  exponent : Int
  deriving DecidableEq, Repr

namespace Double

/-- The natural number nearest to a quotient, the even one of two. -/
def nearestNat (num den : Nat) : Nat :=
  let low := num / den
  let twice := 2 * (num % den)
  if den < twice ∨ (twice = den ∧ low % 2 = 1) then low + 1 else low

/-- The exponent of the greatest power of two that a quotient reaches. -/
def floorLog2 (num den : Nat) : Int :=
  let e : Int := (num.log2 : Int) - den.log2
  if den * Nat.pow 2 e.toNat ≤ num * Nat.pow 2 (-e).toNat then e else e - 1

/-- The double nearest to a quotient, of two the one with the even significand. -/
def nearest (num den : Nat) : Double :=
  let e := max (floorLog2 num den - 52) (-1074)
  ⟨nearestNat (num * Nat.pow 2 (-e).toNat) (den * Nat.pow 2 e.toNat), e⟩

/-- The double as a fraction: what stands above the line. -/
def num (d : Double) : Nat := d.significand * Nat.pow 2 d.exponent.toNat

/-- The double as a fraction: what stands below the line. -/
def den (d : Double) : Nat := Nat.pow 2 (-d.exponent).toNat

/-- The double divided by a natural number. -/
def divide (d : Double) (n : Nat) : Double := nearest d.num (d.den * n)

/-- The number, if it is a whole one. -/
def whole? (d : Double) : Option Nat := if d.num % d.den = 0 then some (d.num / d.den) else none

/-- The nearest whole number, the greater one of two. -/
def halfUp (d : Double) : Nat := (2 * d.num + d.den) / (2 * d.den)

end Double

end Switchboard
