/-!
# Random choice from a range

A `Source` yields 64-bit numbers: the given ones in order, and zeros after them. `Source.offset`
draws until a number falls into the zone in which every value of the range is equally likely; zero
always does, so that drawing comes to an end. A range of one value takes a draw, too.
-/

set_option autoImplicit false

namespace Switchboard

/-- A source of 64-bit numbers, zeros once the given ones have run out. -/
structure Source where
  given : List UInt64 := []
  /-- How many numbers have been drawn. -/
  drawn : Nat := 0
  deriving DecidableEq, Inhabited

/-- A choice that draws from a source. It can fail, as it does for an empty range. -/
abbrev Draw := StateT Source Option

namespace Source

/-- The next number. -/
def next (s : Source) : UInt64 × Source :=
  match s.given with
  | [] => (0, ⟨[], s.drawn + 1⟩)
  | v :: rest => (v, ⟨rest, s.drawn + 1⟩)

/-- The first number that is accepted, or zero when the given ones have run out. -/
def firstAccepted (accepts : UInt64 → Bool) : List UInt64 → Nat → UInt64 × Source
  | [], drawn => (0, ⟨[], drawn + 1⟩)
  | v :: rest, drawn =>
    if accepts v then (v, ⟨rest, drawn + 1⟩) else firstAccepted accepts rest (drawn + 1)

/-- The greatest low half of a product that is fair for a range of this size. -/
def zone (size : Nat) : Nat := size * Nat.pow 2 (63 - size.log2) - 1

/-- The product of a number and the size of the range has a fair low half. -/
def isFair (size : Nat) (v : UInt64) : Bool := v.toNat * size % UInt64.size ≤ zone size

/-- A number from zero to `last`. -/
def offset (last : UInt64) (s : Source) : UInt64 × Source :=
  let size := last.toNat + 1
  if size = UInt64.size then s.next
  else
    let (v, s) := firstAccepted (isFair size) s.given s.drawn
    (UInt64.ofNat (v.toNat * size / UInt64.size), s)

end Source

namespace Draw

/-- A number from `low` to `high`. -/
def uint64 (low high : UInt64) : Draw UInt64 := fun s =>
  if high < low then none
  else
    let (d, s) := s.offset (high - low)
    some (low + d, s)

/-- A signed number from `low` to `high`. -/
def int64 (low high : Int64) : Draw Int64 := fun s =>
  if high < low then none
  else
    let (d, s) := s.offset (high - low).toUInt64
    some (low + d.toInt64, s)

end Draw

end Switchboard
