import Mathlib.Algebra.Group.Int.Defs
import Mathlib.Algebra.Group.Nat.Defs
import Mathlib.Data.Int.Order.Basic

/-!
# Where 64 bits are enough

Times and durations are 64-bit numbers, whose sums and differences wrap around. A number that
`FitsWord` is not changed by that: the operations on words give the numbers that they stand for.

* `Figure` — a word beside the number that it is to stand for.
* `Figure.IsExact.add_iff`, `Figure.IsExact.sub_iff` — what is reckoned from exact figures is exact if
  and only if it fits.
-/

set_option autoImplicit false

namespace Switchboard

/-- The number is one that a signed 64-bit word stands for. -/
def FitsWord (n : Int) : Prop := -2 ^ 63 ≤ n ∧ n < 2 ^ 63

instance (n : Int) : Decidable (FitsWord n) := inferInstanceAs (Decidable (_ ∧ _))

namespace FitsWord

theorem toInt (x : Int64) : FitsWord x.toInt := ⟨x.le_toInt, x.toInt_lt⟩

theorem bmod {n : Int} (h : FitsWord n) : n.bmod (2 ^ 64) = n := Int.bmod_eq_of_le h.1 h.2

/-- What lies between two numbers that fit does so, too. -/
theorem between {low n high : Int} (hl : FitsWord low) (hh : FitsWord high) (h : low ≤ n)
    (h' : n ≤ high) : FitsWord n := ⟨le_trans hl.1 h, lt_of_le_of_lt h' hh.2⟩

theorem add {a b : Int64} (h : FitsWord (a.toInt + b.toInt)) : (a + b).toInt = a.toInt + b.toInt := by
  rw [Int64.toInt_add, h.bmod]

theorem sub {a b : Int64} (h : FitsWord (a.toInt - b.toInt)) : (a - b).toInt = a.toInt - b.toInt := by
  rw [Int64.toInt_sub, h.bmod]

theorem neg {a : Int64} (h : FitsWord (-a.toInt)) : (-a).toInt = -a.toInt := by
  rw [Int64.toInt_neg, h.bmod]

/-- The signed word of an unsigned one stands for the same number while the top bit is not set. -/
theorem toInt64 {v : UInt64} (h : FitsWord v.toNat) : v.toInt64.toInt = v.toNat := by
  have hlt : v.toNat < 2 ^ 63 := by exact_mod_cast h.2
  rw [← Int64.toInt_ofNat_of_lt hlt]
  exact congrArg Int64.toInt (congrArg UInt64.toInt64 UInt64.ofNat_toNat.symm)

end FitsWord

theorem toInt_max (a b : Int64) : (max a b).toInt = max a.toInt b.toInt := by
  have hmax : max a b = if a ≤ b then b else a := rfl
  rw [hmax, max_def, apply_ite Int64.toInt]
  simp only [Int64.le_iff_toInt_le]

/-- The unsigned word of a signed one stands for the same number unless that is negative. -/
theorem toNat_toUInt64 {x : Int64} (h : 0 ≤ x.toInt) : (x.toUInt64.toNat : Int) = x.toInt := by
  have hx : 0 ≤ x := Int64.le_iff_toInt_le.2 h
  rw [Int64.toNat_toUInt64_of_le hx]
  exact Int.toNat_of_nonneg h

/-! ## Figures -/

/-- A figure of a reckoning in signed words: the word, and the number that it is to stand for. -/
structure Figure where
  word : Int64
  number : Int
  deriving DecidableEq

namespace Figure

/-- The word does stand for the number. -/
def IsExact (f : Figure) : Prop := f.word.toInt = f.number

instance (f : Figure) : Decidable f.IsExact := inferInstanceAs (Decidable (_ = _))

/-- A word that is given. -/
def ofWord (x : Int64) : Figure := ⟨x, x.toInt⟩

/-- A duration, turned into a signed word. -/
def ofDuration (v : UInt64) : Figure := ⟨v.toInt64, v.toNat⟩

instance : Add Figure := ⟨fun a b => ⟨a.word + b.word, a.number + b.number⟩⟩

instance : Sub Figure := ⟨fun a b => ⟨a.word - b.word, a.number - b.number⟩⟩

instance : Neg Figure := ⟨fun a => ⟨-a.word, -a.number⟩⟩

variable {a b : Figure}

theorem IsExact.fits (h : a.IsExact) : FitsWord a.number := by
  rw [← h]
  exact FitsWord.toInt a.word

theorem isExact_ofWord (x : Int64) : (ofWord x).IsExact := rfl

theorem isExact_ofDuration_iff {v : UInt64} : (ofDuration v).IsExact ↔ FitsWord v.toNat :=
  ⟨IsExact.fits, FitsWord.toInt64⟩

theorem IsExact.add_iff (ha : a.IsExact) (hb : b.IsExact) :
    (a + b).IsExact ↔ FitsWord (a.number + b.number) := by
  refine ⟨IsExact.fits, fun h => ?_⟩
  rw [← ha, ← hb] at h
  exact (FitsWord.add h).trans (congrArg₂ (· + ·) ha hb)

theorem IsExact.sub_iff (ha : a.IsExact) (hb : b.IsExact) :
    (a - b).IsExact ↔ FitsWord (a.number - b.number) := by
  refine ⟨IsExact.fits, fun h => ?_⟩
  rw [← ha, ← hb] at h
  exact (FitsWord.sub h).trans (congrArg₂ (· - ·) ha hb)

theorem IsExact.neg_iff (ha : a.IsExact) : (-a).IsExact ↔ FitsWord (-a.number) := by
  refine ⟨IsExact.fits, fun h => ?_⟩
  rw [← ha] at h
  exact (FitsWord.neg h).trans (congrArg (- ·) ha)

end Figure

end Switchboard
