import Mathlib.Logic.Relation
import Switchboard.Session.Work

/-!
# The book of scopes

A scope of automatic switching or of keepalive is opened when the duty is turned on and cancelled
when it is turned off. `ScopeBook.Move` says what can happen to the scopes at once.

* `ScopeBook.Moves.isOpen_or_cancelled` — an open scope stays open, or is cancelled.
* `ScopeBook.Moves.past` — a scope that is not open any more is never open again.
* `ScopeBook.Counted` — the serials of the open scopes have been given away.
-/

set_option autoImplicit false

namespace Switchboard

/-- The serial of a scope that is opened in the course of things. -/
def Scope.serial? : Scope → Option Nat
  | autoSwitch n | keepalive n => some n
  | root | manual _ => none

/-- The scopes that are open, how many were opened, and what was cancelled. -/
structure ScopeBook where
  autoSwitch : Option Nat
  keepalive : Option Nat
  opened : Nat
  cancelled : List Scope

namespace ScopeBook

/-- The scope is the open one of its kind. -/
def isOpen (b : ScopeBook) : Scope → Bool
  | .autoSwitch n => b.autoSwitch = some n
  | .keepalive n => b.keepalive = some n
  | .root | .manual _ => false

/-- What can happen to the scopes at once. -/
inductive Move (b : ScopeBook) : ScopeBook → Prop where
  | openAutoSwitch (h : b.autoSwitch = none) :
    Move b { b with autoSwitch := some b.opened, opened := b.opened + 1 }
  | closeAutoSwitch {n : Nat} (h : b.autoSwitch = some n) :
    Move b { b with autoSwitch := none, cancelled := .autoSwitch n :: b.cancelled }
  | openKeepalive (h : b.keepalive = none) :
    Move b { b with keepalive := some b.opened, opened := b.opened + 1 }
  | closeKeepalive {n : Nat} (h : b.keepalive = some n) :
    Move b { b with keepalive := none, cancelled := .keepalive n :: b.cancelled }
  | cancel (s : Scope) : Move b { b with cancelled := s :: b.cancelled }

/-- What can happen to the scopes one after another. -/
abbrev Moves : ScopeBook → ScopeBook → Prop := Relation.ReflTransGen Move

variable {b b' : ScopeBook} {s : Scope}

theorem Move.cancelled (h : b.Move b') : b.cancelled ⊆ b'.cancelled := by
  cases h <;> first | exact List.Subset.refl _ | exact List.subset_cons_self _ _

theorem Move.isOpen_or_cancelled (h : b.Move b') (hs : b.isOpen s) :
    b'.isOpen s ∨ s ∈ b'.cancelled := by
  cases h with
  | openAutoSwitch h => cases s <;> simp_all [isOpen]
  | closeAutoSwitch h => cases s <;> simp_all [isOpen]
  | openKeepalive h => cases s <;> simp_all [isOpen]
  | closeKeepalive h => cases s <;> simp_all [isOpen]
  | cancel s' => exact .inl hs

/-- **An open scope stays open, or is cancelled.** -/
theorem Moves.isOpen_or_cancelled (h : b.Moves b') (hs : b.isOpen s) :
    b'.isOpen s ∨ s ∈ b'.cancelled := by
  induction h with
  | refl => exact .inl hs
  | tail _ hm ih =>
    rcases ih with ho | hc
    · exact hm.isOpen_or_cancelled ho
    · exact .inr (hm.cancelled hc)

theorem Moves.cancelled (h : b.Moves b') : b.cancelled ⊆ b'.cancelled := by
  induction h with
  | refl => exact List.Subset.refl _
  | tail _ hm ih => exact List.Subset.trans ih hm.cancelled

/-! ### Scopes of the past -/

/-- The scope was opened, if it is one that is opened at all, and is not open any more. -/
structure Past (b : ScopeBook) (s : Scope) : Prop where
  lt_opened : ∀ n, s.serial? = some n → n < b.opened
  not_open : b.isOpen s = false

/-- The serials of the open scopes have been given away. -/
def Counted (b : ScopeBook) : Prop := ∀ s n, b.isOpen s → s.serial? = some n → n < b.opened

/-- A scope that is never opened is of the past from the beginning. -/
theorem past_of_serial? (hs : s.serial? = none) : b.Past s := by
  refine ⟨fun n hn => ?_, ?_⟩
  · rw [hs] at hn
    cases hn
  · cases s with
    | root | manual => rfl
    | autoSwitch | keepalive => cases hs

theorem Move.opened_le (h : b.Move b') : b.opened ≤ b'.opened := by
  cases h <;> simp

/-- A scope is open because it was, or its serial is the next one. -/
theorem Move.isOpen_or_next (h : b.Move b') (hs : b'.isOpen s) :
    b.isOpen s ∨ s.serial? = some b.opened ∧ b'.opened = b.opened + 1 := by
  cases h with
  | openAutoSwitch h => cases s <;> simp_all [isOpen, Scope.serial?]
  | closeAutoSwitch h => cases s <;> simp_all [isOpen]
  | openKeepalive h => cases s <;> simp_all [isOpen, Scope.serial?]
  | closeKeepalive h => cases s <;> simp_all [isOpen]
  | cancel s' => exact .inl hs

theorem Move.past (h : b.Move b') (hs : b.Past s) : b'.Past s := by
  refine ⟨fun n hn => Nat.lt_of_lt_of_le (hs.lt_opened n hn) h.opened_le, ?_⟩
  refine Bool.eq_false_iff.2 fun ho => ?_
  rcases h.isOpen_or_next ho with hopen | ⟨hn, -⟩
  · rw [hs.not_open] at hopen
    cases hopen
  · exact Nat.lt_irrefl _ (hs.lt_opened _ hn)

/-- **A scope of the past is never open again.** -/
theorem Moves.past (h : b.Moves b') (hs : b.Past s) : b'.Past s := by
  induction h with
  | refl => exact hs
  | tail _ hm ih => exact hm.past ih

theorem Move.counted (h : b.Move b') (hb : b.Counted) : b'.Counted := by
  intro s n hs hn
  rcases h.isOpen_or_next hs with hopen | ⟨hnext, hle⟩
  · exact Nat.lt_of_lt_of_le (hb s n hopen hn) h.opened_le
  · rw [hnext, Option.some.injEq] at hn
    omega

theorem Moves.counted (h : b.Moves b') (hb : b.Counted) : b'.Counted := by
  induction h with
  | refl => exact hb
  | tail _ hm ih => exact hm.counted ih

theorem Moves.opened_le (h : b.Moves b') : b.opened ≤ b'.opened := by
  induction h with
  | refl => exact Nat.le_refl _
  | tail _ hm ih => exact Nat.le_trans ih hm.opened_le

/-- A scope that was open and is not any more is one of the past. -/
theorem Moves.past_of_open (h : b.Moves b') (hb : b.Counted) (ho : b.isOpen s)
    (hc : b'.isOpen s = false) : b'.Past s :=
  ⟨fun n hn => Nat.lt_of_lt_of_le (hb s n ho hn) h.opened_le, hc⟩

end ScopeBook

end Switchboard
