import Mathlib.Data.List.Nodup

/-!
# Lists with different keys

Profiles have names, the fields of a record have keys, and switches that are under way have the numbers
of their tasks. If no two members of a list have the same key, a key stands for one member at most:
`find?_key_eq_some_iff` says that a search finds it, and `eraseP_key` that nothing else goes with it.
-/

set_option autoImplicit false

namespace Switchboard

variable {α κ : Type} [BEq κ] [LawfulBEq κ] {key : α → κ} {l : List α}

theorem find?_key_eq_some_iff (h : (l.map key).Nodup) {k : κ} {a : α} :
    l.find? (key · == k) = some a ↔ a ∈ l ∧ key a = k := by
  constructor
  · intro hfind
    exact ⟨List.mem_of_find?_eq_some hfind, by simpa using List.find?_some hfind⟩
  · rintro ⟨ha, rfl⟩
    cases hfind : l.find? (key · == key a) with
    | none =>
      rw [List.find?_eq_none] at hfind
      exact absurd (beq_self_eq_true (key a)) (hfind a ha)
    | some b =>
      have hb : key b = key a := by simpa using List.find?_some hfind
      exact congrArg some (List.inj_on_of_nodup_map h (List.mem_of_find?_eq_some hfind) ha hb)

/-- The key of a member leads back to it. -/
theorem find?_key (h : (l.map key).Nodup) {a : α} (ha : a ∈ l) :
    l.find? (key · == key a) = some a := (find?_key_eq_some_iff h).2 ⟨ha, rfl⟩

/-- To take away the first member with a key is to take away all of them. -/
theorem eraseP_key (h : (l.map key).Nodup) (k : κ) :
    l.eraseP (key · == k) = l.filter (key · != k) := by
  induction l with
  | nil => rfl
  | cons a l ih =>
    rw [List.map_cons, List.nodup_cons] at h
    by_cases ha : key a = k
    · have hothers : ∀ b ∈ l, (key b != k) = true := fun b hb =>
        bne_iff_ne.2 fun hk => h.1 (List.mem_map.2 ⟨b, hb, hk.trans ha.symm⟩)
      rw [List.eraseP_cons_of_pos (by simpa using ha), List.filter_cons_of_neg (by simpa using ha),
        List.filter_eq_self.2 hothers]
    · rw [List.eraseP_cons_of_neg (by simpa using ha), List.filter_cons_of_pos (by simpa using ha),
        ih h.2]

end Switchboard
