import Switchboard.Snapshot
import Switchboard.Text.Markup

/-!
# Errors of the live identity

The backend's error text comes as it was met, often with markup. On the screen it is one line of
at most 260 characters, led by the place of the active account, and it shows only in the mode it
was met in.
-/

set_option autoImplicit false

namespace Switchboard.IdentityError

/-- The longest text that is shown whole. -/
def limit : Nat := 260

/-- The text as one plain line, cut when it is too long. -/
def compact (raw : String) : String := String.ofList (Text.clip limit (Text.plain raw.toList))

/-- The place of the first profile with this name, and the profile. -/
def placeOf? (profiles : List Profile) (name : String) : Option (Nat × Profile) :=
  ((List.range profiles.length).zip profiles).find? (·.2.name == name)

/-- The line for an error; it starts with the place and the workspace of the active profile, if
that is among the profiles. -/
def format (s : Snapshot) (raw : String) : String :=
  match s.activeProfile.bind (placeOf? s.profiles) with
  | some (i, p) =>
    "账号 #" ++ Nat.repr (i + 1) ++ " (" ++ p.displayWorkspace ++ "): " ++ compact raw
  | none => compact raw

/-- The line for the snapshot's error, if it has one that belongs to this mode. -/
def shown (s : Snapshot) (m : Mode) : Option String :=
  match s.currentError with
  | none => none
  | some raw =>
    if Text.isBlankText raw then none
    else if s.currentErrorMode.any (· != m) then none
    else some (format s raw)

theorem shown_eq_some_iff {s : Snapshot} {m : Mode} {text : String} :
    shown s m = some text ↔
      ∃ raw, s.currentError = some raw ∧ Text.isBlankText raw = false ∧
        (∀ tag ∈ s.currentErrorMode, tag = m) ∧ text = format s raw := by
  have htag : s.currentErrorMode.any (· != m) = false ↔ ∀ tag ∈ s.currentErrorMode, tag = m := by
    cases s.currentErrorMode <;> simp
  unfold shown
  cases s.currentError with
  | none => simp
  | some raw =>
    simp only [← htag, Option.some.injEq, exists_eq_left']
    split
    · simp [*]
    · split <;> simp [*, eq_comm]

/-- An error that was met in another mode does not show. -/
theorem shown_of_other_mode {s : Snapshot} {m n : Mode} (h : s.currentErrorMode = some n)
    (hne : n ≠ m) : shown s m = none := by
  rw [Option.eq_none_iff_forall_ne_some]
  intro text htext
  obtain ⟨raw, -, -, htag, -⟩ := shown_eq_some_iff.1 htext
  exact hne (htag n h)

end Switchboard.IdentityError
