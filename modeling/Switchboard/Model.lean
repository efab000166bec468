import Switchboard.Digest.Sha256
import Switchboard.Snapshot

/-!
# The model on the screen

A model is a snapshot with what is derived from it: the order in which the profiles are shown, the
selected one, the one in use, and a signature, by which two snapshots are told apart. The order on
the screen may run ahead of the snapshot while it is being saved; the signature never does.
-/

set_option autoImplicit false

namespace Switchboard

/-- The SHA-256 of the snapshot's compact text, in hexadecimal digits. -/
def Snapshot.signature (s : Snapshot) : String :=
  Digest.hex (Digest.sha256 s.toJson.compact.toUTF8.toList)

/-- What the screen shows. -/
structure Model where
  snapshot : Snapshot
  /-- The profiles in the order on the screen. -/
  display : List Profile
  selected : Option String
  /-- The profile that is in use, as far as that is known. -/
  current : Option String
  signature : String
  deriving DecidableEq, Inhabited

/-- The profiles in the order of these names, each name taking the first profile that has it and is
not taken yet; the others follow in the order they had. -/
def arrange (profiles : List Profile) : List String → List Profile
  | [] => profiles
  | name :: names =>
    match profiles.find? (·.name == name) with
    | some p => p :: arrange (profiles.eraseP (·.name == name)) names
    | none => arrange profiles names

theorem arrange_perm (names : List String) :
    ∀ profiles : List Profile, (arrange profiles names).Perm profiles := by
  induction names with
  | nil => exact fun _ => .refl _
  | cons name names ih =>
    intro profiles
    simp only [arrange]
    split
    · rename_i p hp
      obtain ⟨hname, before, after, rfl, hbefore⟩ := List.find?_eq_some_iff_append.1 hp
      have he : (before ++ p :: after).eraseP (·.name == name) = before ++ after := by
        rw [List.eraseP_append_right _ (by simpa using hbefore)]
        simp [hname]
      rw [he]
      exact ((ih _).cons p).trans List.perm_middle.symm
    · exact ih profiles

namespace Model

/-- The names of the profiles, in the order on the screen. -/
def displayNames (m : Model) : List String := m.display.map (·.name)

/-- The model with its profiles shown in the order of these names. -/
def withDisplayOrder (m : Model) (names : List String) : Model :=
  { m with display := arrange m.display names }

/-- The model with this profile selected, if that is one of its profiles and not selected yet. -/
def select? (m : Model) (name : String) : Option Model :=
  if m.snapshot.contains name && m.selected != some name then
    some { m with selected := some name }
  else none

end Model

end Switchboard
