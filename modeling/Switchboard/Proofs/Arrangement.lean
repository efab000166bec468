import Mathlib.Data.List.Perm.Basic
import Mathlib.Tactic.Tauto
import Switchboard.Model
import Switchboard.Proofs.DistinctKeys

/-!
# The display in the order of names

The profiles are shown in the order of a list of names, which may repeat names and hold names that
nobody has. Each name takes one profile, the first that is left, so that profiles which share a name
need as many mentions; where no two do, the first mention decides alone.

* `Arranged` — the named profiles by their first mention, and then the others as they were.
* `arranged_arrange` — that is the order on the screen if no two profiles share a name.
* `arrange_arrange`, `arrange_of_arrange` — the same order once more changes nothing, and a later
  order that names every profile takes the place of an earlier one.
* `Model.display_by_first_mention` — the whole of it for the model.
-/

set_option autoImplicit false

namespace Switchboard

variable {profiles : List Profile} {names : List String}

/-- **To arrange profiles in an order twice is to do it once**, also when names are repeated. -/
theorem arrange_arrange (names : List String) :
    ∀ profiles : List Profile, arrange (arrange profiles names) names = arrange profiles names := by
  induction names with
  | nil => exact fun _ => rfl
  | cons name names ih =>
    intro profiles
    cases hp : profiles.find? (·.name == name) with
    | some p =>
      -- The profile stands in front now, so that it is the first of its name.
      have hname := List.find?_some hp
      simp only [arrange, hp, List.find?_cons, hname, List.eraseP_cons_of_pos]
      rw [ih]
    | none =>
      have hnone : (arrange profiles names).find? (·.name == name) = none := by
        rw [List.find?_eq_none] at hp ⊢
        exact fun q hq => hp q ((arrange_perm names profiles).mem_iff.1 hq)
      simp only [arrange, hp, hnone]
      exact ih profiles

/-! ## Different names -/

/-- The list is made of the profiles that are named, in the order in which they are mentioned first,
and then of all others in the order they had. -/
def Arranged (names : List String) (profiles shown : List Profile) : Prop :=
  ∃ mentioned, shown = mentioned ++ profiles.filter (·.name ∉ names) ∧
    (∀ p, p ∈ mentioned ↔ p ∈ profiles ∧ p.name ∈ names) ∧
    mentioned.Pairwise fun p q => names.idxOf p.name < names.idxOf q.name

/-- One more name in front takes its profile out, if there is one, and puts it first. -/
theorem arrange_cons (h : (profiles.map (·.name)).Nodup) (name : String) (names : List String) :
    arrange profiles (name :: names) =
      (profiles.find? (·.name == name)).toList ++ arrange (profiles.filter (·.name != name)) names := by
  cases hfind : profiles.find? (·.name == name) with
  | some p => simp only [arrange, hfind, eraseP_key h, Option.toList_some, List.singleton_append]
  | none =>
    have hall : profiles.filter (·.name != name) = profiles := by
      rw [List.find?_eq_none] at hfind
      exact List.filter_eq_self.2 fun p hp => by simpa using hfind p hp
    simp only [arrange, hfind, hall, Option.toList_none, List.nil_append]

/-- **The first mention decides** where no two profiles share a name. -/
theorem arranged_arrange (h : (profiles.map (·.name)).Nodup) :
    Arranged names profiles (arrange profiles names) := by
  induction names generalizing profiles with
  | nil => exact ⟨[], by simp [arrange], by simp, .nil⟩
  | cons name names ih =>
    -- The other names find all profiles but the one that this name has taken.
    have hnodup : ((profiles.filter (·.name != name)).map (·.name)).Nodup :=
      h.sublist (List.filter_sublist.map _)
    obtain ⟨mentioned, hshown, hmem, hsorted⟩ := ih hnodup
    have hfound (p : Profile) : p ∈ (profiles.find? (·.name == name)).toList ↔
        p ∈ profiles ∧ p.name = name := by
      rw [Option.mem_toList, find?_key_eq_some_iff h]
    have hother (p : Profile) : p ∈ mentioned ↔
        (p ∈ profiles ∧ p.name ≠ name) ∧ p.name ∈ names := by
      rw [hmem, List.mem_filter, bne_iff_ne]
    have hrest : (profiles.filter (·.name != name)).filter (·.name ∉ names) =
        profiles.filter (·.name ∉ name :: names) := by
      rw [List.filter_filter]
      refine List.filter_congr fun p _ => ?_
      rw [Bool.eq_iff_iff]
      simp [and_comm]
    have hlater : ∀ p ∈ mentioned, (name :: names).idxOf p.name = names.idxOf p.name + 1 :=
      fun p hp => List.idxOf_cons_ne names ((hother p).1 hp).1.2.symm
    refine ⟨(profiles.find? (·.name == name)).toList ++ mentioned, ?_, ?_, ?_⟩
    · rw [arrange_cons h, hshown, hrest, List.append_assoc]
    · intro p
      rw [List.mem_append, hfound, hother, List.mem_cons]
      tauto
    · refine List.pairwise_append.2 ⟨?_, ?_, fun p hp q hq => ?_⟩
      · cases profiles.find? (·.name == name) <;> simp
      · refine hsorted.imp_of_mem fun {p q} hp hq hlt => ?_
        rw [hlater p hp, hlater q hq]
        exact Nat.succ_lt_succ hlt
      · rw [hlater q hq, ((hfound p).1 hp).2, List.idxOf_cons_self]
        exact Nat.succ_pos _

/-- **A later order takes the place of an earlier one** if it names every profile. -/
theorem arrange_of_arrange (h : (profiles.map (·.name)).Nodup) (earlier : List String)
    (hall : ∀ p ∈ profiles, p.name ∈ names) :
    arrange (arrange profiles earlier) names = arrange profiles names := by
  -- With every profile mentioned, the order of the mentions is all there is to an arrangement.
  have hsorted {start : List Profile} (hstart : start.Perm profiles) :
      (arrange start names).Pairwise fun p q => names.idxOf p.name < names.idxOf q.name := by
    obtain ⟨mentioned, hshown, -, hsorted⟩ : Arranged names start (arrange start names) :=
      arranged_arrange ((hstart.map (·.name)).nodup_iff.2 h)
    have hnone : start.filter (·.name ∉ names) = [] := by
      rw [List.filter_eq_nil_iff]
      intro p hp
      simpa using hall p (hstart.mem_iff.1 hp)
    rwa [hshown, hnone, List.append_nil]
  have hperm := arrange_perm earlier profiles
  refine List.Perm.eq_of_pairwise ?_ (hsorted hperm) (hsorted (.refl profiles))
    (((arrange_perm names _).trans hperm).trans (arrange_perm names profiles).symm)
  intro p q _ _ hpq hqp
  exact absurd hqp (Nat.lt_asymm hpq)

/-! ## The model -/

namespace Model

/-- **The display in the order of names.** To show the profiles in an order changes nothing of the
model but the display, which loses no profile and doubles none, and to show them in the same order
once more changes nothing. If no two profiles share a name, those that are named come first, by the
first mention of each, and all others follow in the order they had; and an order that names every
profile makes up for any order before it. -/
theorem display_by_first_mention (m : Model) (names : List String) :
    m.withDisplayOrder names = { m with display := (m.withDisplayOrder names).display } ∧
      (m.withDisplayOrder names).display.Perm m.display ∧
      (m.withDisplayOrder names).withDisplayOrder names = m.withDisplayOrder names ∧
      (m.displayNames.Nodup →
        Arranged names m.display (m.withDisplayOrder names).display ∧
          ((∀ p ∈ m.display, p.name ∈ names) → ∀ earlier,
            (m.withDisplayOrder earlier).withDisplayOrder names = m.withDisplayOrder names)) := by
  refine ⟨rfl, arrange_perm names m.display, ?_, fun h => ⟨arranged_arrange h, ?_⟩⟩
  · exact congrArg (fun display => { m with display := display }) (arrange_arrange names m.display)
  · intro hall earlier
    exact congrArg (fun display => { m with display := display }) (arrange_of_arrange h earlier hall)

/-- Three profiles, of which an order names two, one of them twice, and somebody else. Then all three
are named. -/
theorem display_of_three :
    let m : Model :=
      { snapshot := {}, selected := none, current := none, signature := ""
        display := [{ name := "a" }, { name := "b" }, { name := "c" }] }
    m.displayNames.Nodup ∧ Arranged ["c", "x", "a", "c"] m.display
        (m.withDisplayOrder ["c", "x", "a", "c"]).display ∧
      (m.withDisplayOrder ["c", "x", "a", "c"]).displayNames = ["c", "a", "b"] ∧
      (∀ p ∈ m.display, p.name ∈ ["b", "c", "b", "a"]) ∧
      ((m.withDisplayOrder ["c", "x", "a", "c"]).withDisplayOrder ["b", "c", "b", "a"]) =
        m.withDisplayOrder ["b", "c", "b", "a"] := by
  intro m
  have hnames : m.displayNames.Nodup := by decide
  have hall : ∀ p ∈ m.display, p.name ∈ ["b", "c", "b", "a"] := by decide
  exact ⟨hnames, ((display_by_first_mention m _).2.2.2 hnames).1, by decide, hall,
    ((display_by_first_mention m _).2.2.2 hnames).2 hall _⟩

/-- With a name that two profiles share, an earlier order may shine through: each name is mentioned,
but for the second profile of the name no mention is left. -/
example :
    let m : Model :=
      { snapshot := {}, selected := none, current := none, signature := ""
        display := [{ name := "a" }, { name := "a" }, { name := "b" }, { name := "b" }] }
    (m.withDisplayOrder ["a", "b"]).displayNames = ["a", "b", "a", "b"] ∧
      ((m.withDisplayOrder ["b", "b"]).withDisplayOrder ["a", "b"]).displayNames =
        ["a", "b", "b", "a"] := by
  decide

end Model

end Switchboard
