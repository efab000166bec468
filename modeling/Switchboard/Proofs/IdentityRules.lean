import Mathlib.Data.List.Forall2
import Mathlib.Data.List.TakeWhile
import Switchboard.Matching

/-!
# The rules of matching, in words

The live identity belongs to the one profile that the strongest rule with exactly one profile points
to. Here the rules are said once more without keys: two values are the same if both are there, neither
is blank, and they differ in case and in the white space at their ends at most.

* `Text.lower_eq_empty_iff`, `Text.trim_eq_empty_iff` — so a value has no key exactly if it is absent
  or blank.
* `Rule.holds_iff` — a rule about keys holds exactly if the values are the same.
* `Rule.verdict_eq_some_iff` — a rule decides for the profile that obeys it while no other one does.
* `matchIdentity_by_first_rule` — the first rule that decides, whatever the order of the profiles and
  however the values are written.
-/

set_option autoImplicit false

namespace Switchboard

namespace Text

theorem lowerChar_ne_nil (c : Char) : lowerChar c ≠ [] := by
  unfold lowerChar
  split
  · exact List.cons_ne_nil _ _
  · split
    · exact List.cons_ne_nil _ _
    · split <;> exact List.cons_ne_nil _ _

/-- Lower-casing leaves something of every character. -/
theorem lower_eq_empty_iff {s : String} : lower s = "" ↔ s = "" := by
  have hfrom (before cs : List Char) : lowerFrom before cs = [] ↔ cs = [] := by
    cases cs with
    | nil => simp [lowerFrom]
    | cons c rest =>
      simp only [lowerFrom, List.append_eq_nil_iff, reduceCtorEq, iff_false, not_and]
      intro himage
      split at himage
      · cases himage
      · exact absurd himage (lowerChar_ne_nil c)
  rw [lower, String.ofList_eq_empty_iff, hfrom, String.toList_eq_nil_iff]

/-- Trimming leaves nothing of a blank text only. -/
theorem trim_eq_empty_iff {s : String} : trim s = "" ↔ isBlankText s := by
  have hdrop : (∀ c ∈ s.toList.dropWhile isBlank, isBlank c) ↔ ∀ c ∈ s.toList, isBlank c := by
    constructor
    · intro h c hc
      rw [← List.takeWhile_append_dropWhile (p := isBlank) (l := s.toList), List.mem_append] at hc
      exact hc.elim (List.mem_takeWhile_imp ·) (h c)
    · exact fun h c hc => h c ((List.dropWhile_sublist isBlank).mem hc)
  simpa [trim, trimChars, isBlankText, List.dropWhile_eq_nil_iff] using hdrop

end Text

/-- Both values are there, neither of them is blank, and they are the same text but for case and for
white space at the ends. -/
def SameValue (a b : Option String) : Prop :=
  ∃ s t, a = some s ∧ b = some t ∧ Text.isBlankText s = false ∧
    Text.lower (Text.trim s) = Text.lower (Text.trim t)

/-- A value has a key unless it is absent or blank. -/
theorem normalizeValue_eq_some_iff {a : Option String} {k : String} :
    normalizeValue a = some k ↔
      ∃ s, a = some s ∧ Text.isBlankText s = false ∧ Text.lower (Text.trim s) = k := by
  have hkey (s : String) :
      (Text.lower (Text.trim s)).isEmpty = true ↔ Text.isBlankText s = true := by
    rw [String.isEmpty_iff, Text.lower_eq_empty_iff, Text.trim_eq_empty_iff]
  cases a with
  | none =>
    have hnone : normalizeValue none = none := by decide
    simp [hnone]
  | some s =>
    simp only [normalizeValue, Option.getD_some, hkey]
    split <;> simp_all

theorem isBlankText_congr {s t : String}
    (h : Text.lower (Text.trim s) = Text.lower (Text.trim t)) :
    Text.isBlankText s = Text.isBlankText t := by
  rw [Bool.eq_iff_iff, ← Text.trim_eq_empty_iff, ← Text.trim_eq_empty_iff,
    ← Text.lower_eq_empty_iff, h, Text.lower_eq_empty_iff]

/-- Two values have one key exactly if they are the same. -/
theorem agree_normalizeValue_iff {a b : Option String} :
    agree (normalizeValue a) (normalizeValue b) ↔ SameValue a b := by
  simp only [agree, Bool.and_eq_true, Option.isSome_iff_exists, beq_iff_eq]
  constructor
  · rintro ⟨⟨k, hk⟩, hab⟩
    obtain ⟨s, hs, hblank, rfl⟩ := normalizeValue_eq_some_iff.1 hk
    obtain ⟨t, ht, -, hkey⟩ := normalizeValue_eq_some_iff.1 (hab.symm.trans hk)
    exact ⟨s, t, hs, ht, hblank, hkey.symm⟩
  · rintro ⟨s, t, hs, ht, hblank, hkey⟩
    have ha := normalizeValue_eq_some_iff.2 ⟨s, hs, hblank, rfl⟩
    have hb := normalizeValue_eq_some_iff.2
      ⟨t, ht, (isBlankText_congr hkey).symm.trans hblank, hkey.symm⟩
    exact ⟨⟨_, ha⟩, ha.trans hb.symm⟩

/-! ## What the rules demand -/

/-- The name of the workspace, or, where there is none, the name on the screen. -/
def Profile.workspace (p : Profile) : String := p.workspaceName.getD p.displayWorkspace

/-- The name of the workspace, or, where there is none, the name on the screen. -/
def Identity.workspace (i : Identity) : String := i.workspaceName.getD i.displayWorkspace

namespace Rule

/-- The profile has what the rule demands in common with the identity. -/
def Obeyed (r : Rule) (i : Identity) (p : Profile) : Prop :=
  match r with
  | idAndEmail => SameValue i.workspaceId p.workspaceId ∧ SameValue i.email p.email
  | id => SameValue i.workspaceId p.workspaceId
  | nameAndEmail => SameValue (some i.workspace) (some p.workspace) ∧ SameValue i.email p.email
  | name => SameValue (some i.workspace) (some p.workspace)
  | email => SameValue i.email p.email

/-- Of all profiles in the list this one, and no other one, obeys the rule. -/
def PointsTo (r : Rule) (i : Identity) (profiles : List Profile) (p : Profile) : Prop :=
  ∃ before after, profiles = before ++ p :: after ∧ r.Obeyed i p ∧
    ∀ q ∈ before ++ after, ¬ r.Obeyed i q

theorem workspaceName_or (name : Option String) (shown : String) :
    (name <|> some shown) = some (name.getD shown) := by
  cases name <;> rfl

/-- A rule about keys holds exactly if the values are the same. -/
theorem holds_iff {r : Rule} {i : Identity} {p : Profile} :
    r.holds i.key p.key ↔ r.Obeyed i p := by
  cases r <;>
    simp [holds, Obeyed, Identity.key, Profile.key, AccountKey.of, agree_normalizeValue_iff,
      workspaceName_or, Identity.workspace, Profile.workspace]

theorem verdict_eq_some_iff_filter {r : Rule} {wanted : AccountKey} {profiles : List Profile}
    {p : Profile} : r.verdict wanted profiles = some p ↔
      profiles.filter (fun q => r.holds wanted q.key) = [p] := by
  unfold verdict
  split
  · rename_i q hq
    simp [hq]
  · rename_i hne
    simp only [reduceCtorEq, false_iff]
    exact hne p

/-- **A rule decides** for the profile that obeys it while no other one does. -/
theorem verdict_eq_some_iff {r : Rule} {i : Identity} {profiles : List Profile} {p : Profile} :
    r.verdict i.key profiles = some p ↔ r.PointsTo i profiles p := by
  rw [verdict_eq_some_iff_filter, List.filter_eq_cons_iff]
  simp only [PointsTo, List.forall_mem_append, holds_iff, List.filter_eq_nil_iff]
  constructor
  · rintro ⟨before, after, hs, hb, hp, ha⟩
    exact ⟨before, after, hs, hp, hb, ha⟩
  · rintro ⟨before, after, hs, hp, hb, ha⟩
    exact ⟨before, after, hs, hb, hp, ha⟩

theorem verdict_eq_none_iff {r : Rule} {i : Identity} {profiles : List Profile} :
    r.verdict i.key profiles = none ↔ ∀ p, ¬ r.PointsTo i profiles p := by
  simp only [Option.eq_none_iff_forall_ne_some, ne_eq, verdict_eq_some_iff]

theorem mem_all (r : Rule) : r ∈ all := by
  cases r <;> decide

/-- No rule goes by the order of the profiles. -/
theorem verdict_perm (r : Rule) (wanted : AccountKey) {profiles others : List Profile}
    (h : profiles.Perm others) : r.verdict wanted others = r.verdict wanted profiles := by
  have hfilter := h.filter fun q => r.holds wanted q.key
  ext p
  rw [verdict_eq_some_iff_filter, verdict_eq_some_iff_filter, ← List.perm_singleton,
    ← List.perm_singleton]
  exact ⟨hfilter.trans, hfilter.symm.trans⟩

/-- Of a profile a rule sees the key only. -/
theorem name_verdict_congr (r : Rule) (wanted : AccountKey) {profiles others : List Profile}
    (h : List.Forall₂ (fun p q => q.name = p.name ∧ q.key = p.key) profiles others) :
    (r.verdict wanted others).map (·.name) = (r.verdict wanted profiles).map (·.name) := by
  have hfilter := List.rel_filter
    (p := fun q => r.holds wanted q.key) (q := fun q => r.holds wanted q.key)
    (fun p q hpq => by simp [hpq.2]) h
  unfold verdict
  generalize profiles.filter (fun q => r.holds wanted q.key) = found at hfilter ⊢
  generalize others.filter (fun q => r.holds wanted q.key) = found' at hfilter ⊢
  cases hfilter with
  | nil => rfl
  | cons hpq hrest =>
    cases hrest with
    | nil => simp [hpq.1]
    | cons => rfl

end Rule

/-! ## The match -/

theorem matchIdentity_eq_findSome? (profiles : List Profile) (i : Identity) :
    matchIdentity profiles i =
      Rule.all.findSome? fun r => (r.verdict i.key profiles).map (·.name) := by
  rw [matchIdentity, matchProfile, List.map_findSome?]
  rfl

theorem matchIdentity_eq_some_iff {profiles : List Profile} {i : Identity} {name : String} :
    matchIdentity profiles i = some name ↔
      ∃ stronger r weaker p, Rule.all = stronger ++ r :: weaker ∧ r.PointsTo i profiles p ∧
        p.name = name ∧ ∀ r' ∈ stronger, ∀ q, ¬ r'.PointsTo i profiles q := by
  simp only [matchIdentity_eq_findSome?, List.findSome?_eq_some_iff, Option.map_eq_some_iff,
    Option.map_eq_none_iff, Rule.verdict_eq_some_iff, Rule.verdict_eq_none_iff]
  constructor
  · rintro ⟨stronger, r, weaker, hall, ⟨p, hp, hname⟩, hs⟩
    exact ⟨stronger, r, weaker, p, hall, hp, hname, hs⟩
  · rintro ⟨stronger, r, weaker, p, hall, hp, hname, hs⟩
    exact ⟨stronger, r, weaker, hall, ⟨p, hp, hname⟩, hs⟩

theorem matchIdentity_eq_none_iff {profiles : List Profile} {i : Identity} :
    matchIdentity profiles i = none ↔ ∀ (r : Rule) p, ¬ r.PointsTo i profiles p := by
  simp [matchIdentity_eq_findSome?, List.findSome?_eq_none_iff, Rule.verdict_eq_none_iff,
    Rule.mem_all]

/-- **The live identity belongs to the profile of the first rule that decides.** Among the five
rules, the strongest one first, that is the first one which exactly one profile of the list obeys; the
identity belongs to no profile exactly if every rule is obeyed by none or by several. So the order of
the profiles does not matter, nor does anything but the normalized keys; and the name that the live
identity resolves to is that of its profile, else the remembered one, else the active one. -/
theorem matchIdentity_by_first_rule (profiles : List Profile) :
    (∀ i name, matchIdentity profiles i = some name ↔
      ∃ stronger r weaker p, Rule.all = stronger ++ r :: weaker ∧ r.PointsTo i profiles p ∧
        p.name = name ∧ ∀ r' ∈ stronger, ∀ q, ¬ r'.PointsTo i profiles q) ∧
    (∀ i, matchIdentity profiles i = none ↔ ∀ (r : Rule) p, ¬ r.PointsTo i profiles p) ∧
    (∀ others, profiles.Perm others → ∀ i, matchIdentity others i = matchIdentity profiles i) ∧
    (∀ others, List.Forall₂ (fun p q => q.name = p.name ∧ q.key = p.key) profiles others →
      ∀ i j : Identity, j.key = i.key → matchIdentity others j = matchIdentity profiles i) ∧
    ∀ current remembered active name,
      resolveProfile profiles current remembered active = some name ↔
        (∃ i, current = some i ∧ matchIdentity profiles i = some name) ∨
          (∀ i, current = some i → matchIdentity profiles i = none) ∧
            (remembered = some name ∨ remembered = none ∧ active = some name) := by
  refine ⟨fun i name => matchIdentity_eq_some_iff, fun i => matchIdentity_eq_none_iff,
    fun others h i => ?_, fun others h i j hkey => ?_, fun current remembered active name => ?_⟩
  · simp only [matchIdentity_eq_findSome?, Rule.verdict_perm _ _ h]
  · simp only [matchIdentity_eq_findSome?, hkey, Rule.name_verdict_congr _ _ h]
  · unfold resolveProfile
    cases current with
    | none => cases remembered <;> simp
    | some i => cases hm : matchIdentity profiles i <;> cases remembered <;> simp [hm]

/-- Two profiles have the workspace id of the identity, so that no rule with ids decides. The name on
the screen stands in for the name of the workspace that "b" and the identity lack, and not for the
blank one of "c". -/
theorem matchIdentity_past_a_tie :
    let a : Profile := { name := "a", workspaceId := some "W1", email := some "x" }
    let b : Profile := { name := "b", workspaceId := some " w1 ", displayWorkspace := "Team" }
    let c : Profile := { name := "c", workspaceName := some " ", displayWorkspace := "Team" }
    let i : Identity :=
      { workspaceId := some "w1\t", email := some "y", displayWorkspace := "TEAM " }
    let b' : Profile := { b with workspaceId := some "W1", workspaceName := some "team" }
    let i' : Identity := { i with email := some " Y " }
    (∀ p, ¬ Rule.id.PointsTo i [a, b, c] p) ∧ Rule.name.PointsTo i [a, b, c] b ∧
      [a, b, c].Perm [c, b, a] ∧ b'.key = b.key ∧ i'.key = i.key ∧
      matchIdentity [a, b, c] i = some "b" ∧ matchIdentity [c, b, a] i = some "b" ∧
      matchIdentity [a, b', c] i' = some "b" ∧
      resolveProfile [a, b, c] (some i) (some "a") none = some "b" := by
  intro a b c i b' i'
  have hties : ∀ r ∈ [Rule.idAndEmail, .id, .nameAndEmail], r.verdict i.key [a, b, c] = none := by
    decide +kernel
  have htie (r : Rule) (hr : r ∈ [Rule.idAndEmail, .id, .nameAndEmail]) (p : Profile) :
      ¬ r.PointsTo i [a, b, c] p := Rule.verdict_eq_none_iff.1 (hties r hr) p
  have hname : Rule.name.PointsTo i [a, b, c] b := Rule.verdict_eq_some_iff.1 (by decide +kernel)
  have hperm : [a, b, c].Perm [c, b, a] := by decide +kernel
  have hb : b'.key = b.key := by decide +kernel
  have hi : i'.key = i.key := by decide +kernel
  obtain ⟨hfirst, -, hshuffled, hrewritten, hresolved⟩ := matchIdentity_by_first_rule [a, b, c]
  have hmatch : matchIdentity [a, b, c] i = some "b" :=
    (hfirst i "b").2 ⟨[.idAndEmail, .id, .nameAndEmail], .name, [.email], b, rfl, hname, rfl, htie⟩
  refine ⟨htie .id (by decide), hname, hperm, hb, hi, hmatch, ?_, ?_, ?_⟩
  · rw [hshuffled [c, b, a] hperm, hmatch]
  · rw [hrewritten [a, b', c] (.cons ⟨rfl, rfl⟩ (.cons ⟨rfl, hb⟩ (.cons ⟨rfl, rfl⟩ .nil))) i i' hi,
      hmatch]
  · exact (hresolved (some i) (some "a") none "b").2 (.inl ⟨i, rfl, hmatch⟩)

end Switchboard
