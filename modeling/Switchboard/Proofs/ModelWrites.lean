import Switchboard.Engine

/-!
# What is done to the model

The model is written in four ways only: a snapshot is reconciled into it, for certain or if that
changes the signature; its display is rearranged; a profile is selected. `ModelWrite.result` says
what a write makes of the model in a given mode, with a given profile remembered, and
`Engine.model_write` that this is all the engine does to it.

* `Model.WellFormed` — what every model obeys, kept by every write (`ModelWrite.wellFormed_result`).
* `model_wellFormed_of_writes` — so it holds after any writes under any settings, also when the
  backend repeats names; and a selected profile stays selected as long as it is there.
-/

set_option autoImplicit false

namespace Switchboard

/-- Something that is done to the model. -/
inductive ModelWrite where
  | apply (s : Snapshot) (preserve : Bool)
  /-- The snapshot is applied if that changes the signature. -/
  | applyIfChanged (s : Snapshot)
  | reorder (names : List String)
  | select (name : String)
  deriving DecidableEq

/-- Does something to the model. -/
def Engine.write (e : Engine) : ModelWrite → Engine
  | .apply s preserve => e.applySnapshot s preserve
  | .applyIfChanged s => e.applyIfChanged s
  | .reorder names => e.reorderDisplay names
  | .select name => e.select name

/-- A reconcile makes a new model of the one before. -/
def ModelWrite.replaces (before : Option Model) (m : Mode) (remembered : Option String) :
    ModelWrite → Bool
  | .apply _ _ => true
  | .applyIfChanged s =>
    before.all (·.signature != (reconcile s before ⟨m, remembered, true⟩).signature)
  | .reorder _ | .select _ => false

/-- What a write makes of the model, in this mode and with this profile remembered. -/
def ModelWrite.result (m : Mode) (remembered : Option String) (before : Option Model)
    (x : ModelWrite) : Option Model :=
  match x with
  | .apply s preserve => some (reconcile s before ⟨m, remembered, preserve⟩)
  | .applyIfChanged s =>
    if x.replaces before m remembered then some (reconcile s before ⟨m, remembered, true⟩)
    else before
  | .reorder names => before.map (·.withDisplayOrder names)
  | .select name => before.bind (·.select? name) <|> before

/-! ## The engine writes nothing else -/

namespace Engine

theorem model_applyIfChanged (e : Engine) (s : Snapshot) :
    (e.applyIfChanged s).model =
      if e.differs s then some (e.reconciled s true) else e.model := by
  unfold applyIfChanged
  split <;> rfl

@[simp] theorem model_reorderDisplay (e : Engine) (names : List String) :
    (e.reorderDisplay names).model = e.model.map (·.withDisplayOrder names) := by
  unfold reorderDisplay
  cases h : e.model with
  | none => simp [h]
  | some m => rfl

@[simp] theorem model_select (e : Engine) (name : String) :
    (e.select name).model = (e.model.bind (·.select? name) <|> e.model) := by
  unfold select
  cases e.model.bind (·.select? name) <;> rfl

/-- **A write of the engine is the write of its model**, in the mode and with the remembered profile
of the engine at that time. -/
theorem model_write (e : Engine) (x : ModelWrite) :
    (e.write x).model = x.result e.mode e.settings.rememberedNow e.model := by
  cases x with
  | apply s preserve => rfl
  | applyIfChanged s => exact model_applyIfChanged e s
  | reorder names => exact model_reorderDisplay e names
  | select name => exact model_select e name

end Engine

/-! ## What a write keeps -/

namespace Snapshot

theorem contains_iff {s : Snapshot} {name : String} :
    s.contains name ↔ name ∈ s.profiles.map (·.name) := by
  simp [contains, profile?]

theorem profiles_ne_nil_of_contains {s : Snapshot} {name : String} (h : s.contains name) :
    s.profiles ≠ [] := by
  rintro hs
  simp [contains, profile?, hs] at h

end Snapshot

theorem map_updateFirst {α β : Type} {p : α → Bool} {f : α → α} {g : α → β}
    (h : ∀ a, g (f a) = g a) : ∀ l : List α, (updateFirst p f l).map g = l.map g
  | [] => rfl
  | a :: rest => by
    unfold updateFirst
    split
    · simp [h]
    · simp [map_updateFirst h rest]

namespace Snapshot

/-- Neither the attribution of quota nor what is kept from before touches a name. -/
@[simp] theorem names_credit (s : Snapshot) (m : Mode) : (s.credit m).names = s.names := by
  unfold credit
  split
  · rfl
  · split
    · rfl
    · exact map_updateFirst (fun p => p.name_takeQuota _) s.profiles

@[simp] theorem name_refillProfile (old : Snapshot) (p : Profile) :
    (refillProfile old p).name = p.name := by
  unfold refillProfile
  split <;> rfl

@[simp] theorem names_fillFrom (s : Snapshot) (m : Mode) (old : Snapshot) :
    (s.fillFrom m old).names = s.names := by
  simp [names, fillFrom, Function.comp_def]

@[simp] theorem names_settled (s : Snapshot) (before : Option Model) (v : Viewpoint) :
    (s.settled before v).names = s.names := by
  unfold settled
  split <;> simp

theorem contains_settled (s : Snapshot) (before : Option Model) (v : Viewpoint) (name : String) :
    (s.settled before v).contains name = s.contains name := by
  rw [Bool.eq_iff_iff, contains_iff, contains_iff]
  exact iff_of_eq (congrArg (name ∈ ·) (names_settled s before v))

theorem contains_of_modeActive {s : Snapshot} {m : Mode} {remembered : Option String}
    {name : String} (h : s.modeActive m remembered = some name) : s.contains name := by
  have usable {o : Option String}
      (ho : o.filter (fun n => (s.profile? n).any (·.support.supports m)) = some name) :
      s.contains name := by
    obtain ⟨-, hn⟩ := Option.filter_eq_some_iff.1 ho
    unfold contains
    cases hp : s.profile? name with
    | none => simp [hp] at hn
    | some p => rfl
  simp only [modeActive, Option.orElse_eq_orElse, Option.orElse_eq_or, Option.or_eq_some_iff,
    Option.map_eq_some_iff] at h
  rcases h with h | ⟨-, h | ⟨-, p, hp, rfl⟩⟩
  · exact usable h
  · exact usable h
  · exact contains_iff.2 (List.mem_map_of_mem (List.mem_of_find?_eq_some hp))

end Snapshot

namespace Model

theorem contains_of_chooseSelected {s : Snapshot} {before : Option Model} {v : Viewpoint}
    {name : String} (h : chooseSelected s before v = some name) : s.contains name := by
  simp only [chooseSelected, Option.orElse_eq_orElse, Option.orElse_eq_or, Option.or_eq_some_iff,
    Option.filter_eq_some_iff, Option.map_eq_some_iff] at h
  rcases h with ⟨-, h⟩ | ⟨-, h | ⟨-, p, hp, rfl⟩⟩
  · exact h
  · exact Snapshot.contains_of_modeActive h
  · exact Snapshot.contains_iff.2 (List.mem_map_of_mem (List.mem_of_mem_head? hp))

/-- The fallbacks of the selection end with the first profile, so only an empty list is left
without one. -/
theorem chooseSelected_eq_none_iff {s : Snapshot} {before : Option Model} {v : Viewpoint} :
    chooseSelected s before v = none ↔ s.profiles = [] := by
  constructor
  · intro h
    simp only [chooseSelected, Option.orElse_eq_orElse, Option.orElse_eq_or, Option.or_eq_none_iff,
      Option.map_eq_none_iff] at h
    exact List.head?_eq_none_iff.1 h.2.2
  · intro h
    rw [Option.eq_none_iff_forall_ne_some]
    intro name hname
    exact Snapshot.profiles_ne_nil_of_contains (contains_of_chooseSelected hname) h

/-- What every model obeys. -/
structure WellFormed (m : Model) : Prop where
  display : m.display.Perm m.snapshot.profiles
  signature : m.signature = m.snapshot.signature
  selected_none : m.selected = none ↔ m.snapshot.profiles = []
  selected_some : ∀ name, m.selected = some name → m.snapshot.contains name

theorem wellFormed_reconcile (s : Snapshot) (before : Option Model) (v : Viewpoint) :
    (reconcile s before v).WellFormed where
  display := .refl _
  signature := rfl
  selected_none := chooseSelected_eq_none_iff
  selected_some _ h := contains_of_chooseSelected h

theorem WellFormed.withDisplayOrder {m : Model} (h : m.WellFormed) (names : List String) :
    (m.withDisplayOrder names).WellFormed :=
  { h with display := (arrange_perm names m.display).trans h.display }

/-- The selection is all that selecting a profile changes. -/
theorem of_select? {m m' : Model} {name : String} (h : m.select? name = some m') :
    m.snapshot.contains name ∧ m' = { m with selected := some name } := by
  unfold select? at h
  split at h
  · rename_i hc
    rw [Bool.and_eq_true] at hc
    exact ⟨hc.1, (Option.some.inj h).symm⟩
  · cases h

theorem WellFormed.select {m m' : Model} (h : m.WellFormed) {name : String}
    (hs : m.select? name = some m') : m'.WellFormed := by
  obtain ⟨hc, rfl⟩ := of_select? hs
  exact
    { display := h.display
      signature := h.signature
      selected_none := ⟨nofun, fun he => absurd he (Snapshot.profiles_ne_nil_of_contains hc)⟩
      selected_some := by rintro _ ⟨⟩; exact hc }

end Model

namespace ModelWrite

theorem exists_of_result_select {m : Mode} {remembered : Option String} {before : Option Model}
    {name : String} {after : Model}
    (h : (select name).result m remembered before = some after) :
    ∃ b, before = some b ∧ (b.select? name = some after ∨ after = b) := by
  simp only [result, Option.orElse_eq_orElse, Option.orElse_eq_or, Option.or_eq_some_iff,
    Option.bind_eq_some_iff] at h
  rcases h with ⟨b, hb, hs⟩ | ⟨-, h⟩
  · exact ⟨b, hb, .inl hs⟩
  · exact ⟨after, h, .inr rfl⟩

/-- **Every write keeps the model well formed**, in any mode and with any profile remembered. -/
theorem wellFormed_result {m : Mode} {remembered : Option String} {before : Option Model}
    {x : ModelWrite} {after : Model} (hb : ∀ b, before = some b → b.WellFormed)
    (h : x.result m remembered before = some after) : after.WellFormed := by
  cases x with
  | apply s preserve =>
    cases h
    exact Model.wellFormed_reconcile s before _
  | applyIfChanged s =>
    simp only [result] at h
    split at h
    · cases h
      exact Model.wellFormed_reconcile s before _
    · exact hb after h
  | reorder names =>
    obtain ⟨b, hb', rfl⟩ := Option.map_eq_some_iff.1 h
    exact (hb b hb').withDisplayOrder names
  | select name =>
    obtain ⟨b, hb', hs | rfl⟩ := exists_of_result_select h
    · exact (hb b hb').select hs
    · exact hb after hb'

/-- A reconcile keeps the selection if its profile is among those that have come in. -/
theorem selected_reconcile {s : Snapshot} {before : Option Model} {v : Viewpoint} {name : String}
    (hs : before.bind (·.selected) = some name) (hc : s.contains name) :
    (reconcile s before v).selected = some name := by
  have hc' : (s.settled before v).contains name := by rwa [Snapshot.contains_settled]
  simp [reconcile, Model.ofSettled, Model.chooseSelected, hs, hc']

end ModelWrite

/-! ## Any writes, under any settings -/

namespace Engine

/-- An engine in which nothing has happened yet, without a store. -/
def blank : Engine where
  store := {}
  config := {}
  settings := {}
  banner := .ofDelay 0
  now := 0

/-- The engine with other settings. -/
def withSettings (e : Engine) (settings : Settings) : Engine := { e with settings := settings }

/-- Does things to the model one after another, each of them under settings of its own. -/
def writeAll (e : Engine) (writes : List (Settings × ModelWrite)) : Engine :=
  writes.foldl (fun e x => (e.withSettings x.1).write x.2) e

theorem wellFormed_writeAll {e : Engine} (he : ∀ m, e.model = some m → m.WellFormed)
    (writes : List (Settings × ModelWrite)) :
    ∀ m, (e.writeAll writes).model = some m → m.WellFormed := by
  induction writes generalizing e with
  | nil => exact he
  | cons x writes ih =>
    apply ih
    intro m hm
    rw [model_write] at hm
    exact ModelWrite.wellFormed_result he hm

theorem selected_applySnapshot {e : Engine} {s : Snapshot} {name : String}
    (hs : e.selected = some name) (hc : s.contains name) (preserve : Bool) :
    (e.applySnapshot s preserve).selected = some name :=
  ModelWrite.selected_reconcile hs hc

theorem selected_applyIfChanged {e : Engine} {s : Snapshot} {name : String}
    (hs : e.selected = some name) (hc : s.contains name) :
    (e.applyIfChanged s).selected = some name := by
  unfold selected
  rw [model_applyIfChanged]
  split
  · exact ModelWrite.selected_reconcile hs hc
  · exact hs

/-- **What holds of the model after any writes.** From an engine without a model, after snapshots
applied (for certain or if changed), orders shown and profiles selected in any order, each under
settings of its own and with names repeated at will: the display is a permutation of the snapshot's
profiles; the signature is that of the snapshot; nothing is selected exactly when there are no
profiles, and otherwise one of them is; and whatever is reconciled next, under whatever settings, a
selected profile that is still there stays selected. -/
theorem model_wellFormed_of_writes {e : Engine} (he : e.model = none)
    (writes : List (Settings × ModelWrite)) :
    (∀ m, (e.writeAll writes).model = some m →
      m.display.Perm m.snapshot.profiles ∧
      m.signature = m.snapshot.signature ∧
      (m.selected = none ↔ m.snapshot.profiles = []) ∧
      (∀ name, m.selected = some name → name ∈ m.snapshot.profiles.map (·.name))) ∧
    ∀ (settings : Settings) (s : Snapshot) (preserve : Bool) (name : String),
      (e.writeAll writes).selected = some name → name ∈ s.profiles.map (·.name) →
      (((e.writeAll writes).withSettings settings).applySnapshot s preserve).selected =
          some name ∧
        (((e.writeAll writes).withSettings settings).applyIfChanged s).selected = some name := by
  have hn : ∀ m, e.model = some m → m.WellFormed := by simp [he]
  constructor
  · intro m hm
    have h := wellFormed_writeAll hn writes m hm
    exact ⟨h.display, h.signature, h.selected_none,
      fun name hname => Snapshot.contains_iff.1 (h.selected_some name hname)⟩
  · intro settings s preserve name hs hc
    have hs' : ((e.writeAll writes).withSettings settings).selected = some name := hs
    have hc' := Snapshot.contains_iff.2 hc
    exact ⟨selected_applySnapshot hs' hc' preserve, selected_applyIfChanged hs' hc'⟩

/-- The backend has sent a name twice; the order shown names it twice, too, and a name that nobody
has. The selection outlives a change of mode. -/
theorem writes_with_repeated_name :
    let s : Snapshot :=
      { profiles := [{ name := "a" }, { name := "b" }, { name := "a", status := "late" }] }
    let e := blank.writeAll
      [({}, .apply s false), ({}, .reorder ["c", "a", "a"]), ({ mode := .openCode }, .select "b")]
    blank.model = none ∧ (∃ m, e.model = some m ∧ m.display.Perm m.snapshot.profiles ∧
      m.displayNames = ["a", "a", "b"]) ∧
      ((e.withSettings {}).applySnapshot { profiles := [{ name := "b" }] } true).selected =
        some "b" := by
  intro s e
  have h := model_wellFormed_of_writes (e := blank) rfl
    [({}, .apply s false), ({}, .reorder ["c", "a", "a"]), ({ mode := .openCode }, .select "b")]
  obtain ⟨m, hm⟩ : ∃ m, e.model = some m := ⟨_, rfl⟩
  refine ⟨rfl, ⟨m, hm, (h.1 m hm).1, ?_⟩, (h.2 {} _ true "b" rfl (by decide)).1⟩
  cases hm
  decide

end Engine

end Switchboard
