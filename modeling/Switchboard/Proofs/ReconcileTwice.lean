import Switchboard.Proofs.Settling

/-!
# Reconciling once more

The model of a snapshot is a fixed point: the same snapshot, reconciled into it again, makes the same
model. What was attributed to a profile the first time is attributed to it again, what was kept for it
is there to be kept, and the selection that was chosen stays.

* `Snapshot.fillFrom_settled` — what is made of a snapshot fills its gaps with nothing new.
* `Model.reconcile_again` — the model is the same as a whole.
* `Engine.differs_write_of_isView` — neither an order shown nor a selection makes it another one.
* `Model.reconcile_idempotent` — so a silent poll that brings the snapshot once more changes nothing.
-/

set_option autoImplicit false

namespace Switchboard

/-- An identity has nothing to take from what becomes of it. -/
theorem Identity.fillFrom_settled (i : Identity) (before : Option Model) (v : Viewpoint) :
    i.fillFrom (i.settled before v) = i.settled before v := by
  apply eq_of_bare_eq
  · rw [bare_fillFrom, bare_settled]
  · intro d
    rw [datum?_fillFrom, datum?_settled, ← Option.or_assoc, Option.or_self]

namespace Snapshot

variable {s : Snapshot}

/-- A profile has nothing to take from what becomes of it. -/
theorem fillFrom_settleProfile (s : Snapshot) (before : Option Model) (v : Viewpoint) (p : Profile) :
    (s.creditProfile v.mode p).fillFrom (s.settleProfile before v p) =
      s.settleProfile before v p := by
  apply Profile.eq_of_bare_eq
  · simp
  · intro d
    rw [Profile.datum?_fillFrom, datum?_settleProfile, ← Option.or_assoc, Option.or_self]

theorem fillFrom_settled (hs : s.names.Nodup) (before : Option Model) (v : Viewpoint) :
    (s.credit v.mode).fillFrom v.mode (s.settled before v) = s.settled before v := by
  apply eq_of_bare_eq (m := v.mode)
  · rw [bare_fillFrom, bare_credit, bare_settled]
  · have hprofile : ∀ p ∈ s.profiles, (s.settled before v).refillProfile (s.creditProfile v.mode p) =
        s.settleProfile before v p := by
      intro p hp
      unfold refillProfile
      rw [name_creditProfile, profile?_settled hs, profile?_of_mem hs hp, Option.map_some]
      exact s.fillFrom_settleProfile before v p
    rw [profiles_settled hs]
    simpa [fillFrom, profiles_credit hs] using hprofile
  · have hcredit : (s.credit v.mode).identity v.mode = s.identity v.mode := by simp [identity]
    rw [identity, identities_fillFrom, ByMode.get_set_self, hcredit, identity_settled]
    cases s.identity v.mode with
    | none => rfl
    | some i => exact congrArg some (i.fillFrom_settled before v)

/-- A snapshot that is reconciled into its own model makes the same snapshot, with values kept or, if
none were kept the first time, without. -/
theorem settled_again (hs : s.names.Nodup) (before : Option Model) (v : Viewpoint) {b : Model}
    (hb : b.snapshot = s.settled before v) {preserve : Bool}
    (hpreserve : preserve = true ∨ v.preserve = false) :
    s.settled (some b) { v with preserve := preserve } = s.settled before v := by
  rw [settled_eq]
  cases preserve with
  | true =>
    have hkept : Viewpoint.kept? { v with preserve := true } (some b) =
        some (s.settled before v) := congrArg some hb
    rw [hkept]
    exact fillFrom_settled hs before v
  | false =>
    have hv : v.preserve = false := by simpa using hpreserve
    have hkept : v.kept? before = none := by simp [Viewpoint.kept?, hv]
    rw [settled_eq, hkept]
    rfl

end Snapshot

namespace Model

variable {s : Snapshot}

/-- The selection of a well-formed model is chosen again. -/
theorem chooseSelected_of_wellFormed {m : Model} (h : m.WellFormed) (v : Viewpoint) :
    chooseSelected m.snapshot (some m) v = m.selected := by
  cases hsel : m.selected with
  | none => exact chooseSelected_eq_none_iff.2 (h.selected_none.1 hsel)
  | some name =>
    have hc : m.snapshot.contains name := h.selected_some name hsel
    simp [chooseSelected, hsel, hc]

/-- **A model is a fixed point.** The snapshot that it was made of makes the same model again. -/
theorem reconcile_again (hs : s.names.Nodup) (before : Option Model) (v : Viewpoint)
    {preserve : Bool} (hpreserve : preserve = true ∨ v.preserve = false) :
    reconcile s (some (reconcile s before v)) { v with preserve := preserve } =
      reconcile s before v := by
  have hsettled : s.settled (some (reconcile s before v)) { v with preserve := preserve } =
      s.settled before v := Snapshot.settled_again hs before v rfl hpreserve
  have hselected : chooseSelected (s.settled before v) (some (reconcile s before v))
      { v with preserve := preserve } = chooseSelected (s.settled before v) before v :=
    chooseSelected_of_wellFormed (wellFormed_reconcile s before v) { v with preserve := preserve }
  calc reconcile s (some (reconcile s before v)) { v with preserve := preserve }
      = ofSettled (s.settled before v) (some (reconcile s before v))
          { v with preserve := preserve } := by rw [reconcile, hsettled]
    _ = ofSettled (s.settled before v) before v := by
      unfold ofSettled
      rw [hselected]
      rfl

end Model

/-! ## The same snapshot, polled again -/

/-- What a silent poll compares a snapshot with. -/
def Model.base (m : Model) : Snapshot × String := (m.snapshot, m.signature)

namespace ModelWrite

/-- The write only changes how the model is looked at. -/
def isView : ModelWrite → Bool
  | reorder _ | select _ => true
  | apply _ _ | applyIfChanged _ => false

/-- The snapshot that a write brings in. -/
def snapshot? : ModelWrite → Option Snapshot
  | apply s _ | applyIfChanged s => some s
  | reorder _ | select _ => none

/-- A new look at a model leaves its snapshot and its signature. -/
theorem base_result_of_isView {x : ModelWrite} (hx : x.isView) (m : Mode)
    (remembered : Option String) (before : Option Model) :
    (x.result m remembered before).map (·.base) = before.map (·.base) := by
  cases x with
  | apply | applyIfChanged => cases hx
  | reorder names => cases before <;> rfl
  | select name =>
    cases before with
    | none => rfl
    | some b =>
      simp only [result, Option.bind_some]
      cases hsel : b.select? name with
      | none => rfl
      | some b' =>
        obtain ⟨-, rfl⟩ := Model.of_select? hsel
        rfl

end ModelWrite

namespace Engine

variable {e : Engine} {s : Snapshot}

theorem settings_write (e : Engine) (x : ModelWrite) : (e.write x).settings = e.settings := by
  cases x with
  | apply s preserve => rfl
  | applyIfChanged s =>
    simp only [write, applyIfChanged]
    split <;> rfl
  | reorder names =>
    simp only [write, reorderDisplay]
    split <;> rfl
  | select name =>
    simp only [write, select]
    split <;> rfl

/-- Whether a snapshot differs from the model depends on the model's snapshot and signature and on the
settings, and on nothing else that is shown. -/
theorem differs_congr {e' : Engine} (hsettings : e'.settings = e.settings)
    (hmodel : e'.model.map (·.base) = e.model.map (·.base)) : e'.differs s = e.differs s := by
  have hview : e'.viewpoint true = e.viewpoint true := by simp [viewpoint, mode, hsettings]
  unfold differs reconciled
  rw [hview]
  cases hb : e.model with
  | none =>
    rw [hb, Option.map_none, Option.map_eq_none_iff] at hmodel
    rw [hmodel]
  | some b =>
    rw [hb, Option.map_some, Option.map_eq_some_iff] at hmodel
    obtain ⟨b', hb', heq⟩ := hmodel
    obtain ⟨hsnapshot, hsignature⟩ := Prod.mk.inj heq
    have hsettled : s.settled (some b') (e.viewpoint true) = s.settled (some b) (e.viewpoint true) :=
      Snapshot.settled_congr (congrArg some hsnapshot)
    rw [hb', Option.all_some, Option.all_some, hsignature, signature_reconcile, signature_reconcile,
      snapshot_reconcile, snapshot_reconcile, hsettled]

theorem differs_write_of_isView (e : Engine) {x : ModelWrite} (hx : x.isView) :
    (e.write x).differs s = e.differs s := by
  apply differs_congr (e.settings_write x)
  rw [model_write]
  exact ModelWrite.base_result_of_isView hx e.mode e.settings.rememberedNow e.model

theorem differs_views (e : Engine) {views : List ModelWrite} (h : ∀ x ∈ views, x.isView) :
    (views.foldl write e).differs s = e.differs s := by
  induction views generalizing e with
  | nil => rfl
  | cons x views ih =>
    rw [List.foldl_cons, ih (e.write x) fun y hy => h y (List.mem_cons_of_mem x hy)]
    exact e.differs_write_of_isView (h x List.mem_cons_self)

theorem differs_applySnapshot (hs : s.names.Nodup) (e : Engine) (preserve : Bool) :
    (e.applySnapshot s preserve).differs s = false := by
  have hagain : (e.applySnapshot s preserve).reconciled s true = e.reconciled s preserve :=
    Model.reconcile_again hs e.model (e.viewpoint preserve) (.inl rfl)
  have hmodel : (e.applySnapshot s preserve).model = some (e.reconciled s preserve) := rfl
  unfold differs
  rw [hagain, hmodel]
  simp

/-- A snapshot that has been brought in, for certain or if it differed, does not differ any more. -/
theorem differs_write (hs : s.names.Nodup) (e : Engine) {x : ModelWrite} (hx : x.snapshot? = some s) :
    (e.write x).differs s = false := by
  cases x with
  | apply t preserve =>
    cases hx
    exact differs_applySnapshot hs e preserve
  | applyIfChanged t =>
    cases hx
    cases hd : e.differs s with
    | true =>
      have hw : e.write (.applyIfChanged s) = e.applySnapshot s true := by
        simp [write, applyIfChanged, hd]
      rw [hw]
      exact differs_applySnapshot hs e true
    | false =>
      have hw : e.write (.applyIfChanged s) = e.observeError := applyIfChanged_of_not_differs hd
      rw [hw]
      exact (differs_congr rfl rfl).trans hd
  | reorder | select => cases hx

end Engine

namespace Model

variable {s : Snapshot}

/-- **Reconciling is idempotent.** The model of a snapshot that repeats no name, whatever the model
before was, is made again as a whole if the snapshot is reconciled into it, keeping values, and also
without if none were kept. So a snapshot that has just been brought in does not differ when it comes
again under the same settings, whatever orders are shown and whichever profiles are selected in
between: a silent poll leaves the model alone and does not notify its watchers. -/
theorem reconcile_idempotent (hs : s.names.Nodup) :
    (∀ (before : Option Model) (v : Viewpoint),
      reconcile s (some (reconcile s before v)) { v with preserve := true } =
        reconcile s before v) ∧
    (∀ (before : Option Model) (v : Viewpoint), v.preserve = false →
      reconcile s (some (reconcile s before v)) v = reconcile s before v) ∧
    ∀ (e : Engine) (x : ModelWrite) (views : List ModelWrite),
      x.snapshot? = some s → (∀ y ∈ views, y.isView) →
      (views.foldl Engine.write (e.write x)).differs s = false ∧
        (views.foldl Engine.write (e.write x)).applyIfChanged s =
          (views.foldl Engine.write (e.write x)).observeError := by
  refine ⟨fun before v => reconcile_again hs before v (.inl rfl), ?_, ?_⟩
  · intro before v hv
    exact reconcile_again hs before v (.inr hv)
  · intro e x views hx hviews
    have hd : (views.foldl Engine.write (e.write x)).differs s = false :=
      (Engine.differs_views (e.write x) hviews).trans (Engine.differs_write hs e hx)
    exact ⟨hd, Engine.applyIfChanged_of_not_differs hd⟩

/-- A model made of three parts: "a" has its quota for the hours from the live identity and that for
the week from before, and "b" has the error from before. All of it is there again the second time. With
another order on the screen and another profile selected, the snapshot is still the same. -/
theorem reconcile_idempotent_of_parts :
    let old : Snapshot :=
      { profiles := [{ name := "b", lastError := some "expired" },
          { name := "a", quota := { fiveHourRemaining := some 90, oneWeekRemaining := some 60 } }] }
    let s : Snapshot :=
      { identities :=
          { gpt := none
            openCode := some { workspaceId := some "w", quota := { fiveHourRemaining := some 7 } } }
        profiles := [{ name := "a", workspaceId := some " W" }, { name := "b" }] }
    let m := reconcile s (some (reconcile old none ⟨.openCode, none, false⟩))
      ⟨.openCode, some "b", true⟩
    let bare := reconcile s none ⟨.openCode, some "b", false⟩
    let e := [ModelWrite.reorder ["b", "a"], .select "b"].foldl Engine.write
      (Engine.blank.write (.applyIfChanged s))
    s.names.Nodup ∧ m.snapshot.datum? "a" (.quota .fiveHourRemaining) = some 7 ∧
      m.snapshot.datum? "a" (.quota .oneWeekRemaining) = some 60 ∧
      m.snapshot.datum? "b" .lastError = some "expired" ∧
      reconcile s (some m) ⟨.openCode, some "b", true⟩ = m ∧
      reconcile s (some bare) ⟨.openCode, some "b", false⟩ = bare ∧
      e.selected = some "b" ∧ e.model.map (·.displayNames) = some ["b", "a"] ∧
      e.differs s = false := by
  intro old s m bare e
  have hs : s.names.Nodup := by decide
  obtain ⟨hkept, hbare, hpoll⟩ := reconcile_idempotent hs
  refine ⟨hs, by decide +kernel, by decide +kernel, by decide +kernel, hkept _ _, hbare _ _ rfl,
    by decide +kernel, by decide +kernel, ?_⟩
  exact (hpoll Engine.blank (.applyIfChanged s) [.reorder ["b", "a"], .select "b"] rfl
    (by decide)).1

end Model

end Switchboard
