import Switchboard.Proofs.Settling

/-!
# What a reconcile leaves alone

A snapshot that comes in is made into a model with as little change as can be. Its data may be
completed, that of the profile in use may be replaced, and nothing else is touched.

* `Snapshot.Keeps` — nothing that an older snapshot has a value for is blank in this one; on a silent
  poll this holds of the model's snapshots, one after the other (`Snapshot.keeps_settled`).
* `Snapshot.credited_of_credit` — only the profile that the identity belongs to gets its quota.
* `Model.reconcile_withIdentity` — the other mode's identity is carried along and plays no other part.
* `Model.reconcile_frame` — all of it in one.
-/

set_option autoImplicit false

namespace Switchboard

namespace Snapshot

/-- The snapshot has a value for all the data that the older one has a value for, in the profiles by
name (of several of one name, the first) and in the mode's identity. -/
structure Keeps (s old : Snapshot) (m : Mode) : Prop where
  profiles : ∀ name ∈ s.names, ∀ d, (old.datum? name d).isSome → (s.datum? name d).isSome
  identities : ∀ {i j : Identity}, s.identity m = some i → old.identity m = some j →
    ∀ d, (j.datum? d).isSome → (i.datum? d).isSome

/-- The snapshot with another identity in this mode, or none. -/
def withIdentity (s : Snapshot) (m : Mode) (i : Option Identity) : Snapshot :=
  { s with identities := s.identities.set m i }

variable {s : Snapshot} {m n : Mode}

/-! ## No value is lost, and only one profile is credited -/

theorem keeps_settled (hs : s.names.Nodup) {before : Option Model} {v : Viewpoint} {old : Snapshot}
    (h : v.kept? before = some old) : (s.settled before v).Keeps old v.mode where
  profiles name hname d hd := by
    rw [names_settled] at hname
    obtain ⟨p, hp, rfl⟩ := List.mem_map.1 hname
    rw [datum?_settled hs before v hp, h, Option.bind_some, Option.isSome_or, hd, Bool.or_true]
  identities {i j} hi hj d hd := by
    rw [identity_settled, Option.map_eq_some_iff] at hi
    obtain ⟨i, hi, rfl⟩ := hi
    rw [Identity.datum?_settled, h, Option.bind_some, hj, Option.bind_some, Option.isSome_or, hd,
      Bool.or_true]

/-- A profile that is not as it was before the live identity's quota was attributed is the one that
the identity belongs to. -/
theorem credited_of_credit (hs : s.names.Nodup) {p : Profile} (hp : p ∈ s.profiles)
    (h : (s.credit m).profile? p.name ≠ some p) :
    ∃ i, s.identity m = some i ∧ matchIdentity s.profiles i = some p.name := by
  have hcredit : (s.credit m).profile? p.name = some (s.creditProfile m p) := by
    have hmem : s.creditProfile m p ∈ (s.credit m).profiles := by
      rw [profiles_credit hs]
      exact List.mem_map_of_mem hp
    have hnames : (s.credit m).names.Nodup := by rwa [names_credit]
    simpa using profile?_of_mem hnames hmem
  rw [hcredit, creditProfile] at h
  cases hi : s.identityOf? m p with
  | none => simp [hi] at h
  | some i => exact ⟨i, identityOf?_eq_some_iff.1 hi⟩

/-- A profile that the identity does not belong to has what came in for it, and of the older snapshot
what did not. -/
theorem datum?_settled_of_not_live (hs : s.names.Nodup) {before : Option Model} {v : Viewpoint}
    {old : Snapshot} (h : v.kept? before = some old) {p : Profile} (hp : p ∈ s.profiles)
    (hlive : s.identityOf? v.mode p = none) (d : Datum) :
    (s.settled before v).datum? p.name d = (p.datum? d).or (old.datum? p.name d) := by
  rw [datum?_settled hs before v hp, datum?_creditProfile, hlive, h, Option.bind_some]

/-! ## The other mode's identity -/

theorem identity_withIdentity_of_ne (h : m ≠ n) (s : Snapshot) (i : Option Identity) :
    (s.withIdentity n i).identity m = s.identity m := s.identities.get_set_of_ne i h

theorem credit_withIdentity (h : m ≠ n) (s : Snapshot) (i : Option Identity) :
    (s.withIdentity n i).credit m = (s.credit m).withIdentity n i := by
  unfold credit
  rw [identity_withIdentity_of_ne h]
  cases s.identity m with
  | none => rfl
  | some j =>
    have hprofiles : (s.withIdentity n i).profiles = s.profiles := rfl
    dsimp only
    rw [hprofiles]
    cases matchIdentity s.profiles j <;> rfl

theorem fillFrom_withIdentity (h : m ≠ n) (s : Snapshot) (i : Option Identity) (old : Snapshot) :
    (s.withIdentity n i).fillFrom m old = (s.fillFrom m old).withIdentity n i := by
  unfold fillFrom
  rw [identity_withIdentity_of_ne h]
  cases s.identity m with
  | none => rfl
  | some j =>
    cases old.identity m with
    | none => rfl
    | some k =>
      simp only [withIdentity]
      rw [ByMode.set_comm _ h.symm]

theorem settled_withIdentity (s : Snapshot) (before : Option Model) (v : Viewpoint)
    (h : v.mode ≠ n) (i : Option Identity) :
    (s.withIdentity n i).settled before v = (s.settled before v).withIdentity n i := by
  rw [settled_eq, settled_eq, credit_withIdentity h]
  cases v.kept? before with
  | none => rfl
  | some old => exact fillFrom_withIdentity h (s.credit v.mode) i old

end Snapshot

namespace Model

variable {s : Snapshot}

/-- The model of a snapshot that tells of another identity in the other mode is the same model with
that identity, and signed anew. -/
theorem reconcile_withIdentity (s : Snapshot) (before : Option Model) (v : Viewpoint) {n : Mode}
    (h : v.mode ≠ n) (i : Option Identity) :
    reconcile (s.withIdentity n i) before v =
      { reconcile s before v with
        snapshot := (reconcile s before v).snapshot.withIdentity n i
        signature := ((reconcile s before v).snapshot.withIdentity n i).signature } := by
  have hcurrent : chooseCurrent ((s.settled before v).withIdentity n i) v =
      chooseCurrent (s.settled before v) v := by
    unfold chooseCurrent
    rw [Snapshot.identity_withIdentity_of_ne h]
    rfl
  unfold reconcile
  rw [Snapshot.settled_withIdentity s before v h]
  unfold ofSettled
  rw [hcurrent]
  rfl

/-- **What a reconcile leaves alone.** If a snapshot comes in that repeats no name, then, whatever
the model was before:

* the model's snapshot is the one that came in but for the data of the profiles and of the mode's
  identity, and so with the same profiles in the same order, and the other mode's identity as it was;
* only the profile that the mode's identity belongs to is given the identity's quota;
* unless values are to be kept, the model before does not matter;
* if they are, no datum is blank that the model before had a value for, and each datum of a profile
  that the identity does not belong to is what came in, or else what was there before;
* the other mode's identity changes nothing but itself and the signature. -/
theorem reconcile_frame (hs : s.names.Nodup) (before : Option Model) (v : Viewpoint) :
    (reconcile s before v).snapshot.bare v.mode = s.bare v.mode ∧
    (∀ p ∈ s.profiles, (s.credit v.mode).profile? p.name ≠ some p →
      ∃ i, s.identity v.mode = some i ∧ matchIdentity s.profiles i = some p.name) ∧
    (v.preserve = false → ∀ other : Option Model,
      (reconcile s other v).snapshot = (reconcile s before v).snapshot) ∧
    (v.preserve = true → ∀ b, before = some b →
      (reconcile s before v).snapshot.Keeps b.snapshot v.mode ∧
      ∀ p ∈ s.profiles, s.identityOf? v.mode p = none → ∀ d,
        (reconcile s before v).snapshot.datum? p.name d =
          (p.datum? d).or (b.snapshot.datum? p.name d)) ∧
    ∀ n, v.mode ≠ n → ∀ i,
      reconcile (s.withIdentity n i) before v =
        { reconcile s before v with
          snapshot := (reconcile s before v).snapshot.withIdentity n i
          signature := ((reconcile s before v).snapshot.withIdentity n i).signature } := by
  refine ⟨s.bare_settled before v, fun p hp h => Snapshot.credited_of_credit hs hp h, ?_, ?_,
    fun n hn i => reconcile_withIdentity s before v hn i⟩
  · intro hv other
    exact Snapshot.settled_congr (by simp [Viewpoint.kept?, hv])
  · intro hv b hb
    have hkept : v.kept? before = some b.snapshot := by simp [Viewpoint.kept?, hv, hb]
    exact ⟨Snapshot.keeps_settled hs hkept,
      fun p hp hlive d => Snapshot.datum?_settled_of_not_live hs hkept hp hlive d⟩

/-- The profiles come in another order than before, one of them new and one gone. "b", which the
identity does not belong to, keeps the time of its reset and takes the quota that came in. -/
theorem reconcile_frame_of_shuffled :
    let old : Snapshot :=
      { identities := { gpt := some { workspaceId := some "w" }, openCode := none }
        profiles :=
          [{ name := "a", workspaceId := some "w" }, { name := "c" },
            { name := "b", quota := { fiveHourRemaining := some 10, fiveHourResetsAt := some 5 } }] }
    let s : Snapshot :=
      { identities :=
          { gpt := some { workspaceId := some " W ", quota := { oneWeekRemaining := some 7 } }
            openCode := some { email := some "x" } }
        profiles :=
          [{ name := "b", quota := { fiveHourRemaining := some 20 } }, { name := "new" },
            { name := "a", workspaceId := some "w" }] }
    let b := reconcile old none ⟨.gpt, none, false⟩
    let m := reconcile s (some b) ⟨.gpt, none, true⟩
    s.names.Nodup ∧ m.snapshot.bare .gpt = s.bare .gpt ∧ m.snapshot.Keeps b.snapshot .gpt ∧
      m.snapshot.datum? "b" (.quota .fiveHourRemaining) = some 20 ∧
      m.snapshot.datum? "b" (.quota .fiveHourResetsAt) = some 5 ∧
      (reconcile (s.withIdentity .openCode none) (some b) ⟨.gpt, none, true⟩).selected =
        m.selected := by
  intro old s b m
  have hs : s.names.Nodup := by decide
  obtain ⟨hbare, -, -, hkept, hother⟩ := reconcile_frame hs (some b) ⟨.gpt, none, true⟩
  obtain ⟨hkeeps, hrest⟩ := hkept rfl b rfl
  have hdata := hrest
    { name := "b", quota := { fiveHourRemaining := some 20 } } List.mem_cons_self (by decide +kernel)
  refine ⟨hs, hbare, hkeeps, hdata (.quota .fiveHourRemaining), ?_, ?_⟩
  · rw [hdata (.quota .fiveHourResetsAt)]
    decide +kernel
  · rw [hother .openCode (by decide) none]

end Model

end Switchboard
