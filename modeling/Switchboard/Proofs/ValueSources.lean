import Switchboard.Proofs.Settling

/-!
# Where the values on the screen come from

After a silent poll a datum may have come in with a profile, or with the live identity that belongs to
the profile, or it may be kept from the model before.

* `Model.fresh_datum_iff` — what has come in is what is shown, with one exception: the identity's
  quota replaces that of its profile also where the identity has no value, and the place is then
  filled from the model before, although the profile had a value (`Model.stale_quota_shown`).
* `Model.identity_filled_by_mode` — an identity is completed from the one that its mode had before,
  whatever account that was (`Model.identity_filled_across_accounts`); no profile ever takes a value
  from an identity of the past.
-/

set_option autoImplicit false

namespace Switchboard

/-! ## Profiles -/

namespace Snapshot

/-- The snapshot tells this value of a datum of the profile: the profile has it, or the live identity
that belongs to the profile. -/
def Reports (s : Snapshot) (m : Mode) (p : Profile) (d : Datum) (x : d.Value) : Prop :=
  p.datum? d = some x ∨ ∃ i, s.identityOf? m p = some i ∧ i.datum? d = some x

/-- The live identity belongs to the profile, and this datum is one of the quota which the identity
has no value for. -/
def Blanks (s : Snapshot) (m : Mode) (p : Profile) (d : Datum) : Prop :=
  d.isQuota ∧ ∃ i, s.identityOf? m p = some i ∧ i.datum? d = none

variable {s : Snapshot} {m : Mode} {p : Profile} {d : Datum} {x : d.Value}

theorem datum?_creditProfile_of_blanks (h : s.Blanks m p d) :
    (s.creditProfile m p).datum? d = none := by
  obtain ⟨hd, i, hi, hnone⟩ := h
  rw [datum?_creditProfile, hi]
  simp [hd, hnone]

/-- Where its identity is silent, only the profile itself can tell. -/
theorem Reports.own_of_silent (hx : s.Reports m p d x) {i : Identity}
    (hi : s.identityOf? m p = some i) (hsilent : i.datum? d = none) : p.datum? d = some x := by
  rcases hx with hown | ⟨j, hj, hjx⟩
  · exact hown
  · rw [hi, Option.some.injEq] at hj
    rw [← hj, hsilent] at hjx
    cases hjx

theorem Reports.own_of_blanks (hx : s.Reports m p d x) (h : s.Blanks m p d) :
    p.datum? d = some x := by
  obtain ⟨-, i, hi, hsilent⟩ := h
  exact hx.own_of_silent hi hsilent

/-- What is told of a profile and not blanked, the profile has a value for once the identity's quota
has been attributed. -/
theorem reports_creditProfile (hx : s.Reports m p d x) (h : ¬ s.Blanks m p d) :
    ∃ y, (s.creditProfile m p).datum? d = some y ∧ s.Reports m p d y := by
  rw [datum?_creditProfile]
  cases hi : s.identityOf? m p with
  | none =>
    rcases hx with hown | ⟨i, hi', -⟩
    · exact ⟨x, hown, .inl hown⟩
    · rw [hi] at hi'
      cases hi'
  | some i =>
    cases hval : i.datum? d with
    | some y =>
      refine ⟨y, ?_, .inr ⟨i, hi, hval⟩⟩
      simp [hval]
    | none =>
      -- The identity is silent, so the datum is not one of the quota, and the profile tells it.
      have hd : d.isQuota = false := by
        cases hd : d.isQuota with
        | false => rfl
        | true => exact absurd ⟨hd, i, hi, hval⟩ h
      have hown : p.datum? d = some x := hx.own_of_silent hi hval
      exact ⟨x, by simp [hd, hval, hown], .inl hown⟩

end Snapshot

namespace Model

variable {s : Snapshot}

/-- **What has come in is what is shown, but for blanks in the identity's quota.** A snapshot that
repeats no name comes in with a silent poll and tells a value of some datum of a profile. Then the
datum that is shown is one that the snapshot tells, unless the live identity belongs to the profile and
has no value for that part of the quota. In that case what is shown is the value from the model
before, or none, so that it is what the snapshot tells only if nothing has changed. -/
theorem fresh_datum_iff (hs : s.names.Nodup) (before : Option Model) (m : Mode)
    (remembered : Option String) {p : Profile} (hp : p ∈ s.profiles) {d : Datum} {x : d.Value}
    (hx : s.Reports m p d x) :
    ((∃ y, (reconcile s before ⟨m, remembered, true⟩).snapshot.datum? p.name d = some y ∧
        s.Reports m p d y) ↔
      (s.Blanks m p d → before.bind (·.snapshot.datum? p.name d) = p.datum? d)) ∧
    (s.Blanks m p d → (reconcile s before ⟨m, remembered, true⟩).snapshot.datum? p.name d =
      before.bind (·.snapshot.datum? p.name d)) := by
  have hshown : (reconcile s before ⟨m, remembered, true⟩).snapshot.datum? p.name d =
      ((s.creditProfile m p).datum? d).or (before.bind (·.snapshot.datum? p.name d)) := by
    rw [snapshot_reconcile, Snapshot.datum?_settled hs _ _ hp]
    cases before <;> rfl
  have hblank (h : s.Blanks m p d) :
      (reconcile s before ⟨m, remembered, true⟩).snapshot.datum? p.name d =
        before.bind (·.snapshot.datum? p.name d) := by
    rw [hshown, Snapshot.datum?_creditProfile_of_blanks h, Option.none_or]
  refine ⟨⟨?_, ?_⟩, hblank⟩
  · rintro ⟨y, hy, hreports⟩ h
    rw [← hblank h, hy, hreports.own_of_blanks h]
  · intro h
    by_cases hb : s.Blanks m p d
    · exact ⟨x, by rw [hblank hb, h hb, hx.own_of_blanks hb], hx⟩
    · obtain ⟨y, hy, hreports⟩ := Snapshot.reports_creditProfile hx hb
      exact ⟨y, by rw [hshown, hy, Option.some_or], hreports⟩

/-- The profile comes in with 77 percent left and the identity without a number: the 40 percent of the
model before are shown. The week's quota, which the identity knows, is new. -/
theorem stale_quota_shown :
    let old : Snapshot :=
      { profiles := [{ name := "P", workspaceId := some "w",
                       quota := { fiveHourRemaining := some 40, oneWeekRemaining := some 60 } }] }
    let p : Profile :=
      { name := "P", workspaceId := some "w",
        quota := { fiveHourRemaining := some 77, oneWeekRemaining := some 50 } }
    let s : Snapshot :=
      { identities :=
          { gpt := some { workspaceId := some "w", quota := { oneWeekRemaining := some 55 } }
            openCode := none }
        profiles := [p] }
    let b := reconcile old none ⟨.gpt, none, false⟩
    let m := reconcile s (some b) ⟨.gpt, none, true⟩
    s.names.Nodup ∧ p ∈ s.profiles ∧ s.Reports .gpt p (.quota .fiveHourRemaining) 77 ∧
      m.snapshot.datum? "P" (.quota .fiveHourRemaining) = some 40 ∧
      ∃ x, m.snapshot.datum? "P" (.quota .oneWeekRemaining) = some x ∧
        s.Reports .gpt p (.quota .oneWeekRemaining) x := by
  intro old p s b m
  have hs : s.names.Nodup := by decide
  have hp : p ∈ s.profiles := List.mem_cons_self
  let i : Identity := { workspaceId := some "w", quota := { oneWeekRemaining := some 55 } }
  have hi : s.identityOf? .gpt p = some i := by decide +kernel
  have hfive : s.Reports .gpt p (.quota .fiveHourRemaining) 77 := .inl rfl
  have hweek : s.Reports .gpt p (.quota .oneWeekRemaining) 50 := .inl rfl
  refine ⟨hs, hp, hfive, ?_, ?_⟩
  · rw [(fresh_datum_iff hs (some b) .gpt none hp hfive).2 ⟨rfl, i, hi, rfl⟩]
    decide +kernel
  · refine (fresh_datum_iff hs (some b) .gpt none hp hweek).1.2 ?_
    rintro ⟨-, j, hj, hnone⟩
    rw [hi, Option.some.injEq] at hj
    rw [← hj] at hnone
    cases hnone

end Model

/-! ## Identities -/

/-- Both values are present and differ. -/
def disagree (a b : Option String) : Bool := a.isSome && b.isSome && a != b

/-- The keys belong to different accounts: their workspace ids, or their e-mails, are both present
and differ. -/
def AccountKey.clashes (a b : AccountKey) : Bool :=
  disagree a.workspaceId b.workspaceId || disagree a.email b.email

namespace Snapshot

/-- What is kept for the profiles is kept from profiles. -/
theorem profiles_settled_congr (s : Snapshot) (v : Viewpoint) {b b' : Model}
    (h : b'.snapshot.profiles = b.snapshot.profiles) :
    (s.settled (some b') v).profiles = (s.settled (some b) v).profiles := by
  unfold settled
  cases v.preserve with
  | false => rfl
  | true => simp [fillFrom, refillProfile, profile?, h]

end Snapshot

namespace Model

/-- **Identities are completed by mode, not by account.** If a silent poll brings an identity for the
mode, and the model before has one, of whatever account, the identity shown is that of the account
that came in. It has every value that came in, and for the other data the values of the one before. No
value goes anywhere else from an identity of the past: the profiles are the same whatever identities
the model before has, and the other mode's identity is the one that came in. -/
theorem identity_filled_by_mode (s : Snapshot) (b : Model) (m : Mode) (remembered : Option String)
    {i j : Identity} (hi : s.identity m = some i) (hj : b.snapshot.identity m = some j) :
    (∃ r, (reconcile s (some b) ⟨m, remembered, true⟩).snapshot.identity m = some r ∧
      r.bare = i.bare ∧
      (∀ d x, i.datum? d = some x → r.datum? d = some x) ∧
      ∀ d, i.datum? d = none → r.datum? d = j.datum? d) ∧
    (∀ b' : Model, b'.snapshot.profiles = b.snapshot.profiles →
      (reconcile s (some b') ⟨m, remembered, true⟩).snapshot.profiles =
        (reconcile s (some b) ⟨m, remembered, true⟩).snapshot.profiles) ∧
    ∀ n, n ≠ m → (reconcile s (some b) ⟨m, remembered, true⟩).snapshot.identity n = s.identity n := by
  let v : Viewpoint := ⟨m, remembered, true⟩
  have hdata (d : Datum) : (i.settled (some b) v).datum? d = (i.datum? d).or (j.datum? d) := by
    rw [Identity.datum?_settled]
    simp [v, Viewpoint.kept?, hj]
  refine ⟨⟨i.settled (some b) v, ?_, i.bare_settled _ v, ?_, ?_⟩, ?_, ?_⟩
  · rw [snapshot_reconcile, Snapshot.identity_settled, hi, Option.map_some]
  · intro d x hx
    rw [hdata, hx, Option.some_or]
  · intro d hnone
    rw [hdata, hnone, Option.none_or]
  · intro b' hprofiles
    exact s.profiles_settled_congr v hprofiles
  · intro n hn
    exact s.identity_settled_of_ne _ v hn

/-- The live account has changed, and the poll does not tell its quota: that of the account before is
shown with the new one. The stored profile keeps what it had. -/
theorem identity_of_new_account :
    let old : Snapshot :=
      { identities :=
          { gpt := some { email := some "x@example.com", quota := { fiveHourRemaining := some 33 } }
            openCode := none }
        profiles := [{ name := "a", quota := { fiveHourRemaining := some 40 } }] }
    let i : Identity := { email := some "y@example.com", checkedAt := some "10:00" }
    let s : Snapshot :=
      { identities := { gpt := some i, openCode := none }, profiles := [{ name := "a" }] }
    let b := reconcile old none ⟨.gpt, none, false⟩
    let m := reconcile s (some b) ⟨.gpt, none, true⟩
    (∃ j, b.snapshot.identity .gpt = some j ∧ i.key.clashes j.key) ∧
      (∃ r, m.snapshot.identity .gpt = some r ∧ r.email = some "y@example.com" ∧
        r.datum? .checkedAt = some "10:00" ∧ r.datum? (.quota .fiveHourRemaining) = some 33) ∧
      m.snapshot.profiles =
        (reconcile s (some { b with snapshot := { b.snapshot with identities := .both none } })
          ⟨.gpt, none, true⟩).snapshot.profiles ∧
      m.snapshot.identity .openCode = none := by
  intro old i s b m
  let j : Identity := { email := some "x@example.com", quota := { fiveHourRemaining := some 33 } }
  have hj : b.snapshot.identity .gpt = some j := by decide +kernel
  obtain ⟨⟨r, hr, hbare, hfresh, hkept⟩, hprofiles, hother⟩ :=
    identity_filled_by_mode s b .gpt none (i := i) rfl hj
  refine ⟨⟨j, hj, by decide +kernel⟩, ⟨r, hr, ?_, ?_, ?_⟩, ?_, ?_⟩
  · exact congrArg Identity.email hbare
  · exact hfresh .checkedAt "10:00" rfl
  · exact hkept (.quota .fiveHourRemaining) rfl
  · exact (hprofiles { b with snapshot := { b.snapshot with identities := .both none } } rfl).symm
  · exact hother .openCode (by decide)

/-- **The quota of one account may be shown with another.** The accounts of the two identities differ,
and yet the identity shown has a value from the one before. -/
theorem identity_filled_across_accounts :
    ¬ ∀ (s : Snapshot) (b : Model) (m : Mode) (remembered : Option String) (i j r : Identity),
      s.identity m = some i → b.snapshot.identity m = some j → i.key.clashes j.key →
      (reconcile s (some b) ⟨m, remembered, true⟩).snapshot.identity m = some r →
      ∀ d x, i.datum? d = none → j.datum? d = some x → r.datum? d ≠ some x := by
  intro h
  let i : Identity := { email := some "y@example.com" }
  let j : Identity := { email := some "x@example.com", quota := { fiveHourRemaining := some 33 } }
  let b := reconcile { identities := { gpt := some j, openCode := none } } none ⟨.gpt, none, false⟩
  have hr : (reconcile { identities := { gpt := some i, openCode := none } } (some b)
      ⟨.gpt, none, true⟩).snapshot.identity .gpt = some (i.fillFrom j) := by decide +kernel
  exact h _ b .gpt none i j (i.fillFrom j) rfl (by decide +kernel) (by decide +kernel) hr
    (.quota .fiveHourRemaining) 33 rfl rfl rfl

end Model

end Switchboard
