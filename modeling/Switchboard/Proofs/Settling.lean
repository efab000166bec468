import Switchboard.Proofs.DistinctKeys
import Switchboard.Proofs.ModelWrites

/-!
# What becomes of each datum

What a profile or a live identity tells of an account's state are its data: the four values of a
quota, the time of the last check and, for a profile, the last error. Every one may be absent. A
reconcile changes data only, each by itself.

* `Snapshot.profiles_settled` — if no name is repeated, a reconcile treats each profile by itself, and
  the profile of a name becomes `Snapshot.settleProfile` of the one that came in.
* `Snapshot.datum?_settled`, `Identity.datum?_settled` — where each datum is taken from.
* `Snapshot.bare_settled` — everything but the data is as it came in.
-/

set_option autoImplicit false

namespace Switchboard

/-- The values of a quota. -/
inductive Quota.Part where
  | fiveHourRemaining
  | fiveHourResetsAt
  | oneWeekRemaining
  | oneWeekResetsAt

/-- What is told of the state of an account. -/
inductive Datum where
  | quota (part : Quota.Part)
  | checkedAt
  | lastError

namespace Datum

/-- The values of a datum: numbers in a quota, texts otherwise. -/
abbrev Value : Datum → Type
  | quota _ => Int64
  | checkedAt | lastError => String

/-- The datum belongs to the quota. -/
def isQuota : Datum → Bool
  | quota _ => true
  | checkedAt | lastError => false

end Datum

namespace Quota

/-- A value of the quota. -/
def part? (q : Quota) : Part → Option Int64
  | .fiveHourRemaining => q.fiveHourRemaining
  | .fiveHourResetsAt => q.fiveHourResetsAt
  | .oneWeekRemaining => q.oneWeekRemaining
  | .oneWeekResetsAt => q.oneWeekResetsAt

theorem eq_of_parts {q r : Quota} (h : ∀ part, q.part? part = r.part? part) : q = r := by
  have h₁ : q.fiveHourRemaining = r.fiveHourRemaining := h .fiveHourRemaining
  have h₂ : q.fiveHourResetsAt = r.fiveHourResetsAt := h .fiveHourResetsAt
  have h₃ : q.oneWeekRemaining = r.oneWeekRemaining := h .oneWeekRemaining
  have h₄ : q.oneWeekResetsAt = r.oneWeekResetsAt := h .oneWeekResetsAt
  cases q
  cases r
  simp_all

@[simp] theorem part?_orElse (q old : Quota) (part : Part) :
    (q.orElse old).part? part = (q.part? part).or (old.part? part) := by
  cases part <;> simp [part?, orElse]

end Quota

namespace Profile

/-- The value that a profile has for a datum. -/
def datum? (p : Profile) : (d : Datum) → Option d.Value
  | .quota part => p.quota.part? part
  | .checkedAt => p.lastCheckedAt
  | .lastError => p.lastError

/-- The profile without its data. -/
def bare (p : Profile) : Profile := { p with quota := {}, lastCheckedAt := none, lastError := none }

@[simp] theorem name_bare (p : Profile) : p.bare.name = p.name := rfl

end Profile

namespace Identity

/-- The value that an identity has for a datum; it never tells of an error. -/
def datum? (i : Identity) : (d : Datum) → Option d.Value
  | .quota part => i.quota.part? part
  | .checkedAt => i.checkedAt
  | .lastError => none

/-- The identity without its data. -/
def bare (i : Identity) : Identity := { i with quota := {}, checkedAt := none }

end Identity

namespace Snapshot

/-- The value that a snapshot has for a datum of the profile of this name. -/
def datum? (s : Snapshot) (name : String) (d : Datum) : Option d.Value :=
  (s.profile? name).bind (·.datum? d)

/-- The snapshot without the data of its profiles and of the mode's identity. -/
def bare (s : Snapshot) (m : Mode) : Snapshot :=
  { s with
    profiles := s.profiles.map (·.bare)
    identities := s.identities.set m ((s.identity m).map (·.bare)) }

end Snapshot

/-! ## One profile, one identity -/

namespace Profile

@[simp] theorem datum?_fillFrom (p old : Profile) (d : Datum) :
    (p.fillFrom old).datum? d = (p.datum? d).or (old.datum? d) := by
  cases d <;> simp [datum?, fillFrom]

/-- A value of the quota is the identity's, known or not. Of the other data, one that the identity
does not tell stays. -/
theorem datum?_takeQuota (p : Profile) (i : Identity) (d : Datum) :
    (p.takeQuota i).datum? d = if d.isQuota then i.datum? d else (i.datum? d).or (p.datum? d) := by
  cases d <;> simp [datum?, Identity.datum?, takeQuota, Datum.isQuota]

@[simp] theorem bare_fillFrom (p old : Profile) : (p.fillFrom old).bare = p.bare := rfl

@[simp] theorem bare_takeQuota (p : Profile) (i : Identity) : (p.takeQuota i).bare = p.bare := rfl

/-- A profile is made up of its data and the rest. -/
theorem eq_of_bare_eq {p q : Profile} (hbare : p.bare = q.bare)
    (hdata : ∀ d, p.datum? d = q.datum? d) : p = q := by
  have hquota : p.quota = q.quota := Quota.eq_of_parts fun part => hdata (.quota part)
  have hchecked : p.lastCheckedAt = q.lastCheckedAt := hdata .checkedAt
  have herror : p.lastError = q.lastError := hdata .lastError
  cases p
  cases q
  simp_all [bare]

end Profile

namespace Identity

@[simp] theorem datum?_fillFrom (i old : Identity) (d : Datum) :
    (i.fillFrom old).datum? d = (i.datum? d).or (old.datum? d) := by
  cases d <;> simp [datum?, fillFrom]

@[simp] theorem bare_fillFrom (i old : Identity) : (i.fillFrom old).bare = i.bare := rfl

/-- An identity is made up of its data and the rest. -/
theorem eq_of_bare_eq {i j : Identity} (hbare : i.bare = j.bare)
    (hdata : ∀ d, i.datum? d = j.datum? d) : i = j := by
  have hquota : i.quota = j.quota := Quota.eq_of_parts fun part => hdata (.quota part)
  have hchecked : i.checkedAt = j.checkedAt := hdata .checkedAt
  cases i
  cases j
  simp_all [bare]

end Identity

/-- A snapshot is made up of its profiles, the mode's identity and the rest. -/
theorem Snapshot.eq_of_bare_eq {s t : Snapshot} {m : Mode} (hbare : s.bare m = t.bare m)
    (hprofiles : s.profiles = t.profiles) (hidentity : s.identity m = t.identity m) : s = t := by
  have hset : s.identities.set m ((s.identity m).map (·.bare)) =
      t.identities.set m ((t.identity m).map (·.bare)) := congrArg Snapshot.identities hbare
  have hidentities : s.identities = t.identities := by
    calc s.identities = s.identities.set m (s.identity m) := (s.identities.set_get_self m).symm
      _ = t.identities.set m (t.identity m) := by
        rw [← ByMode.set_set, hset, ByMode.set_set, hidentity]
      _ = t.identities := t.identities.set_get_self m
  cases s
  cases t
  simp_all [bare]

/-! ## Profiles of different names -/

namespace Snapshot

/-- The mode's live identity, if it belongs to this profile. -/
def identityOf? (s : Snapshot) (m : Mode) (p : Profile) : Option Identity :=
  (s.identity m).filter (matchIdentity s.profiles · = some p.name)

theorem identityOf?_eq_some_iff {s : Snapshot} {m : Mode} {p : Profile} {i : Identity} :
    s.identityOf? m p = some i ↔
      s.identity m = some i ∧ matchIdentity s.profiles i = some p.name := by
  simp [identityOf?, Option.filter_eq_some_iff]

/-- A profile once the live identity's quota has gone to the profile that it belongs to. -/
def creditProfile (s : Snapshot) (m : Mode) (p : Profile) : Profile :=
  match s.identityOf? m p with
  | some i => p.takeQuota i
  | none => p

variable {s : Snapshot}

/-- If no name is repeated, each name leads back to its profile. -/
theorem profile?_of_mem (hs : s.names.Nodup) {p : Profile} (hp : p ∈ s.profiles) :
    s.profile? p.name = some p := find?_key hs hp

/-- What is done to the first profile of a name is done to the only one. -/
theorem updateFirst_name {profiles : List Profile} (hs : (profiles.map (·.name)).Nodup)
    (name : String) (f : Profile → Profile) :
    updateFirst (·.name == name) f profiles =
      profiles.map fun p => if name = p.name then f p else p := by
  induction profiles with
  | nil => rfl
  | cons p profiles ih =>
    rw [List.map_cons, List.nodup_cons] at hs
    rw [List.map_cons, updateFirst]
    by_cases h : p.name = name
    · -- The others have other names, so that they stay.
      have hrest : ∀ q ∈ profiles, (if name = q.name then f q else q) = q := by
        intro q hq
        have hne : name ≠ q.name := by
          rintro rfl
          exact hs.1 (h ▸ List.mem_map_of_mem hq)
        simp [hne]
      rw [List.map_congr_left hrest]
      simp [h]
    · have h' : name ≠ p.name := Ne.symm h
      simp [h, h', ih hs.2]

/-- If no name is repeated, the identity's quota goes to each profile by itself. -/
theorem profiles_credit (hs : s.names.Nodup) (m : Mode) :
    (s.credit m).profiles = s.profiles.map (s.creditProfile m) := by
  unfold credit creditProfile identityOf?
  cases hi : s.identity m with
  | none => simp
  | some i =>
    dsimp only
    split
    · rename_i hn
      simp [hn, Option.filter_some]
    · rename_i name hn
      rw [updateFirst_name hs name (·.takeQuota i)]
      refine List.map_congr_left fun p _ => ?_
      by_cases h : name = p.name <;> simp [hn, h, Option.filter_some]

@[simp] theorem identities_credit (s : Snapshot) (m : Mode) :
    (s.credit m).identities = s.identities := by
  unfold credit
  repeat' split
  all_goals rfl

@[simp] theorem bare_refillProfile (old : Snapshot) (p : Profile) :
    (old.refillProfile p).bare = p.bare := by
  unfold refillProfile
  split <;> rfl

theorem datum?_refillProfile (old : Snapshot) (p : Profile) (d : Datum) :
    (old.refillProfile p).datum? d = (p.datum? d).or (old.datum? p.name d) := by
  unfold refillProfile Snapshot.datum?
  split
  · rename_i q hq
    simp [hq]
  · rename_i hq
    simp [hq]

end Snapshot

/-! ## From what came in to what the model is made of -/

theorem snapshot_reconcile (s : Snapshot) (before : Option Model) (v : Viewpoint) :
    (reconcile s before v).snapshot = s.settled before v := rfl

/-- The snapshot from which absent values are kept. -/
def Viewpoint.kept? (v : Viewpoint) (before : Option Model) : Option Snapshot :=
  if v.preserve then before.map (·.snapshot) else none

namespace Snapshot

/-- What becomes of a profile. -/
def settleProfile (s : Snapshot) (before : Option Model) (v : Viewpoint) (p : Profile) : Profile :=
  match v.kept? before with
  | some old => old.refillProfile (s.creditProfile v.mode p)
  | none => s.creditProfile v.mode p

variable {s : Snapshot}

theorem settled_eq (s : Snapshot) (before : Option Model) (v : Viewpoint) :
    s.settled before v =
      match v.kept? before with
      | some old => (s.credit v.mode).fillFrom v.mode old
      | none => s.credit v.mode := by
  unfold settled Viewpoint.kept?
  cases v.preserve <;> cases before <;> rfl

/-- Of the model before, a reconcile looks at nothing but the snapshot, and at that only to keep
values from it. -/
theorem settled_congr {before before' : Option Model} {v : Viewpoint}
    (h : v.kept? before = v.kept? before') : s.settled before v = s.settled before' v := by
  rw [settled_eq, settled_eq, h]

/-- **Each profile by itself.** If no name is repeated, the profiles stay where they are, and each
becomes what it becomes by itself. -/
theorem profiles_settled (hs : s.names.Nodup) (before : Option Model) (v : Viewpoint) :
    (s.settled before v).profiles = s.profiles.map (s.settleProfile before v) := by
  rw [settled_eq]
  unfold settleProfile
  cases v.kept? before with
  | none => exact profiles_credit hs v.mode
  | some old => simp [fillFrom, profiles_credit hs v.mode]

@[simp] theorem bare_creditProfile (s : Snapshot) (m : Mode) (p : Profile) :
    (s.creditProfile m p).bare = p.bare := by
  unfold creditProfile
  repeat' split
  all_goals rfl

@[simp] theorem bare_settleProfile (s : Snapshot) (before : Option Model) (v : Viewpoint)
    (p : Profile) : (s.settleProfile before v p).bare = p.bare := by
  unfold settleProfile
  split <;> simp

@[simp] theorem name_creditProfile (s : Snapshot) (m : Mode) (p : Profile) :
    (s.creditProfile m p).name = p.name := by
  rw [← Profile.name_bare, bare_creditProfile, Profile.name_bare]

@[simp] theorem name_settleProfile (s : Snapshot) (before : Option Model) (v : Viewpoint)
    (p : Profile) : (s.settleProfile before v p).name = p.name := by
  rw [← Profile.name_bare, bare_settleProfile, Profile.name_bare]

theorem profile?_settled (hs : s.names.Nodup) (before : Option Model) (v : Viewpoint)
    (name : String) :
    (s.settled before v).profile? name = (s.profile? name).map (s.settleProfile before v) := by
  have hsame : (fun p : Profile => p.name == name) ∘ s.settleProfile before v =
      fun p => p.name == name := by
    funext p
    simp
  rw [profile?, profiles_settled hs, List.find?_map, hsame, profile?]

/-- A profile that the live identity belongs to has the identity's quota, known or not, and of the
other data what the identity tells, or else its own. -/
theorem datum?_creditProfile (s : Snapshot) (m : Mode) (p : Profile) (d : Datum) :
    (s.creditProfile m p).datum? d =
      match s.identityOf? m p with
      | some i => if d.isQuota then i.datum? d else (i.datum? d).or (p.datum? d)
      | none => p.datum? d := by
  unfold creditProfile
  cases s.identityOf? m p with
  | none => rfl
  | some i => exact p.datum?_takeQuota i d

theorem datum?_settleProfile (s : Snapshot) (before : Option Model) (v : Viewpoint) (p : Profile)
    (d : Datum) :
    (s.settleProfile before v p).datum? d =
      ((s.creditProfile v.mode p).datum? d).or ((v.kept? before).bind (·.datum? p.name d)) := by
  unfold settleProfile
  cases v.kept? before with
  | none => simp
  | some old => simp [datum?_refillProfile]

/-- **Where a datum comes from.** It is the profile's, once the live identity's quota has been
attributed, or else the one kept from before. -/
theorem datum?_settled (hs : s.names.Nodup) (before : Option Model) (v : Viewpoint) {p : Profile}
    (hp : p ∈ s.profiles) (d : Datum) :
    (s.settled before v).datum? p.name d =
      ((s.creditProfile v.mode p).datum? d).or ((v.kept? before).bind (·.datum? p.name d)) := by
  rw [datum?, profile?_settled hs, profile?_of_mem hs hp, Option.map_some, Option.bind_some,
    datum?_settleProfile]

end Snapshot

namespace Identity

/-- The identity with its absent values taken from an older one, if there is one. -/
def refill (old : Option Identity) (i : Identity) : Identity :=
  match old with
  | some j => i.fillFrom j
  | none => i

/-- What becomes of the mode's identity. -/
def settled (before : Option Model) (v : Viewpoint) (i : Identity) : Identity :=
  i.refill ((v.kept? before).bind (·.identity v.mode))

@[simp] theorem refill_none (i : Identity) : i.refill none = i := rfl

@[simp] theorem bare_refill (old : Option Identity) (i : Identity) :
    (i.refill old).bare = i.bare := by
  cases old <;> rfl

@[simp] theorem bare_settled (before : Option Model) (v : Viewpoint) (i : Identity) :
    (i.settled before v).bare = i.bare := i.bare_refill _

theorem datum?_settled (before : Option Model) (v : Viewpoint) (i : Identity) (d : Datum) :
    (i.settled before v).datum? d =
      (i.datum? d).or (((v.kept? before).bind (·.identity v.mode)).bind (·.datum? d)) := by
  unfold settled refill
  cases (v.kept? before).bind (·.identity v.mode) <;> simp

end Identity

namespace Snapshot

theorem identities_fillFrom (s : Snapshot) (m : Mode) (old : Snapshot) :
    (s.fillFrom m old).identities =
      s.identities.set m ((s.identity m).map (Identity.refill (old.identity m))) := by
  have hsame : s.identities.set m (s.identity m) = s.identities := s.identities.set_get_self m
  unfold fillFrom
  cases hi : s.identity m with
  | none => simpa [hi] using hsame.symm
  | some i =>
    cases old.identity m with
    | none => simpa [hi] using hsame.symm
    | some j => rfl

theorem identities_settled (s : Snapshot) (before : Option Model) (v : Viewpoint) :
    (s.settled before v).identities =
      s.identities.set v.mode ((s.identity v.mode).map (Identity.settled before v)) := by
  have hcredit : (s.credit v.mode).identity v.mode = s.identity v.mode := by simp [identity]
  rw [settled_eq]
  unfold Identity.settled
  cases v.kept? before with
  | none => simp [identity]
  | some old => simp [identities_fillFrom, hcredit]

theorem identity_settled (s : Snapshot) (before : Option Model) (v : Viewpoint) :
    (s.settled before v).identity v.mode =
      (s.identity v.mode).map (Identity.settled before v) := by
  rw [identity, identities_settled, ByMode.get_set_self]

theorem identity_settled_of_ne (s : Snapshot) (before : Option Model) (v : Viewpoint) {m : Mode}
    (h : m ≠ v.mode) : (s.settled before v).identity m = s.identity m := by
  rw [identity, identities_settled, ByMode.get_set_of_ne _ _ h, identity]

@[simp] theorem bare_credit (s : Snapshot) (m : Mode) : (s.credit m).bare m = s.bare m := by
  unfold credit
  split
  · rfl
  · split
    · rfl
    · have hprofiles (p : String) (i : Identity) :
          (updateFirst (·.name == p) (·.takeQuota i) s.profiles).map (·.bare) =
            s.profiles.map (·.bare) := map_updateFirst (fun q => q.bare_takeQuota i) s.profiles
      simp only [bare, hprofiles]
      rfl

@[simp] theorem bare_fillFrom (s : Snapshot) (m : Mode) (old : Snapshot) :
    (s.fillFrom m old).bare m = s.bare m := by
  have hprofiles : (s.fillFrom m old).profiles.map (·.bare) = s.profiles.map (·.bare) := by
    simp [fillFrom, Function.comp_def]
  have hidentity : ((s.fillFrom m old).identity m).map (·.bare) = (s.identity m).map (·.bare) := by
    simp [identity, identities_fillFrom, Function.comp_def]
  simp only [bare, hprofiles, hidentity, identities_fillFrom, ByMode.set_set]
  rfl

/-- **All but the data stays.** Everything but the data of the profiles and of the mode's identity is
as it came in, also where names are repeated. -/
theorem bare_settled (s : Snapshot) (before : Option Model) (v : Viewpoint) :
    (s.settled before v).bare v.mode = s.bare v.mode := by
  rw [settled_eq]
  cases v.kept? before <;> simp

end Snapshot

end Switchboard
