import Switchboard.Matching
import Switchboard.Model

/-!
# From a snapshot to the model

`reconcile` makes the model of a snapshot that has come in, in the light of the model before:

* `Snapshot.credit` — the profile that the live identity belongs to takes the identity's quota;
* `Snapshot.fillFrom` — on a silent poll, values that are absent are kept from before;
* `Model.chooseSelected` — the selection stays if it can, and falls back in three steps;
* the profile in use and the signature are derived anew.
-/

set_option autoImplicit false

namespace Switchboard

/-- In which light a snapshot is looked at. -/
structure Viewpoint where
  mode : Mode
  remembered : Option String
  /-- Absent values are kept from before. -/
  preserve : Bool

/-- The list with `f` applied to the first element that obeys `p`. -/
def updateFirst {α : Type} (p : α → Bool) (f : α → α) : List α → List α
  | [] => []
  | a :: rest => if p a then f a :: rest else a :: updateFirst p f rest

namespace Profile

/-- The profile with the quota of the live identity, known or not, and the time of its check if
there was one. -/
def takeQuota (p : Profile) (i : Identity) : Profile :=
  { p with quota := i.quota, lastCheckedAt := i.checkedAt <|> p.lastCheckedAt }

/-- The profile with its absent values taken from before. -/
def fillFrom (p old : Profile) : Profile :=
  { p with
    quota := p.quota.orElse old.quota
    lastCheckedAt := p.lastCheckedAt <|> old.lastCheckedAt
    lastError := p.lastError <|> old.lastError }

@[simp] theorem name_takeQuota (p : Profile) (i : Identity) : (p.takeQuota i).name = p.name := rfl

@[simp] theorem name_fillFrom (p old : Profile) : (p.fillFrom old).name = p.name := rfl

end Profile

/-- The identity with its absent values taken from before. -/
def Identity.fillFrom (i old : Identity) : Identity :=
  { i with quota := i.quota.orElse old.quota, checkedAt := i.checkedAt <|> old.checkedAt }

namespace Snapshot

/-- The profile that stands for the mode when nothing better is known: the remembered one, in
GPT mode the backend's active one, or the first of all; each only if it can be used in the mode. -/
def modeActive (s : Snapshot) (m : Mode) (remembered : Option String) : Option String :=
  let usable (name : String) : Bool := (s.profile? name).any (·.support.supports m)
  let active := if m = .gpt then s.activeProfile else none
  remembered.filter usable <|> active.filter usable <|>
    (s.profiles.find? (·.support.supports m)).map (·.name)

/-- The live identity's quota goes to the profile that it belongs to. -/
def credit (s : Snapshot) (m : Mode) : Snapshot :=
  match s.identity m with
  | none => s
  | some i =>
    match matchIdentity s.profiles i with
    | none => s
    | some name =>
      { s with profiles := updateFirst (·.name == name) (·.takeQuota i) s.profiles }

/-- A profile with its absent values taken from the profile of that name in an older snapshot. -/
def refillProfile (old : Snapshot) (p : Profile) : Profile :=
  match old.profile? p.name with
  | some q => p.fillFrom q
  | none => p

/-- The values absent from the profiles and from the mode's identity are kept from before. -/
def fillFrom (s : Snapshot) (m : Mode) (old : Snapshot) : Snapshot :=
  { s with
    profiles := s.profiles.map old.refillProfile
    identities :=
      match s.identity m, old.identity m with
      | some i, some j => s.identities.set m (some (i.fillFrom j))
      | _, _ => s.identities }

/-- What the model is made of, given the model before. -/
def settled (s : Snapshot) (before : Option Model) (v : Viewpoint) : Snapshot :=
  let s := s.credit v.mode
  match v.preserve, before with
  | true, some m => s.fillFrom v.mode m.snapshot
  | _, _ => s

end Snapshot

namespace Model

/-- The selection: the one before if that profile is still there, or the one that stands for the
mode, or the first. -/
def chooseSelected (s : Snapshot) (before : Option Model) (v : Viewpoint) : Option String :=
  (before.bind (·.selected)).filter s.contains <|> s.modeActive v.mode v.remembered <|>
    s.profiles.head?.map (·.name)

/-- The profile in use. -/
def chooseCurrent (s : Snapshot) (v : Viewpoint) : Option String :=
  resolveProfile s.profiles (s.identity v.mode) v.remembered s.activeProfile

/-- The model of a snapshot that needs no more change. -/
def ofSettled (s : Snapshot) (before : Option Model) (v : Viewpoint) : Model where
  snapshot := s
  display := s.profiles
  selected := chooseSelected s before v
  current := chooseCurrent s v
  signature := s.signature

end Model

/-- The model of a snapshot that has come in. -/
def reconcile (incoming : Snapshot) (before : Option Model) (v : Viewpoint) : Model :=
  Model.ofSettled (incoming.settled before v) before v

theorem signature_reconcile (s : Snapshot) (before : Option Model) (v : Viewpoint) :
    (reconcile s before v).signature = (reconcile s before v).snapshot.signature := rfl

end Switchboard
