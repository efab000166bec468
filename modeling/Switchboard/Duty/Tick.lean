/-!
# Duties

The five things that are done in the background over and over. Each run of a duty comes to a
`Tick`; a run that a gate or another run kept off is tried again.
-/

set_option autoImplicit false

namespace Switchboard

/-- Something that is done in the background over and over. -/
inductive Duty where
  | poll
  | autoSwitch
  | recover
  | hookWatch
  | keepalive
  deriving DecidableEq, Repr, Inhabited

/-- What a run of a duty came to. -/
inductive Tick where
  /-- A gate was closed. -/
  | gated
  /-- Another run was under way. -/
  | inFlight
  /-- There was nothing to do. -/
  | idle
  | ran
  /-- The duty had been called off by the time of the reply. -/
  | discarded
  deriving DecidableEq, Repr, Inhabited

/-- The run did not take place, and is tried again. -/
def Tick.shouldRetry : Tick → Bool
  | gated | inFlight => true
  | _ => false

/-- One value for each duty. -/
structure ByDuty (α : Type) where
  poll : α
  autoSwitch : α
  recover : α
  hookWatch : α
  keepalive : α
  deriving DecidableEq, Inhabited

namespace ByDuty

variable {α : Type}

/-- The same value for every duty. -/
def all (a : α) : ByDuty α := ⟨a, a, a, a, a⟩

/-- The value of a duty. -/
def get (v : ByDuty α) : Duty → α
  | .poll => v.poll
  | .autoSwitch => v.autoSwitch
  | .recover => v.recover
  | .hookWatch => v.hookWatch
  | .keepalive => v.keepalive

/-- The values with that of one duty replaced. -/
def set (v : ByDuty α) (d : Duty) (a : α) : ByDuty α :=
  match d with
  | .poll => { v with poll := a }
  | .autoSwitch => { v with autoSwitch := a }
  | .recover => { v with recover := a }
  | .hookWatch => { v with hookWatch := a }
  | .keepalive => { v with keepalive := a }

@[simp] theorem get_set_self (v : ByDuty α) (d : Duty) (a : α) : (v.set d a).get d = a := by
  cases d <;> rfl

theorem get_set_of_ne (v : ByDuty α) {d d' : Duty} (a : α) (h : d' ≠ d) :
    (v.set d a).get d' = v.get d' := by
  cases d <;> cases d' <;> simp_all [get, set]

end ByDuty

end Switchboard
