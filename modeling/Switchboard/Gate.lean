/-!
# Gates

Three gates keep work from getting into the way of other work; none of them waits.

* `Flight` — one run at a time: `tryBegin?` refuses while a run is under way.
* `BusyGate` — counts the holders that keep background work off.
* `BlockingGate` — holds the message that covers the screen; whoever leaves takes it away.
-/

set_option autoImplicit false

namespace Switchboard

/-- Whether a run is under way. -/
structure Flight where
  running : Bool := false
  deriving DecidableEq, Inhabited

namespace Flight

/-- A run begins, unless one is under way. -/
def tryBegin? (f : Flight) : Option Flight := if f.running then none else some ⟨true⟩

/-- The run ends. -/
def finish (_ : Flight) : Flight := ⟨false⟩

theorem tryBegin?_eq_some_iff {f g : Flight} :
    f.tryBegin? = some g ↔ f.running = false ∧ g = ⟨true⟩ := by
  cases hf : f.running <;> simp [tryBegin?, hf, eq_comm]

end Flight

/-- How many holders keep the gate busy. -/
structure BusyGate where
  holders : Nat := 0
  deriving DecidableEq, Inhabited

namespace BusyGate

/-- One more holder. -/
def enter (g : BusyGate) : BusyGate := ⟨g.holders + 1⟩

/-- One holder less. -/
def leave (g : BusyGate) : BusyGate := ⟨g.holders - 1⟩

/-- Somebody holds the gate. -/
def isBusy (g : BusyGate) : Bool := 0 < g.holders

@[simp] theorem leave_enter (g : BusyGate) : g.enter.leave = g := rfl

@[simp] theorem isBusy_enter (g : BusyGate) : g.enter.isBusy = true := by
  simp [isBusy, enter]

end BusyGate

/-- The message that covers the screen. -/
structure BlockingGate where
  message : Option String := none
  deriving DecidableEq, Inhabited

namespace BlockingGate

/-- The screen is covered by this message, whatever covered it before. -/
def enter (_ : BlockingGate) (message : String) : BlockingGate := ⟨some message⟩

/-- The screen is uncovered, whoever covered it. -/
def leave (_ : BlockingGate) : BlockingGate := ⟨none⟩

/-- The screen is covered. -/
def isBlocking (g : BlockingGate) : Bool := g.message.isSome

end BlockingGate

end Switchboard
