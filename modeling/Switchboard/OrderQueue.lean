import Switchboard.Command.Load

/-!
# Saving the display order

An order that the user has given shows at once and is saved in the background, one save at a time.
Orders that come in the meantime overwrite each other, so that only the latest of them is saved
next. A save that fails is followed by a load, which shows the order that counts.
-/

set_option autoImplicit false

namespace Switchboard

/-- The order that waits, and whether one is being saved. -/
structure OrderQueue where
  /-- The order that is to be saved next. -/
  pending : Option (List String) := none
  saving : Flight := {}
  deriving DecidableEq, Inhabited

namespace OrderQueue

/-- Nothing is being saved, and nothing is to be. -/
def isIdle (q : OrderQueue) : Bool := !q.saving.running && q.pending.isNone

/-- The queue with a new order in place of the one that was to be saved next. -/
def put (q : OrderQueue) (names : List String) : OrderQueue := { q with pending := some names }

end OrderQueue

/-- A save that waits for a reply. -/
inductive Flush where
  | saving (names : List String)
  /-- The save has failed, and the order is read back. -/
  | rereading (l : Load)
  deriving DecidableEq

namespace Flush

/-- The call that the save waits for. -/
def call : Flush → Call
  | saving names => .reorderProfiles names
  | rereading l => l.call

/-- Begins to save the pending order, unless there is none or a save is under way. -/
def next (q : OrderQueue) (e : Engine) : OrderQueue × Engine × Progress Flush Unit :=
  match q.saving.tryBegin?, q.pending with
  | some flight, some names =>
    (⟨none, flight⟩, e.setStatus "正在保存排序...", .waiting (saving names))
  | _, _ => (q, e, .done ())

/-- Ends a save and goes on with the order that has come in the meantime. -/
def release (q : OrderQueue) (e : Engine) : OrderQueue × Engine × Progress Flush Unit :=
  next { q with saving := q.saving.finish } e

/-- Takes in a save that was done. Its dashboard counts only if no other order waits. -/
def accept (q : OrderQueue) (e : Engine) (s : Snapshot) : Engine :=
  if q.pending.isSome then e.setStatus "排序已保存，正在同步最新顺序..."
  else (e.applySnapshot s false).setStatus "排序已保存"

/-- Goes on with the save. -/
def resume :
    (f : Flush) → OrderQueue → Engine → Reply f.call → OrderQueue × Engine × Progress Flush Unit
  | saving _, q, e, reply =>
    match reply with
    | .ok s => release q (accept q e s)
    | .error f =>
      let (e, l) :=
        Load.begin (e.setStatus ("保存排序失败: " ++ f.message)) false (some "已回读排序") none
      (q, e, .waiting (rereading l))
  | rereading l, q, e, reply => release q (l.finish e reply).1

/-- A save is begun only from a queue that does not save, and takes the pending order. -/
theorem next_eq_waiting_iff {q q' : OrderQueue} {e e' : Engine} {f : Flush} :
    next q e = (q', e', .waiting f) ↔
      q.saving.running = false ∧ ∃ names, q.pending = some names ∧ q' = ⟨none, ⟨true⟩⟩ ∧
        e' = e.setStatus "正在保存排序..." ∧ f = saving names := by
  rcases q with ⟨_ | names, ⟨_ | _⟩⟩ <;> simp [next, Flight.tryBegin?, eq_comm]

end Flush

end Switchboard
