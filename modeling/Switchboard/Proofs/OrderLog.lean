import Switchboard.OrderQueue

/-!
# The log of a queue of orders

What a queue of orders does is seen from its log: which orders were queued, which calls its saves
made and which replies they took in. `Saves.Step` says which entry may come next, given the order
that waits and how far the save is that is under way; a log is *legal* if it can be written so from
the start (`Saves.Steps`). Whatever holds of the order of calls follows from this alone.

* `Saves.Steps.latest` — what was sent last and what waits is what was queued last.
* `Saves.Steps.sublist` — what was sent, and what waits, are some of the orders queued, in the order
  in which they were.
* `Saves.Steps.held` — while a save holds the queue, orders are only noted, the latest for all.
* `Saves.Steps.sent_after_save` — when it ends, the order that waits is saved, and only that.
* `Saves.Steps.reads_back` — a save that failed makes one more call, for the dashboard.
* `Saves.Steps.last_of_free` — how a queue comes to be held by nobody.
-/

set_option autoImplicit false

namespace Switchboard

/-- What happens to a queue of orders. -/
inductive OrderEntry where
  | queued (names : List String)
  | called (c : Call)
  | replied (c : Call) (ok : Bool)
  deriving DecidableEq

namespace OrderEntry

/-- The order that was queued. -/
def queued? : OrderEntry → Option (List String)
  | queued names => some names
  | _ => none

/-- The order that was sent to be saved. -/
def sent? : OrderEntry → Option (List String)
  | called (.reorderProfiles names) => some names
  | _ => none

/-- The call that was made. -/
def call? : OrderEntry → Option Call
  | called c => some c
  | _ => none

/-- A save ends: it was done, or the order has been read back or could not be. -/
def ends : OrderEntry → Bool
  | replied (.reorderProfiles _) ok => ok
  | replied _ _ => true
  | _ => false

end OrderEntry

/-- The orders that were queued. -/
def queuedOrders (log : List OrderEntry) : List (List String) := log.filterMap (·.queued?)

/-- The orders that were sent to be saved. -/
def sentOrders (log : List OrderEntry) : List (List String) := log.filterMap (·.sent?)

/-- The calls that were made. -/
def callsOf (log : List OrderEntry) : List Call := log.filterMap (·.call?)

/-- The log up to the next order that is queued. -/
def untilQueued (log : List OrderEntry) : List OrderEntry := log.takeWhile (·.queued?.isNone)

/-- The log up to the next order that is sent. -/
def untilSent (log : List OrderEntry) : List OrderEntry := log.takeWhile (·.sent?.isNone)

/-- The last save has failed, and its order could not be read back. -/
def readBackFailed (log : List OrderEntry) : Bool :=
  match log.getLast? with
  | some (.replied (.fetchDashboard _ _) false) => true
  | _ => false

section Projections

variable (log : List OrderEntry) (names : List String) (c : Call)

@[simp] theorem queuedOrders_nil : queuedOrders [] = [] := rfl

@[simp] theorem queuedOrders_queued :
    queuedOrders (.queued names :: log) = names :: queuedOrders log := rfl

@[simp] theorem queuedOrders_called : queuedOrders (.called c :: log) = queuedOrders log := rfl

@[simp] theorem sentOrders_nil : sentOrders [] = [] := rfl

@[simp] theorem sentOrders_queued : sentOrders (.queued names :: log) = sentOrders log := rfl

@[simp] theorem sentOrders_send :
    sentOrders (.called (.reorderProfiles names) :: log) = names :: sentOrders log := rfl

end Projections

/-- The reply with which the save ends, done or failed. -/
def Flush.ends : Flush → Bool → Bool
  | .saving _, ok => ok
  | .rereading _, _ => true

/-- The entry of a reply ends the save that has waited for it, or does not. -/
theorem OrderEntry.ends_replied (f : Flush) (ok : Bool) :
    (replied f.call ok).ends = f.ends ok := by
  cases f <;> rfl

/-- How far a queue is with its saves. -/
inductive SavePhase where
  /-- No save is under way. -/
  | free
  /-- A save has ended, and the order that waits is about to be saved. -/
  | released
  /-- A save has failed, and the order is about to be read back. -/
  | failed
  | waiting (f : Flush)

namespace SavePhase

/-- The phase in which this save, if any, waits for a reply. -/
def of : Option Flush → SavePhase
  | none => free
  | some f => waiting f

/-- The phase after the end of a save, with this order to be saved next. -/
def afterSave : Option (List String) → SavePhase
  | none => free
  | some _ => released

/-- A save is not finished yet, so that no other can begin. -/
def isHeld : SavePhase → Bool
  | failed | waiting _ => true
  | free | released => false

/-- The queue waits, for an order or for a reply. -/
def isSettled : SavePhase → Bool
  | free | waiting _ => true
  | released | failed => false

/-- Whatever save failed, its order has been read back, or could not be. -/
def hasReadBack : SavePhase → Bool
  | free | released | waiting (.rereading _) => true
  | failed | waiting (.saving _) => false

theorem isSettled_of (f : Option Flush) : (of f).isSettled := by
  cases f <;> rfl

end SavePhase

/-- The order that waits in a queue, and how far the queue is with its saves. -/
structure Saves where
  pending : Option (List String)
  phase : SavePhase

namespace Saves

/-- What may come next. -/
inductive Step : Saves → OrderEntry → Saves → Prop where
  | queue {p : Option (List String)} {phase : SavePhase} (names : List String) :
    phase.isSettled → Step ⟨p, phase⟩ (.queued names) ⟨some names, phase⟩
  | send {names : List String} {phase : SavePhase} :
    phase.isHeld = false →
      Step ⟨some names, phase⟩ (.called (.reorderProfiles names)) ⟨none, .waiting (.saving names)⟩
  | fail {p : Option (List String)} (names : List String) :
    Step ⟨p, .waiting (.saving names)⟩ (.replied (.reorderProfiles names) false) ⟨p, .failed⟩
  | reread {p : Option (List String)} (m : Mode) (l : Load) :
    l.call = .fetchDashboard false m →
      Step ⟨p, .failed⟩ (.called (.fetchDashboard false m)) ⟨p, .waiting (.rereading l)⟩
  | finish {p : Option (List String)} (f : Flush) (ok : Bool) :
    f.ends ok → Step ⟨p, .waiting f⟩ (.replied f.call ok) ⟨p, .afterSave p⟩

/-- What may come, entry after entry. -/
inductive Steps : Saves → List OrderEntry → Saves → Prop where
  | nil {s : Saves} : Steps s [] s
  | cons {s s' s'' : Saves} {x : OrderEntry} {log : List OrderEntry} :
    Step s x s' → Steps s' log s'' → Steps s (x :: log) s''

namespace Steps

variable {s s' s'' : Saves} {p : Option (List String)} {phase : SavePhase}
  {log log' : List OrderEntry}

theorem single {x : OrderEntry} (h : Step s x s') : Steps s [x] s' := .cons h .nil

theorem append (h : Steps s log s') (h' : Steps s' log' s'') : Steps s (log ++ log') s'' := by
  induction h with
  | nil => exact h'
  | cons hx _ ih => exact .cons hx (ih h')

theorem exists_of_append (h : Steps s (log ++ log') s'') :
    ∃ s', Steps s log s' ∧ Steps s' log' s'' := by
  induction log generalizing s with
  | nil => exact ⟨s, .nil, h⟩
  | cons x log ih =>
    cases h with
    | cons hx h =>
      obtain ⟨s', hl, hl'⟩ := ih h
      exact ⟨s', .cons hx hl, hl'⟩

/-! ### What is sent -/

/-- **What was sent last, and then what waits, is what was queued last.** -/
theorem latest (h : Steps s log s') :
    (sentOrders log ++ s'.pending.toList).getLast? =
      (s.pending.toList ++ queuedOrders log).getLast? := by
  induction h with
  | nil => simp
  | cons hx _ ih =>
    cases hx with
    | queue names =>
      rw [sentOrders_queued, queuedOrders_queued, ih]
      simp [List.getLast?_cons]
    | @send names _ _ =>
      rw [sentOrders_send, queuedOrders_called, List.cons_append, List.getLast?_cons, ih]
      exact List.getLast?_cons.symm
    | fail names => exact ih
    | reread m l => exact ih
    | finish f ok => exact ih

/-- **What was sent, and then what waits, are some of the orders that were queued**, in the order in
which they were. -/
theorem sublist (h : Steps s log s') :
    (sentOrders log ++ s'.pending.toList).Sublist (s.pending.toList ++ queuedOrders log) := by
  induction h with
  | nil => simp
  | cons hx _ ih =>
    cases hx with
    | queue names => exact ih.trans (List.sublist_append_right _ _)
    | send => exact ih.cons_cons _
    | fail names => exact ih
    | reread m l => exact ih
    | finish f ok => exact ih

/-- **While a save holds the queue**, nothing is sent, and of the orders that come the latest waits
in the end. -/
theorem held (h : Steps s log s') (hs : s.phase.isHeld) (hl : ∀ x ∈ log, x.ends = false) :
    s'.phase.isHeld ∧ sentOrders log = [] ∧
      s'.pending = (s.pending.toList ++ queuedOrders log).getLast? := by
  have key : s'.phase.isHeld ∧ sentOrders log = [] := by
    induction h with
    | nil => exact ⟨hs, rfl⟩
    | cons hx _ ih =>
      have hl' := fun x hx' => hl x (List.mem_cons_of_mem _ hx')
      cases hx with
      | queue names => exact ih hs hl'
      | send hp =>
        rw [hp] at hs
        cases hs
      | fail names => exact ih rfl hl'
      | reread m l => exact ih rfl hl'
      | finish f ok hf =>
        have hx := hl _ List.mem_cons_self
        rw [OrderEntry.ends_replied, hf] at hx
        cases hx
  obtain ⟨hs', hn⟩ := key
  have hp := h.latest
  rw [hn, List.nil_append] at hp
  refine ⟨hs', hn, ?_⟩
  rw [← hp]
  cases s'.pending <;> rfl

/-- An order is sent only if there is one. -/
theorem sent_of_none (h : Steps s log s') (hs : s.pending = none) :
    sentOrders (untilQueued log) = [] := by
  induction h with
  | nil => rfl
  | cons hx _ ih =>
    cases hx with
    | queue names => rfl
    | send => cases hs
    | fail names => exact ih hs
    | reread m l => exact ih hs
    | finish f ok => exact ih hs

/-- **When a save has ended**, the order that waits is sent, and no other before one is queued. -/
theorem sent_after_save (h : Steps ⟨p, .afterSave p⟩ log s') (hs : s'.phase.isSettled) :
    sentOrders (untilQueued log) = p.toList := by
  cases p with
  | none => exact h.sent_of_none rfl
  | some names =>
    cases h with
    | nil => cases hs
    | cons hx h =>
      cases hx with
      | queue _ hp => cases hp
      | send => exact congrArg (names :: ·) (h.sent_of_none rfl)

/-! ### What is read back -/

/-- Once the order has been read back, the next call is that of the next save. -/
theorem calls_of_hasReadBack (h : Steps s log s') (hs : s.phase.hasReadBack) :
    callsOf (untilSent log) = [] := by
  induction h with
  | nil => rfl
  | cons hx _ ih =>
    cases hx with
    | queue names => exact ih hs
    | send => rfl
    | fail names => cases hs
    | reread m l => cases hs
    | @finish q f ok =>
      have hq : (SavePhase.afterSave q).hasReadBack := by cases q <;> rfl
      exact ih hq

/-- **After a save that failed**, the dashboard is asked for once before the next order is sent. -/
theorem reads_back (h : Steps ⟨p, .failed⟩ log s') (hs : s'.phase.isSettled) :
    ∃ m, callsOf (untilSent log) = [.fetchDashboard false m] := by
  cases h with
  | nil => cases hs
  | cons hx h =>
    cases hx with
    | queue _ hp => cases hp
    | send hp => cases hp
    | reread m l =>
      exact ⟨m, congrArg (Call.fetchDashboard false m :: ·) (h.calls_of_hasReadBack rfl)⟩

/-- Nobody holds a queue after an order that was queued, with this order waiting, or after the end
of a save, with no order waiting. -/
theorem last_of_free (h : Steps s log s') (hs : s'.phase = .free) :
    log = [] ∧ s = s' ∨
      (∃ names, log.getLast? = some (.queued names) ∧ s'.pending = some names) ∨
      ∃ f ok, Flush.ends f ok ∧ log.getLast? = some (.replied f.call ok) ∧ s'.pending = none := by
  induction h with
  | nil => exact .inl ⟨rfl, rfl⟩
  | cons hx _ ih =>
    right
    have last {x y : OrderEntry} {l : List OrderEntry} (hl : l.getLast? = some y) :
        (x :: l).getLast? = some y := by
      rw [List.getLast?_cons, hl]
      rfl
    rcases ih hs with ⟨rfl, rfl⟩ | ⟨names, hl, hp⟩ | ⟨f, ok, hf, hl, hp⟩
    · cases hx with
      | queue names => exact .inl ⟨names, rfl, rfl⟩
      | send => cases hs
      | fail => cases hs
      | reread => cases hs
      | @finish p f ok hf =>
        cases p with
        | none => exact .inr ⟨f, ok, hf, rfl, rfl⟩
        | some names => cases hs
    · exact .inl ⟨names, last hl, hp⟩
    · exact .inr ⟨f, ok, hf, last hl, hp⟩

/-- The end of a save leaves the order that waits alone. -/
theorem pending_of_replied {c : Call} {ok : Bool} (h : Steps s [.replied c ok] s') :
    s'.pending = s.pending := by
  cases h with
  | cons hx h =>
    cases h
    cases hx <;> rfl

/-! ### Legal logs -/

variable {before after : List OrderEntry} {names : List String} {x : OrderEntry}

/-- Every order that is sent is the latest one. -/
theorem latest_of_sent
    (h : Steps ⟨none, .free⟩ (before ++ .called (.reorderProfiles names) :: after) s) :
    (queuedOrders before).getLast? = some names := by
  obtain ⟨s', hb, ha⟩ := h.exists_of_append
  have hl := hb.latest
  cases ha with
  | cons hx _ =>
    cases hx with
    | send =>
      rw [Option.toList_some, List.getLast?_concat] at hl
      exact hl.symm

/-- Of the orders that come while a save holds the queue the latest is sent when it ends, and none
of the others. -/
theorem sent_after_hold
    (h : Steps ⟨none, .free⟩ (before ++ .called (.reorderProfiles names) :: log ++ x :: after) s)
    (hs : s.phase.isSettled) (hx : x.ends) (hl : ∀ y ∈ log, y.ends = false) :
    sentOrders (untilQueued after) = (queuedOrders log).getLast?.toList := by
  obtain ⟨s₁, h, hafter⟩ := h.exists_of_append
  obtain ⟨s₀, -, h⟩ := h.exists_of_append
  cases h with
  | cons hsend hlog =>
    cases hsend with
    | send =>
      obtain ⟨-, -, hp⟩ := hlog.held rfl hl
      cases hafter with
      | cons hend hafter =>
        cases hend with
        | queue => cases hx
        | send => cases hx
        | fail => cases hx
        | reread => cases hx
        | finish f ok =>
          rw [hafter.sent_after_save hs]
          exact congrArg Option.toList hp

/-- Every save that failed is read back. -/
theorem reads_back_of_failed
    (h : Steps ⟨none, .free⟩ (before ++ .replied (.reorderProfiles names) false :: after) s)
    (hs : s.phase.isSettled) :
    ∃ m, callsOf (untilSent after) = [.fetchDashboard false m] := by
  obtain ⟨s', -, h⟩ := h.exists_of_append
  cases h with
  | cons hx h =>
    generalize hc : Call.reorderProfiles names = c at hx
    cases hx with
    | fail => exact h.reads_back hs
    | finish f ok hf =>
      cases f with
      | saving _ => cases hf
      | rereading l => cases hc

end Steps

end Saves

end Switchboard
