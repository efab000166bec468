import Switchboard.Proofs.OrderRuns
import Switchboard.Proofs.Signature
import Switchboard.Proofs.StepWrites

/-!
# The order on the screen

An order that is queued shows at once, ahead of the snapshot, and the snapshot catches up when its
save is done or has been read back. If the save fails and the order cannot be read back either, the
order stays on the screen, and a silent poll takes it away only if the signature has changed.

* `Session.inOrder_or_unsettled` — in every run the screen shows the order of the snapshot, unless a
  queue is at work or the last save of one could not even be read back.
* `Session.display_after_poll_iff` — when a poll brings a snapshot, the screen shows its order
  exactly if the poll replaces the model or the screen has shown that order before; it does so
  whenever no queue has ended with a save that could not be read back.
* `Session.display_left_behind` — otherwise the order on the screen may stay wrong.
-/

set_option autoImplicit false

namespace Switchboard

/-- The screen shows the profiles in the order of the snapshot. -/
def Model.InOrder (m : Model) : Prop := m.display = m.snapshot.profiles

theorem Model.InOrder.displayNames {m : Model} (h : m.InOrder) :
    m.displayNames = m.snapshot.names := congrArg (List.map Profile.name) h

namespace ModelWrite

/-- The write shows the profiles in an order of its own. -/
def isReorder : ModelWrite → Bool
  | reorder _ => true
  | _ => false

variable {m : Mode} {remembered : Option String} {before : Option Model} {x : ModelWrite}

theorem inOrder_reconcile (s : Snapshot) (before : Option Model) (v : Viewpoint) :
    (reconcile s before v).InOrder := rfl

/-- Only showing an order takes the screen out of the order of the snapshot. -/
theorem inOrder_result (hx : x.isReorder = false) (hb : ∀ b, before = some b → b.InOrder) :
    ∀ a, x.result m remembered before = some a → a.InOrder := by
  intro a h
  cases x with
  | apply s preserve =>
    cases h
    exact inOrder_reconcile s before _
  | applyIfChanged s =>
    simp only [result] at h
    split at h
    · cases h
      exact inOrder_reconcile s before _
    · exact hb a h
  | reorder names => cases hx
  | select name =>
    obtain ⟨b, hb', hs | rfl⟩ := exists_of_result_select h
    · obtain ⟨-, rfl⟩ := Model.of_select? hs
      exact hb b hb'
    · exact hb a hb'

theorem inOrder_results {xs : List ModelWrite} (hx : ∀ x ∈ xs, x.isReorder = false)
    (hb : ∀ b, before = some b → b.InOrder) :
    ∀ a, results m remembered before xs = some a → a.InOrder := by
  induction xs generalizing before with
  | nil => exact hb
  | cons x xs ih =>
    refine ih (fun y hy => hx y (List.mem_cons_of_mem _ hy)) ?_
    exact inOrder_result (hx x List.mem_cons_self) hb

theorem isReorder_ofReply (r : Except Failure Snapshot) : ∀ x ∈ ofReply r, x.isReorder = false := by
  cases r <;> simp [ofReply, isReorder]

theorem isReorder_report (r : AutoSwitchReport) : ∀ x ∈ r.writes, x.isReorder = false := by
  intro x hx
  rcases List.mem_append.1 hx with hx | hx
  · rw [Option.mem_toList, Option.map_eq_some_iff] at hx
    obtain ⟨s, -, rfl⟩ := hx
    rfl
  · split at hx
    · rw [Option.mem_toList, Option.map_eq_some_iff] at hx
      obtain ⟨name, -, rfl⟩ := hx
      rfl
    · cases hx

end ModelWrite

open ModelWrite

namespace Session

/-- No reply shows an order. -/
theorem isReorder_replyWrites (w : Session) (k : Work) (r : Reply k.call) :
    ∀ x ∈ w.replyWrites k r, x.isReorder = false := by
  cases k with
  | load l => exact isReorder_ofReply r
  | refresh x => cases x <;> exact isReorder_ofReply r
  | switch x => cases x <;> exact isReorder_ofReply r
  | flush crew f =>
    cases f with
    | saving names =>
      simp only [replyWrites, Flush.writes]
      split
      · simp
      · exact isReorder_ofReply r
    | rereading l => exact isReorder_ofReply r
  | poll s p =>
    cases r with
    | error f => simp [replyWrites, Poll.writes]
    | ok snapshot =>
      simp only [replyWrites, Poll.writes]
      split <;> simp [isReorder]
  | autoSwitch s a =>
    cases a with
    | ticking mode =>
      simp only [replyWrites, AutoSwitch.writes]
      split
      · exact isReorder_report _
      · simp
    | acting s p => simp [replyWrites, AutoSwitch.writes]
    | calibrating s name =>
      simp only [replyWrites, AutoSwitch.writes]
      split
      · simp
      · exact isReorder_ofReply r
  | keepalive s x =>
    simp only [replyWrites]
    split
    · simp
    · exact isReorder_ofReply r
  | startup s =>
    cases s with
    | loading settings l => exact isReorder_ofReply r
    | refreshing settings x => cases x <;> exact isReorder_ofReply r
    | resetting settings => simp [replyWrites, Startup.writes]
  | _ => simp [replyWrites]

/-- Only a caller shows an order: one that it queues, or one that it has shown at once. -/
theorem isReorder_writes {w : Session} {ev : Event} (hr : ∀ names, ev ≠ .act (.reorder names))
    (hq : ∀ c names, ev ≠ .act (.queueOrder c names)) :
    ∀ x ∈ w.writes ev, x.isReorder = false := by
  by_cases ha : ∃ a, ev = .act a
  · obtain ⟨a, rfl⟩ := ha
    cases a with
    | reorder names => exact absurd rfl (hr names)
    | queueOrder c names => exact absurd rfl (hq c names)
    | _ => simp [writes, Action.writes, isReorder]
  · rw [writes_of_not_act fun a he => ha ⟨a, he⟩]
    split
    · exact isReorder_replyWrites w _ _
    · simp

/-! ## A queue that is idle has settled the order -/

/-- The queue of this crew is at work, or its last save could not even be read back. -/
def Unsettled (c : CrewId) (w : Session) (log : List OrderEntry) : Prop :=
  (w.crew c).orders.isIdle = false ∨ readBackFailed log

variable {c : CrewId} {w : Session}

/-- A reply that ends the entries of an event is all there is to them. -/
theorem exists_answered {ev : Event} {k : Call} {ok : Bool}
    (h : (w.orderEntries c ev).getLast? = some (.replied k ok)) :
    ∃ f r, w.answered? ev = some ⟨.flush c f, r⟩ ∧ r.isOk = ok ∧
      w.orderEntries c ev = [.replied f.call ok] := by
  have ha : ∀ a, ev ≠ .act a := by
    rintro a rfl
    cases a with
    | queueOrder c' names =>
      simp only [orderEntries] at h
      split at h <;> cases h
    | _ => cases h
  rw [orderEntries_of_not_act ha] at h ⊢
  cases hb : w.saveBegun? c ev with
  | some f => simp [hb, OrderQueue.callEntry] at h
  | none =>
    rw [hb] at h
    cases hs : w.saveAnswered? c ev with
    | none => simp [hs] at h
    | some x =>
      obtain ⟨f, ok'⟩ := x
      simp only [hs] at h
      obtain ⟨⟨k', r⟩, hk, hf⟩ := Option.bind_eq_some_iff.1 hs
      obtain ⟨f', hf, hx⟩ := Option.map_eq_some_iff.1 hf
      obtain rfl := Work.flushOf?_eq_some_iff.1 hf
      cases hx
      cases h
      exact ⟨f, r, hk, rfl, rfl⟩

/-- A save that ends well, with no other order waiting, shows the order of its snapshot. -/
theorem inOrder_of_saved {s s' : Saves} (hst : w.Stands c s) (hw : w.Numbered) {ev : Event}
    {k : Call} (h : Saves.Steps s (w.orderEntries c ev) s') (hs' : s'.pending = none)
    (hl : (w.orderEntries c ev).getLast? = some (.replied k true)) :
    ∀ m, (w.step ev).engine.model = some m → m.InOrder := by
  obtain ⟨g, r, ha, hr, he⟩ := exists_answered hl
  have hp : (w.crew c).orders.pending = none := by
    obtain ⟨holder, -, rfl⟩ := hst
    rw [he] at h
    rw [← hs', h.pending_of_replied]
  obtain ⟨snapshot, hwrites⟩ : ∃ snapshot, w.writes ev = [.apply snapshot false] := by
    rw [writes_of_answered ha]
    cases g with
    | saving names =>
      cases r with
      | error failure => cases hr
      | ok snapshot => exact ⟨snapshot, by simp [replyWrites, Flush.writes, hp, ofReply]⟩
    | rereading l =>
      cases r with
      | error failure => cases hr
      | ok snapshot => exact ⟨snapshot, rfl⟩
  intro m hm
  rw [model_step hw, hwrites] at hm
  cases hm
  exact inOrder_reconcile snapshot _ _

/-- What has taken the screen out of order stays at work on it, until it is put right or could not
even be read back. -/
theorem Unsettled.step {log : List OrderEntry} (h : Unsettled c w log) {s : Saves}
    (hst : w.Stands c s) (hw : w.Numbered) (ev : Event) :
    Unsettled c (w.step ev) (log ++ w.orderEntries c ev) ∨
      ∀ m, (w.step ev).engine.model = some m → m.InOrder := by
  obtain ⟨s', hst', hsteps⟩ := hst.step hw ev
  cases hidle : ((w.step ev).crew c).orders.isIdle with
  | false => exact .inl (.inl hidle)
  | true =>
    have hs' := hst'.isIdle_iff.1 hidle
    rcases hsteps.last_of_free (by rw [hs']) with ⟨hn, rfl⟩ | ⟨names, -, hp⟩ | ⟨f, ok, hf, hl, hp⟩
    · left
      right
      rcases h with h | h
      · rw [hst.isIdle_iff.2 hs'] at h
        cases h
      · rw [hn, List.append_nil]
        exact h
    · rw [hs'] at hp
      cases hp
    · cases ok with
      | true =>
        right
        exact inOrder_of_saved hst hw hsteps hp hl
      | false =>
        left
        right
        cases f with
        | saving names => cases hf
        | rereading l =>
          unfold readBackFailed
          rw [List.getLast?_append, hl]
          rfl

/-- **The screen shows the order of the snapshot**, unless a queue is at work or its last save could
not even be read back; provided that no order is shown but those that are queued. -/
theorem inOrder_or_unsettled {e : Engine} (he : e.model = none) {events : List Event}
    (hr : ∀ names, .act (.reorder names) ∉ events) :
    (∀ m, ((ofEngine e).run events).engine.model = some m → m.InOrder) ∨
      ∃ c, Unsettled c ((ofEngine e).run events) ((ofEngine e).orderLog c events) := by
  induction events using List.reverseRecOn with
  | nil =>
    left
    intro m hm
    rw [run_nil, ofEngine, he] at hm
    cases hm
  | append_singleton events ev ih =>
    have hw := (numbered_ofEngine e).run events
    have hr' : ∀ names, .act (.reorder names) ∉ events := fun names h =>
      hr names (List.mem_append_left _ h)
    have hev : ∀ names, ev ≠ .act (.reorder names) := fun names h =>
      hr names (by simp [h])
    simp only [run_append, run_cons, run_nil, orderLog_concat]
    rcases ih hr' with hin | ⟨c, hc⟩
    · by_cases hq : ∃ c names, ev = .act (.queueOrder c names)
      · obtain ⟨c, names, rfl⟩ := hq
        right
        refine ⟨c, .inl ?_⟩
        have ho := orders_act ((ofEngine e).run events) (.queueOrder c names) c
        simp only [if_true] at ho
        rw [step, ho]
        simp [OrderQueue.isIdle, OrderQueue.put]
      · left
        rw [model_step hw]
        exact inOrder_results (isReorder_writes hev fun c names h => hq ⟨c, names, h⟩) hin
    · obtain ⟨s, hst, -⟩ := stands_run c e events
      rcases hc.step hst hw ev with h | h
      · exact .inr ⟨c, h⟩
      · exact .inl h

/-! ## A poll brings a snapshot -/

/-- What a poll comes to with this reply. -/
def pollOutcome (w : Session) (s : Shift) (p : Poll) (reply : Reply p.call) : Poll.Outcome :=
  (p.finish w.engine (w.crew s.crew).backoff (w.isCancelled s.scope) reply).2.2

theorem pollOutcome_ok (w : Session) (s : Shift) (p : Poll) (incoming : Snapshot) :
    w.pollOutcome s p (.ok incoming) =
      if w.isCancelled s.scope || w.engine.mode != p.mode then .discarded
      else if w.engine.differs incoming then .applied else .unchanged := by
  simp only [pollOutcome, Poll.finish]
  split <;> rfl

/-- A snapshot that is not dropped is applied, or nothing has changed. -/
theorem pollOutcome_of_ne_discarded {s : Shift} {p : Poll} {incoming : Snapshot}
    (h : w.pollOutcome s p (.ok incoming) ≠ .discarded) :
    (w.isCancelled s.scope || w.engine.mode != p.mode) = false ∧
      w.pollOutcome s p (.ok incoming) =
        if w.engine.differs incoming then .applied else .unchanged := by
  rw [pollOutcome_ok] at h ⊢
  cases hd : w.isCancelled s.scope || w.engine.mode != p.mode with
  | true => simp [hd] at h
  | false => exact ⟨rfl, rfl⟩

/-- The model after a poll whose snapshot is not dropped. -/
theorem model_step_of_poll (hw : w.Numbered) {ev : Event} {s : Shift} {p : Poll}
    {incoming : Snapshot} (ha : w.answered? ev = some ⟨.poll s p, .ok incoming⟩)
    (ho : w.pollOutcome s p (.ok incoming) ≠ .discarded) :
    (w.step ev).engine.model =
      if w.engine.differs incoming then some (w.engine.reconciled incoming true)
      else w.engine.model := by
  have hwrites : w.writes ev = [.applyIfChanged incoming] := by
    rw [writes_of_answered ha]
    simp only [replyWrites, Poll.writes, (pollOutcome_of_ne_discarded ho).1]
    rfl
  rw [model_step hw, hwrites, ← w.engine.model_applyIfChanged incoming]
  exact (w.engine.model_write (.applyIfChanged incoming)).symm

/-- A poll that finds nothing changed finds the names of the snapshot in the model, unless the two
snapshots collide. -/
theorem names_eq_or_collides_of_not_differs {e : Engine} {m : Model} (hm : e.model = some m)
    (hwell : m.WellFormed) {incoming : Snapshot} (h : e.differs incoming = false) :
    m.snapshot.names = incoming.names ∨
      m.snapshot.Collides (e.reconciled incoming true).snapshot := by
  simp only [Engine.differs, hm, Option.all_some, bne_eq_false_iff_eq] at h
  have hnames : (e.reconciled incoming true).snapshot.names = incoming.names :=
    Snapshot.names_settled incoming _ _
  rw [← hnames]
  exact Snapshot.names_eq_or_collides (hwell.signature.symm.trans h)

/-- **The order on the screen after a poll.** When a poll brings a snapshot that is not dropped, the
screen shows its order exactly if the snapshot is applied or the screen has shown that order before.
It does so for certain if only queued orders were shown, the queues are idle, and none of them has
ended with an order that could not be read back; unless two different snapshots were signed alike. -/
theorem display_after_poll_iff {e : Engine} (he : e.model = none) {events : List Event} {ev : Event}
    {s : Shift} {p : Poll} {incoming : Snapshot}
    (ha : ((ofEngine e).run events).answered? ev = some ⟨.poll s p, .ok incoming⟩)
    (ho : ((ofEngine e).run events).pollOutcome s p (.ok incoming) ≠ .discarded) :
    ((∃ m, (((ofEngine e).run events).step ev).engine.model = some m ∧
        m.displayNames = incoming.names) ↔
      ((ofEngine e).run events).pollOutcome s p (.ok incoming) = .applied ∨
        ∃ m, ((ofEngine e).run events).engine.model = some m ∧
          m.displayNames = incoming.names) ∧
      ((∀ names, .act (.reorder names) ∉ events) →
        (∀ c, (((ofEngine e).run events).crew c).orders.isIdle) →
        (∀ c, readBackFailed ((ofEngine e).orderLog c events) = false) →
        (∃ m, (((ofEngine e).run events).step ev).engine.model = some m ∧
          m.displayNames = incoming.names) ∨
        ∃ m, ((ofEngine e).run events).engine.model = some m ∧
          m.snapshot.Collides
            (((ofEngine e).run events).engine.reconciled incoming true).snapshot) := by
  have hw := (numbered_ofEngine e).run events
  have hmodel := model_step_of_poll hw ha ho
  have hout := (pollOutcome_of_ne_discarded ho).2
  rw [hmodel, hout]
  cases hd : ((ofEngine e).run events).engine.differs incoming with
  | true =>
    have hnames : (((ofEngine e).run events).engine.reconciled incoming true).displayNames =
        incoming.names := by
      refine (inOrder_reconcile incoming _ _).displayNames.trans ?_
      exact Snapshot.names_settled incoming _ _
    simp [hnames]
  | false =>
    refine ⟨by simp, fun hr hidle hread => ?_⟩
    cases hm : ((ofEngine e).run events).engine.model with
    | none => simp [Engine.differs, hm] at hd
    | some m =>
      have hwell := wellFormed_run (numbered_ofEngine e) (by simp [ofEngine, he]) events m hm
      have hin : m.InOrder := by
        rcases inOrder_or_unsettled he hr with hin | ⟨c, hc | hc⟩
        · exact hin m hm
        · rw [hidle c] at hc
          cases hc
        · rw [hread c] at hc
          cases hc
      rcases names_eq_or_collides_of_not_differs hm hwell hd with hn | hn
      · exact .inl ⟨m, rfl, hin.displayNames.trans hn⟩
      · exact .inr ⟨m, rfl, hn⟩

/-- A poll finds nothing changed when it brings what the model has already. -/
theorem pollOutcome_of_snapshot_eq (hwell : ∀ m, w.engine.model = some m → m.WellFormed)
    {s : Shift} {p : Poll} {incoming : Snapshot}
    (hkept : (w.isCancelled s.scope || w.engine.mode != p.mode) = false)
    (hsame : w.engine.model.map (·.snapshot) =
      some (w.engine.reconciled incoming true).snapshot) :
    w.pollOutcome s p (.ok incoming) = .unchanged := by
  obtain ⟨m, hm, hsnapshot⟩ := Option.map_eq_some_iff.1 hsame
  have hd : w.engine.differs incoming = false := by
    rw [Engine.differs, hm, Option.all_some, bne_eq_false_iff_eq, (hwell m hm).signature, hsnapshot]
    exact (signature_reconcile incoming _ _).symm
  rw [pollOutcome_ok, hkept, hd]
  rfl

/-- **The order on the screen may stay wrong.** Its save has failed, and so has the reading back;
the queue is idle, and a poll brings the snapshot that the model already has. When the save is
answered, the screen shows the order of the snapshot that a poll brings after it. -/
theorem display_left_behind :
    let s : Snapshot := { profiles := [{ name := "a" }, { name := "b" }] }
    let t : Snapshot := { profiles := [{ name := "b" }, { name := "a" }] }
    let queued : List Event :=
      [.ask (.load false none none), .reply 0 (.fetchDashboard false .gpt) (.ok s),
        .act (.queueOrder .manual ["b", "a"]), .turn 1]
    let failed := queued ++
      [.reply 1 (.reorderProfiles ["b", "a"]) (.error (.reported "down")),
        .reply 1 (.fetchDashboard false .gpt) (.error (.reported "down")),
        .ask (.job (.manual 0) .poll)]
    let saved := queued ++
      [.reply 1 (.reorderProfiles ["b", "a"]) (.ok t), .ask (.job (.manual 0) .poll)]
    ((∀ c, (((ofEngine Engine.blank).run failed).crew c).orders.isIdle) ∧
      ((ofEngine Engine.blank).run failed).pollOutcome ⟨.manual, .manual 0⟩ ⟨.gpt⟩ (.ok s) =
        .unchanged ∧
      ¬ ∃ m,
        (((ofEngine Engine.blank).run failed).step
            (.reply 2 (.fetchDashboard false .gpt) (.ok s))).engine.model = some m ∧
          m.displayNames = s.names) ∧
      (∀ c, (((ofEngine Engine.blank).run saved).crew c).orders.isIdle) ∧
      ∃ m,
        (((ofEngine Engine.blank).run saved).step
            (.reply 2 (.fetchDashboard false .gpt) (.ok t))).engine.model = some m ∧
          m.displayNames = t.names := by
  intro s t queued failed saved
  have hidle : (∀ c, (((ofEngine Engine.blank).run failed).crew c).orders.isIdle) ∧
      ∀ c, (((ofEngine Engine.blank).run saved).crew c).orders.isIdle := by
    constructor <;> intro c <;> cases c <;> decide +kernel
  have answered (events : List Event) (incoming : Snapshot)
      (hk : ((ofEngine Engine.blank).run events).workOf? 2 =
        some (.poll ⟨.manual, .manual 0⟩ ⟨.gpt⟩)) :
      ((ofEngine Engine.blank).run events).answered?
          (.reply 2 (.fetchDashboard false .gpt) (.ok incoming)) =
        some ⟨.poll ⟨.manual, .manual 0⟩ ⟨.gpt⟩, .ok incoming⟩ := answered?_reply hk (.ok incoming)
  have hwell (events : List Event) :=
    wellFormed_run (numbered_ofEngine Engine.blank) (by simp [ofEngine, Engine.blank]) events
  constructor
  · have hu : ((ofEngine Engine.blank).run failed).pollOutcome ⟨.manual, .manual 0⟩ ⟨.gpt⟩ (.ok s) =
        .unchanged :=
      pollOutcome_of_snapshot_eq (hwell failed) (by decide +kernel) (by decide +kernel)
    have hiff := (display_after_poll_iff (e := Engine.blank) rfl
      (answered failed s (by decide +kernel)) (by rw [hu]; decide)).1
    have hshown : ((ofEngine Engine.blank).run failed).engine.model.map (·.displayNames) =
        some ["b", "a"] := by
      decide +kernel
    refine ⟨hidle.1, hu, fun hex => ?_⟩
    rcases hiff.1 hex with hn | ⟨m, hm, hn⟩
    · rw [hu] at hn
      cases hn
    · rw [hm, Option.map_some, hn] at hshown
      exact absurd hshown (by decide)
  · have hsame : ((ofEngine Engine.blank).run saved).engine.model.map (·.snapshot) =
        some (((ofEngine Engine.blank).run saved).engine.reconciled t true).snapshot := by
      decide +kernel
    have hu : ((ofEngine Engine.blank).run saved).pollOutcome ⟨.manual, .manual 0⟩ ⟨.gpt⟩ (.ok t) =
        .unchanged :=
      pollOutcome_of_snapshot_eq (hwell saved) (by decide +kernel) hsame
    refine ⟨hidle.2, ?_⟩
    rcases (display_after_poll_iff (e := Engine.blank) rfl
      (answered saved t (by decide +kernel)) (by rw [hu]; decide)).2
      (by simp [saved, queued]) hidle.2 (fun c => by cases c <;> decide +kernel)
      with h | ⟨m, hm, hne, -⟩
    · exact h
    · rw [hm, Option.map_some, Option.some.injEq] at hsame
      exact absurd (congrArg (fun x : Snapshot => x.toJson.compact) hsame) hne

end Session

end Switchboard
