import Mathlib.Data.List.Infix
import Switchboard.Proofs.Arrangement
import Switchboard.Proofs.CurrentProfile
import Switchboard.Proofs.DisplayOrder
import Switchboard.Proofs.Outstanding

/-!
# The queued order on the screen

An order that is queued shows at once. It stays on the screen while its save is under way, since the
replies to its own save touch the model only with the last of them, when the queue has nothing left to
do. Polls do not ask the queue, so that a dashboard they find changed takes the order away.

* `Session.isIdle_of_saveDone` — the save that is shown leaves its queue idle.
* `Session.shows_while_saving` — a queue that is not idle has its last order on the screen, unless
  something else than its own save has replaced the model since.
* `Session.order_lost_to_poll` — a poll may do so.
-/

set_option autoImplicit false

namespace Switchboard

/-- The screen shows the profiles in the order of these names: to show them so changes nothing. -/
def Model.Shows (m : Model) (names : List String) : Prop :=
  (m.withDisplayOrder names).display = m.display

instance (m : Model) (names : List String) : Decidable (m.Shows names) :=
  inferInstanceAs (Decidable ((m.withDisplayOrder names).display = m.display))

theorem Model.shows_withDisplayOrder (m : Model) (names : List String) :
    (m.withDisplayOrder names).Shows names := arrange_arrange names m.display

theorem Model.Shows.congr {m m' : Model} {names : List String} (h : m.Shows names)
    (hd : m'.display = m.display) : m'.Shows names := by
  unfold Shows withDisplayOrder at h ⊢
  rw [hd]
  exact h

namespace ModelWrite

variable {m : Mode} {remembered : Option String} {before : Option Model} {after : Model}

/-- A write that shows no order of its own and is no reconcile keeps the display. -/
theorem display_result {x : ModelWrite} (hx : x.isReorder = false)
    (hr : x.replaces before m remembered = false) (h : x.result m remembered before = some after) :
    ∃ b, before = some b ∧ after.display = b.display := by
  cases x with
  | apply s preserve => cases hr
  | applyIfChanged s =>
    simp only [result, hr] at h
    exact ⟨after, h, rfl⟩
  | reorder names => cases hx
  | select name =>
    obtain ⟨b, hb, hs | rfl⟩ := exists_of_result_select h
    · obtain ⟨-, rfl⟩ := Model.of_select? hs
      exact ⟨b, hb, rfl⟩
    · exact ⟨after, hb, rfl⟩

theorem display_results {xs : List ModelWrite} (hx : ∀ x ∈ xs, x.isReorder = false)
    (hr : someReplaces m remembered before xs = false)
    (h : results m remembered before xs = some after) :
    ∃ b, before = some b ∧ after.display = b.display := by
  induction xs generalizing before with
  | nil => exact ⟨after, h, rfl⟩
  | cons x xs ih =>
    rw [someReplaces, Bool.or_eq_false_iff] at hr
    obtain ⟨c, hc, hcd⟩ := ih (fun y hy => hx y (List.mem_cons_of_mem x hy)) hr.2 h
    obtain ⟨b, hb, hbd⟩ := display_result (hx x List.mem_cons_self) hr.1 hc
    exact ⟨b, hb, hcd.trans hbd⟩

end ModelWrite

/-- A queue that has nothing to do has only orders to wait for. -/
theorem Saves.Steps.eq_nil_of_idle {log : List OrderEntry} {s : Saves}
    (h : Saves.Steps ⟨none, .free⟩ log s) (hq : queuedOrders log = []) :
    log = [] ∧ s = ⟨none, .free⟩ := by
  cases h with
  | nil => exact ⟨rfl, rfl⟩
  | cons hx h =>
    cases hx with
    | queue names => cases hq

namespace Session

variable {w : Session} {c : CrewId} {ev : Event}

theorem queuedOrders_orderEntries (hev : ∀ names, ev ≠ .act (.queueOrder c names)) :
    queuedOrders (w.orderEntries c ev) = [] := by
  by_cases ha : ∃ a, ev = .act a
  · obtain ⟨a, rfl⟩ := ha
    cases a with
    | queueOrder c' names =>
      have hc : c' ≠ c := fun hc => hev names (by rw [hc])
      simp [orderEntries, hc]
    | _ => rfl
  · rw [orderEntries_of_not_act fun a he => ha ⟨a, he⟩]
    cases w.saveAnswered? c ev <;> cases w.saveBegun? c ev <;> rfl

/-- A queue that is idle stays so until the next order. -/
theorem isIdle_step {s : Saves} (hst : w.Stands c s) (hw : w.Numbered)
    (hev : ∀ names, ev ≠ .act (.queueOrder c names)) (h : (w.crew c).orders.isIdle) :
    ((w.step ev).crew c).orders.isIdle := by
  obtain rfl := hst.isIdle_iff.1 h
  obtain ⟨s', hst', hsteps⟩ := hst.step hw ev
  exact hst'.isIdle_iff.2 (hsteps.eq_nil_of_idle (queuedOrders_orderEntries hev)).2

/-- The event is the reply to a save of this crew, which was done. -/
def SaveDone (c : CrewId) (w : Session) (ev : Event) : Prop :=
  ∃ (names : List String) (s : Snapshot), w.answered? ev = some ⟨.flush c (.saving names), .ok s⟩

/-- **The save that is shown leaves its queue idle**: it is shown only if no other order waits. -/
theorem isIdle_of_saveDone (hd : w.SaveDone c ev) (hr : w.reconciles ev) :
    ((w.step ev).crew c).orders.isIdle := by
  obtain ⟨names, s, ha⟩ := hd
  have hp : (w.crew c).orders.pending = none := by
    by_contra hne
    have hnone : w.writes ev = [] := by
      rw [writes_of_answered ha]
      exact if_pos (Option.isSome_iff_ne_none.2 hne)
    rw [reconciles, hnone] at hr
    cases hr
  obtain ⟨id, errand, -, hstep⟩ := step_of_answered ha
  rw [hstep, orders_conclude, resume, orders_embedFlush]
  simp [Flush.resume, Flush.release, Flush.next, hp, OrderQueue.isIdle, Flight.tryBegin?,
    Flight.finish]

/-- What is on the screen stays there unless an order is shown or the model is replaced. -/
theorem shows_step (hw : w.Numbered) {names : List String}
    (hr : ∀ names, ev ≠ .act (.reorder names)) (hq : ∀ c names, ev ≠ .act (.queueOrder c names))
    (hrec : w.reconciles ev = false) (h : ∀ m, w.engine.model = some m → m.Shows names) :
    ∀ m, (w.step ev).engine.model = some m → m.Shows names := by
  intro m hm
  rw [model_step hw] at hm
  obtain ⟨b, hb, hd⟩ := ModelWrite.display_results (isReorder_writes hr hq) hrec hm
  exact (h b hb).congr hd

/-- An order shows as soon as it is queued. -/
theorem shows_queueOrder (w : Session) (c : CrewId) (names : List String) :
    ∀ m, (w.step (.act (.queueOrder c names))).engine.model = some m → m.Shows names := by
  intro m hm
  have hmodel := model_act w (.queueOrder c names)
  simp only [step] at hm
  rw [hmodel] at hm
  obtain ⟨b, -, rfl⟩ := Option.map_eq_some_iff.1 hm
  exact b.shows_withDisplayOrder names

/-- **The queued order stays on the screen while it is saved.** In every run, at any time when a queue
is not idle, to show the profiles in the order queued last changes nothing; unless, since it was queued,
an event has put another model in place that was not the end of a save of this queue. -/
theorem shows_while_saving {e : Engine} {before after : List Event} {names : List String}
    (hr : ∀ names, .act (.reorder names) ∉ after)
    (hq : ∀ c names, .act (.queueOrder c names) ∉ after)
    (hidle : (((ofEngine e).run (before ++ .act (.queueOrder c names) :: after)).crew
      c).orders.isIdle = false) :
    (∀ m, ((ofEngine e).run (before ++ .act (.queueOrder c names) :: after)).engine.model = some m →
        m.Shows names) ∨
      ∃ done ev, done ++ [ev] <+: after ∧
        ((ofEngine e).run (before ++ .act (.queueOrder c names) :: done)).reconciles ev ∧
        ¬ ((ofEngine e).run (before ++ .act (.queueOrder c names) :: done)).SaveDone c ev := by
  have hkey : (∀ m, ((ofEngine e).run (before ++ .act (.queueOrder c names) :: after)).engine.model =
        some m → m.Shows names) ∨
      (((ofEngine e).run (before ++ .act (.queueOrder c names) :: after)).crew c).orders.isIdle ∨
      ∃ done ev, done ++ [ev] <+: after ∧
        ((ofEngine e).run (before ++ .act (.queueOrder c names) :: done)).reconciles ev ∧
        ¬ ((ofEngine e).run (before ++ .act (.queueOrder c names) :: done)).SaveDone c ev := by
    clear hidle
    induction after using List.reverseRecOn with
    | nil =>
      left
      rw [run_concat]
      exact shows_queueOrder _ c names
    | append_singleton after ev ih =>
      have hw := (numbered_ofEngine e).run (before ++ .act (.queueOrder c names) :: after)
      have hr' : ∀ names, ev ≠ .act (.reorder names) := fun names h => hr names (by simp [h])
      have hq' : ∀ c names, ev ≠ .act (.queueOrder c names) := fun c names h =>
        hq c names (by simp [h])
      rw [← List.cons_append, ← List.append_assoc, run_concat]
      rcases ih (fun names h => hr names (List.mem_append_left _ h))
          (fun c names h => hq c names (List.mem_append_left _ h)) with
        hshows | hidle | ⟨done, ev', hpre, hrec, hsave⟩
      · cases hrec : ((ofEngine e).run (before ++ .act (.queueOrder c names) :: after)).reconciles ev with
        | false => exact .inl (shows_step hw hr' hq' hrec hshows)
        | true =>
          by_cases hsave : ((ofEngine e).run
              (before ++ .act (.queueOrder c names) :: after)).SaveDone c ev
          · exact .inr (.inl (isIdle_of_saveDone hsave hrec))
          · exact .inr (.inr ⟨after, ev, List.prefix_rfl, hrec, hsave⟩)
      · obtain ⟨s, hst, -⟩ := stands_run c e (before ++ .act (.queueOrder c names) :: after)
        exact .inr (.inl (isIdle_step hst hw (hq' c) hidle))
      · exact .inr (.inr ⟨done, ev', hpre.trans (List.prefix_append _ _), hrec, hsave⟩)
  rcases hkey with h | h | h
  · exact .inl h
  · rw [h] at hidle
    cases hidle
  · exact .inr h

/-- A later order is queued while another one is being saved. A poll fails, and the save that was under
way is done: the later order is still on the screen, and is saved next. -/
theorem shows_later_order :
    let s : Snapshot := { profiles := [{ name := "a" }, { name := "b" }] }
    let before : List Event :=
      [.ask (.load false none none), .reply 0 (.fetchDashboard false .gpt) (.ok s),
        .act (.queueOrder .manual ["a", "b"]), .turn 1]
    let after : List Event :=
      [.ask (.job (.manual 0) .poll), .reply 3 (.fetchDashboard false .gpt) (.error (.reported "down")),
        .turn 2, .reply 1 (.reorderProfiles ["a", "b"]) (.ok s)]
    (∀ names, .act (.reorder names) ∉ after) ∧ (∀ c names, .act (.queueOrder c names) ∉ after) ∧
      (((ofEngine Engine.blank).run (before ++ .act (.queueOrder .manual ["b", "a"]) :: after)).crew
        .manual).orders.isIdle = false ∧
      ∃ m, ((ofEngine Engine.blank).run
        (before ++ .act (.queueOrder .manual ["b", "a"]) :: after)).engine.model = some m ∧
          m.Shows ["b", "a"] := by
  intro s before after
  have hr : ∀ names, .act (.reorder names) ∉ after := by simp [after]
  have hq : ∀ c names, .act (.queueOrder c names) ∉ after := by simp [after]
  have hidle : (((ofEngine Engine.blank).run
      (before ++ .act (.queueOrder .manual ["b", "a"]) :: after)).crew .manual).orders.isIdle =
        false := by
    decide +kernel
  obtain ⟨m, hm⟩ : ∃ m, ((ofEngine Engine.blank).run
      (before ++ .act (.queueOrder .manual ["b", "a"]) :: after)).engine.model = some m :=
    Option.isSome_iff_exists.1 (by decide +kernel)
  have hkept : ∀ done ∈ after.inits, ∀ ev ∈ done.getLast?,
      ((ofEngine Engine.blank).run
        (before ++ .act (.queueOrder .manual ["b", "a"]) :: done.dropLast)).reconciles ev = false := by
    decide +kernel
  refine ⟨hr, hq, hidle, m, hm, ?_⟩
  rcases shows_while_saving hr hq hidle with h | ⟨done, ev, hpre, hrec, -⟩
  · exact h m hm
  · have hnot := hkept _ ((List.mem_inits _ _).2 hpre) ev (by simp)
    rw [List.dropLast_concat, hrec] at hnot
    cases hnot

/-- Two dashboards that differ in the name of the program are told apart. -/
theorem signature_ne_of_appName :
    ({ profiles := [{ name := "a" }, { name := "b" }] } : Snapshot).signature ≠
      ({ appName := "x", profiles := [{ name := "a" }, { name := "b" }] } : Snapshot).signature := by
  rw [Snapshot.signature_eq, Snapshot.signature_eq]
  decide +kernel

/-- **A poll may take the queued order off the screen** while it is being saved: the poll has found the
dashboard changed, in whatever respect, and the backend does not know the order yet. -/
theorem order_lost_to_poll :
    let s : Snapshot := { profiles := [{ name := "a" }, { name := "b" }] }
    let t : Snapshot := { appName := "x", profiles := [{ name := "a" }, { name := "b" }] }
    let begun : List Event :=
      [.ask (.load false none none), .reply 0 (.fetchDashboard false .gpt) (.ok s),
        .act (.queueOrder .manual ["b", "a"]), .turn 1, .ask (.job (.manual 0) .poll)]
    let reply : Event := .reply 2 (.fetchDashboard false .gpt) (.ok t)
    (∃ m, ((ofEngine Engine.blank).run begun).engine.model = some m ∧ m.Shows ["b", "a"]) ∧
      queuedOrders ((ofEngine Engine.blank).orderLog .manual (begun ++ [reply])) = [["b", "a"]] ∧
      (((ofEngine Engine.blank).run (begun ++ [reply])).crew .manual).orders.isIdle = false ∧
      ∃ m, ((ofEngine Engine.blank).run (begun ++ [reply])).engine.model = some m ∧
        m.displayNames = ["a", "b"] ∧ m.snapshot.names.Nodup ∧ ¬ m.Shows ["b", "a"] := by
  intro s t begun reply
  have hw := (numbered_ofEngine Engine.blank).run begun
  have hk : ((ofEngine Engine.blank).run begun).workOf? 2 =
      some (.poll ⟨.manual, .manual 0⟩ ⟨.gpt⟩) := by
    decide +kernel
  have ha : ((ofEngine Engine.blank).run begun).answered? reply =
      some ⟨.poll ⟨.manual, .manual 0⟩ ⟨.gpt⟩, .ok t⟩ := answered?_reply hk (.ok t)
  obtain ⟨m, hm, hms, hshows⟩ : ∃ m, ((ofEngine Engine.blank).run begun).engine.model = some m ∧
      m.snapshot = s ∧ m.Shows ["b", "a"] := by
    refine ⟨_, rfl, by decide +kernel, by decide +kernel⟩
  have hwell := wellFormed_run (numbered_ofEngine Engine.blank) (by simp [ofEngine, Engine.blank])
    begun m hm
  have hdiffers : ((ofEngine Engine.blank).run begun).engine.differs t := by
    have ht : (((ofEngine Engine.blank).run begun).engine.reconciled t true).snapshot = t := by
      decide +kernel
    have hsigned : (((ofEngine Engine.blank).run begun).engine.reconciled t true).signature =
        t.signature := (signature_reconcile t _ _).trans (congrArg Snapshot.signature ht)
    rw [Engine.differs, hm, Option.all_some, bne_iff_ne, hwell.signature, hms, hsigned]
    exact signature_ne_of_appName
  have hmodel : ((ofEngine Engine.blank).run (begun ++ [reply])).engine.model =
      some (((ofEngine Engine.blank).run begun).engine.reconciled t true) := by
    rw [run_concat, model_step_of_poll hw ha, if_pos hdiffers]
    rw [pollOutcome_ok, hdiffers]
    decide +kernel
  have hidle : (((ofEngine Engine.blank).run (begun ++ [reply])).crew .manual).orders.isIdle =
      false := by
    obtain ⟨id, errand, -, hstep⟩ := step_of_answered ha
    rw [run_concat, hstep, orders_conclude, (aside_resume (fun _ => rfl) _).orders]
    decide +kernel
  exact ⟨⟨m, hm, hshows⟩, by decide +kernel, hidle, _, hmodel, by decide +kernel, by decide +kernel,
    by decide +kernel⟩

end Session

end Switchboard
