import Mathlib.Data.List.Infix
import Switchboard.Proofs.CurrentProfile
import Switchboard.Proofs.Outstanding
import Switchboard.Proofs.Signature

/-!
# Polls that are answered late

The gates are looked at before a poll fetches, and not after. So a snapshot may be reconciled into
the model while a fetch is under way, and the dashboard that is fetched, though asked for earlier,
comes later. What is left of it is decided by the scope, the mode and the signature alone.

* `Session.isSome_model_run` — a model never goes away again.
* `Session.model_after_late_poll` — what the reply to a poll makes of a model that is younger than
  the poll.
* `Session.late_poll_replaces_model` — the reply may put the older dashboard in the place of the
  younger one.
-/

set_option autoImplicit false

namespace Switchboard

namespace ModelWrite

variable {m : Mode} {remembered : Option String} {before : Option Model} {x : ModelWrite}
  {xs : List ModelWrite}

theorem isSome_result (h : before.isSome) : (x.result m remembered before).isSome := by
  obtain ⟨b, rfl⟩ := Option.isSome_iff_exists.1 h
  cases x with
  | apply s preserve => rfl
  | applyIfChanged s =>
    simp only [result]
    split <;> rfl
  | reorder names => rfl
  | select name => simp [result]

theorem isSome_results (h : before.isSome) : (results m remembered before xs).isSome := by
  induction xs generalizing before with
  | nil => exact h
  | cons x xs ih => exact ih (isSome_result h)

theorem isSome_of_replaces (h : x.replaces before m remembered) :
    (x.result m remembered before).isSome := by
  cases x with
  | apply s preserve => rfl
  | applyIfChanged s =>
    simp only [result, h, if_true]
    rfl
  | reorder | select => cases h

theorem isSome_of_someReplaces (h : someReplaces m remembered before xs) :
    (results m remembered before xs).isSome := by
  induction xs generalizing before with
  | nil => cases h
  | cons x xs ih =>
    simp only [someReplaces, Bool.or_eq_true] at h
    rcases h with h | h
    · have hrest : (results m remembered (x.result m remembered before) xs).isSome :=
        isSome_results (isSome_of_replaces h)
      exact hrest
    · exact ih h

end ModelWrite

open ModelWrite

namespace Session

/-! ## A model stays -/

theorem isSome_model_of_reconciles {w : Session} (hw : w.Numbered) {ev : Event}
    (h : w.reconciles ev) : (w.step ev).engine.model.isSome := by
  rw [model_step hw]
  exact isSome_of_someReplaces h

theorem isSome_model_step {w : Session} (hw : w.Numbered) (h : w.engine.model.isSome)
    (ev : Event) : (w.step ev).engine.model.isSome := by
  rw [model_step hw]
  exact isSome_results h

/-- **A model never goes away again.** -/
theorem isSome_model_run {w : Session} (hw : w.Numbered) (h : w.engine.model.isSome)
    (events : List Event) : (w.run events).engine.model.isSome :=
  hw.run_induction (P := fun w => w.engine.model.isSome)
    (fun _ ev hw h => isSome_model_step hw h ev) h events

/-! ## The reply to a poll -/

/-- What the reply to a poll leaves of a model: the model itself if the reply is a failure, the poll
was called off, the mode is not that of the fetch, or the dashboard, completed from the model, has
the signature of it; otherwise the dashboard so completed. -/
def afterPoll (w : Session) (s : Shift) (p : Poll) (m : Model) : Except Failure Snapshot → Model
  | .error _ => m
  | .ok incoming =>
    let late := reconcile incoming (some m) ⟨w.engine.mode, w.engine.settings.rememberedNow, true⟩
    if w.isCancelled s.scope ∨ w.engine.mode ≠ p.mode ∨ late.signature = m.signature then m
    else late

theorem afterPoll_of_mode_ne {w : Session} {p : Poll} (h : w.engine.mode ≠ p.mode) (s : Shift)
    (m : Model) (reply : Except Failure Snapshot) : w.afterPoll s p m reply = m := by
  cases reply with
  | error f => rfl
  | ok incoming => exact if_pos (.inr (.inl h))

theorem modelAfter_writes_poll {w : Session} {m : Model} (hm : w.engine.model = some m) (s : Shift)
    (p : Poll) (reply : Except Failure Snapshot) :
    w.engine.modelAfter (p.writes w.engine (w.isCancelled s.scope) reply) =
      some (w.afterPoll s p m reply) := by
  cases reply with
  | error f => exact hm
  | ok incoming =>
    simp only [Poll.writes, afterPoll]
    by_cases hdrop : w.isCancelled s.scope ∨ w.engine.mode ≠ p.mode
    · rw [if_pos (by simpa using hdrop), if_pos (by rw [← or_assoc]; exact .inl hdrop)]
      exact hm
    · rw [if_neg (by simpa using hdrop)]
      simp only [Engine.modelAfter, results, List.foldl_cons, List.foldl_nil, result, replaces, hm,
        Option.all_some, bne_iff_ne, ne_eq]
      by_cases hsig : (reconcile incoming (some m)
          ⟨w.engine.mode, w.engine.settings.rememberedNow, true⟩).signature = m.signature
      · rw [if_neg fun hne => hne hsig.symm, if_pos (.inr (.inr hsig))]
      · rw [if_pos fun he => hsig he.symm, if_neg fun h => ?_]
        rw [← or_assoc] at h
        exact h.elim hdrop hsig

theorem model_step_of_poll_reply {w : Session} (hw : w.Numbered) {ev : Event} {s : Shift} {p : Poll}
    {reply : Reply p.call} (ha : w.answered? ev = some ⟨.poll s p, reply⟩) {m : Model}
    (hm : w.engine.model = some m) :
    (w.step ev).engine.model = some (w.afterPoll s p m reply) := by
  rw [model_step hw, writes_of_answered ha]
  exact modelAfter_writes_poll hm s p reply

/-- **What a late poll does to a younger model.** In every run, the fetch that a poll is answered
with was begun by an event since which it has been under way. If another event has reconciled a
snapshot into the model in the meantime, then there is a model, and the reply leaves it as it is if
it is a failure, if the poll was called off, if the mode is not that of the fetch, or if the
dashboard, completed from that younger model, has the signature of it. Otherwise the last write wins:
the model is made of the older dashboard, in the present mode and completed from the younger
model. -/
theorem model_after_late_poll {e : Engine} {events : List Event} {ev : Event} {s : Shift} {p : Poll}
    {reply : Reply p.call}
    (ha : ((ofEngine e).run events).answered? ev = some ⟨.poll s p, reply⟩) :
    ∃ before begins during, events = before ++ begins :: during ∧
      ((ofEngine e).run before).begun? begins = some (.poll s p) ∧
      (∀ done, done <+: during →
        ((ofEngine e).run (before ++ begins :: done)).workOf?
          (((ofEngine e).run events).subject ev) = some (.poll s p)) ∧
      ∀ done applies rest, during = done ++ applies :: rest →
        ((ofEngine e).run (before ++ begins :: done)).reconciles applies →
        ∃ m, ((ofEngine e).run events).engine.model = some m ∧
          (((ofEngine e).run events).step ev).engine.model =
            some (((ofEngine e).run events).afterPoll s p m reply) := by
  have hn := numbered_ofEngine e
  obtain ⟨before, begins, during, hs, -, hb, hd⟩ := exists_begun (workOf?_of_answered ha)
  refine ⟨before, begins, during, hs, hb, hd, fun done applies rest hduring hr => ?_⟩
  have hw := hn.run (before ++ begins :: done)
  have hsome : ((ofEngine e).run events).engine.model.isSome := by
    have h := isSome_model_run (hw.step applies) (isSome_model_of_reconciles hw hr) rest
    rw [← run_cons, ← run_append, List.append_assoc, List.cons_append, ← hduring, ← hs] at h
    exact h
  obtain ⟨m, hm⟩ := Option.isSome_iff_exists.1 hsome
  exact ⟨m, hm, model_step_of_poll_reply (hn.run events) ha hm⟩

/-- The mode has changed while a poll was fetching, and the dashboard of the new mode is there. The
reply to the poll leaves it. -/
theorem late_poll_of_former_mode :
    let old : Snapshot := { profiles := [{ name := "a" }] }
    let new : Snapshot := { profiles := [{ name := "b" }] }
    let before : List Event :=
      [.ask (.load false none none), .reply 0 (.fetchDashboard false .gpt) (.ok old)]
    let begins : Event := .ask (.job (.manual 0) .poll)
    let during : List Event :=
      [.ask (.setMode .openCode), .reply 2 (.fetchDashboard false .openCode) (.ok new)]
    let reply : Event := .reply 1 (.fetchDashboard false .gpt) (.ok old)
    ((ofEngine Engine.blank).run (before ++ begins :: during)).answered? reply =
        some ⟨.poll ⟨.manual, .manual 0⟩ ⟨.gpt⟩, .ok old⟩ ∧
      ∃ m, ((ofEngine Engine.blank).run (before ++ begins :: during)).engine.model = some m ∧
        m.displayNames = ["b"] ∧
        (((ofEngine Engine.blank).run (before ++ begins :: during)).step reply).engine.model =
          some m := by
  intro old new before begins during reply
  have hk : ((ofEngine Engine.blank).run (before ++ begins :: during)).workOf? 1 =
      some (.poll ⟨.manual, .manual 0⟩ ⟨.gpt⟩) := by
    decide +kernel
  have ha : ((ofEngine Engine.blank).run (before ++ begins :: during)).answered? reply =
      some ⟨.poll ⟨.manual, .manual 0⟩ ⟨.gpt⟩, .ok old⟩ := answered?_reply hk (.ok old)
  refine ⟨ha, ?_⟩
  obtain ⟨before', begins', during', hs, hb, -, happly⟩ := model_after_late_poll ha
  have hduring : before' ++ [begins'] = before ++ [begins] ∧ during' = during := by
    -- Only the third of the five events begins a poll.
    rcases before' with _ | ⟨x₀, _ | ⟨x₁, _ | ⟨x₂, _ | ⟨x₃, _ | ⟨x₄, rest⟩⟩⟩⟩⟩ <;>
      simp only [before, List.cons_append, List.nil_append, List.cons.injEq, during] at hs
    case cons.cons.nil =>
      obtain ⟨rfl, rfl, rfl, rfl⟩ := hs
      exact ⟨rfl, rfl⟩
    case nil =>
      obtain ⟨rfl, rfl⟩ := hs
      exact absurd hb (by decide +kernel)
    case cons.nil =>
      obtain ⟨rfl, rfl, rfl⟩ := hs
      exact absurd hb (by decide +kernel)
    case cons.cons.cons.nil =>
      obtain ⟨rfl, rfl, rfl, rfl, rfl⟩ := hs
      exact absurd hb (by decide +kernel)
    case cons.cons.cons.cons.nil =>
      obtain ⟨rfl, rfl, rfl, rfl, rfl, rfl⟩ := hs
      exact absurd hb (by decide +kernel)
    case cons.cons.cons.cons.cons => simp at hs
  obtain ⟨hbegins, rfl⟩ := hduring
  obtain ⟨m, hm, hafter⟩ := happly [.ask (.setMode .openCode)] _ [] rfl (by
    rw [List.append_cons, hbegins]
    decide +kernel)
  refine ⟨m, hm, ?_, ?_⟩
  · have hnames : ((ofEngine Engine.blank).run (before ++ begins :: during)).engine.model.map
        (·.displayNames) = some ["b"] := by
      decide +kernel
    rw [hm] at hnames
    exact Option.some.inj hnames
  · have hmode : ((ofEngine Engine.blank).run (before ++ begins :: during)).engine.mode ≠
        (⟨.gpt⟩ : Poll).mode := by
      decide +kernel
    exact hafter.trans (congrArg some (afterPoll_of_mode_ne hmode _ m _))

/-- The two dashboards of the run below are told apart. -/
theorem signatures_differ :
    ({ appName := "older" } : Snapshot).signature ≠ ({ appName := "newer" } : Snapshot).signature := by
  rw [Snapshot.signature_eq, Snapshot.signature_eq]
  decide +kernel

/-- **An older dashboard may take the place of a younger one.** A tick of automatic switching has
applied a dashboard while a poll was fetching, and the poll's dashboard, which was asked for before,
replaces it. -/
theorem late_poll_replaces_model :
    ¬ ∀ (store : Store) (config : Config) (now : Int64) (e : Engine) (before : List Event)
        (begins : Event) (during : List Event) (ev : Event) (s : Shift) (p : Poll)
        (incoming : Snapshot),
      Engine.start store config now = .ok e →
      ((ofEngine e).run before).begun? begins = some (.poll s p) →
      (∀ done, done <+: during →
        ((ofEngine e).run (before ++ begins :: done)).workOf?
          (((ofEngine e).run before).subject begins) = some (.poll s p)) →
      (∃ done applies rest, during = done ++ applies :: rest ∧
        ((ofEngine e).run (before ++ begins :: done)).reconciles applies) →
      ((ofEngine e).run (before ++ begins :: during)).answered? ev =
        some ⟨.poll s p, .ok incoming⟩ →
      (((ofEngine e).run (before ++ begins :: during)).step ev).engine.model =
        ((ofEngine e).run (before ++ begins :: during)).engine.model := by
  intro h
  let older : Snapshot := { appName := "older" }
  let newer : Snapshot := { appName := "newer" }
  let before : List Event :=
    [.ask (.load false none none), .reply 0 (.fetchDashboard false .gpt) (.ok {})]
  let begins : Event := .ask (.job (.manual 0) .poll)
  let asks : Event := .ask (.job (.manual 0) .autoSwitch)
  let applies : Event :=
    .reply 2 (.autoSwitchTick .gpt) (.ok { action := "idle", dashboard := some newer })
  obtain ⟨e, he, hnone, hb, hd, hr, hk, hkept, hsnapshot⟩ : ∃ e, Engine.start {} {} 0 = .ok e ∧
      e.model = none ∧
      ((ofEngine e).run before).begun? begins = some (.poll ⟨.manual, .manual 0⟩ ⟨.gpt⟩) ∧
      (∀ done ∈ [asks, applies].inits,
        ((ofEngine e).run (before ++ begins :: done)).workOf?
          (((ofEngine e).run before).subject begins) =
            some (.poll ⟨.manual, .manual 0⟩ ⟨.gpt⟩)) ∧
      ((ofEngine e).run (before ++ begins :: [asks])).reconciles applies ∧
      ((ofEngine e).run (before ++ begins :: [asks, applies])).workOf? 1 =
        some (.poll ⟨.manual, .manual 0⟩ ⟨.gpt⟩) ∧
      (((ofEngine e).run (before ++ begins :: [asks, applies])).isCancelled (.manual 0) = false ∧
        ((ofEngine e).run (before ++ begins :: [asks, applies])).engine.mode = .gpt) ∧
      ((ofEngine e).run (before ++ begins :: [asks, applies])).engine.model.map (·.snapshot) =
        some newer :=
    ⟨_, rfl, rfl, by decide +kernel, by decide +kernel, by decide +kernel, by decide +kernel,
      by decide +kernel, by decide +kernel⟩
  have ha := answered?_reply hk (.ok older)
  obtain ⟨m, hm, hms⟩ := Option.map_eq_some_iff.1 hsnapshot
  have hafter := model_step_of_poll_reply ((numbered_ofEngine e).run _) ha hm
  have hunchanged := h {} {} 0 e before begins [asks, applies] _ _ _ older he hb
    (fun done hdone => hd done ((List.mem_inits _ _).2 hdone)) ⟨[asks], applies, [], rfl, hr⟩ ha
  have hsame : ((ofEngine e).run (before ++ begins :: [asks, applies])).afterPoll
      ⟨.manual, .manual 0⟩ ⟨.gpt⟩ m (.ok older) = m :=
    Option.some.inj (hafter.symm.trans (hunchanged.trans hm))
  have hsigned : m.signature = newer.signature := by
    rw [(wellFormed_run (numbered_ofEngine e) (by simp [ofEngine, hnone]) _ m hm).signature, hms]
  -- Neither dashboard has a profile or an identity, so that nothing of the younger one is kept.
  have hlate (remembered : Option String) :
      (reconcile older (some m) ⟨.gpt, remembered, true⟩).snapshot = older := rfl
  simp only [afterPoll, hkept] at hsame
  rw [if_neg] at hsame
  · have hsame' := (hlate _).symm.trans (congrArg Model.snapshot hsame)
    rw [hms] at hsame'
    exact absurd hsame' (by decide)
  · rintro (hc | hmode | hsig)
    · cases hc
    · exact hmode rfl
    · rw [hsigned, signature_reconcile, hlate] at hsig
      exact signatures_differ hsig

end Session

end Switchboard
