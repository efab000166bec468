import Mathlib.Data.List.Induction
import Switchboard.Proofs.StepWrites

/-!
# The profile in use

`Model.current` is found when a snapshot is reconciled, by the mode and the remembered profile of
that moment, and kept until the next reconcile. Neither a change of the mode nor a profile that is
remembered later makes it anew.

* `Session.current_resolves_at_last_reconcile` — in every state of every run, the profile in use is
  that of the settings at the last reconcile; so it is that of the present settings if these still
  have the same mode and the same profile remembered in it.
* `Session.current_left_behind` — it is not always that of the present settings, even when nothing
  is under way: a mode may be changed whose dashboard cannot be loaded, and a profile is remembered
  only after the snapshot of its switch was reconciled.
-/

set_option autoImplicit false

namespace Switchboard

/-- The profile in use is the one that the snapshot resolves to in this mode, with this profile
remembered. -/
def Model.ResolvesIn (model : Model) (m : Mode) (remembered : Option String) : Prop :=
  model.current =
    resolveProfile model.snapshot.profiles (model.snapshot.identity m) remembered
      model.snapshot.activeProfile

theorem Model.resolvesIn_reconcile (s : Snapshot) (before : Option Model) (v : Viewpoint) :
    (reconcile s before v).ResolvesIn v.mode v.remembered := rfl

namespace ModelWrite

/-- One of the writes is a reconcile that makes a new model. -/
def someReplaces (m : Mode) (remembered : Option String) : Option Model → List ModelWrite → Bool
  | _, [] => false
  | before, x :: xs =>
    x.replaces before m remembered || someReplaces m remembered (x.result m remembered before) xs

variable {m : Mode} {remembered : Option String} {before : Option Model} {x : ModelWrite}
  {after : Model}

theorem resolvesIn_of_replaces (hx : x.replaces before m remembered)
    (h : x.result m remembered before = some after) : after.ResolvesIn m remembered := by
  cases x with
  | apply s preserve =>
    cases h
    exact Model.resolvesIn_reconcile s before _
  | applyIfChanged s =>
    simp only [result, hx, if_true] at h
    cases h
    exact Model.resolvesIn_reconcile s before _
  | reorder | select => cases hx

/-- A write that is no reconcile keeps the snapshot and the profile in use. -/
theorem exists_before_of_not_replaces (hx : x.replaces before m remembered = false)
    (h : x.result m remembered before = some after) :
    ∃ b, before = some b ∧ after.snapshot = b.snapshot ∧ after.current = b.current := by
  cases x with
  | apply s preserve => cases hx
  | applyIfChanged s =>
    simp only [result, hx] at h
    exact ⟨after, h, rfl, rfl⟩
  | reorder names =>
    obtain ⟨b, hb, rfl⟩ := Option.map_eq_some_iff.1 h
    exact ⟨b, hb, rfl, rfl⟩
  | select name =>
    obtain ⟨b, hb, hs | rfl⟩ := exists_of_result_select h
    · obtain ⟨-, rfl⟩ := Model.of_select? hs
      exact ⟨b, hb, rfl, rfl⟩
    · exact ⟨after, hb, rfl, rfl⟩

variable {xs : List ModelWrite}

theorem exists_before_of_not_someReplaces (hx : someReplaces m remembered before xs = false)
    (h : results m remembered before xs = some after) :
    ∃ b, before = some b ∧ after.snapshot = b.snapshot ∧ after.current = b.current := by
  induction xs generalizing before with
  | nil => exact ⟨after, h, rfl, rfl⟩
  | cons x xs ih =>
    simp only [someReplaces, Bool.or_eq_false_iff] at hx
    obtain ⟨c, hc, hcs, hcc⟩ := ih hx.2 h
    obtain ⟨b, hb, hbs, hbc⟩ := exists_before_of_not_replaces hx.1 hc
    exact ⟨b, hb, hcs.trans hbs, hcc.trans hbc⟩

theorem resolvesIn_of_someReplaces (hx : someReplaces m remembered before xs)
    (h : results m remembered before xs = some after) : after.ResolvesIn m remembered := by
  induction xs generalizing before with
  | nil => cases hx
  | cons x xs ih =>
    cases hl : someReplaces m remembered (x.result m remembered before) xs with
    | true => exact ih hl h
    | false =>
      -- The first write is the last reconcile, which the others do not undo.
      simp only [someReplaces, hl, Bool.or_false] at hx
      obtain ⟨b, hb, hbs, hbc⟩ := exists_before_of_not_someReplaces hl h
      have hr := resolvesIn_of_replaces hx hb
      unfold Model.ResolvesIn
      rw [hbs, hbc]
      exact hr

end ModelWrite

namespace Session

/-- The event makes a new model of a snapshot. -/
def reconciles (w : Session) (ev : Event) : Bool :=
  ModelWrite.someReplaces w.engine.mode w.engine.settings.rememberedNow w.engine.model
    (w.writes ev)

theorem resolvesIn_of_reconciles {w : Session} (hw : w.Numbered) {ev : Event}
    (h : w.reconciles ev) {m : Model} (hm : (w.step ev).engine.model = some m) :
    m.ResolvesIn w.engine.mode (w.engine.remembered w.engine.mode) := by
  rw [model_step hw] at hm
  exact ModelWrite.resolvesIn_of_someReplaces h hm

/-- **The profile in use is that of the last reconcile.** From a session without a model, after any
events, and whatever is still under way: there is a last event that reconciled a snapshot into the
model, and the profile in use is the one that the snapshot resolves to in the mode, and with the
profile remembered in it, that the settings had then. So it is the one of the present settings if
these still have the same mode and the same profile remembered. -/
theorem current_resolves_at_last_reconcile {e : Engine} (he : e.model = none)
    (events : List Event) {m : Model} (hm : ((ofEngine e).run events).engine.model = some m) :
    ∃ before ev after, events = before ++ ev :: after ∧
      ((ofEngine e).run before).reconciles ev ∧
      (∀ ahead ev' rest, after = ahead ++ ev' :: rest →
        ((ofEngine e).run (before ++ ev :: ahead)).reconciles ev' = false) ∧
      m.current =
        resolveProfile m.snapshot.profiles
          (m.snapshot.identity ((ofEngine e).run before).engine.mode)
          (((ofEngine e).run before).engine.remembered ((ofEngine e).run before).engine.mode)
          m.snapshot.activeProfile ∧
      (((ofEngine e).run before).engine.mode = ((ofEngine e).run events).engine.mode →
        ((ofEngine e).run before).engine.remembered ((ofEngine e).run before).engine.mode =
          ((ofEngine e).run events).engine.remembered ((ofEngine e).run events).engine.mode →
        m.current =
          resolveProfile m.snapshot.profiles
            (m.snapshot.identity ((ofEngine e).run events).engine.mode)
            (((ofEngine e).run events).engine.remembered ((ofEngine e).run events).engine.mode)
            m.snapshot.activeProfile) := by
  suffices h : ∃ before ev after, events = before ++ ev :: after ∧
      ((ofEngine e).run before).reconciles ev ∧
      (∀ ahead ev' rest, after = ahead ++ ev' :: rest →
        ((ofEngine e).run (before ++ ev :: ahead)).reconciles ev' = false) ∧
      m.ResolvesIn ((ofEngine e).run before).engine.mode
        (((ofEngine e).run before).engine.remembered ((ofEngine e).run before).engine.mode) by
    obtain ⟨before, ev, after, hs, hr, hl, hm'⟩ := h
    refine ⟨before, ev, after, hs, hr, hl, hm', fun h₁ h₂ => ?_⟩
    rw [← h₂, ← h₁]
    exact hm'
  induction events using List.reverseRecOn generalizing m with
  | nil => simp [ofEngine, he] at hm
  | append_singleton events ev ih =>
    have hw := (numbered_ofEngine e).run events
    rw [run_append, run_cons, run_nil] at hm
    cases hr : ((ofEngine e).run events).reconciles ev with
    | true => exact ⟨events, ev, [], rfl, hr, by simp, resolvesIn_of_reconciles hw hr hm⟩
    | false =>
      rw [model_step hw] at hm
      obtain ⟨b, hb, hs, hc⟩ := ModelWrite.exists_before_of_not_someReplaces hr hm
      obtain ⟨before, ev₀, after, rfl, hr₀, hl, hm₀⟩ := ih hb
      refine ⟨before, ev₀, after ++ [ev], by simp, hr₀, ?_, ?_⟩
      · intro ahead ev' rest h
        rcases List.eq_nil_or_concat rest with rfl | ⟨rest', x, rfl⟩
        · obtain ⟨rfl, hx⟩ := List.append_inj' h rfl
          obtain rfl := List.singleton_inj.1 hx
          exact hr
        · refine hl ahead ev' rest' ?_
          rw [List.concat_eq_append, ← List.cons_append, ← List.append_assoc] at h
          exact (List.append_inj' h rfl).1
      · unfold Model.ResolvesIn
        rw [hs, hc]
        exact hm₀

/-- The profile was applied but its quota could not be calibrated: "b" is remembered by then, and
the profile in use is the one that was active when the dashboard was reconciled before that. -/
theorem current_of_uncalibrated_switch :
    let s : Snapshot :=
      { activeProfile := some "a", profiles := [{ name := "a" }, { name := "b" }] }
    let events : List Event :=
      [.ask (.load false none none), .reply 0 (.fetchDashboard false .gpt) (.ok s),
        .ask (.switch (some "b")), .reply 1 (.applyProfile "b" .gpt) (.ok s),
        .reply 1 (.refreshQuota "b" .gpt false) (.error (.reported "down"))]
    let w := (ofEngine Engine.blank).run events
    Engine.blank.model = none ∧ w.tasks = [] ∧ w.engine.remembered .gpt = some "b" ∧
      ∃ m, w.engine.model = some m ∧ m.current = some "a" ∧
        ∃ before ev after, events = before ++ ev :: after ∧
          ((ofEngine Engine.blank).run before).reconciles ev ∧
          m.current =
            resolveProfile m.snapshot.profiles
              (m.snapshot.identity ((ofEngine Engine.blank).run before).engine.mode)
              (((ofEngine Engine.blank).run before).engine.remembered
                ((ofEngine Engine.blank).run before).engine.mode)
              m.snapshot.activeProfile := by
  intro s events w
  obtain ⟨m, hm⟩ : ∃ m, w.engine.model = some m := ⟨_, rfl⟩
  have hc : w.engine.model.map (·.current) = some (some "a") := by decide +kernel
  rw [hm] at hc
  obtain ⟨before, ev, after, hs, hr, -, hr', -⟩ :=
    current_resolves_at_last_reconcile (e := Engine.blank) rfl events hm
  exact ⟨rfl, rfl, by decide +kernel, m, hm, Option.some.inj hc, before, ev, after, hs, hr, hr'⟩

/-- **The profile in use may be left behind by the settings**, even when nothing is under way. The
mode was changed, its dashboard could not be loaded, and the model is still that of the other
mode. -/
theorem current_left_behind :
    ¬ ∀ (store : Store) (config : Config) (now : Int64) (e : Engine) (events : List Event)
        (m : Model),
      Engine.start store config now = .ok e →
      ((ofEngine e).run events).tasks = [] →
      ((ofEngine e).run events).engine.model = some m →
      m.current =
        resolveProfile m.snapshot.profiles
          (m.snapshot.identity ((ofEngine e).run events).engine.mode)
          (((ofEngine e).run events).engine.remembered ((ofEngine e).run events).engine.mode)
          m.snapshot.activeProfile := by
  intro h
  let s : Snapshot :=
    { activeProfile := some "a"
      identities := { gpt := some { workspaceId := some "w" }, openCode := none }
      profiles := [{ name := "a" }, { name := "b", workspaceId := some "w" }] }
  let events : List Event :=
    [.ask (.load false none none), .reply 0 (.fetchDashboard false .gpt) (.ok s),
      .ask (.setMode .openCode),
      .reply 1 (.fetchDashboard false .openCode) (.error (.reported "down"))]
  obtain ⟨e, he, ht, hc⟩ : ∃ e, Engine.start {} {} 0 = .ok e ∧
      ((ofEngine e).run events).tasks = [] ∧
      (((ofEngine e).run events).engine.model.map fun m =>
        (m.current,
          resolveProfile m.snapshot.profiles
            (m.snapshot.identity ((ofEngine e).run events).engine.mode)
            (((ofEngine e).run events).engine.remembered ((ofEngine e).run events).engine.mode)
            m.snapshot.activeProfile)) = some (some "b", some "a") :=
    ⟨_, rfl, rfl, by decide +kernel⟩
  obtain ⟨m, hm, hc⟩ := Option.map_eq_some_iff.1 hc
  obtain ⟨hb, ha⟩ := Prod.mk.inj hc
  have hab := h {} {} 0 e events m he ht hm
  rw [hb, ha] at hab
  exact absurd hab (by decide)

end Session

end Switchboard
