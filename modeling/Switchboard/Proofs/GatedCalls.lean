import Switchboard.Proofs.DutyRuns
import Switchboard.Proofs.ModelWrites
import Switchboard.Proofs.Outstanding

/-!
# Calls of duties behind closed gates

A run of a duty looks at the gates once, before its first call; the hook watch looks before it
installs the hook instead. What a run of automatic switching does after its first reply is not held
up by a gate that was closed in the meantime.

* `Session.barrier?_eq_none_iff` — which runs begin behind a closed gate.
* `Session.since_opened` — a run of automatic switching that waits for a reply was begun with the
  gates open, and has been waiting since.
* `Session.run_begun_while_gated` — which calls of runs are made behind a closed gate.
* `Session.follow_up_behind_a_closed_gate` — one that should not be.
-/

set_option autoImplicit false

namespace Switchboard

/-- The run has come past its question whether the backend has switched. -/
def AutoSwitch.isFollowUp : AutoSwitch → Bool
  | ticking _ => false
  | acting _ _ | calibrating _ _ => true

/-- A run of automatic switching asks its question once. -/
theorem AutoSwitch.isFollowUp_of_waiting {a a' : AutoSwitch} {e : Engine} {cancelled : Bool}
    {r : Reply a.call} (h : (a.resume e cancelled r).2.waiting? = some a') : a'.isFollowUp := by
  cases AutoSwitch.goesOn_of_waiting h <;> rfl

/-- The call is a question of the hook watch. -/
def HookWatch.isQuestion : HookWatch → Bool
  | installing _ _ => false
  | checking | reading | rereading _ _ _ => true

theorem HookWatch.call_of_isQuestion {h : HookWatch} (hq : h.isQuestion) :
    h.call = .isHookInstalled ∨ h.call = .getExtensionInfo := by
  cases h with
  | checking => exact .inl rfl
  | reading => exact .inr rfl
  | installing => cases hq
  | rereading => exact .inr rfl

/-- The hook watch does not install the hook behind a closed gate. -/
theorem HookWatch.isQuestion_of_waiting {h h' : HookWatch} {e : Engine} {cancelled : Bool}
    {r : Reply h.call} (hg : e.isGated) (hw : (h.resume e cancelled r).2.waiting? = some h') :
    h'.isQuestion := by
  cases HookWatch.goesOn_of_waiting hw with
  | found hc => rfl
  | outdated hc hv hp hne hopen =>
    rw [hg] at hopen
    cases hopen
  | installed previous current message => rfl

namespace Session

/-- **Only the hook watch begins a run behind a closed gate.** -/
theorem barrier?_eq_none_iff {e : Engine} {j : Job} :
    barrier? e j = none ↔ j = .hookWatch ∨ e.isGated = false := by
  cases j with
  | poll => cases hb : e.busy.isBusy <;> cases hc : e.blocking.isBlocking <;>
      simp [barrier?, Poll.barrier?, Engine.isGated, hb, hc]
  | hookWatch => simp [barrier?]
  | _ => simp [barrier?]

/-- The run of automatic switching under this shift was begun by the task at the end of a history,
with the gates open. -/
def OpenedAt (e : Engine) (id : Nat) (s : Shift) (history : List Event) : Prop :=
  ∃ before begins, history = before ++ [begins] ∧ ((ofEngine e).run before).subject begins = id ∧
    ((ofEngine e).run before).begun? begins =
      some (.autoSwitch s (.begin ((ofEngine e).run before).engine)) ∧
    ((ofEngine e).run before).engine.isGated = false

/-- **A run of automatic switching that waits for a reply** has been waiting since it was begun, and
then the gates were open. -/
theorem since_opened {e : Engine} {events : List Event} {id : Nat} {s : Shift}
    (h : ∃ a, ((ofEngine e).run events).workOf? id = some (.autoSwitch s a)) :
    Since (fun history => ∃ a, ((ofEngine e).run history).workOf? id = some (.autoSwitch s a))
      (OpenedAt e id s) events := by
  refine Since.of_step (fun h₀ => ?_) (fun history ev hstep => ?_) h
  · obtain ⟨a, ha⟩ := h₀
    rw [run_nil, workOf?_ofEngine] at ha
    cases ha
  · obtain ⟨a, ha⟩ := hstep
    rw [run_concat] at ha
    rcases workOf?_step_cases ((numbered_ofEngine e).run history) ha with ha | ⟨hid, hb⟩
    · exact .inl ⟨a, ha⟩
    generalize hk : Work.autoSwitch s a = k at hb
    cases runBegun_of_begun hb (by rw [← hk]; rfl) with
    | opens s' j hbar hf =>
      cases j with
      | autoSwitch =>
        cases hk
        exact .inr ⟨history, ev, rfl, hid, hb,
          (barrier?_eq_none_iff.1 hbar).resolve_left nofun⟩
      | _ => cases hk
    | @switching s' a' a'' r hans hw =>
      cases hk
      exact .inl ⟨a', by rw [← hid]; exact workOf?_of_answered hans⟩
    | watching hans hw => cases hk

/-- **Which calls of duties are made behind a closed gate.** In every run, when an event makes a run
of a duty call the backend while the gates are closed, the call is one of the questions of the hook
watch, or it is one that a run of automatic switching makes after its first; then the task has been
on this run ever since it was begun with the gates open, so that a gate was closed in between. -/
theorem run_begun_while_gated {e : Engine} {events : List Event} {ev : Event} {k : Work}
    (hb : ((ofEngine e).run events).begun? ev = some k) (hk : k.shift?.isSome)
    (hg : ((ofEngine e).run events).engine.isGated) :
    (∃ s h, k = .hookWatch s h ∧ (k.call = .isHookInstalled ∨ k.call = .getExtensionInfo)) ∨
      ∃ s a, k = .autoSwitch s a ∧ a.isFollowUp ∧
        Since
          (fun history => ∃ a', ((ofEngine e).run history).workOf?
            (((ofEngine e).run events).subject ev) = some (.autoSwitch s a'))
          (OpenedAt e (((ofEngine e).run events).subject ev) s) events := by
  cases runBegun_of_begun hb hk with
  | opens s j hbar hf =>
    rcases barrier?_eq_none_iff.1 hbar with rfl | hopen
    · exact .inl ⟨s, .checking, rfl, .inl rfl⟩
    · rw [hg] at hopen
      cases hopen
  | @switching s a a' r ha hw =>
    exact .inr ⟨s, a', rfl, AutoSwitch.isFollowUp_of_waiting hw,
      since_opened ⟨a, workOf?_of_answered ha⟩⟩
  | @watching s h h' r ha hw =>
    exact .inl ⟨s, h', rfl,
      HookWatch.call_of_isQuestion (HookWatch.isQuestion_of_waiting hg hw)⟩

/-- **A follow-up behind a closed gate.** In OpenCode mode, automatic switching asks its question
with the gates open; a user has all quotas refreshed, which keeps the gate busy; and the reply that
the backend has switched makes the run apply the profile all the same. -/
theorem follow_up_behind_a_closed_gate :
    let events : List Event :=
      [.act (.putSettings { mode := .openCode }), .ask (.setAutoSwitch true), .turn 1,
        .pass 30000, .wake 1, .ask (.refreshAll false)]
    let switched : Event := .reply 1 (.autoSwitchTick .openCode)
      (.ok { action := "switched", switchedTo := some "b" })
    ((ofEngine Engine.blank).run events).engine.isGated ∧
      ((ofEngine Engine.blank).run events).workOf? 3 =
        some (.refresh (.all .openCode false)) ∧
      ∃ k, ((ofEngine Engine.blank).run events).begun? switched = some k ∧
        k.call = .applyProfile "b" .openCode ∧
        ∃ s a, k = .autoSwitch s a ∧ a.isFollowUp ∧
          Since
            (fun history => ∃ a', ((ofEngine Engine.blank).run history).workOf? 1 =
              some (.autoSwitch s a'))
            (OpenedAt Engine.blank 1 s) events := by
  intro events switched
  have hg : ((ofEngine Engine.blank).run events).engine.isGated := by decide +kernel
  let s : Switched := ⟨.openCode, none, some "b", "已切换账号。"⟩
  have hb : ((ofEngine Engine.blank).run events).begun? switched =
      some (.autoSwitch ⟨.standing, .autoSwitch 0⟩ (.calibrating s "b")) := by decide +kernel
  refine ⟨hg, by decide +kernel, _, hb, rfl, ?_⟩
  have h := run_begun_while_gated hb rfl hg
  exact h.resolve_left nofun

end Session

end Switchboard
