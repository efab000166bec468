import Switchboard.Proofs.CurrentProfile
import Switchboard.Proofs.Footing
import Switchboard.Proofs.Outstanding

/-!
# The mode that a reply finds

A call is made in the mode of its time, and its dashboard is reconciled in the mode that the reply
finds. Only a poll compares the two. For all other calls they are the same as long as nobody changes
the mode while the call is under way.

* `Session.since_called_in` — a task that waits for a call in a mode has done so, be it with several
  calls one after another, since that mode was the current one.
* `Session.mode_of_reply` — so whatever a call has brought comes into the mode it was made in, if it
  is a poll's or if the mode has not been changed since.
* `Session.load_of_former_mode` — the dashboard of a mode that has passed is reconciled, and its
  identity error is shown.
-/

set_option autoImplicit false

namespace Switchboard

/-- The identity error that the reply to a load puts on the status line, with the mode in which it
was met. -/
def Load.identityError? (l : Load) (e : Engine) :
    Except Failure Snapshot → Option (Option Mode × String)
  | .ok s =>
    let s := (e.reconciled s false).snapshot
    (IdentityError.shown s l.mode).map (s.currentErrorMode, ·)
  | .error _ => none

theorem IdentityError.mode_eq_of_shown {s : Snapshot} {m n : Mode} {detail : String}
    (h : shown s m = some detail) (hn : s.currentErrorMode = some n) : n = m := by
  by_contra hne
  rw [shown_of_other_mode hn hne] at h
  cases h

theorem Load.mode_of_identityError {l : Load} {e : Engine} {reply : Except Failure Snapshot}
    {tag : Mode} {detail : String} (h : l.identityError? e reply = some (some tag, detail)) :
    tag = l.mode := by
  cases reply with
  | error f => cases h
  | ok s =>
    obtain ⟨text, hshown, heq⟩ := Option.map_eq_some_iff.1 h
    exact IdentityError.mode_eq_of_shown hshown (Prod.mk.inj heq).1

namespace Session

/-- The identity error that a reply puts on the status line, with the mode in which it was met. -/
def identityError? (w : Session) : (k : Work) → Reply k.call → Option (Option Mode × String)
  | .load l, reply => l.identityError? w.engine reply
  | .startup (.loading _ l), reply => l.identityError? w.engine reply
  | .flush _ (.rereading l), reply => l.identityError? w.engine reply
  | _, _ => none

/-- Only an identity error of the mode of the call is shown. -/
theorem mode_of_identityError {w : Session} {k : Work} {r : Reply k.call} {tag : Mode}
    {detail : String} (h : w.identityError? k r = some (some tag, detail)) :
    k.call.mode? = some tag := by
  cases k with
  | load l => exact congrArg some (l.mode_of_identityError h).symm
  | startup s =>
    cases s with
    | loading settings l => exact congrArg some (l.mode_of_identityError h).symm
    | refreshing | resetting => cases h
  | flush crew f =>
    cases f with
    | rereading l => exact congrArg some (l.mode_of_identityError h).symm
    | saving names => cases h
  | _ => cases h

/-! ## Since when a call has been in its mode -/

/-- The task waits for a call that was made in this mode. -/
def CalledIn (w : Session) (id : Nat) (m : Mode) : Prop :=
  ∃ k, w.workOf? id = some k ∧ k.call.mode? = some m

theorem calledIn_iff {w : Session} {id : Nat} {m : Mode} :
    w.CalledIn id m ↔ (w.stakeOf id).mode? = some m := by
  unfold CalledIn stakeOf
  cases w.workOf? id with
  | none => simp
  | some k => simp [Work.mode?_stake]

/-- A task that waits for a call in a mode has done so before, or the mode is the current one. -/
theorem calledIn_step {w : Session} (hw : w.Numbered) {ev : Event} {id : Nat} {m : Mode}
    (h : (w.step ev).CalledIn id m) : w.CalledIn id m ∨ (w.step ev).engine.mode = m := by
  obtain ⟨k, hk, hm⟩ := h
  rcases workOf?_step_cases hw hk with hk' | ⟨rfl, hb⟩
  · exact .inl ⟨k, hk', hm⟩
  obtain ⟨r, hadv, -⟩ := Option.bind_eq_some_iff.1 hb
  have hover := handover_step hw hadv
  have hasked := hover.asked m (calledIn_iff.1 ⟨k, hk, hm⟩)
  rcases hasked with hnow | hbefore
  · right
    rw [hnow]
    exact hover.mode
  · exact .inl (calledIn_iff.2 hbefore)

/-- **A task that waits for a call in a mode has done so since that mode was the current one**, be
it with this call or with calls before it. -/
theorem since_called_in {e : Engine} {events : List Event} {id : Nat} {m : Mode}
    (h : ((ofEngine e).run events).CalledIn id m) :
    Since (fun history => ((ofEngine e).run history).CalledIn id m)
      (fun history => ((ofEngine e).run history).engine.mode = m) events := by
  refine Since.of_step (fun h₀ => ?_) (fun history ev hstep => ?_) h
  · obtain ⟨k, hk, -⟩ := h₀
    cases hk
  · rw [run_concat] at hstep ⊢
    exact calledIn_step ((numbered_ofEngine e).run history) hstep

/-- The mode stays as long as no event brings another one. -/
theorem mode_run {w : Session} (hw : w.Numbered) {m : Mode} (h : w.engine.mode = m)
    {events : List Event} (hev : ∀ ev ∈ events, ∀ m', ev.newMode? = some m' → m' = m) :
    (w.run events).engine.mode = m := by
  induction events generalizing w with
  | nil => exact h
  | cons ev events ih =>
    refine ih (hw.step ev) ?_ fun ev' hmem => hev ev' (List.mem_cons_of_mem ev hmem)
    rw [mode_step hw]
    cases hm : ev.newMode? with
    | none => exact h
    | some m' => exact hev ev List.mem_cons_self m' hm

/-! ## The mode of a reply -/

/-- What a poll brings is reconciled in the mode of the poll only. -/
theorem mode_of_poll {w : Session} {ev : Event} {s : Shift} {p : Poll} {reply : Reply p.call}
    (ha : w.answered? ev = some ⟨.poll s p, reply⟩) (hr : w.reconciles ev) :
    w.engine.mode = p.mode := by
  by_contra hne
  have hnone : w.writes ev = [] := by
    rw [writes_of_answered ha]
    cases reply with
    | error f => rfl
    | ok incoming => simp [replyWrites, Poll.writes, hne]
  rw [reconciles, hnone] at hr
  cases hr

/-- **The mode that a reply finds.** In every run, when the backend replies to a call that was made
in a mode: if the call is a poll's, its dashboard is reconciled only in that mode; an identity error
that the reply puts on the status line was met in that mode, if it was met in one; and the task has
waited for calls in that mode since the mode was the current one, so that it still is unless some
event has brought another one since. -/
theorem mode_of_reply {e : Engine} {events : List Event} {ev : Event} {k : Work}
    {r : Reply k.call} {m : Mode} (ha : ((ofEngine e).run events).answered? ev = some ⟨k, r⟩)
    (hm : k.call.mode? = some m) :
    (∀ s p, k = .poll s p → ((ofEngine e).run events).reconciles ev →
        ((ofEngine e).run events).engine.mode = m) ∧
      (∀ tag detail, ((ofEngine e).run events).identityError? k r = some (some tag, detail) →
        tag = m) ∧
      ∃ before during, events = before ++ during ∧
        ((ofEngine e).run before).engine.mode = m ∧
        (∀ done, done <+: during → ((ofEngine e).run (before ++ done)).CalledIn
          (((ofEngine e).run events).subject ev) m) ∧
        ((∀ ev' ∈ during, ∀ m', ev'.newMode? = some m' → m' = m) →
          ((ofEngine e).run events).engine.mode = m) := by
  refine ⟨?_, ?_, ?_⟩
  · rintro s p rfl hr
    rw [mode_of_poll ha hr]
    exact Option.some.inj hm
  · intro tag detail hd
    rw [mode_of_identityError hd] at hm
    exact Option.some.inj hm
  · obtain ⟨before, during, hs, hb, hd⟩ := since_called_in ⟨k, workOf?_of_answered ha, hm⟩
    refine ⟨before, during, hs, hb, hd, fun hev => ?_⟩
    rw [hs, run_append]
    exact mode_run ((numbered_ofEngine e).run before) hb hev

/-- **A dashboard may be reconciled into a mode it is not of.** It was asked for in GPT mode, the
mode has been changed since, and the reply comes after that of the new mode: the model is made of it
and the status line has its error. -/
theorem load_of_former_mode :
    let old : Snapshot :=
      { currentError := some "expired", currentErrorMode := some .gpt, profiles := [{ name := "g" }] }
    let new : Snapshot := { profiles := [{ name := "o" }] }
    let events : List Event :=
      [.ask (.load false none none), .ask (.setMode .openCode),
        .reply 1 (.fetchDashboard false .openCode) (.ok new)]
    let reply : Event := .reply 0 (.fetchDashboard false .gpt) (.ok old)
    let l : Load := ⟨false, .gpt, none, none⟩
    ((ofEngine Engine.blank).run events).answered? reply = some ⟨.load l, .ok old⟩ ∧
      ((ofEngine Engine.blank).run events).engine.mode = .openCode ∧
      ((ofEngine Engine.blank).run events).reconciles reply ∧
      (((ofEngine Engine.blank).run events).step reply).engine.status =
        "当前账号读取失败: expired" ∧
      ∃ before during, events = before ++ during ∧
        ((ofEngine Engine.blank).run before).engine.mode = .gpt ∧
        ∃ ev' ∈ during, ∃ m', ev'.newMode? = some m' ∧ m' ≠ .gpt := by
  intro old new events reply l
  have hk : ((ofEngine Engine.blank).run events).workOf? 0 = some (.load l) := by decide +kernel
  have ha : ((ofEngine Engine.blank).run events).answered? reply = some ⟨.load l, .ok old⟩ :=
    answered?_reply hk (.ok old)
  have hmode : ((ofEngine Engine.blank).run events).engine.mode = .openCode := by decide +kernel
  refine ⟨ha, hmode, by decide +kernel, by decide +kernel, ?_⟩
  obtain ⟨-, -, before, during, hs, hb, -, hkept⟩ := mode_of_reply ha rfl
  refine ⟨before, during, hs, hb, ?_⟩
  by_contra hnone
  refine absurd (hmode.symm.trans (hkept fun ev' hev m' hm => ?_)) (by decide)
  by_contra hne
  exact hnone ⟨ev', hev, m', hm, hne⟩

end Session

end Switchboard
