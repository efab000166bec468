import Switchboard.Proofs.ModelWrites
import Switchboard.Proofs.DutyRuns
import Switchboard.Proofs.Footing
import Switchboard.Proofs.Outstanding

/-!
# After the runtime was stopped

Stopping the runtime cancels its root scope. A run of a duty looks at its scope when a reply comes,
and takes nothing in if that was cancelled; only a hook watch that is installing the hook goes on and
notes the version. The background sync and the saves of orders have no scope to look at.

* `Session.isCancelled_root_of_shutdown` — once a shutdown is done, the root scope is cancelled, and
  stays so (`Session.isCancelled_run`).
* `Session.reply_after_shutdown` — what the reply to a call does that is under way then, or that is
  made later.
* `Session.replies_taken_in_after_shutdown` — a sync, a save and a hook watch take theirs in.
-/

set_option autoImplicit false

namespace Switchboard

/-- The model, the status line and the settings are as before. -/
structure Engine.Unmoved (e e' : Engine) : Prop where
  model : e'.model = e.model
  status : e'.status = e.status
  settings : e'.settings = e.settings

theorem Engine.Unmoved.refl (e : Engine) : e.Unmoved e := ⟨rfl, rfl, rfl⟩

/-! ## Duties that were called off -/

section CalledOff

variable (e : Engine)

theorem Poll.unmoved_finish (p : Poll) (b : Backoff) (reply : Except Failure Snapshot) :
    e.Unmoved (p.finish e b true reply).1 := by
  cases reply <;> exact .refl e

theorem Engine.unmoved_recordSwitch (row : SwitchEvent) : e.Unmoved (e.recordSwitch row) :=
  ⟨rfl, rfl, rfl⟩

theorem Switched.record_eq (s : Switched) (r : Result) (message : Option String) :
    s.record e r message = e ∨ ∃ row, s.record e r message = e.recordSwitch row := by
  unfold record
  split
  · exact .inl rfl
  · exact .inr ⟨_, rfl⟩

/-- The switch that is being finished is still recorded in the history. -/
theorem AutoSwitch.resume_of_cancelled (a : AutoSwitch) (reply : Reply a.call) :
    (a.resume e true reply).1 = e ∨ ∃ row, (a.resume e true reply).1 = e.recordSwitch row := by
  cases a with
  | ticking mode => exact .inl rfl
  | acting s p =>
    simp only [resume]
    cases p.resume reply with
    | waiting q => exact .inl rfl
    | done r => cases r <;> exact s.record_eq e _ _
  | calibrating s name => cases reply <;> exact s.record_eq e _ _

theorem AutoSwitch.unmoved_resume (a : AutoSwitch) (reply : Reply a.call) :
    e.Unmoved (a.resume e true reply).1 := by
  rcases a.resume_of_cancelled e reply with h | ⟨row, h⟩
  · rw [h]
    exact .refl e
  · rw [h]
    exact e.unmoved_recordSwitch row

theorem Recover.unmoved_finish (reply : Except Failure RecoverReport) :
    e.Unmoved (Recover.finish e true reply).1 := .refl e

theorem KeepaliveRun.unmoved_finish (k : KeepaliveRun) (reply : Except Failure Snapshot) :
    e.Unmoved (k.finish e true reply).1 := .refl e

/-- A hook watch that was called off notes a version only if it has installed the hook. -/
theorem HookWatch.unmoved_or_noted (h : HookWatch) (reply : Reply h.call) :
    e.Unmoved (h.resume e true reply).1 ∨
      ∃ previous current message version, h = .rereading previous current message ∧
        (e.setHookVersion version).Unmoved (h.resume e true reply).1 := by
  cases h with
  | checking =>
    simp only [resume]
    exact .inl (.refl e)
  | reading =>
    simp only [resume, afterReading]
    cases HookInstall.version? reply <;> exact .inl (.refl e)
  | installing previous current => cases reply <;> exact .inl ⟨rfl, rfl, rfl⟩
  | rereading previous current message =>
    exact .inr ⟨previous, current, message, _, rfl, rfl, rfl, rfl⟩

/-- A hook watch that was called off goes on only with an installation that it has begun. -/
theorem HookWatch.holds_of_waiting {h h' : HookWatch} {reply : Reply h.call}
    (hw : (h.resume e true reply).2.waiting? = some h') : h.stake.holds := by
  cases HookWatch.goesOn_of_waiting hw with
  | found hc => cases hc
  | outdated hc => cases hc
  | installed previous current message => rfl

end CalledOff

namespace Session

variable {w : Session}

/-! ## What is cancelled stays so -/

theorem isCancelled_root_iff : w.isCancelled .root ↔ .root ∈ w.cancelled := by
  simp [isCancelled, Scope.isInRoot]

theorem isCancelled_of_root (h : w.isCancelled .root) {s : Scope} (hs : s.isInRoot) :
    w.isCancelled s := by
  have hroot := isCancelled_root_iff.1 h
  simp [isCancelled, hs, hroot]

/-- **A scope that is cancelled stays so.** -/
theorem isCancelled_run (hw : w.Numbered) {s : Scope} (h : w.isCancelled s) (events : List Event) :
    (w.run events).isCancelled s := by
  refine hw.run_induction (P := fun w => w.isCancelled s) (fun w ev hw h => ?_) h events
  simp only [isCancelled, Bool.or_eq_true, Bool.and_eq_true, List.contains_iff_mem] at h ⊢
  have hsub := cancelled_step hw ev
  exact h.imp (@hsub _) (And.imp_right (@hsub _))

/-- A shutdown is done once the root scope is cancelled: at once, or when the backend has answered
that automatic switching is reset. -/
theorem isCancelled_root_of_shutdown {o : Outcome} :
    (w.shutdown.2 = .done o → w.shutdown.1.isCancelled .root) ∧
      ∀ r : Reply Work.stop.call, (w.resume .stop r).1.isCancelled .root := by
  refine ⟨fun h => ?_, fun r => isCancelled_root_iff.2 List.mem_cons_self⟩
  unfold shutdown at h ⊢
  split
  · rename_i w' hw
    rw [hw] at h
    cases h
  · exact isCancelled_root_iff.2 List.mem_cons_self

/-! ## Where an installation of the hook comes from -/

/-- A hook watch that has been called off goes on with an installation only if it has begun it. -/
theorem installing_of_begun {ev : Event} {s : Shift} {h : HookWatch}
    (hb : w.begun? ev = some (.hookWatch s h)) (hh : h.stake.holds) (hc : w.isCancelled s.scope) :
    ∃ h', w.workOf? (w.subject ev) = some (.hookWatch s h') ∧ h'.stake.holds := by
  generalize hk : Work.hookWatch s h = k at hb
  cases runBegun_of_begun hb (by rw [← hk]; rfl) with
  | opens s' j hbar hf =>
    -- A run of the hook watch begins with a question.
    cases j with
    | hookWatch =>
      cases hk
      cases hh
    | _ => cases hk
  | switching ha hw => cases hk
  | @watching s' h' h'' r ha hw =>
    cases hk
    rw [hc] at hw
    exact ⟨h', workOf?_of_answered ha, HookWatch.holds_of_waiting w.engine hw⟩

/-- **An installation of the hook that is under way after the stop has been so at the stop.** -/
theorem installing_at_stop {e : Engine} {events later : List Event} {id : Nat} {s : Shift}
    {h : HookWatch} (hroot : ((ofEngine e).run events).isCancelled .root) (hs : s.scope.isInRoot)
    (hk : ((ofEngine e).run (events ++ later)).workOf? id = some (.hookWatch s h))
    (hh : h.stake.holds) :
    ∃ h', ((ofEngine e).run events).workOf? id = some (.hookWatch s h') ∧ h'.stake.holds := by
  induction later using List.reverseRecOn generalizing h with
  | nil =>
    rw [List.append_nil] at hk
    exact ⟨h, hk, hh⟩
  | append_singleton later ev ih =>
    have hw := (numbered_ofEngine e).run (events ++ later)
    have hroot' : ((ofEngine e).run (events ++ later)).isCancelled .root := by
      rw [run_append]
      exact isCancelled_run ((numbered_ofEngine e).run events) hroot later
    rw [← List.append_assoc, run_concat] at hk
    rcases workOf?_step_cases hw hk with hk | ⟨rfl, hb⟩
    · exact ih hk hh
    · obtain ⟨h', hk', hh'⟩ := installing_of_begun hb hh (isCancelled_of_root hroot' hs)
      exact ih hk' hh'

/-! ## Replies after the stop -/

theorem engine_step_of_answered {ev : Event} {k : Work} {r : Reply k.call}
    (ha : w.answered? ev = some ⟨k, r⟩) : (w.step ev).engine = (w.resume k r).1.engine := by
  obtain ⟨-, errand, -, hs⟩ := step_of_answered ha
  rw [hs, engine_conclude]

/-- A run of a duty that was called off takes no reply in, but for the version of the hook that it
has installed. -/
theorem unmoved_or_noted_of_cancelled {k : Work} {s : Shift} (hs : k.shift? = some s)
    (hc : w.isCancelled s.scope) (r : Reply k.call) :
    w.engine.Unmoved (w.resume k r).1.engine ∨
      ∃ h version, k = .hookWatch s h ∧ h.stake.holds ∧
        (w.engine.setHookVersion version).Unmoved (w.resume k r).1.engine := by
  cases k with
  | poll s' p =>
    obtain rfl := Option.some.inj hs
    left
    rw [show (w.resume (.poll s' p) r).1.engine = _ from engine_resumePoll w s' p r, hc]
    exact p.unmoved_finish _ _ r
  | autoSwitch s' a =>
    obtain rfl := Option.some.inj hs
    simp only [resume, resumeAutoSwitch, engine_carryOn, hc]
    exact .inl (a.unmoved_resume w.engine r)
  | recover s' x =>
    obtain rfl := Option.some.inj hs
    simp only [resume, engine_finishRun, hc]
    exact .inl (Recover.unmoved_finish w.engine r)
  | keepalive s' x =>
    obtain rfl := Option.some.inj hs
    simp only [resume, engine_finishRun, hc]
    exact .inl (x.unmoved_finish w.engine r)
  | hookWatch s' h =>
    obtain rfl := Option.some.inj hs
    simp only [resume, resumeHookWatch, engine_carryOn, hc]
    rcases h.unmoved_or_noted w.engine r with hu | ⟨_, _, _, version, rfl, hu⟩
    · exact .inl hu
    · exact .inr ⟨_, version, rfl, rfl, hu⟩
  | _ => cases hs

/-- The session as if nothing had been cancelled. -/
def uncancelled (w : Session) : Session := { w with cancelled := [] }

/-- The reply to a load or a save is taken in whatever is cancelled. -/
theorem engine_resume_uncancelled {k : Work}
    (hk : (∃ l, k = .load l) ∨ ∃ crew f, k = .flush crew f) (r : Reply k.call) :
    (w.resume k r).1.engine = (w.uncancelled.resume k r).1.engine := by
  rcases hk with ⟨l, rfl⟩ | ⟨crew, f, rfl⟩
  · rfl
  · simp only [resume, engine_embedFlush]
    cases crew <;> rfl

/-- **What replies do after the stop.** When the root scope is cancelled after some events, then
whatever happens later and whichever call of a task is answered: if the call is that of a duty under
a scope of the runtime, the model and the status line stay as they are, and so do the settings, but
that a hook watch that was installing the hook already at the stop notes the hook's version; and if
it is that of a load or of the save of an order, as the background sync and the queues of orders
make them, the reply does to the engine what it does when nothing is cancelled. -/
theorem reply_after_shutdown {e : Engine} {events later : List Event} {ev : Event} {k : Work}
    {r : Reply k.call} (hroot : ((ofEngine e).run events).isCancelled .root)
    (ha : ((ofEngine e).run (events ++ later)).answered? ev = some ⟨k, r⟩) :
    (∀ s, k.shift? = some s → s.scope.isInRoot →
        (((ofEngine e).run (events ++ later)).step ev).engine.model =
            ((ofEngine e).run (events ++ later)).engine.model ∧
          (((ofEngine e).run (events ++ later)).step ev).engine.status =
            ((ofEngine e).run (events ++ later)).engine.status ∧
          ((((ofEngine e).run (events ++ later)).step ev).engine.settings =
              ((ofEngine e).run (events ++ later)).engine.settings ∨
            (∃ version, (((ofEngine e).run (events ++ later)).step ev).engine.settings =
              { ((ofEngine e).run (events ++ later)).engine.settings with
                hookVersion := some version }) ∧
            ∃ h, ((ofEngine e).run events).workOf?
                (((ofEngine e).run (events ++ later)).subject ev) = some (.hookWatch s h) ∧
              h.stake.holds)) ∧
      (((∃ l, k = .load l) ∨ ∃ crew f, k = .flush crew f) →
        (((ofEngine e).run (events ++ later)).step ev).engine =
          (((ofEngine e).run (events ++ later)).uncancelled.step ev).engine) := by
  have hroot' : ((ofEngine e).run (events ++ later)).isCancelled .root := by
    rw [run_append]
    exact isCancelled_run ((numbered_ofEngine e).run events) hroot later
  constructor
  · intro s hs hin
    rw [engine_step_of_answered ha]
    rcases unmoved_or_noted_of_cancelled hs (isCancelled_of_root hroot' hin) r with
      hu | ⟨h, version, rfl, hh, hu⟩
    · exact ⟨hu.model, hu.status, .inl hu.settings⟩
    · have hbefore := installing_at_stop hroot hin (workOf?_of_answered ha) hh
      exact ⟨hu.model, hu.status, .inr ⟨⟨version, hu.settings⟩, hbefore⟩⟩
  · intro hk
    have ha' : ((ofEngine e).run (events ++ later)).uncancelled.answered? ev = some ⟨k, r⟩ := ha
    rw [engine_step_of_answered ha, engine_step_of_answered ha']
    exact engine_resume_uncancelled hk r

/-- **Not every reply is dropped after the stop.** A poll, an installation of the hook, the
background sync and the save of an order are under way when the runtime is stopped. The reply to the
poll changes nothing; the hook watch notes its version, the sync brings a new model, and the save
replaces both the model and the status text. -/
theorem replies_taken_in_after_shutdown :
    let s : Snapshot := { profiles := [{ name := "a" }, { name := "b" }] }
    let t : Snapshot := { profiles := [{ name := "c" }] }
    let events : List Event :=
      [.act (.putSettings
          { mode := .openCode, autoSwitch := false, keepalive := false, hookVersion := some "1" }),
        .ask .startup, .reply 0 (.fetchDashboard false .openCode) (.ok s),
        .reply 0 .autoSwitchReset (.ok ()), .turn 2, .wake 2, .turn 3,
        .reply 3 .isHookInstalled (.ok true),
        .reply 3 .getExtensionInfo (.ok { currentVersion := some "2" }),
        .reply 3 .installHook (.ok "installed"), .turn 1, .pass 200, .wake 1,
        .act (.queueOrder .standing ["b", "a"]), .turn 4, .ask .shutdown]
    let later : List Event := [.pass 1000]
    let poll : Event := .reply 2 (.fetchDashboard false .openCode) (.ok t)
    let watch : Event := .reply 3 .getExtensionInfo (.ok { currentVersion := some "2" })
    let sync : Event := .reply 1 (.fetchDashboard true .openCode) (.ok t)
    let save : Event := .reply 4 (.reorderProfiles ["b", "a"]) (.ok t)
    let shown (w : Session) : Option (List String) := w.engine.model.map (·.displayNames)
    ((ofEngine Engine.blank).run events).isCancelled .root ∧
      (((ofEngine Engine.blank).run (events ++ later)).step poll).engine.model =
        ((ofEngine Engine.blank).run (events ++ later)).engine.model ∧
      ((((ofEngine Engine.blank).run (events ++ later)).step watch).engine.model =
          ((ofEngine Engine.blank).run (events ++ later)).engine.model ∧
        ((ofEngine Engine.blank).run (events ++ later)).engine.settings.hookVersion = some "1" ∧
        (((ofEngine Engine.blank).run (events ++ later)).step watch).engine.settings.hookVersion =
          some "2") ∧
      shown ((ofEngine Engine.blank).run (events ++ later)) = some ["b", "a"] ∧
      (shown (((ofEngine Engine.blank).run (events ++ later)).step sync) = some ["c"] ∧
        (((ofEngine Engine.blank).run (events ++ later)).step sync).engine =
          (((ofEngine Engine.blank).run (events ++ later)).uncancelled.step sync).engine) ∧
      shown (((ofEngine Engine.blank).run (events ++ later)).step save) = some ["c"] ∧
      ((ofEngine Engine.blank).run (events ++ later)).engine.status = "正在保存排序..." ∧
      (((ofEngine Engine.blank).run (events ++ later)).step save).engine.status = "排序已保存" := by
  intro s t events later poll watch sync save shown
  have hroot : ((ofEngine Engine.blank).run events).isCancelled .root := by decide +kernel
  have hpoll : ((ofEngine Engine.blank).run (events ++ later)).workOf? 2 =
      some (.poll ⟨.standing, .root⟩ ⟨.openCode⟩) := by
    decide +kernel
  have hwatch : ((ofEngine Engine.blank).run (events ++ later)).workOf? 3 =
      some (.hookWatch ⟨.standing, .root⟩ (.rereading "1" "2" "installed")) := by
    decide +kernel
  have hsync : ((ofEngine Engine.blank).run (events ++ later)).workOf? 1 =
      some (.load ⟨true, .openCode, none, none⟩) := by
    decide +kernel
  have hp : ((ofEngine Engine.blank).run (events ++ later)).answered? poll = some _ :=
    answered?_reply hpoll (.ok t)
  have hv : ((ofEngine Engine.blank).run (events ++ later)).answered? watch = some _ :=
    answered?_reply hwatch (.ok { currentVersion := some "2" })
  have hs : ((ofEngine Engine.blank).run (events ++ later)).answered? sync = some _ :=
    answered?_reply hsync (.ok t)
  have hp' := (reply_after_shutdown hroot hp).1 _ rfl rfl
  have hv' := (reply_after_shutdown hroot hv).1 _ rfl rfl
  have hs' := (reply_after_shutdown hroot hs).2 (.inl ⟨_, rfl⟩)
  refine ⟨hroot, hp'.1, ⟨hv'.1, ?_, ?_⟩, ?_, ⟨?_, hs'⟩, ?_, ?_, ?_⟩
  all_goals decide +kernel

end Session

end Switchboard
