import Switchboard.Proofs.Errands
import Switchboard.Proofs.Records
import Switchboard.Proofs.SingleFlight

/-!
# Who may restart

The action after a switch runs for a user, for a caller who wants nothing else, or to finish an
automatic switch (`Trigger`). Whatever strategy the settings name, and whatever else is under way, an
automatic switch restarts nothing.

* `Session.actionBegun_of_begun` — the four ways in which an action makes a call.
* `Session.askedFor_of_checking` — an action that asks for the hook has done so since it was called for.
* `Session.restarts_only_by_hand` — so a restart is what somebody has asked for, the hook strategy runs
  after the answer that the hook is there, and without this answer nothing runs at all.
* `Session.switch_without_hook` — an automatic switch under the restart strategy.
-/

set_option autoImplicit false

namespace Switchboard

/-- Who the action after a switch runs for. -/
inductive Trigger where
  /-- A user who has asked for it. -/
  | user
  /-- A caller who wants the action and nothing else. -/
  | caller
  /-- A run of automatic switching that finishes a switch. -/
  | switching (s : Shift) (x : Switched)

namespace Trigger

/-- The action as it waits for a reply. -/
def work : Trigger → PostSwitch → Work
  | user, p => .manualAction p
  | caller, p => .bareAction p
  | switching s x, p => .autoSwitch s (.acting x p)

/-- The event calls for an action that first asks whether the hook is installed. -/
def Calls (w : Session) (ev : Event) : Trigger → Prop
  | user => ev = .ask (.action .hook)
  | caller => ∃ requested automatic, ev = .ask (.bareAction requested automatic) ∧
      requested.effective automatic = .hook
  | switching s x => ∃ id r, ev = .reply id (.autoSwitchTick .gpt) (.ok r) ∧
      w.workOf? id = some (.autoSwitch s (.ticking .gpt)) ∧ w.isCancelled s.scope = false ∧
      r.switched ∧ x = AutoSwitch.switchedOf w.engine .gpt r

end Trigger

/-- Only an action runs an action. -/
theorem Work.exists_trigger {k : Work} {strategy : Strategy}
    (h : k.call = .runPostSwitchAction strategy) :
    ∃ t : Trigger, k = t.work (.acting strategy) := by
  have action {p : PostSwitch} (h : p.call = .runPostSwitchAction strategy) :
      p = .acting strategy := by
    cases p with
    | checking => cases h
    | acting s =>
      cases h
      rfl
  cases k with
  | manualAction p => exact ⟨.user, congrArg manualAction (action h)⟩
  | bareAction p => exact ⟨.caller, congrArg bareAction (action h)⟩
  | autoSwitch s a =>
    cases a with
    | acting x p => exact ⟨.switching s x, congrArg (fun p => autoSwitch s (.acting x p)) (action h)⟩
    | _ => cases h
  | switch s => cases s <;> cases h
  | refresh r => cases r <;> cases h
  | hookInstall x => cases x <;> cases h
  | flush crew f => cases f <;> cases h
  | hookWatch s x => cases x <;> cases h
  | startup x =>
    cases x with
    | refreshing settings r => cases r <;> cases h
    | _ => cases h
  | _ => cases h

/-- An action goes on if the hook is there. -/
theorem PostSwitch.eq_of_waiting {p p' : PostSwitch} {r : Reply p.call}
    (h : (p.resume r).waiting? = some p') :
    (⟨p, r⟩ : (p : PostSwitch) × Reply p.call) = ⟨checking, .ok true⟩ ∧ p' = acting .hook := by
  cases p with
  | acting s => cases h
  | checking =>
    cases r with
    | error f => cases h
    | ok installed =>
      cases installed <;> cases h
      exact ⟨rfl, rfl⟩

theorem PostSwitch.begin_eq_checking_iff {requested : Strategy} {automatic : Bool} :
    begin requested automatic = checking ↔ requested.effective automatic = .hook := by
  unfold begin
  cases requested.effective automatic <;> simp

theorem PostSwitch.begin_eq_acting_iff {requested strategy : Strategy} {automatic : Bool} :
    begin requested automatic = acting strategy ↔
      requested = .restart ∧ automatic = false ∧ strategy = .restart := by
  cases requested <;> cases automatic <;> simp [begin, Strategy.effective, eq_comm]

/-- The failure that an answer stands for, when somebody has asked for the hook. -/
def hookFailure? : Reply .isHookInstalled → Option Failure
  | .error f => some f
  | .ok false => some .hookMissing
  | .ok true => none

namespace Session

variable {w : Session}

/-! ## How an action makes a call -/

/-- How an event makes an action wait for a reply. -/
inductive ActionBegun (w : Session) (ev : Event) : Trigger → PostSwitch → Prop where
  | user (requested : Strategy) (h : ev = .ask (.action requested)) :
    ActionBegun w ev .user (.begin requested false)
  | caller (requested : Strategy) (automatic : Bool)
      (h : ev = .ask (.bareAction requested automatic)) :
    ActionBegun w ev .caller (.begin requested automatic)
  /-- The backend has switched in GPT mode. -/
  | switched {s : Shift} {x : Switched} (h : (Trigger.switching s x).Calls w ev) :
    ActionBegun w ev (.switching s x) .checking
  /-- The hook is there. -/
  | found {t : Trigger} (hk : w.workOf? (w.subject ev) = some (t.work .checking))
      (h : ev = .reply (w.subject ev) .isHookInstalled (.ok true)) :
    ActionBegun w ev t (.acting .hook)

theorem waiting?_resumeManual (r : Progress PostSwitch TextResult) :
    (w.resumeManual r).2.waiting? = r.waiting?.map .manualAction := by
  cases r <;> rfl

/-- **How an action makes a call**: somebody calls for it, or it has found the hook. -/
theorem actionBegun_of_begun {ev : Event} {t : Trigger} {p : PostSwitch}
    (hb : w.begun? ev = some (t.work p)) : w.ActionBegun ev t p := by
  have found {p₀ : PostSwitch} {r : Reply (t.work p₀).call} {r₀ : Reply p₀.call}
      (ha : w.answered? ev = some ⟨t.work p₀, r⟩) (hr : HEq r r₀) (hl : (t.work p₀).limit? = none)
      (hp : (p₀.resume r₀).waiting? = some p) : w.ActionBegun ev t p := by
    obtain ⟨heq, rfl⟩ := PostSwitch.eq_of_waiting hp
    cases heq
    refine .found (workOf?_of_answered ha) ?_
    have hreply := reply_of_answered ha hl
    cases t <;> cases hr <;> exact hreply
  cases t with
  | user =>
    rcases request_of_begun hb trivial with ⟨q, rfl, hwait⟩ | ⟨k₀, r, ha, hkind, hwait⟩
    · have hq := kind_start hwait
      cases q with
      | action requested =>
        cases hwait
        exact .user requested rfl
      | _ => cases hq
    · cases k₀ with
      | manualAction p₀ =>
        simp only [resume] at hwait
        rw [waiting?_resumeManual, Option.map_eq_some_iff] at hwait
        obtain ⟨p', hp, hwait⟩ := hwait
        cases hwait
        exact found ha .rfl rfl hp
      | _ => cases hkind
  | caller =>
    rcases request_of_begun hb trivial with ⟨q, rfl, hwait⟩ | ⟨k₀, r, ha, hkind, hwait⟩
    · have hq := kind_start hwait
      cases q with
      | bareAction requested automatic =>
        cases hwait
        exact .caller requested automatic rfl
      | _ => cases hq
    · cases k₀ with
      | bareAction p₀ =>
        simp only [resume] at hwait
        rw [waiting?_embed, Option.map_eq_some_iff] at hwait
        obtain ⟨p', hp, hwait⟩ := hwait
        cases hwait
        exact found ha .rfl rfl hp
      | _ => cases hkind
  | switching s x =>
    rcases switching_of_begun hb with hopen | ⟨a₀, r, ha, hgo⟩
    · cases hopen
    have hwork := workOf?_of_answered ha
    have hreply := reply_of_answered ha (by cases a₀ <;> rfl)
    cases hgo with
    | acts hc hr => exact .switched ⟨_, _, hreply, hwork, hc, hr, rfl⟩
    | found => exact .found hwork hreply

/-- **A restart is what somebody has asked for.** -/
theorem asked_of_restart {ev : Event} {t : Trigger}
    (hb : w.begun? ev = some (t.work (.acting .restart))) :
    ev = .ask (.action .restart) ∨ ev = .ask (.bareAction .restart false) := by
  generalize hp : PostSwitch.acting .restart = p at hb
  cases actionBegun_of_begun hb with
  | user requested h =>
    obtain ⟨rfl, -, -⟩ := PostSwitch.begin_eq_acting_iff.1 hp.symm
    exact .inl h
  | caller requested automatic h =>
    obtain ⟨rfl, rfl, -⟩ := PostSwitch.begin_eq_acting_iff.1 hp.symm
    exact .inr h
  | switched h => cases hp
  | found hk h => cases hp

/-- **The hook strategy runs once the hook is found.** -/
theorem found_of_hook {ev : Event} {t : Trigger}
    (hb : w.begun? ev = some (t.work (.acting .hook))) :
    w.workOf? (w.subject ev) = some (t.work .checking) ∧
      ev = .reply (w.subject ev) .isHookInstalled (.ok true) := by
  generalize hp : PostSwitch.acting .hook = p at hb
  cases actionBegun_of_begun hb with
  | user requested h =>
    obtain ⟨-, -, hs⟩ := PostSwitch.begin_eq_acting_iff.1 hp.symm
    cases hs
  | caller requested automatic h =>
    obtain ⟨-, -, hs⟩ := PostSwitch.begin_eq_acting_iff.1 hp.symm
    cases hs
  | switched h => cases hp
  | found hk h => exact ⟨hk, h⟩

/-- An action asks for the hook as soon as it is called for. -/
theorem calls_of_checking {ev : Event} {t : Trigger}
    (hb : w.begun? ev = some (t.work .checking)) : t.Calls w ev := by
  generalize hp : PostSwitch.checking = p at hb
  cases actionBegun_of_begun hb with
  | user requested h =>
    have hs := PostSwitch.begin_eq_checking_iff.1 hp.symm
    rw [Strategy.effective, if_neg Bool.false_ne_true] at hs
    rw [hs] at h
    exact h
  | caller requested automatic h =>
    exact ⟨requested, automatic, h, PostSwitch.begin_eq_checking_iff.1 hp.symm⟩
  | switched h => exact h
  | found hk h => cases hp

end Session

/-- A profile that is named by the switch has been remembered. -/
def Trigger.IsRemembered (e : Engine) : Trigger → Prop
  | user | caller => True
  | switching _ x => ∀ name, x.target = some name → e.remembered x.mode = some name

namespace Session

variable {w : Session}

/-- An automatic switch is remembered before anything else is done about it. -/
theorem isRemembered_of_calls (hw : w.Numbered) {ev : Event} {t : Trigger} (h : t.Calls w ev) :
    t.IsRemembered (w.step ev).engine := by
  cases t with
  | user | caller => trivial
  | switching s x =>
    obtain ⟨id, r, rfl, hk, hc, hr, rfl⟩ := h
    intro name htarget
    have ha : w.answered? (.reply id (.autoSwitchTick .gpt) (.ok r)) =
        some ⟨.autoSwitch s (.ticking .gpt), .ok r⟩ := answered?_reply hk (.ok r)
    have hname : Text.filled? r.switchedTo = some name := htarget
    have hsettings := settings_step hw (.reply id (.autoSwitchTick .gpt) (.ok r))
    rw [entries_of_answered ha] at hsettings
    simp only [replyEntries, AutoSwitch.entries, hc, AutoSwitchReport.entries, hr, if_pos,
      Entry.profile, hname] at hsettings
    rw [Engine.remembered, hsettings]
    rfl

/-- The task has asked whether the hook is installed, when the action was called for, and has waited
for the answer since. -/
def AskedFor (e : Engine) (before : List Event) (id : Nat) (t : Trigger) : Prop :=
  ∃ earlier calls between, before = earlier ++ calls :: between ∧
    ((ofEngine e).run earlier).subject calls = id ∧ t.Calls ((ofEngine e).run earlier) calls ∧
    t.IsRemembered ((ofEngine e).run (earlier ++ [calls])).engine ∧
    ∀ done, done <+: between →
      ((ofEngine e).run (earlier ++ calls :: done)).workOf? id = some (t.work .checking)

/-- **An action that asks for the hook has done so since it was called for.** -/
theorem askedFor_of_checking {e : Engine} {before : List Event} {id : Nat} {t : Trigger}
    (hk : ((ofEngine e).run before).workOf? id = some (t.work .checking)) :
    AskedFor e before id t := by
  obtain ⟨earlier, calls, between, hs, hid, hb, hd⟩ := exists_begun hk
  have hcalls := calls_of_checking hb
  refine ⟨earlier, calls, between, hs, hid, hcalls, ?_, hd⟩
  rw [run_concat]
  exact isRemembered_of_calls ((numbered_ofEngine e).run earlier) hcalls

/-! ## Without the hook -/

theorem resume_checking {r : Reply .isHookInstalled} {f : Failure} (hf : hookFailure? r = some f) :
    PostSwitch.checking.resume r = .done (.error f) := by
  cases r with
  | error f' =>
    cases hf
    rfl
  | ok installed =>
    cases installed <;> cases hf
    rfl

/-- What comes of a request is the caller's. -/
theorem outcomes_step_of_answered {ev : Event} {k : Work} {r : Reply k.call} {o : Outcome}
    (hon : w.OnErrand) (ha : w.answered? ev = some ⟨k, r⟩) (hk : k.kind.IsAsked)
    (ho : (w.resume k r).2 = .done o) :
    (w.step ev).outcomes = (w.subject ev, o) :: (w.resume k r).1.outcomes := by
  obtain ⟨id, errand, ht, hstep⟩ := step_of_answered ha
  obtain rfl := (hon _ _ k ht rfl).eq_request hk
  rw [hstep, ho]
  rfl

/-- The end of an action leaves the settings, the gates and the configuration alone. -/
theorem keeps_finishAction (x : Switched) (e : Engine) (cancelled : Bool) (r : TextResult) :
    (x.finishAction e cancelled r).settings = e.settings ∧
      (x.finishAction e cancelled r).isGated = e.isGated ∧
      (x.finishAction e cancelled r).config = e.config := by
  unfold Switched.finishAction Switched.record Switched.report
  cases r <;> cases x.target <;> cases cancelled <;> exact ⟨rfl, rfl, rfl⟩

/-- A run that nothing keeps off begins. -/
theorem waiting?_beginJob {s : Shift} {j : Job} (hp : j ≠ .poll)
    (hb : barrier? w.engine j = none) (hf : w.isFlying (s.crew, j.duty) = false) :
    (w.beginJob s j).2.waiting? = some (j.opening w.engine s) := by
  have hflight : ((w.crew s.crew).flights.get j.duty).tryBegin? = some ⟨true⟩ :=
    Flight.tryBegin?_eq_some_iff.2 ⟨hf, rfl⟩
  unfold beginJob
  simp only [hb, hflight]
  cases j with
  | poll => exact absurd rfl hp
  | _ => simp [takeOff, Job.opening, setFlight, Progress.waiting?]

/-- A run of automatic switching is over, and has left everything as it should be for the next. -/
structure Recovers (w : Session) (id : Nat) (s : Shift) (w' : Session) : Prop where
  settings : w'.engine.settings = w.engine.settings
  landed : w'.isFlying (s.crew, .autoSwitch) = false
  /-- If the run is one of a loop, the next one begins after a rest, unless a gate is closed. -/
  again : ∀ r s' stage, w.task? id = some ⟨id, .loop r s', stage⟩ →
    ∀ ms, w.engine.config.autoSwitchTick.toNat ≤ ms → w.engine.isGated = false →
      (w'.step (.pass ms)).begun? (.wake id) = some (.autoSwitch s (.ticking w.engine.mode))

/-- A loop that rests has its next run when the rest is over. -/
theorem begun?_wake_of_resting {id id' : Nat} {r : Routine} {s : Shift} {due : Nat}
    (ht : w.task? id = some ⟨id', .loop r s, .resting due⟩) (hd : due ≤ w.uptime) :
    w.begun? (.wake id) = (w.beginJob s r.job).2.waiting? := by
  simp only [begun?, advance?, ht, if_pos hd, Option.bind_some]

theorem task?_rest {id : Nat} (h : (w.task? id).isSome) (errand : Errand) (ms : UInt64) :
    (w.rest id errand ms).task? id = some ⟨id, errand, .resting (w.timeAfter ms.toNat)⟩ := by
  obtain ⟨t, ht⟩ := Option.isSome_iff_exists.1 h
  rw [rest, task?_setTask, if_pos rfl, ht, Option.map_some]

/-- **A loop of automatic switching whose run is over makes the next one** after a rest, unless a gate
is closed. -/
theorem begun?_wake_of_concluded {id : Nat} {s : Shift} {o : Outcome} (ht : (w.task? id).isSome)
    (hf : w.isFlying (s.crew, .autoSwitch) = false) (hg : w.engine.isGated = false) {ms : Nat}
    (hms : w.engine.config.autoSwitchTick.toNat ≤ ms) :
    ((w.conclude id (.loop .autoSwitch s) (.done o)).step (.pass ms)).begun? (.wake id) =
      some (.autoSwitch s (.ticking w.engine.mode)) := by
  generalize hw : (w.conclude id (.loop .autoSwitch s) (.done o)).step (.pass ms) = w'
  have hrest : w'.task? id = some ⟨id, .loop .autoSwitch s,
      .resting (w.timeAfter w.engine.config.autoSwitchTick.toNat)⟩ := by
    rw [← hw]
    exact task?_rest ht (.loop .autoSwitch s) w.engine.config.autoSwitchTick
  have hdue : w.timeAfter w.engine.config.autoSwitchTick.toNat ≤ w'.uptime := by
    rw [← hw]
    exact Nat.add_le_add_left (Nat.le_trans (Nat.min_le_left _ _) hms) w.uptime
  have hbarrier : barrier? w'.engine .autoSwitch = none := by
    have hopen : w'.engine.isGated = false := by
      rw [← hw]
      exact hg
    simp [barrier?, hopen]
  have hfree : w'.isFlying (s.crew, Job.autoSwitch.duty) = false := by
    rw [← hw]
    exact hf
  rw [begun?_wake_of_resting hrest hdue, Routine.job, waiting?_beginJob (by decide) hbarrier hfree,
    ← hw]
  rfl

/-- **An automatic switch that lacks the hook is over**, and automatic switching goes on. -/
theorem recovers_of_refused (hon : w.OnErrand) {id : Nat} {s : Shift}
    {x : Switched} (hk : w.workOf? id = some ((Trigger.switching s x).work .checking))
    {r : Reply .isHookInstalled} {f : Failure} (hf : hookFailure? r = some f) :
    w.Recovers id s (w.step (.reply id .isHookInstalled r)) := by
  have ha : w.answered? (.reply id .isHookInstalled r) =
      some ⟨.autoSwitch s (.acting x .checking), r⟩ := answered?_reply hk r
  obtain ⟨w', hresume, hengine, hfly⟩ : ∃ w',
      w.resume (.autoSwitch s (.acting x .checking)) r =
        (w', .done (.tick (Switched.tick (w.isCancelled s.scope)))) ∧
      w'.engine = x.finishAction w.engine (w.isCancelled s.scope) (.error f) ∧
      w'.isFlying (s.crew, .autoSwitch) = false := by
    let e' := x.finishAction w.engine (w.isCancelled s.scope) (.error f)
    refine ⟨{ w with engine := e' }.setFlight s.crew .autoSwitch ⟨false⟩, ?_, ?_, ?_⟩
    · simp only [resume, resumeAutoSwitch, AutoSwitch.resume]
      rw [resume_checking hf]
      rfl
    · exact engine_setCrew _ s.crew _
    · rw [isFlying_setFlight, Function.update_self]
  obtain ⟨hsettings, hgated, hconfig⟩ :=
    keeps_finishAction x w.engine (w.isCancelled s.scope) (.error f)
  rw [← hengine] at hsettings hgated hconfig
  have hadv := advance?_of_answered ha
  obtain ⟨id', errand, ht, hstep⟩ := step_of_answered ha
  rw [hresume] at hadv hstep
  refine ⟨?_, ?_, ?_⟩
  · rw [hstep, engine_conclude, hsettings]
  · rw [isFlying_step_of_advance hadv, hfly]
  · intro routine s' stage hloop ms hms hopen
    have herrand : errand = .loop routine s' :=
      congrArg Task.errand (Option.some.inj (ht.symm.trans hloop))
    subst herrand
    have hkind : Work.Kind.run s .autoSwitch = .run s' routine.job.duty := hon _ _ _ ht rfl
    injection hkind with hshift hduty
    subst hshift
    cases routine with
    | autoSwitch =>
      rw [hstep, Engine.mode, ← hsettings]
      rw [← hconfig] at hms
      rw [← hgated] at hopen
      exact begun?_wake_of_concluded (grows_of_advance hadv).2 hfly hopen hms
    | _ => cases hduty

end Session

/-- What becomes of an action that has failed for want of the hook: whoever has asked for it gets the
failure, and automatic switching goes on. -/
def Trigger.Fails (w : Session) (id : Nat) (f : Failure) (w' : Session) : Trigger → Prop
  | user | caller => w'.outcomes = (id, .text (.error f)) :: w.outcomes
  | switching s _ => w.Recovers id s w'

namespace Session

variable {w : Session}

/-- **Without the hook nothing runs.** -/
theorem fails_of_refused (hon : w.OnErrand) {id : Nat} {t : Trigger}
    (hk : w.workOf? id = some (t.work .checking)) {r : Reply .isHookInstalled} {f : Failure}
    (hf : hookFailure? r = some f) :
    w.begun? (.reply id .isHookInstalled r) = none ∧
      (w.step (.reply id .isHookInstalled r)).workOf? id = none ∧
      t.Fails w id f (w.step (.reply id .isHookInstalled r)) := by
  have hchecking := resume_checking hf
  cases t with
  | user =>
    have ha : w.answered? (.reply id .isHookInstalled r) = some ⟨.manualAction .checking, r⟩ :=
      answered?_reply hk r
    have hres : w.resume (.manualAction .checking) r =
        (w.onEngine (Manual.finish · (.error f)), .done (.text (.error f))) := by
      simp only [resume]
      rw [hchecking]
      rfl
    obtain ⟨hbegun, hwork⟩ := ended_of_done ha (congrArg Prod.snd hres)
    refine ⟨hbegun, hwork, ?_⟩
    refine (outcomes_step_of_answered hon ha trivial (congrArg Prod.snd hres)).trans ?_
    rw [hres]
    rfl
  | caller =>
    have ha : w.answered? (.reply id .isHookInstalled r) = some ⟨.bareAction .checking, r⟩ :=
      answered?_reply hk r
    have hres : w.resume (.bareAction .checking) r = (w, .done (.text (.error f))) := by
      simp only [resume]
      rw [hchecking]
      rfl
    obtain ⟨hbegun, hwork⟩ := ended_of_done ha (congrArg Prod.snd hres)
    refine ⟨hbegun, hwork, ?_⟩
    refine (outcomes_step_of_answered hon ha trivial (congrArg Prod.snd hres)).trans ?_
    rw [hres]
    rfl
  | switching s x =>
    have ha : w.answered? (.reply id .isHookInstalled r) =
        some ⟨.autoSwitch s (.acting x .checking), r⟩ := answered?_reply hk r
    have ho : (w.resume (.autoSwitch s (.acting x .checking)) r).2 =
        .done (.tick (Switched.tick (w.isCancelled s.scope))) := by
      simp only [resume, resumeAutoSwitch, AutoSwitch.resume]
      rw [hchecking]
      rfl
    obtain ⟨hbegun, hwork⟩ := ended_of_done ha ho
    exact ⟨hbegun, hwork, recovers_of_refused hon hk hf⟩

/-- **Automatic switches never restart.** At every event of every run, whatever the settings, whoever
else is at work and whatever the backend replies:
* the restart strategy is run when a user or a caller asks for just that;
* the hook strategy is run when the backend answers that the hook is installed, to an action that has
  asked for it since it was called for;
* when the backend answers that the hook is not installed, or fails to answer, nothing is run and the
  action is over. Whoever has called for it gets the failure. If it was to finish an automatic switch,
  the profile has been remembered when the switch was reported, no setting changes now, and automatic
  switching goes on: nothing keeps the next run off, and a loop makes it after its rest. -/
theorem restarts_only_by_hand (e : Engine) (before : List Event) (ev : Event) :
    (∀ k, ((ofEngine e).run before).begun? ev = some k → k.call = .runPostSwitchAction .restart →
        ev = .ask (.action .restart) ∨ ev = .ask (.bareAction .restart false)) ∧
      (∀ k, ((ofEngine e).run before).begun? ev = some k → k.call = .runPostSwitchAction .hook →
        ∃ t id, k = t.work (.acting .hook) ∧ ev = .reply id .isHookInstalled (.ok true) ∧
          AskedFor e before id t) ∧
      ∀ t id r f, ((ofEngine e).run before).workOf? id = some (t.work .checking) →
        ev = .reply id .isHookInstalled r → hookFailure? r = some f →
          AskedFor e before id t ∧ ((ofEngine e).run before).begun? ev = none ∧
            ((ofEngine e).run (before ++ [ev])).workOf? id = none ∧
            t.Fails ((ofEngine e).run before) id f ((ofEngine e).run (before ++ [ev])) := by
  refine ⟨fun k hb hk => ?_, fun k hb hk => ?_, ?_⟩
  · obtain ⟨t, rfl⟩ := Work.exists_trigger hk
    exact asked_of_restart hb
  · obtain ⟨t, rfl⟩ := Work.exists_trigger hk
    obtain ⟨hchecking, hev⟩ := found_of_hook hb
    exact ⟨t, _, rfl, hev, askedFor_of_checking hchecking⟩
  · rintro t id r f hk rfl hf
    obtain ⟨hbegun, hwork, hfails⟩ := fails_of_refused (onErrand_run e before) hk hf
    rw [run_concat]
    exact ⟨askedFor_of_checking hk, hbegun, hwork, hfails⟩

/-- **An automatic switch under the restart strategy.** While a run asks whether the backend has
switched, a user restarts by hand. The backend has switched, and the hook is missing: nothing is run,
the profile stays remembered, and the loop asks again after its rest. -/
theorem switch_without_hook :
    let e := Engine.blank.withSettings { strategy := .restart }
    let s : Shift := ⟨.standing, .autoSwitch 0⟩
    let events : List Event :=
      [.ask (.setAutoSwitch true), .turn 1, .pass 30000, .wake 1, .ask (.action .restart),
        .reply 3 (.runPostSwitchAction .restart) (.ok "restarted"),
        .reply 1 (.autoSwitchTick .gpt) (.ok { action := "switched", switchedTo := some "b" })]
    let refusal : Event := .reply 1 .isHookInstalled (.ok false)
    let x := AutoSwitch.switchedOf e .gpt { action := "switched", switchedTo := some "b" }
    ((ofEngine e).run (events.take 4)).begun? (.ask (.action .restart)) =
        some (.manualAction (.acting .restart)) ∧
      ((ofEngine e).run events).workOf? 1 = some ((Trigger.switching s x).work .checking) ∧
      AskedFor e events 1 (.switching s x) ∧
      ((ofEngine e).run events).begun? refusal = none ∧
      ((ofEngine e).run (events ++ [refusal])).engine.remembered .gpt = some "b" ∧
      (((ofEngine e).run (events ++ [refusal])).step (.pass 30000)).begun? (.wake 1) =
        some (.autoSwitch s (.ticking .gpt)) := by
  intro e s events refusal x
  have hchecking : ((ofEngine e).run events).workOf? 1 =
      some ((Trigger.switching s x).work .checking) := by
    decide +kernel
  have htask : ((ofEngine e).run events).task? 1 =
      some ⟨1, .loop .autoSwitch s, .working (.autoSwitch s (.acting x .checking))⟩ := by
    decide +kernel
  obtain ⟨-, -, hrefused⟩ := restarts_only_by_hand e events refusal
  obtain ⟨hasked, hbegun, -, hfails⟩ := hrefused _ 1 (.ok false) .hookMissing hchecking rfl rfl
  have hrecovers : ((ofEngine e).run events).Recovers 1 s ((ofEngine e).run (events ++ [refusal])) :=
    hfails
  have hb : ((ofEngine e).run events).engine.remembered .gpt = some "b" := by decide +kernel
  refine ⟨by decide +kernel, hchecking, hasked, hbegun, ?_, ?_⟩
  · rw [Engine.remembered, hrecovers.settings]
    exact hb
  · have hmode : ((ofEngine e).run events).engine.mode = .gpt := by decide +kernel
    have hagain := hrecovers.again _ _ _ htask 30000 (by decide +kernel) (by decide +kernel)
    rw [hmode] at hagain
    exact hagain

end Session

end Switchboard
