import Mathlib.Data.List.Infix
import Switchboard.Proofs.Footing
import Switchboard.Proofs.ModelWrites
import Switchboard.Proofs.ModeOfCalls

/-!
# Whose error the banner shows

The banner looks at the error of the live identity, as far as that belongs to the mode of the
moment; the text that it shows stays while another one has not yet been the same for long enough,
and nothing takes it away when the mode changes.

* `Engine.Looked` — what can happen to the banner at once: nothing, or one look at the error.
* `Session.looked_step` — that is all that a step does to it.
* `Session.banner_shows_error_of_mode` — a text on the banner was the error that belonged to the
  mode when it came there, and has stayed since.
* `Session.error_of_former_mode` — by then another mode may be the current one.
-/

set_option autoImplicit false

namespace Switchboard

/-- What the banner shows after a look at an error is that error or what it showed before. -/
theorem Banner.displayed_observe {b : Banner} {error : Option String} {now : Int64}
    {text : String} (h : (b.observe error now).displayed = some text) :
    ∃ own, error = some own ∧ (own = text ∨ b.displayed = some text) := by
  cases error with
  | none => cases h
  | some own =>
    refine ⟨own, rfl, ?_⟩
    rw [observe, displayed_settle, candidate_notice, displayed_notice] at h
    split at h
    · exact .inl (Option.some.inj h)
    · exact .inr h

namespace Engine

/-- The error on the screen comes from the error of the model's snapshot, which has no tag or that
of the mode. -/
theorem exists_of_identityError {e : Engine} {text : String} (h : e.identityError = some text) :
    ∃ m raw, e.model = some m ∧ m.snapshot.currentError = some raw ∧
      text = IdentityError.format m.snapshot raw ∧
      ∀ tag, m.snapshot.currentErrorMode = some tag → tag = e.mode := by
  obtain ⟨m, hm, hs⟩ := Option.bind_eq_some_iff.1 h
  obtain ⟨raw, hraw, -, htag, htext⟩ := IdentityError.shown_eq_some_iff.1 hs
  exact ⟨m, raw, hm, hraw, htext, htag⟩

variable {e e' e'' : Engine}

/-- The banner is as before, and so is what it would see. -/
structure SameView (e e' : Engine) : Prop where
  banner : e'.banner = e.banner
  error : e'.identityError = e.identityError
  now : e'.now = e.now

namespace SameView

theorem refl (e : Engine) : e.SameView e := ⟨rfl, rfl, rfl⟩

theorem trans (h : e.SameView e') (h' : e'.SameView e'') : e.SameView e'' :=
  ⟨h'.banner.trans h.banner, h'.error.trans h.error, h'.now.trans h.now⟩

theorem block (e : Engine) (message : String) : e.SameView (e.block message) := ⟨rfl, rfl, rfl⟩

theorem unblock (e : Engine) : e.SameView e.unblock := ⟨rfl, rfl, rfl⟩

theorem remember (e : Engine) (m : Mode) (name : String) : e.SameView (e.remember m name) := by
  unfold Engine.remember
  split <;> exact ⟨rfl, rfl, rfl⟩

theorem select (e : Engine) (name : String) : e.SameView (e.select name) := by
  unfold Engine.select
  split
  · rename_i m hm
    obtain ⟨m₀, hm₀, hs⟩ := Option.bind_eq_some_iff.1 hm
    -- The snapshot stays, so that its error does.
    have hsnap : m.snapshot = m₀.snapshot := by
      unfold Model.select? at hs
      split at hs
      · cases hs
        rfl
      · cases hs
    refine ⟨rfl, ?_, rfl⟩
    simp only [identityError, replaceModel, hm₀, Option.bind_some, hsnap]
    rfl
  · exact refl e

theorem reorderDisplay (e : Engine) (names : List String) :
    e.SameView (e.reorderDisplay names) := by
  unfold Engine.reorderDisplay
  split
  · rename_i m hm
    refine ⟨rfl, ?_, rfl⟩
    simp only [identityError, replaceModel, hm, Option.bind_some]
    rfl
  · exact refl e

end SameView

theorem Fronts.sameView (h : e.Fronts e') : e.SameView e' where
  banner := h.congr Engine.banner fun _ _ _ _ _ => rfl
  error := h.congr identityError fun _ _ _ _ _ => rfl
  now := h.congr Engine.now fun _ _ _ _ _ => rfl

/-- The banner is as before, or it has taken a look at the error that there is now. -/
inductive Looked (e e' : Engine) : Prop where
  | keep (h : e'.banner = e.banner)
  | look (h : e'.banner = e.banner.observe e'.identityError e'.now)

namespace Looked

theorem refl (e : Engine) : e.Looked e := keep rfl

theorem thenKeep (h : e.Looked e') (h' : e'.SameView e'') : e.Looked e'' := by
  cases h with
  | keep hk => exact keep (h'.banner.trans hk)
  | look hl => exact look (by rw [h'.banner, h'.error, h'.now, hl])

theorem observeError (e : Engine) : e.Looked e.observeError := look rfl

theorem applySnapshot (e : Engine) (s : Snapshot) (preserve : Bool) :
    e.Looked (e.applySnapshot s preserve) := look rfl

theorem applyIfChanged (e : Engine) (s : Snapshot) : e.Looked (e.applyIfChanged s) := by
  unfold Engine.applyIfChanged
  split
  · exact applySnapshot e s true
  · exact observeError e

end Looked

end Engine

/-! ## Commands and duties -/

section Work

variable (e : Engine)

theorem Load.looked_finish (l : Load) (reply : Except Failure Snapshot) :
    e.Looked (l.finish e reply).1 := by
  cases reply with
  | error f => exact .keep rfl
  | ok s =>
    unfold finish
    dsimp only
    split <;> split <;> exact .look rfl

theorem Dashboard.looked_finish (success failure : String) (reply : Except Failure Snapshot) :
    e.Looked (Dashboard.finish success failure e reply).1 := by
  cases reply with
  | error f => exact .keep rfl
  | ok s => exact .look rfl

theorem Refresh.looked_finish (r : Refresh) (reply : Reply r.call) :
    e.Looked (r.finish e reply).1 := by
  cases r <;> exact Dashboard.looked_finish e _ _ reply

theorem Switch.looked_resume (s : Switch) (reply : Reply s.call) :
    e.Looked (s.resume e reply).1 := by
  cases s with
  | applying target mode label =>
    have h := Dashboard.looked_finish e (switchedText label) (switchedText label ++ "失败") reply
    simp only [resume, afterApply]
    split
    · rename_i e' f he
      rw [he] at h
      exact h.thenKeep (.unblock e')
    · rename_i e' m he
      rw [he] at h
      exact h.thenKeep ((Engine.SameView.remember e' mode target).trans (.block _ _))
  | calibrating target mode label m =>
    dsimp only [resume, afterCalibration]
    split
    · exact .look rfl
    · exact .keep rfl

theorem Flush.looked_resume (q : OrderQueue) (f : Flush) (reply : Reply f.call) :
    e.Looked (f.resume q e reply).2.1 := by
  cases f with
  | saving names =>
    cases reply with
    | error f => exact .keep rfl
    | ok s =>
      simp only [resume, release, accept]
      split
      · exact .keep (tells_next _ _).fronts.sameView.banner
      · exact .thenKeep (.look rfl) (tells_next _ _).fronts.sameView
  | rereading l =>
    simp only [resume, release]
    exact (l.looked_finish e reply).thenKeep (tells_next _ _).fronts.sameView

theorem Poll.looked_finish (p : Poll) (b : Backoff) (cancelled : Bool)
    (reply : Except Failure Snapshot) : e.Looked (p.finish e b cancelled reply).1 := by
  cases reply with
  | error f => exact .keep rfl
  | ok s =>
    simp only [finish]
    split
    · exact .keep rfl
    · exact .applyIfChanged e s

theorem Switched.sameView_record (s : Switched) (r : Result) (message : Option String) :
    e.SameView (s.record e r message) := by
  unfold record
  split <;> exact ⟨rfl, rfl, rfl⟩

theorem Switched.sameView_report (cancelled : Bool) (text : String) :
    e.SameView (report e cancelled text) := by
  unfold report
  split <;> exact ⟨rfl, rfl, rfl⟩

theorem Switched.sameView_finishAction (s : Switched) (cancelled : Bool) (r : TextResult) :
    e.SameView (s.finishAction e cancelled r) := by
  cases r with
  | ok message => exact (sameView_report e _ _).trans (s.sameView_record _ _ _)
  | error f => exact (sameView_report e _ _).trans (s.sameView_record _ _ _)

theorem Switched.looked_finishCalibration (s : Switched) (cancelled : Bool)
    (reply : Except Failure Snapshot) : e.Looked (s.finishCalibration e cancelled reply) := by
  cases reply with
  | error f => exact .keep ((sameView_report e _ _).trans (s.sameView_record _ _ _)).banner
  | ok snapshot =>
    have h := (sameView_report (if cancelled then e else e.applySnapshot snapshot false) cancelled
      (s.base ++ "（已自动执行一次手动切号校准）")).trans (s.sameView_record _ .switched none)
    refine .thenKeep ?_ h
    split
    · exact .refl e
    · exact .applySnapshot e snapshot false

theorem AutoSwitch.sameView_adopt (s : Switched) : e.SameView (adopt s e) := by
  unfold adopt
  split
  · exact .refl e
  · exact (Engine.SameView.remember e _ _).trans (.select _ _)

theorem AutoSwitch.sameView_pursue (s : Switched) : e.SameView (pursue s e).1 := by
  unfold pursue
  split <;> exact ⟨rfl, rfl, rfl⟩

theorem AutoSwitch.looked_takeReport (mode : Mode) (r : AutoSwitchReport) :
    e.Looked (takeReport mode e r).1 := by
  -- The banner looks when the dashboard of the report is taken in, and not at what is done next.
  have goOn {e' : Engine} (he : e.Looked e') {quiet : Engine × Progress AutoSwitch Tick}
      (hq : e'.SameView quiet.1) :
      e.Looked (if r.switched then pursue (switchedOf e mode r) (adopt (switchedOf e mode r) e')
        else quiet).1 := by
    split
    · exact he.thenKeep ((sameView_adopt _ _).trans (sameView_pursue _ _))
    · exact he.thenKeep hq
  unfold takeReport
  cases r.dashboard with
  | none =>
    refine goOn (.refl e) ?_
    split
    · exact (Engine.Tells.setStatus _ _).fronts.sameView
    · exact .refl _
  | some s =>
    refine goOn (.applySnapshot e s false) ?_
    split
    · exact (Engine.Tells.setStatus _ _).fronts.sameView
    · exact .refl _

theorem AutoSwitch.looked_resume (a : AutoSwitch) (cancelled : Bool) (reply : Reply a.call) :
    e.Looked (a.resume e cancelled reply).1 := by
  cases a with
  | ticking mode =>
    simp only [resume, afterTick]
    split
    · exact .refl e
    · exact .keep rfl
    · exact looked_takeReport e mode _
  | acting s p =>
    simp only [resume]
    cases p.resume reply with
    | waiting q => exact .refl e
    | done r => exact .keep (s.sameView_finishAction e cancelled r).banner
  | calibrating s name => exact s.looked_finishCalibration e cancelled reply

theorem KeepaliveRun.looked_finish (k : KeepaliveRun) (cancelled : Bool)
    (reply : Except Failure Snapshot) : e.Looked (k.finish e cancelled reply).1 := by
  unfold finish
  split
  · exact .refl e
  · exact .look rfl
  · exact .keep rfl

theorem Recover.looked_finish (cancelled : Bool) (reply : Except Failure RecoverReport) :
    e.Looked (Recover.finish e cancelled reply).1 := by
  unfold finish
  split
  · exact .refl e
  · exact .refl e
  · split <;> exact .keep rfl

theorem HookInstall.looked_resume (h : HookInstall) (reply : Reply h.call) :
    e.Looked (h.resume e reply).1 := by
  cases h with
  | installing => cases reply <;> exact .keep rfl
  | reading message =>
    simp only [resume]
    split <;> exact .keep rfl

theorem HookWatch.banner_conclude (cancelled : Bool) (text : String) :
    (conclude e cancelled text).1.banner = e.banner := by
  unfold conclude
  split <;> rfl

theorem HookWatch.looked_resume (h : HookWatch) (cancelled : Bool) (reply : Reply h.call) :
    e.Looked (h.resume e cancelled reply).1 := by
  cases h with
  | checking =>
    simp only [resume]
    split <;> exact .refl e
  | reading =>
    simp only [resume, afterReading, compare]
    split
    · exact .refl e
    · exact .refl e
    · split
      · exact .keep rfl
      · split
        · exact .refl e
        · split <;> exact .keep rfl
  | installing previous current =>
    cases reply with
    | ok message => exact .refl e
    | error f => exact .keep (banner_conclude e cancelled _)
  | rereading previous current message => exact .keep (banner_conclude _ cancelled _)

end Work

/-! ## Steps -/

namespace Session

variable (w : Session)

/-- Nothing that is asked for does anything to the banner at once. -/
theorem banner_start (r : Request) : (w.start r).1.engine.banner = w.engine.banner := by
  have hs : (r.setting w.engine).banner = w.engine.banner := by cases r <;> rfl
  rw [← hs]
  exact (fronts_start w r).sameView.banner

theorem looked_resume (k : Work) (r : Reply k.call) :
    w.engine.Looked (w.resume k r).1.engine := by
  cases k with
  | load l => exact l.looked_finish w.engine r
  | refresh x => exact x.looked_finish w.engine r
  | switch s =>
    simp only [resume, engine_embed]
    exact s.looked_resume w.engine r
  | manualAction p =>
    simp only [resume, resumeManual]
    split
    · exact .refl _
    · rename_i r' _
      cases r' <;> exact .keep rfl
  | bareAction p =>
    simp only [resume, engine_embed]
    exact .refl _
  | hookInstall h =>
    simp only [resume, engine_embed]
    exact h.looked_resume w.engine r
  | flush crew f =>
    simp only [resume, engine_embedFlush]
    exact f.looked_resume w.engine (w.crew crew).orders r
  | poll s p =>
    rw [show (w.resume (.poll s p) r).1.engine = _ from engine_resumePoll w s p r]
    exact p.looked_finish w.engine _ _ r
  | autoSwitch s a =>
    simp only [resume, resumeAutoSwitch, engine_carryOn]
    exact a.looked_resume w.engine _ r
  | recover s x =>
    simp only [resume, engine_finishRun]
    exact Recover.looked_finish w.engine _ r
  | hookWatch s h =>
    simp only [resume, resumeHookWatch, engine_carryOn]
    exact h.looked_resume w.engine _ r
  | keepalive s x =>
    simp only [resume, engine_finishRun]
    exact x.looked_finish w.engine _ r
  | startup s =>
    cases s with
    | loading settings l =>
      exact (l.looked_finish w.engine r).thenKeep
        (fronts_afterLoading (w.onEngine fun e => (l.finish e r).1) settings).sameView
    | refreshing settings x =>
      exact (x.looked_finish w.engine r).thenKeep
        (opens_launch (w.onEngine fun e => (x.finish e r).1) settings).engine.fronts.sameView
    | resetting settings => exact .keep (opens_finishStartup w settings).engine.fronts.sameView.banner
  | turnOff => exact .keep rfl
  | stop => exact .refl _

theorem looked_act (a : Action) : w.engine.Looked (w.act a).engine := by
  cases a with
  | applySnapshot s preserve => exact .applySnapshot w.engine s preserve
  | applyIfChanged s => exact .applyIfChanged w.engine s
  | observeError => exact .observeError w.engine
  | select name => exact .keep (Engine.SameView.select w.engine name).banner
  | reorder names => exact .keep (Engine.SameView.reorderDisplay w.engine names).banner
  | queueOrder crew names =>
    have h := (Engine.SameView.reorderDisplay w.engine names).banner
    cases crew <;> exact .keep h
  | remember m name => exact .keep (Engine.SameView.remember w.engine m name).banner
  | setKeepalive b => exact .keep (directs_setKeepalive w b).engine.fronts.sameView.banner
  | _ => exact .keep rfl

variable {w}

theorem looked_advance {ev : Event} {r : Session × Progress Work Outcome}
    (h : w.advance? ev = some r) : w.engine.Looked r.1.engine := by
  cases stretch_of_advance h with
  | @resume k reply ha => exact looked_resume w k reply
  | start q hq => exact .keep (banner_start (w.spawn .request) q)
  | job s j hf => exact .keep (congrArg Engine.banner (engine_beginJob w s j))
  | flush crew hf => exact .keep (tells_beginFlush w crew).fronts.sameView.banner
  | sync hf => exact .keep rfl

theorem banner_of_quiet {ev : Event} (h : w.advance? ev = none) (ha : ∀ a, ev ≠ .act a) :
    (w.step ev).engine.banner = w.engine.banner := by
  rcases tells_or_passes h ha with ht | ⟨ms, hm⟩
  · exact ht.fronts.sameView.banner
  · rw [hm]

/-- **What a step does to the banner.** -/
theorem looked_step (ev : Event) : w.engine.Looked (w.step ev).engine := by
  by_cases hact : ∃ a, ev = .act a
  · obtain ⟨a, rfl⟩ := hact
    exact looked_act w a
  · cases ha : w.advance? ev with
    | some r =>
      obtain ⟨w', p⟩ := r
      obtain ⟨errand, hs⟩ := step_of_advance ha
      rw [hs, engine_conclude]
      exact looked_advance ha
    | none => exact .keep (banner_of_quiet ha fun a he => hact ⟨a, he⟩)

/-! ## Where a text on the banner comes from -/

/-- A text that the banner did not have before came there as the error of the mode of the moment. -/
theorem displayed_step {ev : Event} {text : String}
    (h : (w.step ev).engine.banner.displayed = some text) :
    w.engine.banner.displayed = some text ∨ (w.step ev).engine.identityError = some text := by
  cases looked_step (w := w) ev with
  | keep hk => exact .inl (hk ▸ h)
  | look hl =>
    obtain ⟨own, howner, rfl | hold⟩ := Banner.displayed_observe (hl ▸ h)
    · exact .inr howner
    · exact .inl hold

/-- **A text on the banner was the error of the mode when it came there**, from a snapshot without
a tag or with that of the mode, and it has been on the banner since: in the same mode, unless an
event has brought another one. When the banner has just looked, there also is an error that
belongs to the mode of now, though it need not be the one that shows. -/
theorem banner_shows_error_of_mode {e : Engine} {events : List Event} {text : String}
    (he : e.banner.displayed = none)
    (h : ((ofEngine e).run (events ++ [.act .observeError])).engine.banner.displayed = some text) :
    (∃ own, ((ofEngine e).run events).engine.identityError = some own) ∧
      ∃ before during, events ++ [.act .observeError] = before ++ during ∧
        ((ofEngine e).run before).engine.identityError = some text ∧
        (∃ m raw, ((ofEngine e).run before).engine.model = some m ∧
          m.snapshot.currentError = some raw ∧ text = IdentityError.format m.snapshot raw ∧
          ∀ tag, m.snapshot.currentErrorMode = some tag →
            tag = ((ofEngine e).run before).engine.mode) ∧
        (∀ done, done <+: during →
          ((ofEngine e).run (before ++ done)).engine.banner.displayed = some text) ∧
        ((∀ ev ∈ during, ∀ m', ev.newMode? = some m' →
            m' = ((ofEngine e).run before).engine.mode) →
          ((ofEngine e).run events).engine.mode = ((ofEngine e).run before).engine.mode) := by
  refine ⟨?_, ?_⟩
  · rw [run_concat] at h
    obtain ⟨own, howner, -⟩ := Banner.displayed_observe h
    exact ⟨own, howner⟩
  · have hsince : Since
        (fun history => ((ofEngine e).run history).engine.banner.displayed = some text)
        (fun history => ((ofEngine e).run history).engine.identityError = some text)
        (events ++ [.act .observeError]) := by
      refine Since.of_step (fun h₀ => ?_) (fun history ev hd => ?_) h
      · cases he.symm.trans h₀
      · rw [run_concat] at hd ⊢
        exact displayed_step hd
    obtain ⟨before, during, hs, hb, hd⟩ := hsince
    refine ⟨before, during, hs, hb, Engine.exists_of_identityError hb, hd, fun hev => ?_⟩
    have hmode := mode_run ((numbered_ofEngine e).run before) rfl hev
    rw [← run_append, ← hs, run_concat] at hmode
    exact hmode

/-- **By then another mode may be the current one.** The error of the GPT mode has come to the
banner; the dashboard of the other mode has an error as well, which must stay the same for a while
before it shows, and until then the banner still has the error of the GPT mode. -/
theorem error_of_former_mode :
    let e : Engine := { Engine.blank with banner := .ofDelay 1200 }
    let ofGpt : Snapshot := { currentError := some "gpt down", currentErrorMode := some .gpt }
    let ofOther : Snapshot :=
      { currentError := some "oc down", currentErrorMode := some .openCode }
    let events : List Event :=
      [.act (.applySnapshot ofGpt false), .act (.advanceClock 1200), .act .observeError,
        .ask (.setMode .openCode), .reply 0 (.fetchDashboard false .openCode) (.ok ofOther)]
    let w := (ofEngine e).run (events ++ [.act .observeError])
    w.engine.mode = .openCode ∧ w.engine.identityError = some "oc down" ∧
      w.engine.banner.displayed = some "gpt down" ∧
      ∃ before during, events ++ [.act .observeError] = before ++ during ∧
        ((ofEngine e).run before).engine.mode = .gpt ∧
        (∃ m raw, ((ofEngine e).run before).engine.model = some m ∧
          m.snapshot.currentError = some raw ∧
          "gpt down" = IdentityError.format m.snapshot raw ∧
          ∀ tag, m.snapshot.currentErrorMode = some tag → tag = .gpt) ∧
        (∀ done, done <+: during →
          ((ofEngine e).run (before ++ done)).engine.banner.displayed = some "gpt down") ∧
        ∃ ev ∈ during, ∃ m', ev.newMode? = some m' ∧ m' ≠ .gpt := by
  intro e ofGpt ofOther events w
  have hshown : w.engine.banner.displayed = some "gpt down" := by decide +kernel
  have hmode : ((ofEngine e).run events).engine.mode = .openCode := by decide +kernel
  -- Of all the moments of the history only those of the GPT mode have that error.
  have hgpt : ∀ before ∈ (events ++ [Event.act .observeError]).inits,
      ((ofEngine e).run before).engine.identityError = some "gpt down" →
        ((ofEngine e).run before).engine.mode = .gpt := by decide +kernel
  obtain ⟨-, before, during, hs, hb, horigin, hd, hstays⟩ :=
    @banner_shows_error_of_mode e events _ rfl hshown
  have hbefore := hgpt before ((List.mem_inits _ _).2 ⟨during, hs.symm⟩) hb
  rw [hbefore] at horigin hstays
  refine ⟨by decide +kernel, by decide +kernel, hshown, before, during, hs, hbefore, horigin, hd,
    ?_⟩
  by_contra hnone
  push Not at hnone
  exact absurd (hmode.symm.trans (hstays hnone)) (by decide)

end Session

end Switchboard
