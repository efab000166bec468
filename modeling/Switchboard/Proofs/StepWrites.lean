import Switchboard.Proofs.Footing
import Switchboard.Proofs.ModelWrites

/-!
# What a step does to the model

`Session.writes` lists what an event does to the model: what a caller does at once, and the
snapshots that replies bring, as far as they are taken in. A poll that was called off or whose mode
has passed takes in nothing, nor does an order's save while another order waits, nor a background
duty that was called off.

* `Session.model_step` — these writes, in the mode and with the remembered profile of the session
  before the step, are all that becomes of the model.
* `Session.wellFormed_run` — hence every model of a run is well formed.
-/

set_option autoImplicit false

namespace Switchboard

namespace ModelWrite

/-- A dashboard that a command has asked for is applied. -/
def ofReply : Except Failure Snapshot → List ModelWrite
  | .ok s => [.apply s false]
  | .error _ => []

/-- What writes make of the model one after another. -/
def results (m : Mode) (remembered : Option String) (before : Option Model)
    (xs : List ModelWrite) : Option Model := xs.foldl (result m remembered) before

end ModelWrite

open ModelWrite

/-- What the reply to a refresh does to the model. -/
def Refresh.writes : (r : Refresh) → Reply r.call → List ModelWrite
  | .one _ _ _ _, reply => ofReply reply
  | .all _ _, reply => ofReply reply
  | .tokens, reply => ofReply reply

/-- What the reply to a switch does to the model. -/
def Switch.writes : (s : Switch) → Reply s.call → List ModelWrite
  | .applying _ _ _, reply => ofReply reply
  | .calibrating _ _ _ _, reply => ofReply reply

/-- What the reply to a save does to the model. -/
def Flush.writes (q : OrderQueue) : (f : Flush) → Reply f.call → List ModelWrite
  | .saving _, reply => if q.pending.isSome then [] else ofReply reply
  | .rereading _, reply => ofReply reply

/-- What the reply to a poll does to the model. -/
def Poll.writes (p : Poll) (e : Engine) (cancelled : Bool) :
    Except Failure Snapshot → List ModelWrite
  | .ok s => if cancelled || e.mode != p.mode then [] else [.applyIfChanged s]
  | .error _ => []

/-- What a report of automatic switching does to the model: its dashboard is applied, and the
profile that is in use now is selected. -/
def AutoSwitchReport.writes (r : AutoSwitchReport) : List ModelWrite :=
  (r.dashboard.map (ModelWrite.apply · false)).toList ++
    if r.switched then ((Text.filled? r.switchedTo).map .select).toList else []

/-- What the reply to a run of automatic switching does to the model. -/
def AutoSwitch.writes (cancelled : Bool) : (a : AutoSwitch) → Reply a.call → List ModelWrite
  | .ticking _, reply =>
    match cancelled, reply with
    | false, .ok r => r.writes
    | _, _ => []
  | .acting _ _, _ => []
  | .calibrating _ _, reply => if cancelled then [] else ofReply reply

/-- What a reply to the start of the runtime does to the model. -/
def Startup.writes : (s : Startup) → Reply s.call → List ModelWrite
  | .loading _ _, reply => ofReply reply
  | .refreshing _ r, reply => r.writes reply
  | .resetting _, _ => []

/-- What a caller does to the model at once. -/
def Action.writes : Action → List ModelWrite
  | .applySnapshot s preserve => [.apply s preserve]
  | .applyIfChanged s => [.applyIfChanged s]
  | .select name => [.select name]
  | .reorder names | .queueOrder _ names => [.reorder names]
  | _ => []

namespace Session

/-- What a reply does to the model. -/
def replyWrites (w : Session) : (k : Work) → Reply k.call → List ModelWrite
  | .load _, reply => ofReply reply
  | .refresh r, reply => r.writes reply
  | .switch s, reply => s.writes reply
  | .flush crew f, reply => f.writes (w.crew crew).orders reply
  | .poll s p, reply => p.writes w.engine (w.isCancelled s.scope) reply
  | .autoSwitch s a, reply => a.writes (w.isCancelled s.scope) reply
  | .keepalive s _, reply => if w.isCancelled s.scope then [] else ofReply reply
  | .startup s, reply => s.writes reply
  | _, _ => []

/-- What an event does to the model. -/
def writes (w : Session) (ev : Event) : List ModelWrite :=
  match ev with
  | .act a => a.writes
  | ev =>
    match w.answered? ev with
    | some a => w.replyWrites a.1 a.2
    | none => []

end Session

/-! ## Commands and duties -/

namespace Engine

variable (e : Engine)

/-- What writes make of the engine's model, in the light the engine is in. -/
def modelAfter (xs : List ModelWrite) : Option Model :=
  results e.mode e.settings.rememberedNow e.model xs

@[simp] theorem modelAfter_nil : e.modelAfter [] = e.model := rfl

@[simp] theorem model_remember (m : Mode) (name : String) :
    (e.remember m name).model = e.model := by
  unfold remember
  split <;> rfl

@[simp] theorem model_block (message : String) : (e.block message).model = e.model := rfl

end Engine

theorem Load.model_finish (l : Load) (e : Engine) (reply : Except Failure Snapshot) :
    (l.finish e reply).1.model = e.modelAfter (ofReply reply) := by
  cases reply with
  | error f => rfl
  | ok s =>
    unfold finish
    dsimp only
    split <;> split <;> rfl

theorem Dashboard.model_finish (success failure : String) (e : Engine)
    (reply : Except Failure Snapshot) :
    (Dashboard.finish success failure e reply).1.model = e.modelAfter (ofReply reply) := by
  cases reply <;> rfl

theorem Refresh.model_finish (r : Refresh) (e : Engine) (reply : Reply r.call) :
    (r.finish e reply).1.model = e.modelAfter (r.writes reply) := by
  cases r <;> exact Dashboard.model_finish _ _ e reply

theorem Switch.model_resume (s : Switch) (e : Engine) (reply : Reply s.call) :
    (s.resume e reply).1.model = e.modelAfter (s.writes reply) := by
  cases s with
  | applying target mode label =>
    have h := Dashboard.model_finish (switchedText label) (switchedText label ++ "失败") e reply
    simp only [resume, afterApply, writes]
    split
    · rename_i e' f he
      rw [he] at h
      exact h
    · rename_i e' m he
      rw [he] at h
      rw [Engine.model_block, Engine.model_remember]
      exact h
  | calibrating target mode label m =>
    dsimp only [resume, afterCalibration, writes]
    split <;> rfl

theorem Flush.model_next (q : OrderQueue) (e : Engine) : (next q e).2.1.model = e.model := by
  unfold next
  split <;> rfl

theorem Flush.model_resume (q : OrderQueue) (f : Flush) (e : Engine) (reply : Reply f.call) :
    (f.resume q e reply).2.1.model = e.modelAfter (f.writes q reply) := by
  cases f with
  | saving names =>
    cases reply with
    | error f => simp only [resume, writes, ofReply]; split <;> rfl
    | ok s =>
      simp only [resume, release, model_next, accept, writes]
      split <;> rfl
  | rereading l =>
    simp only [resume, release, model_next, writes]
    exact l.model_finish e reply

theorem Poll.model_finish (p : Poll) (e : Engine) (b : Backoff) (cancelled : Bool)
    (reply : Except Failure Snapshot) :
    (p.finish e b cancelled reply).1.model = e.modelAfter (p.writes e cancelled reply) := by
  cases reply with
  | error f => rfl
  | ok s =>
    simp only [finish, writes]
    split
    · rfl
    · exact e.model_write (.applyIfChanged s)

theorem Switched.model_record (s : Switched) (e : Engine) (r : Result) (message : Option String) :
    (s.record e r message).model = e.model := by
  unfold record
  split <;> rfl

theorem Switched.model_report (e : Engine) (cancelled : Bool) (text : String) :
    (report e cancelled text).model = e.model := by
  unfold report
  split <;> rfl

theorem AutoSwitch.model_adopt (s : Switched) (e : Engine) :
    (adopt s e).model =
      match s.target with
      | none => e.model
      | some name => (e.model.bind (·.select? name)).or e.model := by
  unfold adopt
  cases s.target with
  | none => rfl
  | some name => simp

theorem AutoSwitch.model_pursue (s : Switched) (e : Engine) : (pursue s e).1.model = e.model := by
  unfold pursue
  split <;> rfl

theorem AutoSwitch.model_takeReport (mode : Mode) (e : Engine) (r : AutoSwitchReport) :
    (takeReport mode e r).1.model = e.modelAfter r.writes := by
  -- The dashboard comes first, so that the selection is made among its profiles.
  have afterDashboard (e' : Engine)
      (he : e'.model = e.modelAfter (r.dashboard.map (ModelWrite.apply · false)).toList)
      {quiet : Engine × Progress AutoSwitch Tick} (hq : quiet.1.model = e'.model) :
      (if r.switched then pursue (switchedOf e mode r) (adopt (switchedOf e mode r) e')
        else quiet).1.model = e.modelAfter r.writes := by
    simp only [AutoSwitchReport.writes]
    split
    · rw [model_pursue, model_adopt, he]
      simp only [switchedOf, Engine.modelAfter, results, List.foldl_append]
      cases Text.filled? r.switchedTo with
      | none => rfl
      | some name => simp [result]
    · rw [List.append_nil, ← he, hq]
  unfold takeReport
  cases hd : r.dashboard with
  | none =>
    refine afterDashboard e (by simp [hd]) ?_
    split <;> rfl
  | some s =>
    refine afterDashboard (e.applySnapshot s false) (by simp [hd]; rfl) ?_
    split <;> rfl

theorem AutoSwitch.model_resume (a : AutoSwitch) (e : Engine) (cancelled : Bool)
    (reply : Reply a.call) :
    (a.resume e cancelled reply).1.model = e.modelAfter (a.writes cancelled reply) := by
  cases a with
  | ticking mode =>
    cases cancelled with
    | true => rfl
    | false =>
      cases reply with
      | error f => rfl
      | ok r => exact model_takeReport mode e r
  | acting s p =>
    simp only [resume, writes]
    generalize p.resume reply = progress
    cases progress with
    | waiting p => rfl
    | done r =>
      cases r <;>
        simp [afterAction, Switched.finishAction, Switched.model_record, Switched.model_report]
  | calibrating s name =>
    cases reply with
    | error f =>
      simp [resume, writes, Switched.finishCalibration, Switched.model_record,
        Switched.model_report, ofReply]
    | ok snapshot =>
      cases cancelled with
      | true =>
        simp [resume, writes, Switched.finishCalibration, Switched.model_record,
          Switched.model_report]
      | false =>
        simp only [resume, writes, Switched.finishCalibration, Switched.model_record,
          Switched.model_report]
        rfl

theorem KeepaliveRun.model_finish (k : KeepaliveRun) (e : Engine) (cancelled : Bool)
    (reply : Except Failure Snapshot) :
    (k.finish e cancelled reply).1.model =
      e.modelAfter (if cancelled then [] else ofReply reply) := by
  cases cancelled <;> cases reply <;> rfl

theorem Recover.model_finish (e : Engine) (cancelled : Bool)
    (reply : Except Failure RecoverReport) :
    (Recover.finish e cancelled reply).1.model = e.model := by
  unfold finish
  split
  · rfl
  · rfl
  · split <;> rfl

theorem HookInstall.model_resume (h : HookInstall) (e : Engine) (reply : Reply h.call) :
    (h.resume e reply).1.model = e.model := by
  cases h with
  | installing => cases reply <;> rfl
  | reading message =>
    simp only [resume]
    split <;> rfl

theorem HookWatch.model_compare (e : Engine) (current : String) :
    (compare e current).1.model = e.model := by
  unfold compare
  split
  · rfl
  · split
    · rfl
    · split <;> rfl

theorem HookWatch.model_conclude (e : Engine) (cancelled : Bool) (text : String) :
    (conclude e cancelled text).1.model = e.model := by
  unfold conclude
  split <;> rfl

theorem HookWatch.model_resume (h : HookWatch) (e : Engine) (cancelled : Bool)
    (reply : Reply h.call) : (h.resume e cancelled reply).1.model = e.model := by
  cases h with
  | checking =>
    simp only [resume]
    split <;> rfl
  | reading =>
    simp only [resume, afterReading]
    split
    · rfl
    · rfl
    · exact model_compare e _
  | installing previous current =>
    cases reply with
    | ok message => rfl
    | error f => exact model_conclude e cancelled _
  | rereading previous current message => exact model_conclude _ cancelled _

/-! ## Steps -/

namespace Session

/-- Nothing that is asked for touches the model at once. -/
theorem model_start (w : Session) (r : Request) :
    (w.start r).1.engine.model = w.engine.model := by
  have hs : (r.setting w.engine).model = w.engine.model := by cases r <;> rfl
  rw [← hs]
  exact (fronts_start w r).congr Engine.model fun _ _ _ _ _ => rfl

theorem model_resume (w : Session) (k : Work) (r : Reply k.call) :
    (w.resume k r).1.engine.model = w.engine.modelAfter (w.replyWrites k r) := by
  cases k with
  | load l => exact l.model_finish w.engine r
  | refresh x => exact x.model_finish w.engine r
  | switch s =>
    simp only [resume, engine_embed]
    exact s.model_resume w.engine r
  | manualAction p =>
    simp only [resume, resumeManual]
    split
    · rfl
    · rename_i r' _
      cases r' <;> rfl
  | bareAction p =>
    simp only [resume, engine_embed]
    rfl
  | hookInstall h =>
    simp only [resume, engine_embed]
    exact h.model_resume w.engine r
  | flush crew f =>
    simp only [resume, engine_embedFlush]
    exact f.model_resume (w.crew crew).orders w.engine r
  | poll s p =>
    have h := p.model_finish w.engine (w.crew s.crew).backoff (w.isCancelled s.scope) r
    exact (congrArg Engine.model (engine_resumePoll w s p r)).trans h
  | autoSwitch s a =>
    simp only [resume, resumeAutoSwitch, engine_carryOn]
    exact a.model_resume w.engine (w.isCancelled s.scope) r
  | recover s x =>
    simp only [resume, engine_finishRun]
    exact Recover.model_finish w.engine (w.isCancelled s.scope) r
  | hookWatch s h =>
    simp only [resume, resumeHookWatch, engine_carryOn]
    exact h.model_resume w.engine (w.isCancelled s.scope) r
  | keepalive s x =>
    simp only [resume, engine_finishRun]
    exact x.model_finish w.engine (w.isCancelled s.scope) r
  | startup s =>
    cases s with
    | loading settings l =>
      have h := fronts_afterLoading (w.onEngine fun e => (l.finish e r).1) settings
      exact (h.congr Engine.model fun _ _ _ _ _ => rfl).trans (l.model_finish w.engine r)
    | refreshing settings x =>
      exact (opens_launch _ settings).engine.alike.model.trans (x.model_finish w.engine r)
    | resetting settings => exact (opens_finishStartup w settings).engine.alike.model
  | turnOff => rfl
  | stop => rfl

theorem model_act (w : Session) (a : Action) :
    (w.act a).engine.model = w.engine.modelAfter a.writes := by
  cases a with
  | applySnapshot s preserve => exact w.engine.model_write (.apply s preserve)
  | applyIfChanged s => exact w.engine.model_write (.applyIfChanged s)
  | select name => exact w.engine.model_write (.select name)
  | reorder names => exact w.engine.model_write (.reorder names)
  | queueOrder crew names =>
    cases crew <;> exact w.engine.model_write (.reorder names)
  | remember m name => exact w.engine.model_remember m name
  | setKeepalive b => exact (alike_setKeepalive w b).model
  | _ => rfl

theorem model_advance {w : Session} {ev : Event} {r : Session × Progress Work Outcome}
    (h : w.advance? ev = some r) (ha : w.answered? ev = none) :
    r.1.engine.model = w.engine.model := by
  cases stretch_of_advance h with
  | resume hk =>
    rw [ha] at hk
    cases hk
  | start q hq => exact model_start (w.spawn .request) q
  | job s j hf => exact congrArg Engine.model (engine_beginJob w s j)
  | flush crew hf => exact (tells_beginFlush w crew).alike.model
  | sync hf => rfl

theorem writes_of_not_act {w : Session} {ev : Event} (h : ∀ a, ev ≠ .act a) :
    w.writes ev = match w.answered? ev with | some a => w.replyWrites a.1 a.2 | none => [] := by
  cases ev with
  | act a => exact absurd rfl (h a)
  | _ => rfl

theorem writes_of_answered {w : Session} {ev : Event} {a : (k : Work) × Reply k.call}
    (h : w.answered? ev = some a) : w.writes ev = w.replyWrites a.1 a.2 := by
  have hact : ∀ x, ev ≠ .act x := by
    rintro x rfl
    cases h
  rw [writes_of_not_act hact, h]

/-- **All that becomes of the model in a step** are the writes of its event, in the mode and with
the remembered profile of the session before the step. -/
theorem model_step {w : Session} (hw : w.Numbered) (ev : Event) :
    (w.step ev).engine.model = w.engine.modelAfter (w.writes ev) := by
  by_cases hact : ∃ a, ev = .act a
  · obtain ⟨a, rfl⟩ := hact
    exact model_act w a
  rw [writes_of_not_act fun a he => hact ⟨a, he⟩]
  cases ha : w.answered? ev with
  | some a =>
    obtain ⟨k, r⟩ := a
    obtain ⟨-, errand, -, hs⟩ := step_of_answered ha
    rw [hs, model_conclude]
    exact model_resume w k r
  | none =>
    cases h : w.advance? ev with
    | some a =>
      obtain ⟨errand, hs⟩ := step_of_advance h
      rw [hs, model_conclude]
      exact model_advance h ha
    | none => exact (still_of_quiet hw h fun a he => hact ⟨a, he⟩).model

/-- **Every model of a run is well formed.** -/
theorem wellFormed_run {w : Session} (hw : w.Numbered)
    (hm : ∀ m, w.engine.model = some m → m.WellFormed) (events : List Event) :
    ∀ m, (w.run events).engine.model = some m → m.WellFormed := by
  refine hw.run_induction (P := fun w => ∀ m, w.engine.model = some m → m.WellFormed)
    (fun w ev hw hm => ?_) hm events
  rw [model_step hw]
  have key (xs : List ModelWrite) : ∀ before : Option Model, (∀ b, before = some b → b.WellFormed) →
      ∀ m, results w.engine.mode w.engine.settings.rememberedNow before xs = some m →
        m.WellFormed := by
    induction xs with
    | nil => exact fun _ hb => hb
    | cons x xs ih => exact fun before hb => ih _ fun b h => wellFormed_result hb h
  exact key _ _ hm

end Session

end Switchboard
