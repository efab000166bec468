import Switchboard.Session.Step

/-!
# Engines that are the same but for their stores

The store is written and never read while the program runs, and a write that fails is passed over.
So two engines that are the same but for their stores (`Engine.Twin`) stay so whatever a command or a
duty does, and the same comes of it (`Engine.Twins`).
-/

set_option autoImplicit false

namespace Switchboard

universe u

namespace Engine

variable {α : Type} {e e' : Engine}

/-- The engine with another store. -/
def withStore (e : Engine) (s : Store) : Engine := { e with store := s }

/-- The engines are the same but for their stores. -/
def Twin (e e' : Engine) : Prop := ∃ s, e' = e.withStore s

namespace Twin

/-- What does not look at the store is the same for both. -/
theorem congr {β : Sort u} (h : e.Twin e') (f : Engine → β)
    (hf : ∀ (e : Engine) (s : Store), f (e.withStore s) = f e) : f e' = f e := by
  obtain ⟨s, rfl⟩ := h
  exact hf e s

theorem setStatus (h : e.Twin e') (text : String) : (e.setStatus text).Twin (e'.setStatus text) := by
  obtain ⟨s, rfl⟩ := h
  exact ⟨s, rfl⟩

theorem enterBusy (h : e.Twin e') : e.enterBusy.Twin e'.enterBusy := by
  obtain ⟨s, rfl⟩ := h
  exact ⟨s, rfl⟩

theorem leaveBusy (h : e.Twin e') : e.leaveBusy.Twin e'.leaveBusy := by
  obtain ⟨s, rfl⟩ := h
  exact ⟨s, rfl⟩

theorem block (h : e.Twin e') (message : String) : (e.block message).Twin (e'.block message) := by
  obtain ⟨s, rfl⟩ := h
  exact ⟨s, rfl⟩

theorem applySnapshot (h : e.Twin e') (s : Snapshot) (preserve : Bool) :
    (e.applySnapshot s preserve).Twin (e'.applySnapshot s preserve) := by
  obtain ⟨s, rfl⟩ := h
  exact ⟨s, rfl⟩

theorem updateSettings (h : e.Twin e') (change : Settings → Settings) :
    (e.updateSettings change).Twin (e'.updateSettings change) := by
  obtain ⟨s, rfl⟩ := h
  exact ⟨_, rfl⟩

theorem remember (h : e.Twin e') (m : Mode) (name : String) :
    (e.remember m name).Twin (e'.remember m name) := by
  unfold Engine.remember
  cases Text.filled name with
  | none => exact h
  | some n => exact h.updateSettings _

theorem recordSwitch (h : e.Twin e') (s : SwitchEvent) :
    (e.recordSwitch s).Twin (e'.recordSwitch s) := by
  obtain ⟨s, rfl⟩ := h
  exact ⟨_, rfl⟩

theorem applyIfChanged (h : e.Twin e') (s : Snapshot) :
    (e.applyIfChanged s).Twin (e'.applyIfChanged s) := by
  have hd : e'.differs s = e.differs s := h.congr (·.differs s) fun _ _ => rfl
  unfold Engine.applyIfChanged
  rw [hd]
  obtain ⟨st, rfl⟩ := h
  split <;> exact ⟨st, rfl⟩

theorem reorderDisplay (h : e.Twin e') (names : List String) :
    (e.reorderDisplay names).Twin (e'.reorderDisplay names) := by
  have hm : e'.model = e.model := h.congr (·.model) fun _ _ => rfl
  unfold Engine.reorderDisplay
  rw [hm]
  obtain ⟨st, rfl⟩ := h
  split <;> exact ⟨st, rfl⟩

theorem select (h : e.Twin e') (name : String) : (e.select name).Twin (e'.select name) := by
  have hm : e'.model = e.model := h.congr (·.model) fun _ _ => rfl
  unfold Engine.select
  rw [hm]
  obtain ⟨st, rfl⟩ := h
  split <;> exact ⟨st, rfl⟩

end Twin

/-- The same has come of the two, and they are the same but for their stores. -/
def Twins (r r' : Engine × α) : Prop := r.1.Twin r'.1 ∧ r'.2 = r.2

end Engine

open Engine (Twin Twins)

variable {e e' : Engine}

theorem Load.twins_finish (l : Load) (h : e.Twin e') (reply : Except Failure Snapshot) :
    Twins (l.finish e reply) (l.finish e' reply) := by
  unfold finish
  cases reply with
  | error f => exact ⟨(h.setStatus _).leaveBusy, rfl⟩
  | ok s =>
    have hm : e'.reconciled s false = e.reconciled s false :=
      h.congr (·.reconciled s false) fun _ _ => rfl
    have hs := h.applySnapshot s false
    dsimp only
    rw [hm]
    refine ⟨Twin.leaveBusy ?_, rfl⟩
    cases l.message <;> cases IdentityError.shown (e.reconciled s false).snapshot l.mode
    · exact hs
    · exact hs.setStatus _
    · exact hs.setStatus _
    · exact (hs.setStatus _).setStatus _

theorem Dashboard.twins_finish (success failure : String) (h : e.Twin e')
    (reply : Except Failure Snapshot) :
    Twins (finish success failure e reply) (finish success failure e' reply) := by
  obtain ⟨st, rfl⟩ := h
  cases reply <;> exact ⟨⟨st, rfl⟩, rfl⟩

theorem Refresh.twins_begin (name : Option String) (force : Bool) (h : e.Twin e') :
    Twins (begin e name force) (begin e' name force) := by
  have ht : e'.target? name = e.target? name := h.congr (·.target? name) fun _ _ => rfl
  unfold begin
  rw [ht]
  obtain ⟨st, rfl⟩ := h
  split <;> exact ⟨⟨st, rfl⟩, rfl⟩

theorem Refresh.twins_finish (r : Refresh) (h : e.Twin e') (reply : Reply r.call) :
    Twins (r.finish e reply) (r.finish e' reply) := by
  cases r <;> exact Dashboard.twins_finish _ _ h reply

theorem Switch.twins_begin (name : Option String) (h : e.Twin e') :
    Twins (begin e name) (begin e' name) := by
  have ht : e'.target? name = e.target? name := h.congr (·.target? name) fun _ _ => rfl
  unfold begin
  rw [ht]
  obtain ⟨st, rfl⟩ := h
  split <;> exact ⟨⟨st, rfl⟩, rfl⟩

theorem Switch.twins_resume (s : Switch) (h : e.Twin e') (reply : Reply s.call) :
    Twins (s.resume e reply) (s.resume e' reply) := by
  cases s with
  | applying target mode label =>
    cases reply with
    | error f =>
      obtain ⟨st, rfl⟩ := h
      exact ⟨⟨st, rfl⟩, rfl⟩
    | ok snapshot =>
      have hr := ((h.applySnapshot snapshot false).setStatus (switchedText label)).leaveBusy.remember
        mode target
      refine ⟨hr.block _, ?_⟩
      obtain ⟨st, rfl⟩ := h
      rfl
  | calibrating target mode label m =>
    obtain ⟨st, rfl⟩ := h
    cases reply <;> exact ⟨⟨st, rfl⟩, rfl⟩

theorem HookInstall.twins_resume (i : HookInstall) (h : e.Twin e') (reply : Reply i.call) :
    Twins (i.resume e reply) (i.resume e' reply) := by
  cases i with
  | installing =>
    cases reply with
    | error f => exact ⟨(h.setStatus _).leaveBusy, rfl⟩
    | ok message => exact ⟨h, rfl⟩
  | reading message =>
    simp only [resume]
    cases version? reply with
    | none => exact ⟨(h.setStatus _).leaveBusy, rfl⟩
    | some v => exact ⟨((h.updateSettings _).setStatus _).leaveBusy, rfl⟩

theorem Flush.twins_next (q : OrderQueue) (h : e.Twin e') :
    (next q e').1 = (next q e).1 ∧ Twins (next q e).2 (next q e').2 := by
  unfold next
  split
  · exact ⟨rfl, h.setStatus _, rfl⟩
  · exact ⟨rfl, h, rfl⟩

theorem Flush.twins_resume (f : Flush) (q : OrderQueue) (h : e.Twin e') (reply : Reply f.call) :
    (f.resume q e' reply).1 = (f.resume q e reply).1 ∧
      Twins (f.resume q e reply).2 (f.resume q e' reply).2 := by
  cases f with
  | saving names =>
    cases reply with
    | error f =>
      obtain ⟨st, rfl⟩ := h
      exact ⟨rfl, ⟨st, rfl⟩, rfl⟩
    | ok s =>
      refine twins_next _ ?_
      unfold accept
      split
      · exact h.setStatus _
      · exact (h.applySnapshot s false).setStatus _
  | rereading l => exact twins_next _ (l.twins_finish h reply).1

/-! ## Duties -/

theorem Poll.twins_finish (p : Poll) (b : Backoff) (cancelled : Bool) (h : e.Twin e')
    (reply : Except Failure Snapshot) :
    Twins (p.finish e b cancelled reply) (p.finish e' b cancelled reply) := by
  cases reply with
  | error f =>
    obtain ⟨st, rfl⟩ := h
    exact ⟨⟨st, rfl⟩, rfl⟩
  | ok s =>
    have ha := h.applyIfChanged s
    simp only [finish]
    obtain ⟨st, rfl⟩ := h
    change Twins (if (cancelled || e.mode != p.mode) = true then _ else _)
      (if (cancelled || e.mode != p.mode) = true then _ else _)
    split
    · exact ⟨⟨st, rfl⟩, rfl⟩
    · exact ⟨ha, rfl⟩

theorem Recover.twins_finish (cancelled : Bool) (h : e.Twin e')
    (reply : Except Failure RecoverReport) :
    Twins (finish e cancelled reply) (finish e' cancelled reply) := by
  unfold finish
  split
  · exact ⟨h, rfl⟩
  · exact ⟨h, rfl⟩
  · split
    · exact ⟨h.setStatus _, rfl⟩
    · exact ⟨h, rfl⟩

theorem KeepaliveRun.twins_finish (k : KeepaliveRun) (cancelled : Bool) (h : e.Twin e')
    (reply : Except Failure Snapshot) :
    Twins (k.finish e cancelled reply) (k.finish e' cancelled reply) := by
  obtain ⟨st, rfl⟩ := h
  cases cancelled <;> cases reply <;> exact ⟨⟨st, rfl⟩, rfl⟩

theorem HookWatch.twins_conclude (cancelled : Bool) (text : String) (h : e.Twin e') :
    Twins (conclude e cancelled text) (conclude e' cancelled text) := by
  cases cancelled
  · exact ⟨(h.setStatus text).leaveBusy, rfl⟩
  · exact ⟨h.leaveBusy, rfl⟩

theorem HookWatch.twins_compare (current : String) (h : e.Twin e') :
    Twins (compare e current) (compare e' current) := by
  have hv : e'.settings.hookVersion = e.settings.hookVersion :=
    h.congr (·.settings.hookVersion) fun _ _ => rfl
  have hg : e'.isGated = e.isGated := h.congr (·.isGated) fun _ _ => rfl
  unfold compare
  rw [hv, hg]
  split
  · exact ⟨h.updateSettings ({ · with hookVersion := some current }), rfl⟩
  · split
    · exact ⟨h, rfl⟩
    · split
      · exact ⟨h, rfl⟩
      · exact ⟨h.enterBusy, rfl⟩

theorem HookWatch.twins_resume (w : HookWatch) (cancelled : Bool) (h : e.Twin e')
    (reply : Reply w.call) :
    Twins (w.resume e cancelled reply) (w.resume e' cancelled reply) := by
  cases w with
  | checking =>
    simp only [resume]
    split <;> exact ⟨h, rfl⟩
  | reading =>
    simp only [resume, afterReading]
    split
    · exact ⟨h, rfl⟩
    · exact ⟨h, rfl⟩
    · exact twins_compare _ h
  | installing previous current =>
    cases reply with
    | ok message => exact ⟨h, rfl⟩
    | error f =>
      have hc := twins_conclude cancelled
        (found previous current ++ "自动更新 Hook 失败: " ++ f.message) h
      exact ⟨hc.1, congrArg Progress.done hc.2⟩
  | rereading previous current message =>
    have hc := twins_conclude cancelled
      (found previous current ++ "已自动执行“安装/更新方案2 Hook 提速版”。" ++ message)
      (h.updateSettings ({ · with hookVersion := some ((HookInstall.version? reply).getD current) }))
    exact ⟨hc.1, congrArg Progress.done hc.2⟩

theorem Switched.twin_record (s : Switched) (r : Result) (message : Option String) (h : e.Twin e') :
    (s.record e r message).Twin (s.record e' r message) := by
  unfold record
  cases s.target with
  | none => exact h
  | some target => exact h.recordSwitch _

theorem Switched.twin_report (cancelled : Bool) (text : String) (h : e.Twin e') :
    (report e cancelled text).Twin (report e' cancelled text) := by
  cases cancelled
  · exact h.setStatus text
  · exact h

theorem Switched.twin_finishAction (s : Switched) (cancelled : Bool) (r : TextResult)
    (h : e.Twin e') : (s.finishAction e cancelled r).Twin (s.finishAction e' cancelled r) := by
  cases r <;> exact s.twin_record _ _ (twin_report cancelled _ h)

theorem Switched.twin_finishCalibration (s : Switched) (cancelled : Bool)
    (reply : Except Failure Snapshot) (h : e.Twin e') :
    (s.finishCalibration e cancelled reply).Twin (s.finishCalibration e' cancelled reply) := by
  cases reply with
  | error f => exact s.twin_record _ _ (twin_report cancelled _ h)
  | ok snapshot =>
    cases cancelled with
    | true => exact s.twin_record _ _ h
    | false => exact s.twin_record _ _ ((h.applySnapshot snapshot false).setStatus _)

theorem AutoSwitch.twin_adopt (s : Switched) (h : e.Twin e') : (adopt s e).Twin (adopt s e') := by
  unfold adopt
  cases s.target with
  | none => exact h
  | some name => exact (h.remember s.mode name).select name

theorem AutoSwitch.twins_pursue (s : Switched) (h : e.Twin e') :
    Twins (pursue s e) (pursue s e') := by
  have hs : e'.settings = e.settings := h.congr (·.settings) fun _ _ => rfl
  unfold pursue
  split
  · exact ⟨h, by rw [hs]⟩
  · exact ⟨h, rfl⟩
  · exact ⟨h.setStatus _, rfl⟩

theorem AutoSwitch.twins_takeReport (mode : Mode) (r : AutoSwitchReport) (h : e.Twin e') :
    Twins (takeReport mode e r) (takeReport mode e' r) := by
  have hs : switchedOf e' mode r = switchedOf e mode r :=
    h.congr (switchedOf · mode r) fun _ _ => rfl
  -- The twins stay so when the dashboard of the report is taken in, whatever is done next.
  have goesOn {d d' : Engine} (hd : d.Twin d') {quiet quiet' : Engine × Progress AutoSwitch Tick}
      (hq : Twins quiet quiet') :
      Twins (if r.switched then pursue (switchedOf e mode r) (adopt (switchedOf e mode r) d)
          else quiet)
        (if r.switched then pursue (switchedOf e mode r) (adopt (switchedOf e mode r) d')
          else quiet') := by
    split
    · exact twins_pursue _ (twin_adopt _ hd)
    · exact hq
  unfold takeReport
  dsimp only
  rw [hs]
  cases r.dashboard with
  | none =>
    refine goesOn h ?_
    split
    · exact ⟨h.setStatus _, rfl⟩
    · exact ⟨h, rfl⟩
  | some snapshot =>
    refine goesOn (h.applySnapshot snapshot false) ?_
    split
    · exact ⟨(h.applySnapshot snapshot false).setStatus _, rfl⟩
    · exact ⟨h.applySnapshot snapshot false, rfl⟩

theorem AutoSwitch.twins_resume (a : AutoSwitch) (cancelled : Bool) (h : e.Twin e')
    (reply : Reply a.call) :
    Twins (a.resume e cancelled reply) (a.resume e' cancelled reply) := by
  cases a with
  | ticking mode =>
    simp only [resume, afterTick]
    split
    · exact ⟨h, rfl⟩
    · exact ⟨h.setStatus _, rfl⟩
    · exact twins_takeReport mode _ h
  | acting s p =>
    simp only [resume, afterAction]
    split
    · exact ⟨h, rfl⟩
    · exact ⟨s.twin_finishAction cancelled _ h, rfl⟩
  | calibrating s name => exact ⟨s.twin_finishCalibration cancelled reply h, rfl⟩

end Switchboard
