import Switchboard.Proofs.Surface

/-!
# The mode and the gates

The mode and the two gates are the footing on which all work starts. Work holds the busy gate,
covers the screen and has been asked for in a mode (`Work.stake`), and what it does to the footing
when it goes on depends on nothing but its stakes before and after (`Footing.Handover`).

* `Session.handover_resume`, `Session.handover_start` — a command or a duty that goes on, or begins,
  hands the footing over; the mode changes only where a caller changes it.
* `Session.mode_step` — so the mode after a step is the one that its event brings, or the one before.
-/

set_option autoImplicit false

namespace Switchboard

/-- The mode and the gates. -/
structure Footing where
  mode : Mode
  busy : BusyGate
  blocking : BlockingGate

namespace Footing

/-- The busy gate is held once more. -/
def enter (f : Footing) : Footing := { f with busy := f.busy.enter }

/-- One hold of the busy gate is given back. -/
def leave (f : Footing) : Footing := { f with busy := f.busy.leave }

/-- The screen is covered with a message. -/
def cover (f : Footing) (message : String) : Footing :=
  { f with blocking := f.blocking.enter message }

/-- The screen is uncovered. -/
def uncover (f : Footing) : Footing := { f with blocking := f.blocking.leave }

end Footing

/-- What work has at stake: whether it holds the busy gate, whether it covers the screen, and the
mode that its call is made in. -/
structure Stake where
  holds : Bool := false
  covers : Bool := false
  mode? : Option Mode := none

/-- The mode that a call is made in. -/
def Call.mode? : Call → Option Mode
  | fetchDashboard _ m | applyProfile _ m | refreshQuota _ m _ | refreshAllQuota m _
  | autoSwitchTick m | recoverTick m => some m
  | _ => none

/-- A load holds the busy gate. -/
def Load.stake (l : Load) : Stake := { holds := true, mode? := some l.mode }

/-- A refresh holds the busy gate. -/
def Refresh.stake (r : Refresh) : Stake := { holds := true, mode? := r.call.mode? }

/-- A switch covers the screen, and holds the busy gate while the profile is applied. -/
def Switch.stake : Switch → Stake
  | .applying _ m _ => { holds := true, covers := true, mode? := some m }
  | .calibrating _ m _ _ => { covers := true, mode? := some m }

/-- A save holds the busy gate while it reads back. -/
def Flush.stake : Flush → Stake
  | .saving _ => {}
  | .rereading l => l.stake

/-- A run of automatic switching holds nothing. -/
def AutoSwitch.stake (a : AutoSwitch) : Stake := { mode? := a.call.mode? }

/-- The hook watch holds the busy gate while it installs. -/
def HookWatch.stake : HookWatch → Stake
  | .checking | .reading => {}
  | .installing _ _ | .rereading _ _ _ => { holds := true }

/-- The start of the runtime holds the busy gate while it brings the dashboard. -/
def Startup.stake : Startup → Stake
  | .loading _ l => l.stake
  | .refreshing _ r => r.stake
  | .resetting _ => {}

/-- What work has at stake. -/
def Work.stake : Work → Stake
  | load l => l.stake
  | refresh r => r.stake
  | switch s => s.stake
  | manualAction _ | hookInstall _ => { holds := true }
  | flush _ f => f.stake
  | poll _ p => { mode? := some p.mode }
  | autoSwitch _ a => a.stake
  | recover _ r => { mode? := some r.mode }
  | hookWatch _ h => h.stake
  | startup s => s.stake
  | bareAction _ | keepalive _ _ | turnOff | stop => {}

/-- The mode at stake is that of the call. -/
theorem Work.mode?_stake (k : Work) : k.stake.mode? = k.call.mode? := by
  cases k with
  | switch s => cases s <;> rfl
  | manualAction p | bareAction p => cases p <;> rfl
  | hookInstall h => cases h <;> rfl
  | flush crew f => cases f <;> rfl
  | hookWatch s h => cases h <;> rfl
  | startup s => cases s <;> rfl
  | _ => rfl

/-- What an activity has at stake, if it waits. -/
def Progress.stake {σ ρ : Type} (f : σ → Stake) : Progress σ ρ → Stake
  | waiting s => f s
  | done _ => {}

/-! ## Handing over -/

/-- The footing as work leaves it that had this much at stake before and that much after: the gate
is held as often more or less as the work holds it, the screen is covered if the work covers it,
uncovered if it has done so until now, and otherwise as before. What is asked for next is asked for
in the mode of the moment or in the mode of the call before. -/
structure Footing.Handover (f : Footing) (before after : Stake) (f' : Footing) : Prop where
  mode : f'.mode = f.mode
  busy : before.holds.toNat ≤ f.busy.holders →
    f'.busy.holders + before.holds.toNat = f.busy.holders + after.holds.toNat
  blocking : f'.blocking.isBlocking = (after.covers || !before.covers && f.blocking.isBlocking)
  asked : ∀ m, after.mode? = some m → m = f.mode ∨ before.mode? = some m

namespace Footing.Handover

variable {f f' f'' : Footing} {before between after : Stake}

/-- Work goes on as it is. -/
theorem same (hh : after.holds = before.holds) (hc : before.covers = false)
    (hc' : after.covers = false)
    (hm : ∀ m, after.mode? = some m → m = f.mode ∨ before.mode? = some m) :
    f.Handover before after f where
  mode := rfl
  busy _ := by rw [hh]
  blocking := by simp [hc, hc']
  asked := hm

/-- Nothing is at stake. -/
theorem refl (f : Footing) : f.Handover {} {} f := same rfl rfl rfl nofun

/-- One piece of work is done, and another begins. -/
theorem andThen (h : f.Handover before {} f') (h' : f'.Handover {} after f'') :
    f.Handover before after f'' where
  mode := h'.mode.trans h.mode
  busy hb := by
    have h₁ := h.busy hb
    have h₂ := h'.busy (Nat.zero_le _)
    simp only [Bool.toNat_false, Nat.add_zero] at h₁ h₂
    omega
  blocking := by
    have h₁ := h.blocking
    have h₂ := h'.blocking
    simp only [Bool.false_or, Bool.not_false, Bool.true_and] at h₁ h₂
    rw [h₂, h₁]
  asked m hm := by
    rcases h'.asked m hm with hm' | hm'
    · exact .inl (hm'.trans h.mode)
    · cases hm'

/-- Work that takes the busy gate. -/
theorem enter (hh : before.holds = false) (hc : before.covers = false) (hh' : after.holds = true)
    (hc' : after.covers = false) (hm : ∀ m, after.mode? = some m → m = f.mode) :
    f.Handover before after f.enter where
  mode := rfl
  busy _ := by simp [hh, hh', Footing.enter, BusyGate.enter]
  blocking := by simp [hc, hc', Footing.enter]
  asked m h := .inl (hm m h)

theorem busy_leave {g : BusyGate} (hh : before.holds = true) (hh' : after.holds = false)
    (hb : before.holds.toNat ≤ g.holders) :
    g.leave.holders + before.holds.toNat = g.holders + after.holds.toNat := by
  simp only [hh, hh', Bool.toNat_true, Bool.toNat_false, BusyGate.leave] at hb ⊢
  omega

/-- Work that gives the busy gate back and is done. -/
theorem leave (hh : before.holds = true) (hc : before.covers = false) :
    f.Handover before {} f.leave where
  mode := rfl
  busy := busy_leave hh rfl
  blocking := by simp [hc, Footing.leave]
  asked := nofun

end Footing.Handover

/-! ## What the engine does to its footing -/

namespace Engine

variable (e : Engine)

/-- The footing of the engine. -/
def footing : Footing := ⟨e.mode, e.busy, e.blocking⟩

@[simp] theorem footing_setStatus (text : String) : (e.setStatus text).footing = e.footing := rfl

@[simp] theorem footing_enterBusy : e.enterBusy.footing = e.footing.enter := rfl

@[simp] theorem footing_leaveBusy : e.leaveBusy.footing = e.footing.leave := rfl

@[simp] theorem footing_block (message : String) :
    (e.block message).footing = e.footing.cover message := rfl

@[simp] theorem footing_unblock : e.unblock.footing = e.footing.uncover := rfl

@[simp] theorem footing_setHookVersion (version : String) :
    (e.setHookVersion version).footing = e.footing := rfl

@[simp] theorem footing_remember (m : Mode) (name : String) :
    (e.remember m name).footing = e.footing := by
  unfold remember
  split <;> rfl

@[simp] theorem footing_applySnapshot (s : Snapshot) (preserve : Bool) :
    (e.applySnapshot s preserve).footing = e.footing := rfl

@[simp] theorem footing_applyIfChanged (s : Snapshot) :
    (e.applyIfChanged s).footing = e.footing := by
  unfold applyIfChanged
  split <;> rfl

@[simp] theorem footing_reorderDisplay (names : List String) :
    (e.reorderDisplay names).footing = e.footing := by
  unfold reorderDisplay
  split <;> rfl

@[simp] theorem footing_select (name : String) : (e.select name).footing = e.footing := by
  unfold select
  split <;> rfl

@[simp] theorem footing_recordSwitch (s : SwitchEvent) :
    (e.recordSwitch s).footing = e.footing := rfl

end Engine

/-! ## Commands -/

variable {e : Engine}

theorem Load.handover_begin (sync : Bool) (message : Option String) (limit : Option UInt64) :
    e.footing.Handover {} (Load.begin e sync message limit).2.stake
      (Load.begin e sync message limit).1.footing :=
  .enter rfl rfl rfl rfl fun _ h => (Option.some.inj h).symm

theorem Load.footing_finish (l : Load) (reply : Except Failure Snapshot) :
    (l.finish e reply).1.footing = e.footing.leave := by
  cases reply with
  | error f => rfl
  | ok s =>
    simp only [finish]
    split <;> split <;> rfl

theorem Load.handover_finish (l : Load) (reply : Except Failure Snapshot) :
    e.footing.Handover l.stake {} (l.finish e reply).1.footing := by
  rw [Load.footing_finish]
  exact .leave rfl rfl

theorem Dashboard.footing_finish (success failure : String) (reply : Except Failure Snapshot) :
    (Dashboard.finish success failure e reply).1.footing = e.footing.leave := by
  cases reply <;> rfl

theorem Refresh.handover_beginAll (force : Bool) :
    e.footing.Handover {} (beginAll e force).2.stake (beginAll e force).1.footing :=
  .enter rfl rfl rfl rfl fun _ h => (Option.some.inj h).symm

theorem Refresh.handover_beginTokens :
    e.footing.Handover {} (beginTokens e).2.stake (beginTokens e).1.footing :=
  .enter rfl rfl rfl rfl nofun

theorem Refresh.handover_begin (name : Option String) (force : Bool) :
    e.footing.Handover {} ((begin e name force).2.stake Refresh.stake)
      (begin e name force).1.footing := by
  unfold begin
  split
  · exact .refl _
  · exact .enter rfl rfl rfl rfl fun _ h => (Option.some.inj h).symm

theorem Refresh.handover_finish (r : Refresh) (reply : Reply r.call) :
    e.footing.Handover r.stake {} (r.finish e reply).1.footing := by
  have h : (r.finish e reply).1.footing = e.footing.leave := by
    cases r <;> exact Dashboard.footing_finish _ _ reply
  rw [h]
  exact .leave rfl rfl

theorem Switch.handover_begin (name : Option String) :
    e.footing.Handover {} ((begin e name).2.stake Switch.stake) (begin e name).1.footing := by
  unfold begin
  split
  · exact .refl _
  · exact
      { mode := rfl
        busy := fun _ => rfl
        blocking := rfl
        asked := fun _ h => .inl (Option.some.inj h).symm }

/-- The second call of a switch is made in the mode of the first. -/
theorem Switch.handover_resume (s : Switch) (reply : Reply s.call) :
    e.footing.Handover s.stake ((s.resume e reply).2.stake Switch.stake)
      (s.resume e reply).1.footing := by
  cases s with
  | applying target mode label =>
    have hf := Dashboard.footing_finish (e := e) (switchedText label) (switchedText label ++ "失败")
      reply
    simp only [resume, afterApply]
    split
    · rename_i e' f he
      rw [he] at hf
      rw [Engine.footing_unblock, hf]
      exact ⟨rfl, Footing.Handover.busy_leave rfl rfl, rfl, nofun⟩
    · rename_i e' m he
      rw [he] at hf
      rw [Engine.footing_block, Engine.footing_remember, hf]
      exact ⟨rfl, Footing.Handover.busy_leave rfl rfl, rfl, fun m hm => .inr hm⟩
  | calibrating target mode label m =>
    have hf : (afterCalibration label m e reply).1.footing = e.footing.uncover := by
      unfold afterCalibration
      split <;> rfl
    simp only [resume]
    rw [hf]
    exact ⟨rfl, fun _ => rfl, rfl, nofun⟩

theorem Manual.footing_finish (r : TextResult) :
    (Manual.finish e r).footing = e.footing.leave := by
  cases r <;> rfl

theorem HookInstall.handover_resume (h : HookInstall) (reply : Reply h.call) :
    e.footing.Handover { holds := true }
      ((h.resume e reply).2.stake fun _ => { holds := true }) (h.resume e reply).1.footing := by
  cases h with
  | installing =>
    cases reply with
    | error f => exact .leave rfl rfl
    | ok message => exact .same rfl rfl rfl nofun
  | reading message =>
    have hf : ((reading message).resume e reply).1.footing = e.footing.leave := by
      simp only [resume]
      split <;> rfl
    rw [hf]
    exact .leave rfl rfl

theorem Flush.footing_next (q : OrderQueue) : (next q e).2.1.footing = e.footing := by
  unfold next
  split <;> rfl

theorem Flush.handover_next (q : OrderQueue) :
    e.footing.Handover {} ((next q e).2.2.stake Flush.stake) (next q e).2.1.footing := by
  rw [footing_next]
  unfold next
  split <;> exact .refl _

theorem Flush.handover_resume (q : OrderQueue) (f : Flush) (reply : Reply f.call) :
    e.footing.Handover f.stake ((f.resume q e reply).2.2.stake Flush.stake)
      (f.resume q e reply).2.1.footing := by
  cases f with
  | saving names =>
    cases reply with
    | error f => exact .enter rfl rfl rfl rfl fun _ h => (Option.some.inj h).symm
    | ok s =>
      have hf : (accept q e s).footing = e.footing := by
        unfold accept
        split <;> rfl
      have hn := handover_next (e := accept q e s) { q with saving := q.saving.finish }
      rw [hf] at hn
      exact hn
  | rereading l => exact (l.handover_finish reply).andThen (handover_next _)

/-! ## Duties -/

theorem Poll.footing_finish (p : Poll) (b : Backoff) (cancelled : Bool)
    (reply : Except Failure Snapshot) : (p.finish e b cancelled reply).1.footing = e.footing := by
  cases reply with
  | error f => rfl
  | ok s =>
    simp only [finish]
    split
    · rfl
    · exact e.footing_applyIfChanged s

theorem Switched.footing_record (s : Switched) (r : Result) (message : Option String) :
    (s.record e r message).footing = e.footing := by
  unfold record
  split <;> rfl

theorem Switched.footing_report (cancelled : Bool) (text : String) :
    (report e cancelled text).footing = e.footing := by
  unfold report
  split <;> rfl

theorem AutoSwitch.footing_adopt (s : Switched) : (adopt s e).footing = e.footing := by
  unfold adopt
  split <;> simp

/-- The action after a switch is asked for in no mode. -/
theorem PostSwitch.mode?_call (p : PostSwitch) : p.call.mode? = none := by
  cases p <;> rfl

theorem AutoSwitch.handover {e' : Engine} (he : e'.footing = e.footing) {a : AutoSwitch}
    {p : Progress AutoSwitch Tick}
    (hm : ∀ m, (p.stake AutoSwitch.stake).mode? = some m → a.stake.mode? = some m) :
    e.footing.Handover a.stake (p.stake AutoSwitch.stake) e'.footing := by
  rw [he]
  cases p with
  | waiting b => exact .same rfl rfl rfl fun m h => .inr (hm m h)
  | done t => exact .same rfl rfl rfl nofun

/-- A switch is followed up in the mode of the question. -/
theorem AutoSwitch.handover_pursue {e' : Engine} (he : e'.footing = e.footing) (s : Switched) :
    e.footing.Handover (ticking s.mode).stake ((pursue s e').2.stake AutoSwitch.stake)
      (pursue s e').1.footing := by
  unfold pursue
  split
  · exact handover he nofun
  · rename_i name hmode htarget
    refine handover he fun m h => ?_
    rw [hmode]
    exact h
  · exact handover (a := ticking s.mode) (p := .done .ran) he nofun

theorem AutoSwitch.handover_takeReport (mode : Mode) (r : AutoSwitchReport) :
    e.footing.Handover (ticking mode).stake ((takeReport mode e r).2.stake AutoSwitch.stake)
      (takeReport mode e r).1.footing := by
  -- The dashboard of the report leaves the footing alone, whatever is done next.
  have goOn (e' : Engine) (he : e'.footing = e.footing) {quiet : Engine × Progress AutoSwitch Tick}
      (hq : quiet.1.footing = e.footing) (hd : quiet.2 = .done .ran) :
      e.footing.Handover (ticking mode).stake
        ((if r.switched then pursue (switchedOf e mode r) (adopt (switchedOf e mode r) e')
          else quiet).2.stake AutoSwitch.stake)
        (if r.switched then pursue (switchedOf e mode r) (adopt (switchedOf e mode r) e')
          else quiet).1.footing := by
    split
    · exact handover_pursue ((footing_adopt _).trans he) (switchedOf e mode r)
    · refine handover hq fun m h => ?_
      rw [hd] at h
      cases h
  unfold takeReport
  cases r.dashboard with
  | none =>
    refine goOn e rfl ?_ ?_
    · split <;> rfl
    · split <;> rfl
  | some s =>
    refine goOn (e.applySnapshot s false) (e.footing_applySnapshot s false) ?_ ?_
    · split <;> rfl
    · split <;> rfl

theorem AutoSwitch.handover_resume (a : AutoSwitch) (cancelled : Bool) (reply : Reply a.call) :
    e.footing.Handover a.stake ((a.resume e cancelled reply).2.stake AutoSwitch.stake)
      (a.resume e cancelled reply).1.footing := by
  cases a with
  | ticking mode =>
    simp only [resume, afterTick]
    split
    · exact handover rfl nofun
    · exact handover rfl nofun
    · exact handover_takeReport mode _
  | acting s p =>
    simp only [resume]
    cases hp : p.resume reply with
    | waiting q =>
      refine handover rfl fun m h => ?_
      exact absurd (q.mode?_call.symm.trans h) nofun
    | done r =>
      have hf : (s.finishAction e cancelled r).footing = e.footing := by
        cases r <;> exact (s.footing_record _ _).trans (Switched.footing_report cancelled _)
      exact handover (a := acting s p) (p := .done (Switched.tick cancelled)) hf nofun
  | calibrating s name =>
    have hf : (s.finishCalibration e cancelled reply).footing = e.footing := by
      cases reply with
      | error f => exact (s.footing_record _ _).trans (Switched.footing_report cancelled _)
      | ok snapshot =>
        refine ((s.footing_record _ _).trans (Switched.footing_report cancelled _)).trans ?_
        cases cancelled <;> rfl
    exact handover (a := calibrating s name) (p := .done (Switched.tick cancelled)) hf nofun

theorem KeepaliveRun.footing_finish (k : KeepaliveRun) (cancelled : Bool)
    (reply : Except Failure Snapshot) : (k.finish e cancelled reply).1.footing = e.footing := by
  cases cancelled <;> cases reply <;> rfl

theorem Recover.footing_finish (cancelled : Bool) (reply : Except Failure RecoverReport) :
    (Recover.finish e cancelled reply).1.footing = e.footing := by
  unfold finish
  split
  · rfl
  · rfl
  · split <;> rfl

theorem HookWatch.footing_conclude (cancelled : Bool) (text : String) :
    (conclude e cancelled text).1.footing = e.footing.leave := by
  unfold conclude
  split <;> rfl

theorem HookWatch.handover_compare (current : String) :
    e.footing.Handover {} ((compare e current).2.stake HookWatch.stake)
      (compare e current).1.footing := by
  unfold compare
  split
  · exact .refl _
  · split
    · exact .refl _
    · split
      · exact .refl _
      · exact .enter rfl rfl rfl rfl nofun

theorem HookWatch.handover_resume (h : HookWatch) (cancelled : Bool) (reply : Reply h.call) :
    e.footing.Handover h.stake ((h.resume e cancelled reply).2.stake HookWatch.stake)
      (h.resume e cancelled reply).1.footing := by
  cases h with
  | checking =>
    simp only [resume]
    split <;> exact .refl _
  | reading =>
    simp only [resume, afterReading]
    split
    · exact .refl _
    · exact .refl _
    · exact handover_compare _
  | installing previous current =>
    cases reply with
    | ok message => exact .same rfl rfl rfl nofun
    | error f =>
      simp only [resume]
      rw [footing_conclude]
      exact .leave rfl rfl
  | rereading previous current message =>
    simp only [resume]
    rw [footing_conclude]
    exact .leave rfl rfl

/-! ## Sessions -/

/-- The model, the mode and the gates are as before. -/
structure Engine.Alike (e e' : Engine) : Prop where
  model : e'.model = e.model
  footing : e'.footing = e.footing

theorem Engine.Tells.alike {e e' : Engine} (h : e.Tells e') : e.Alike e' where
  model := h.congr Engine.model fun _ _ _ => rfl
  footing := h.congr Engine.footing fun _ _ _ => rfl

namespace Session

theorem alike_setKeepalive (w : Session) (enabled : Bool) :
    w.engine.Alike (w.setKeepalive enabled).engine := by
  have h := (directs_setKeepalive w enabled).engine.alike
  exact ⟨h.model, h.footing⟩

theorem alike_setAutoSwitch (w : Session) (enabled : Bool) :
    w.engine.Alike (w.setAutoSwitch enabled).1.engine := by
  have h := (directs_setAutoSwitch w enabled).engine.alike
  exact ⟨h.model, h.footing⟩

/-! ### What a session hands over -/

variable {w : Session} {before : Stake}

theorem handover_embed {σ ρ : Type} {f : σ → Work} {stake : σ → Stake}
    (hf : ∀ k, (f k).stake = stake k) (g : ρ → Outcome) {r : Engine × Progress σ ρ}
    (h : w.engine.footing.Handover before (r.2.stake stake) r.1.footing) :
    w.engine.footing.Handover before ((w.embed f g r).2.stake Work.stake)
      (w.embed f g r).1.engine.footing := by
  obtain ⟨e, p⟩ := r
  cases p with
  | waiting k =>
    show w.engine.footing.Handover before (f k).stake e.footing
    rw [hf]
    exact h
  | done o => exact h

theorem handover_embedFlush (crew : CrewId) {r : OrderQueue × Engine × Progress Flush Unit}
    (h : w.engine.footing.Handover before (r.2.2.stake Flush.stake) r.2.1.footing) :
    w.engine.footing.Handover before ((w.embedFlush crew r).2.stake Work.stake)
      (w.embedFlush crew r).1.engine.footing := by
  have hw : (w.setCrew crew { w.crew crew with orders := r.1 }).engine = w.engine :=
    engine_setCrew w crew _
  rw [← hw] at h
  rw [← hw]
  exact handover_embed (fun _ => rfl) _ h

theorem handover_carryOn {σ : Type} (s : Shift) (d : Duty) {f : σ → Work} {stake : σ → Stake}
    (hf : ∀ k, (f k).stake = stake k) {r : Engine × Progress σ Tick}
    (h : w.engine.footing.Handover before (r.2.stake stake) r.1.footing) :
    w.engine.footing.Handover before ((w.carryOn s d f r).2.stake Work.stake)
      (w.carryOn s d f r).1.engine.footing := by
  obtain ⟨e, p⟩ := r
  cases p with
  | waiting k =>
    show w.engine.footing.Handover before (f k).stake e.footing
    rw [hf]
    exact h
  | done t =>
    simp only [carryOn]
    rw [(guards_land _ s.crew d _).crews.engine]
    exact h

/-- Work that leaves the footing alone, holds nothing and is done. -/
theorem handover_done {e' : Engine} (he : e'.footing = w.engine.footing)
    (hh : before.holds = false) (hc : before.covers = false) :
    w.engine.footing.Handover before {} e'.footing := by
  rw [he]
  exact .same hh.symm hc rfl nofun

theorem handover_launch (settings : Settings) :
    w.engine.footing.Handover {} ((w.launch settings).2.stake Work.stake)
      (w.launch settings).1.engine.footing := by
  rw [(opens_launch w settings).engine.alike.footing]
  unfold launch finishStartup
  dsimp only
  split <;> exact .refl _

theorem handover_afterLoading (settings : Settings) :
    w.engine.footing.Handover {} ((w.afterLoading settings).2.stake Work.stake)
      (w.afterLoading settings).1.engine.footing := by
  unfold afterLoading
  cases settings.mode with
  | gpt =>
    dsimp only
    split
    · exact Refresh.handover_beginAll false
    · exact handover_launch settings
  | openCode =>
    dsimp only
    split
    · exact Refresh.handover_beginAll false
    · exact handover_launch (w := w.spawn .sync) settings

theorem handover_takeOff (s : Shift) (j : Job) :
    w.engine.footing.Handover {} ((w.takeOff s j).2.stake Work.stake) w.engine.footing := by
  have inMode : w.engine.footing.Handover {} { mode? := some w.engine.mode } w.engine.footing :=
    .same rfl rfl rfl fun _ h => .inl (Option.some.inj h).symm
  cases j with
  | poll =>
    simp only [takeOff, Poll.begin]
    by_cases hnow : w.engine.now < (w.crew s.crew).backoff.nextFetchAt
    · rw [if_pos hnow]
      exact .refl _
    · rw [if_neg hnow]
      exact inMode
  | autoSwitch => exact inMode
  | recover => exact inMode
  | hookWatch | keepalive reason => exact .refl _

theorem handover_beginJob (s : Shift) (j : Job) :
    w.engine.footing.Handover {} ((w.beginJob s j).2.stake Work.stake)
      (w.beginJob s j).1.engine.footing := by
  rw [engine_beginJob]
  unfold beginJob
  split
  · exact .refl _
  · split
    · exact .refl _
    · rename_i flight _
      have h := handover_takeOff (w := w.setFlight s.crew j.duty flight) s j
      rwa [show (w.setFlight s.crew j.duty flight).engine = w.engine from engine_setCrew w s.crew _]
        at h

/-- **What a reply does to the footing** is to hand it over. -/
theorem handover_resume (k : Work) (r : Reply k.call) :
    w.engine.footing.Handover k.stake ((w.resume k r).2.stake Work.stake)
      (w.resume k r).1.engine.footing := by
  cases k with
  | load l => exact l.handover_finish r
  | refresh x => exact x.handover_finish r
  | switch s => exact handover_embed (fun _ => rfl) _ (s.handover_resume r)
  | manualAction p =>
    simp only [resume, resumeManual]
    split
    · refine .same rfl rfl rfl fun m hm => ?_
      cases hm
    · simp only [onEngine]
      rw [Manual.footing_finish]
      exact .leave rfl rfl
  | bareAction p =>
    have h : w.engine.footing.Handover {} ((p.resume r).stake fun _ => {}) w.engine.footing := by
      cases p.resume r <;> exact .refl _
    exact handover_embed (fun _ => rfl) _ h
  | hookInstall h => exact handover_embed (fun _ => rfl) _ (h.handover_resume r)
  | flush crew f => exact handover_embedFlush crew (f.handover_resume _ r)
  | poll s p =>
    refine handover_done ?_ rfl rfl
    exact (congrArg Engine.footing (engine_resumePoll w s p r)).trans (p.footing_finish _ _ r)
  | autoSwitch s a => exact handover_carryOn s _ (fun _ => rfl) (a.handover_resume _ r)
  | recover s x =>
    refine handover_done ?_ rfl rfl
    exact (congrArg Engine.footing (engine_finishRun w s _ _)).trans (Recover.footing_finish _ r)
  | hookWatch s h => exact handover_carryOn s _ (fun _ => rfl) (h.handover_resume _ r)
  | keepalive s x =>
    refine handover_done ?_ rfl rfl
    exact (congrArg Engine.footing (engine_finishRun w s _ _)).trans (x.footing_finish _ r)
  | startup s =>
    cases s with
    | loading settings l =>
      exact (l.handover_finish r).andThen
        (handover_afterLoading (w := w.onEngine fun e => (l.finish e r).1) settings)
    | refreshing settings x =>
      exact (x.handover_finish r).andThen
        (handover_launch (w := w.onEngine fun e => (x.finish e r).1) settings)
    | resetting settings =>
      exact handover_done (opens_finishStartup w settings).engine.alike.footing rfl rfl
  | turnOff => exact .refl _
  | stop => exact .refl _

end Session

/-! ## Changes of the mode -/

/-- The mode that a caller asks for. -/
def Request.newMode? : Request → Option Mode
  | setMode m => some m
  | _ => none

/-- The mode that a caller sets at once. -/
def Action.newMode? : Action → Option Mode
  | setMode m => some m
  | putSettings s => some s.mode
  | _ => none

/-- The mode that an event brings. -/
def Event.newMode? : Event → Option Mode
  | ask r => r.newMode?
  | act a => a.newMode?
  | _ => none

/-- The footing with the mode that has been brought, if one has. -/
def Footing.inMode (f : Footing) (m : Option Mode) : Footing := { f with mode := m.getD f.mode }

/-- What a caller does to the gates at once. -/
def Action.onGates (f : Footing) : Action → Footing
  | enterBusy => f.enter
  | leaveBusy => f.leave
  | block message => f.cover message
  | unblock => f.uncover
  | _ => f

namespace Session

variable {w : Session}

/-- **What is asked for** begins with nothing at stake, in the mode that it brings. -/
theorem handover_start (r : Request) :
    (w.engine.footing.inMode r.newMode?).Handover {} ((w.start r).2.stake Work.stake)
      (w.start r).1.engine.footing := by
  cases r with
  | load sync message limit => exact Load.handover_begin sync message limit
  | switch name => exact handover_embed (fun _ => rfl) _ (Switch.handover_begin name)
  | refresh name force => exact handover_embed (fun _ => rfl) _ (Refresh.handover_begin name force)
  | refreshAll force => exact Refresh.handover_beginAll force
  | keepaliveNow => exact Refresh.handover_beginTokens
  | setMode m => exact Load.handover_begin (e := w.engine.setMode m) _ _ _
  | action s => exact .enter rfl rfl rfl rfl nofun
  | bareAction s automatic => exact .refl _
  | installHook => exact .enter rfl rfl rfl rfl nofun
  | job scope j => exact handover_beginJob _ j
  | flush => exact handover_embedFlush .manual (Flush.handover_next _)
  | awaitDashboard => exact .refl _
  | startup =>
    simp only [start, beginStartup]
    cases hm : w.engine.settings.mode with
    | gpt => exact Load.handover_begin true _ none
    | openCode => exact Load.handover_begin false _ _
  | setAutoSwitch enabled =>
    simp only [start]
    rw [(alike_setAutoSwitch w enabled).footing]
    unfold setAutoSwitch
    dsimp only
    split
    · exact .refl _
    · split <;> exact .refl _
  | shutdown =>
    simp only [start]
    rw [(directs_shutdown w).engine.alike.footing]
    unfold shutdown
    split <;> exact .refl _

theorem footing_act (a : Action) :
    (w.act a).engine.footing = (a.onGates w.engine.footing).inMode a.newMode? := by
  cases a with
  | applyIfChanged s => exact w.engine.footing_applyIfChanged s
  | select name => exact w.engine.footing_select name
  | reorder names => exact w.engine.footing_reorderDisplay names
  | remember m name =>
    simp only [act, onEngine, Engine.footing_remember]
    rfl
  | setKeepalive b => exact (alike_setKeepalive w b).footing
  | queueOrder crew names =>
    refine (congrArg Engine.footing (engine_setCrew _ crew _)).trans ?_
    exact w.engine.footing_reorderDisplay names
  | _ => rfl

/-- What the task with this id has at stake. -/
def stakeOf (w : Session) (id : Nat) : Stake := ((w.workOf? id).map Work.stake).getD {}

theorem stakeOf_of_workOf? {id : Nat} {k : Work} (h : w.workOf? id = some k) :
    w.stakeOf id = k.stake := by
  simp [stakeOf, h]

theorem stakeOf_of_workOf?_eq_none {id : Nat} (h : w.workOf? id = none) : w.stakeOf id = {} := by
  simp [stakeOf, h]

theorem stake_waiting (p : Progress Work Outcome) :
    p.stake Work.stake = (p.waiting?.map Work.stake).getD {} := by
  cases p <;> rfl

/-- An event that takes a task on without being a reply or a request changes no mode. -/
theorem newMode?_of_free (hw : w.Numbered) {ev : Event} (hf : w.Free (w.subject ev)) :
    ev.newMode? = none := by
  have hnext := hw.task?_next
  cases ev with
  | ask | act =>
    have ht := hf.isSome_task?
    rw [subject, hnext] at ht
    cases ht
  | _ => rfl

/-- **Every step that takes a task on hands the footing over**, from what the task had at stake to
what it has at stake now. -/
theorem handover_step (hw : w.Numbered) {ev : Event} {r : Session × Progress Work Outcome}
    (h : w.advance? ev = some r) :
    (w.engine.footing.inMode ev.newMode?).Handover (w.stakeOf (w.subject ev))
      ((w.step ev).stakeOf (w.subject ev)) (w.step ev).engine.footing := by
  obtain ⟨errand, hs⟩ := step_of_advance h
  have hafter : (w.step ev).stakeOf (w.subject ev) = r.2.stake Work.stake := by
    rw [stake_waiting, stakeOf, workOf?_step_of_advance h, if_pos rfl]
  rw [hafter, hs, engine_conclude]
  cases stretch_of_advance h with
  | @resume k reply ha =>
    have hm : ev.newMode? = none := by
      cases ev <;> first | rfl | cases ha
    rw [hm, stakeOf_of_workOf? (workOf?_of_answered ha)]
    exact handover_resume k reply
  | start q hq =>
    subst hq
    have hfree : w.workOf? w.nextTask = none := by simp [workOf?, hw.task?_next]
    rw [subject, stakeOf_of_workOf?_eq_none hfree]
    exact handover_start (w := w.spawn .request) q
  | job s j hf =>
    rw [newMode?_of_free hw hf, stakeOf_of_workOf?_eq_none hf.workOf?]
    exact handover_beginJob s j
  | flush crew hf =>
    rw [newMode?_of_free hw hf, stakeOf_of_workOf?_eq_none hf.workOf?]
    exact handover_embedFlush crew (Flush.handover_next _)
  | sync hf =>
    rw [newMode?_of_free hw hf, stakeOf_of_workOf?_eq_none hf.workOf?]
    exact Load.handover_begin true none none

/-- **The mode after a step** is the one that its event brings, or else the one before. -/
theorem mode_step (hw : w.Numbered) (ev : Event) :
    (w.step ev).engine.mode = ev.newMode?.getD w.engine.mode := by
  by_cases ha : ∃ a, ev = .act a
  · obtain ⟨a, rfl⟩ := ha
    have hm := congrArg Footing.mode (footing_act (w := w) a)
    refine hm.trans (congrArg a.newMode?.getD ?_)
    cases a <;> rfl
  cases h : w.advance? ev with
  | some r => exact (handover_step hw h).mode
  | none =>
    have hmode := congrArg Settings.mode (still_of_quiet hw h fun a he => ha ⟨a, he⟩).settings
    refine hmode.trans ?_
    cases ev with
    | act a => exact absurd ⟨a, rfl⟩ ha
    | ask r => cases r <;> first | rfl | cases h
    | _ => rfl

end Session

end Switchboard
