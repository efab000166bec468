import Switchboard.Proofs.ModelWrites
import Switchboard.Proofs.Outstanding

/-!
# Commands that fail

A command that fails leaves everything as it was: the model, the settings and the store, the banner, the
busy gate and whatever is under way. Only what the status line says is different. The message that
covers the screen is the one thing that a failed command may change for good: a switch takes it away,
whoever has put it there.

* `Session.Course` — how far a command has come, and what is different by then: while it may fail yet,
  it has done nothing but hold the busy gate and cover the screen.
* `Session.start_command`, `Session.Course.step` — so a command begins, and so it goes on at each event.
* `Session.failed_command_leaves_all` — what a failed command leaves, in every state of a run.
* `Session.failed_switch_uncovers_screen` — a switch that fails, and takes a message away.
-/

set_option autoImplicit false

namespace Switchboard

/-- A command of a user that the backend has a part in, and that changes no setting by itself. -/
def Request.IsCommand : Request → Prop
  | load _ _ _ | switch _ | refresh _ _ | refreshAll _ | keepaliveNow | action _ | installHook => True
  | _ => False

/-- The command covers the screen: it is a switch, and to a profile that is known. -/
def Request.covers (e : Engine) : Request → Bool
  | switch name => (e.target? name).isSome
  | _ => false

/-- The failure that a command came to. -/
def Outcome.failure? : Outcome → Option Failure
  | model (.error f) | text (.error f) => some f
  | _ => none

/-- The event is a reply to this task, in time or not, or time passes. -/
def Event.IsFor (id : Nat) : Event → Prop
  | reply id' _ _ | expire id' => id' = id
  | pass _ => True
  | _ => False

/-- The work is what a command begins with; the flag says that it covers the screen. -/
def Work.Opens (covers : Bool) : Work → Prop
  | load _ | refresh _ | manualAction _ | hookInstall .installing => covers = false
  | switch (.applying _ _ _) => covers = true
  | _ => False

/-- The work cannot fail any more, whatever the backend replies. -/
def Work.IsSafe : Work → Prop
  | switch (.calibrating _ _ _ _) | hookInstall (.reading _) => True
  | _ => False

namespace Engine

/-- Some time has passed, and the status line has been written. -/
def after (e : Engine) (ms : Nat) (text : String) (notices : Nat) : Engine :=
  { e with now := e.now + Int64.ofNat ms, status := text, statusNotices := notices }

theorem after_zero (e : Engine) (text : String) (notices : Nat) :
    e.after 0 text notices = { e with status := text, statusNotices := notices } := by
  simp [after]

/-- The engine while a command runs: the busy gate is held, and the screen covered if the command
covers it. -/
def during (e : Engine) (covers : Bool) (message : String) : Engine :=
  { e with
    busy := e.busy.enter
    blocking := if covers then e.blocking.enter message else e.blocking }

/-- The engine that a failed command leaves behind: the screen is uncovered if the command has covered
it. -/
def released (e : Engine) (covers : Bool) : Engine :=
  { e with blocking := if covers then e.blocking.leave else e.blocking }

end Engine

namespace Session

/-- The session with a command at this stage, and nothing else that has gone on. -/
def atStage (w : Session) (e : Engine) (uptime : Nat) (stage : Stage) : Session :=
  { w with
    engine := e
    uptime := uptime
    tasks := w.tasks ++ [⟨w.nextTask, .request, stage⟩]
    nextTask := w.nextTask + 1 }

/-- The session when a command has come so far, and nothing else has gone on. -/
def stand (w : Session) (e : Engine) (uptime : Nat) : Progress Work Outcome → Session
  | .waiting k => w.atStage e uptime (.working k)
  | .done o =>
    { w with
      engine := e
      uptime := uptime
      nextTask := w.nextTask + 1
      outcomes := (w.nextTask, o) :: w.outcomes }

/-- How a command comes on that began at this engine, in so much time. -/
inductive Course (e : Engine) (covers : Bool) (ms : Nat) : Engine → Progress Work Outcome → Prop where
  /-- It may fail yet. -/
  | opened {k : Work} (text : String) (notices : Nat) (message : String) (hk : k.Opens covers) :
    Course e covers ms ((e.after ms text notices).during covers message) (.waiting k)
  /-- It cannot fail any more. -/
  | safe {e' : Engine} {k : Work} (hk : k.IsSafe) : Course e covers ms e' (.waiting k)
  | failed {o : Outcome} (text : String) (notices : Nat) (ho : o.failure?.isSome) :
    Course e covers ms ((e.after ms text notices).released covers) (.done o)
  | succeeded {e' : Engine} {o : Outcome} (ho : o.failure? = none) : Course e covers ms e' (.done o)

variable {w : Session} {e e' : Engine} {covers : Bool} {ms t : Nat} {p : Progress Work Outcome}

/-- As far as its work, the command has come. -/
theorem conclude_atStage (hw : w.Numbered) (stage : Stage) (p : Progress Work Outcome) :
    (w.atStage e t stage).conclude w.nextTask .request p = w.stand e t p := by
  have hne (u : Task) (hu : u ∈ w.tasks) : u.id ≠ w.nextTask := Nat.ne_of_lt (hw.lt_next u hu)
  cases p with
  | waiting k =>
    have hkeep : (w.tasks.map fun u =>
        if u.id = w.nextTask then (⟨w.nextTask, .request, .working k⟩ : Task) else u) = w.tasks :=
      (List.map_congr_left fun u hu => if_neg (hne u hu)).trans (List.map_id' _)
    simp [conclude, setTask, stand, atStage, hkeep]
  | done o =>
    have hkeep : w.tasks.filter (·.id != w.nextTask) = w.tasks :=
      List.filter_eq_self.2 fun u hu => bne_iff_ne.2 (hne u hu)
    simp [conclude, deliver, endTask, stand, atStage, hkeep]

theorem task?_atStage (hw : w.Numbered) (stage : Stage) :
    (w.atStage e t stage).task? w.nextTask = some ⟨w.nextTask, .request, stage⟩ := by
  have hnone : w.tasks.find? (·.id == w.nextTask) = none := hw.task?_next
  simp [task?, atStage, List.find?_append, hnone]

/-- The command is done, and its task is not there any more. -/
theorem task?_stand_done (hw : w.Numbered) (o : Outcome) :
    (w.stand e t (.done o)).task? w.nextTask = none := hw.task?_next

theorem step_stand_pass (ms : Nat) :
    (w.stand e t p).step (.pass ms) =
      w.stand { e with now := e.now + Int64.ofNat ms } (t + ms) p := by
  cases p <;> rfl

/-- The engine of a command that has just begun. -/
def Opened (e : Engine) (covers : Bool) (e' : Engine) : Prop :=
  ∃ text notices message,
    e' = ({ e with status := text, statusNotices := notices } : Engine).during covers message

theorem opened_enterBusy (e : Engine) (text : String) :
    Opened e false (e.enterBusy.setStatus text) := ⟨text, e.statusNotices + 1, "", rfl⟩

theorem Opened.course {k : Work} (he : Opened e covers e') (hk : k.Opens covers) :
    Course e covers 0 e' (.waiting k) := by
  obtain ⟨text, notices, message, rfl⟩ := he
  rw [← Engine.after_zero]
  exact .opened text notices message hk

theorem Course.failed_now {o : Outcome} (text : String) (notices : Nat)
    (ho : o.failure?.isSome) :
    Course e false 0 { e with status := text, statusNotices := notices } (.done o) := by
  rw [← Engine.after_zero]
  exact .failed text notices ho

/-- A command begins, or fails at once. -/
theorem start_command {q : Request} (hq : q.IsCommand) :
    ∃ e p, (w.spawn .request).start q = (w.atStage e w.uptime .fresh, p) ∧
      Course w.engine (q.covers w.engine) 0 e p := by
  cases q with
  | switch name =>
    cases ht : w.engine.target? name with
    | none =>
      refine ⟨w.engine.setStatus Failure.nothingSelected.message,
        .done (.model (.error .nothingSelected)), ?_, ?_⟩
      · simp only [start, spawn, Switch.begin, ht]
        rfl
      · rw [Request.covers, ht]
        exact .failed_now _ _ rfl
    | some target =>
      have hb : Switch.begin w.engine name =
          (Dashboard.begin (w.engine.block (Switch.switchingText (w.engine.label target)))
              (Switch.switchingText (w.engine.label target)),
            .waiting (.applying target w.engine.mode (w.engine.label target))) := by
        simp only [Switch.begin, ht]
      refine ⟨_, _, by simp only [start, spawn, hb]; rfl, ?_⟩
      rw [Request.covers, ht]
      exact Opened.course ⟨_, _, _, rfl⟩ rfl
  | refresh name force =>
    cases ht : w.engine.target? name with
    | none =>
      refine ⟨w.engine.setStatus Failure.nothingSelected.message,
        .done (.model (.error .nothingSelected)), ?_, .failed_now _ _ rfl⟩
      simp only [start, spawn, Refresh.begin, ht]
      rfl
    | some target =>
      have hb : Refresh.begin w.engine name force =
          (Dashboard.begin w.engine ("正在刷新额度: " ++ w.engine.label target ++ "..."),
            .waiting (.one target w.engine.mode force ("已刷新额度: " ++ w.engine.label target))) := by
        simp only [Refresh.begin, ht]
      refine ⟨_, _, by simp only [start, spawn, hb]; rfl, ?_⟩
      exact (opened_enterBusy w.engine _).course rfl
  | load =>
    exact ⟨_, _, rfl, Opened.course ⟨w.engine.status, w.engine.statusNotices, "", rfl⟩ rfl⟩
  | refreshAll | keepaliveNow | action | installHook =>
    exact ⟨_, _, rfl, (opened_enterBusy w.engine _).course rfl⟩
  | _ => exact hq.elim

/-- The first reply to a command: the command fails and leaves all but the status line and the screen
as it was, or it goes on and cannot fail any more, or it is done. -/
theorem resume_opened {k : Work} (hk : k.Opens covers) (r : Reply k.call) (text : String)
    (notices : Nat) (message : String) (stage : Stage) :
    ∃ e' p, (w.atStage ((e.after ms text notices).during covers message) t stage).resume k r =
        (w.atStage e' t stage, p) ∧ Course e covers ms e' p := by
  cases k with
  | load l =>
    obtain rfl : covers = false := hk
    cases r with
    | error f =>
      refine ⟨_, _, rfl, ?_⟩
      exact .failed ("加载失败: " ++ f.message) (notices + 1) rfl
    | ok s => exact ⟨_, _, rfl, .succeeded rfl⟩
  | refresh x =>
    obtain rfl : covers = false := hk
    cases x <;> cases r <;> refine ⟨_, _, rfl, ?_⟩ <;>
      first | exact .succeeded rfl | exact .failed _ (notices + 1) rfl
  | switch s =>
    cases s with
    | calibrating => exact hk.elim
    | applying target mode label =>
      obtain rfl : covers = true := hk
      cases r with
      | error f =>
        refine ⟨_, _, rfl, ?_⟩
        exact .failed (Switch.switchedText label ++ "失败" ++ ": " ++ f.message) (notices + 1) rfl
      | ok snapshot => exact ⟨_, _, rfl, .safe trivial⟩
  | manualAction x =>
    obtain rfl : covers = false := hk
    have fails (f : Failure) : Course e false ms
        (Manual.finish ((e.after ms text notices).during false message) (.error f))
        (.done (.text (.error f))) := .failed (Manual.failureText f) (notices + 1) rfl
    cases x with
    | checking =>
      cases r with
      | error f => exact ⟨_, _, rfl, fails f⟩
      | ok installed =>
        cases installed with
        | false => exact ⟨_, _, rfl, fails .hookMissing⟩
        | true => exact ⟨_, _, rfl, .opened text notices message rfl⟩
    | acting s =>
      cases r with
      | error f => exact ⟨_, _, rfl, fails f⟩
      | ok answer => exact ⟨_, _, rfl, .succeeded rfl⟩
  | hookInstall i =>
    cases i with
    | reading => exact hk.elim
    | installing =>
      obtain rfl : covers = false := hk
      cases r with
      | error f =>
        refine ⟨_, _, rfl, ?_⟩
        exact .failed ("安装 Hook 失败: " ++ f.message) (notices + 1) rfl
      | ok answer => exact ⟨_, _, rfl, .safe trivial⟩
  | _ => exact hk.elim

/-- The last reply to a command that cannot fail any more. -/
theorem resume_safe {k : Work} (hk : k.IsSafe) (r : Reply k.call) (e' : Engine) (stage : Stage) :
    ∃ e'' o, (w.atStage e' t stage).resume k r = (w.atStage e'' t stage, .done o) ∧
      o.failure? = none := by
  cases k with
  | switch s =>
    cases s with
    | applying => exact hk.elim
    | calibrating target mode label m => cases r <;> exact ⟨_, _, rfl, rfl⟩
  | hookInstall i =>
    cases i with
    | installing => exact hk.elim
    | reading message => exact ⟨_, _, rfl, rfl⟩
  | _ => exact hk.elim

/-- A reply to a command, or its time limit. -/
theorem Course.answered (hw : w.Numbered) {k k' : Work} {ev : Event} {r : Reply k'.call}
    (hc : Course w.engine covers ms e (.waiting k))
    (hid : w.nextTask = (w.atStage e t (.working k)).subject ev)
    (ha : (w.atStage e t (.working k)).answered? ev = some ⟨k', r⟩) :
    ∃ e' p', (w.atStage e t (.working k)).step ev = w.stand e' t p' ∧
      Course w.engine covers ms e' p' := by
  obtain ⟨id, errand, ht, hstep⟩ := step_of_answered ha
  rw [← hid] at ht hstep
  rw [task?_atStage hw] at ht
  cases ht
  cases hc with
  | opened text notices message hk =>
    obtain ⟨e', p', hr, hc'⟩ := resume_opened hk r text notices message _
    rw [hstep, hr]
    exact ⟨e', p', conclude_atStage hw _ p', hc'⟩
  | safe hk =>
    obtain ⟨e', o, hr, ho⟩ := resume_safe hk r e _
    rw [hstep, hr]
    exact ⟨e', .done o, conclude_atStage hw _ _, .succeeded ho⟩

/-- Time passes while a command runs. -/
theorem Course.pass (hc : Course w.engine covers ms e p) (more : Nat) :
    Course w.engine covers (ms + more) { e with now := e.now + Int64.ofNat more } p := by
  have hlater (text : String) (notices : Nat) :
      w.engine.after (ms + more) text notices =
        { w.engine.after ms text notices with
          now := w.engine.now + Int64.ofNat ms + Int64.ofNat more } := by
    rw [Engine.after, Int64.ofNat_add, ← Int64.add_assoc]
    rfl
  cases hc with
  | opened text notices message hk =>
    have h : Course w.engine covers (ms + more) _ _ := .opened text notices message hk
    rw [hlater] at h
    exact h
  | safe hk => exact .safe hk
  | failed text notices ho =>
    have h : Course w.engine covers (ms + more) _ _ := .failed text notices ho
    rw [hlater] at h
    exact h
  | succeeded ho => exact .succeeded ho

/-- **One event while a command runs alone.** -/
theorem Course.step (hw : w.Numbered) (hc : Course w.engine covers ms e p) {ev : Event}
    (hev : ev.IsFor w.nextTask) :
    ∃ ms' e' p', (w.stand e (w.uptime + ms) p).step ev = w.stand e' (w.uptime + ms') p' ∧
      Course w.engine covers ms' e' p' := by
  have quiet (h : (w.stand e (w.uptime + ms) p).step ev = w.stand e (w.uptime + ms) p) :
      ∃ ms' e' p', (w.stand e (w.uptime + ms) p).step ev = w.stand e' (w.uptime + ms') p' ∧
        Course w.engine covers ms' e' p' := ⟨ms, e, p, h, hc⟩
  cases ha : (w.stand e (w.uptime + ms) p).answered? ev with
  | none =>
    cases ev with
    | pass more =>
      refine ⟨_, _, _, ?_, hc.pass more⟩
      rw [← Nat.add_assoc]
      exact step_stand_pass more
    | reply id c r => exact quiet (step_of_not_answered ha)
    | expire id => exact quiet (step_expire_of_not_answered ha)
    | _ => exact hev.elim
  | some a =>
    obtain ⟨k', r⟩ := a
    have hwork := workOf?_of_answered ha
    have hid : w.nextTask = (w.stand e (w.uptime + ms) p).subject ev := by
      cases ev with
      | reply | expire => exact hev.symm
      | _ => cases ha
    rw [← hid] at hwork
    cases p with
    | done o =>
      rw [workOf?, task?_stand_done hw] at hwork
      cases hwork
    | waiting k =>
      obtain ⟨e', p', hstep, hc'⟩ := hc.answered hw hid ha
      exact ⟨ms, e', p', hstep, hc'⟩

/-- **A command that runs alone.** -/
theorem course_run (hw : w.Numbered) {q : Request} (hq : q.IsCommand) {events : List Event}
    (hev : ∀ ev ∈ events, ev.IsFor w.nextTask) :
    ∃ ms e p, (w.step (.ask q)).run events = w.stand e (w.uptime + ms) p ∧
      Course w.engine (q.covers w.engine) ms e p := by
  induction events using List.reverseRecOn with
  | nil =>
    obtain ⟨e, p, hstart, hc⟩ := start_command (w := w) hq
    have hstep : w.step (.ask q) = w.stand e w.uptime p := by
      rw [← conclude_atStage hw .fresh p]
      cases q with
      | awaitDashboard => exact hq.elim
      | _ => simp only [step, takeRequest, hstart]
    exact ⟨0, e, p, hstep, hc⟩
  | append_singleton events ev ih =>
    obtain ⟨ms, e, p, hrun, hc⟩ := ih fun ev' h => hev ev' (List.mem_append_left _ h)
    rw [run_concat, hrun]
    exact hc.step hw (hev ev (by simp))

/-- **A failed command leaves all as it was.** Let a command begin in any state of a run, let nothing
happen but that time passes and the backend replies to it, in time or not, and let it fail. Then
nothing is different but the status line, the clock and the outcome. So it is with the message that
covers the screen, too, unless the command covers the screen itself: then there is no such message
afterwards, although there may have been one before. Whatever happens later, a reply to the command
changes nothing any more. -/
theorem failed_command_leaves_all {e : Engine} {history events : List Event} {q : Request}
    {o : Outcome} (hq : q.IsCommand) :
    let w := (ofEngine e).run history
    let w' := (w.step (.ask q)).run events
    (∀ ev ∈ events, ev.IsFor w.nextTask) → w'.outcomes = (w.nextTask, o) :: w.outcomes →
      o.failure?.isSome →
      (∃ ms text notices, w' =
        { w with
          engine :=
            { w.engine with
              now := w.engine.now + Int64.ofNat ms
              status := text
              statusNotices := notices
              blocking := w'.engine.blocking }
          uptime := w.uptime + ms
          nextTask := w.nextTask + 1
          outcomes := (w.nextTask, o) :: w.outcomes }) ∧
      (w'.engine.blocking = if q.covers w.engine then {} else w.engine.blocking) ∧
      ∀ more c r, (w'.run more).step (.reply w.nextTask c r) = w'.run more := by
  intro w w' hev ho hf
  have hw : w.Numbered := (numbered_ofEngine e).run history
  obtain ⟨ms, e', p, hrun, hc⟩ := course_run hw hq hev
  have hstand : w' = w.stand e' (w.uptime + ms) p := hrun
  rw [hstand] at ho
  cases hc with
  | opened | safe => exact absurd ho List.ne_cons_self
  | @succeeded _ o' hnone =>
    obtain rfl : o' = o := by simpa [stand] using ho
    rw [hnone] at hf
    cases hf
  | @failed o' text notices hsome =>
    obtain rfl : o' = o := by simpa [stand] using ho
    have hblocking : w'.engine.blocking = if q.covers w.engine then {} else w.engine.blocking := by
      rw [hstand]
      rfl
    refine ⟨⟨ms, text, notices, ?_⟩, hblocking, fun more c r => ?_⟩
    · rw [hblocking, hstand]
      rfl
    · refine step_reply_of_none (task?_run_of_none ?_ ?_ more) c r
      · rw [hstand]
        exact Nat.lt_succ_self _
      · rw [hstand]
        exact task?_stand_done hw o'

/-- A message covers the screen, and a switch is asked for, which the backend fails to do after a while:
the message is gone. -/
theorem failed_switch_uncovers_screen :
    let message := "正在登录..."
    let w := (ofEngine Engine.blank).run [.act (.block message)]
    let failure : Failure := .reported "down"
    let events : List Event := [.pass 20, .reply 0 (.applyProfile "a" .gpt) (.error failure)]
    let w' := (w.step (.ask (.switch (some "a")))).run events
    w.engine.blocking.message = some message ∧ w'.engine.blocking.message = none ∧
      w'.engine.busy = w.engine.busy ∧ w'.engine.status = "已切换到账号: a失败: down" := by
  intro message w failure events w'
  have hev : ∀ ev ∈ events, ev.IsFor w.nextTask := by
    intro ev hev
    rcases List.mem_cons.1 hev with rfl | hev
    · trivial
    · obtain rfl := List.mem_singleton.1 hev
      rfl
  have hcame : w'.outcomes.map (fun x => (x.1, x.2.failure?)) = [(0, some failure)] := by
    decide +kernel
  obtain ⟨⟨id, o⟩, ho, hid⟩ := List.map_eq_singleton_iff.1 hcame
  obtain ⟨rfl, hf⟩ := Prod.mk.inj hid
  obtain ⟨⟨ms, text, notices, hw'⟩, hblocking, -⟩ :=
    @failed_command_leaves_all Engine.blank [.act (.block message)] events (.switch (some "a")) o
      trivial hev ho (by rw [hf]; rfl)
  refine ⟨rfl, ?_, congrArg (·.engine.busy) hw', by decide +kernel⟩
  rw [hblocking]
  rfl

end Session

end Switchboard
