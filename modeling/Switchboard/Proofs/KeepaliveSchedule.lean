import Switchboard.Proofs.Records
import Switchboard.Proofs.KeepalivePlan
import Switchboard.Proofs.PostSwitchPolicy
import Switchboard.Proofs.Shutdown
import Switchboard.Proofs.SingleFlight

/-!
# The schedule of keepalive

A keepalive loop waits for the dashboard, plans its first run, and then rests and attempts a run by
turns. An attempt that a gate or another run has kept off is made again after a short rest; one that
has called the backend is followed by a rest of one period once the reply is there. Where no word has
room for a plan, the loop ends.

* `Milestone` — what a keepalive loop comes to; `Session.milestones` lists it over a run.
* `Milestone.Scheduled` — what may come after what, and when; `Milestone.Scheduled.reason_eq` — which
  reason an attempt has then.
* `Session.goes_of_keepsAlive`, `Session.scheduled_run` — a step, and so a run, keeps a loop to its
  schedule.
* `Session.keepalive_schedule` — what that comes to.
* `Session.next_run_without_a_rest` — a loop with a period that is too long for a signed word.
-/

set_option autoImplicit false

namespace Switchboard

/-- An attempt of a keepalive loop to make a run. -/
structure Attempt where
  /-- When the rest before it was to end. -/
  due : Nat
  time : Nat
  reason : Keepalive.Reason
  /-- The run was begun, and the backend called. -/
  called : Bool
  deriving DecidableEq

/-- What a keepalive loop comes to. -/
inductive Milestone where
  /-- The wait for the dashboard is over, and the first run is planned. -/
  | plans (time : Nat) (p : Keepalive.Plan)
  /-- The first run cannot be planned, or the wait cannot even begin. -/
  | fails (time : Nat)
  | attempts (a : Attempt)
  /-- The backend has replied. -/
  | completes (time : Nat)
  deriving DecidableEq

/-- Where a keepalive loop stands. -/
inductive LoopStage where
  /-- It waits for the dashboard. -/
  | waiting
  | resting (due : Nat) (reason : Keepalive.Reason)
  /-- It waits for the reply of the backend. -/
  | running (reason : Keepalive.Reason)
  /-- It has ended, since there was no room for a plan. -/
  | gone

namespace Milestone

open Session (longestWait)

/-- The backend was called. -/
def isCall : Milestone → Bool
  | attempts a => a.called
  | _ => false

/-- Where the latest milestone has left the loop. A rest ends after thirty years at the latest. -/
inductive Leaves (c : Config) : List Milestone → LoopStage → Prop where
  | start : Leaves c [] .waiting
  | planned (time : Nat) (p : Keepalive.Plan) (past : List Milestone) :
    Leaves c (plans time p :: past) (.resting (time + min p.delay.toNat longestWait) p.reason)
  | failed (time : Nat) (past : List Milestone) : Leaves c (fails time :: past) .gone
  /-- An attempt that was kept off is made again, for the same reason. -/
  | deferred {a : Attempt} (h : a.called = false) (past : List Milestone) :
    Leaves c (attempts a :: past)
      (.resting (a.time + min c.busyRetry.toNat longestWait) a.reason)
  | called {a : Attempt} (h : a.called = true) (past : List Milestone) :
    Leaves c (attempts a :: past) (.running a.reason)
  /-- Whatever the reply is, the next run is a periodic one. -/
  | completed (time : Nat) (past : List Milestone) {delay : Nat}
      (h : Keepalive.IsPeriodic c delay) :
    Leaves c (completes time :: past) (.resting (time + min delay longestWait) .periodic)
  /-- There may be no next run if a word has no room for every period. -/
  | lost (time : Nat) (past : List Milestone) (h : ¬ Keepalive.HasPeriods c) :
    Leaves c (completes time :: past) .gone

/-- What may come next, the milestones so far having the latest in front. -/
inductive Follows (c : Config) : List Milestone → Milestone → Prop where
  | plans (time : Nat) (p : Keepalive.Plan) : Follows c [] (plans time p)
  | fails (time : Nat) : Follows c [] (fails time)
  | attempts {past : List Milestone} {a : Attempt}
      (h : Leaves c past (.resting a.due a.reason)) : Follows c past (attempts a)
  | completes {past : List Milestone} {reason : Keepalive.Reason}
      (h : Leaves c past (.running reason)) (time : Nat) : Follows c past (completes time)

/-- What a loop has come to, each thing as it may come after those before. -/
inductive Scheduled (c : Config) : List Milestone → Prop where
  | nil : Scheduled c []
  | cons {past : List Milestone} {m : Milestone} (h : Scheduled c past) (hm : Follows c past m) :
    Scheduled c (m :: past)

/-- The reason of a rest, the plan being this one: the backend has not been called yet, or the runs
are periodic by now. -/
def laterReason (past : List Milestone) (p : Keepalive.Plan) : Keepalive.Reason :=
  if past.any isCall then .periodic else p.reason

variable {c : Config} {past : List Milestone}

/-- A loop that goes on has come to a plan first. -/
theorem Scheduled.exists_plan (h : Scheduled c past) {stage : LoopStage} (hl : Leaves c past stage)
    (hw : stage ≠ .waiting) (hg : stage ≠ .gone) :
    ∃ time p, past.getLast? = some (plans time p) := by
  induction h generalizing stage with
  | nil => cases hl with | start => exact absurd rfl hw
  | @cons past m h hm ih =>
    have later {stage : LoopStage} (hl : Leaves c past stage) (hw : stage ≠ .waiting)
        (hg : stage ≠ .gone) : ∃ time p, (m :: past).getLast? = some (plans time p) := by
      obtain ⟨time, p, hp⟩ := ih hl hw hg
      exact ⟨time, p, by rw [List.getLast?_cons, hp]; rfl⟩
    cases hm with
    | plans time p => exact ⟨time, p, rfl⟩
    | fails => cases hl with | failed => exact absurd rfl hg
    | attempts hrest => exact later hrest nofun nofun
    | completes hrun => exact later hrun nofun nofun

/-- **The reason of a rest** is that of the plan until the backend is called. -/
theorem Scheduled.reason_eq (h : Scheduled c past) {due : Nat} {reason : Keepalive.Reason}
    (hl : Leaves c past (.resting due reason)) {time : Nat} {p : Keepalive.Plan}
    (hp : plans time p ∈ past) : reason = laterReason past p := by
  induction h generalizing due reason with
  | nil => cases hp
  | @cons past m h hm ih =>
    cases hl with
    | planned =>
      -- A plan is the first thing that a loop comes to.
      cases hm
      cases List.mem_singleton.1 hp
      rfl
    | @deferred a ha =>
      cases hm with
      | attempts hrest =>
        rw [ih hrest ((List.mem_cons.1 hp).resolve_left (by simp))]
        simp [laterReason, isCall, ha]
    | completed =>
      cases hm with
      | completes hrun =>
        cases hrun with
        | called ha => simp [laterReason, isCall, ha]

end Milestone

/-- The event is one that can happen to a task at this stage. -/
def Event.fits : Event → Stage → Bool
  | .turn _, .fresh | .reply _ _ _, .working _ | .expire _, .working _ | .wake _, .resting _
  | .quit _, .resting _ | .arrive _, .watching _ => true
  | _, _ => false

namespace Session

/-- The plan that a keepalive loop makes when its wait for the dashboard is over. -/
def firstPlan? (w : Session) (s : Shift) : Option Keepalive.Plan :=
  ((KeepaliveRun.firstPlan w.engine (!(w.crew s.crew).startupChecked)).run w.random).map (·.1)

/-- What a keepalive loop comes to when its wait for the dashboard is over. -/
def firstMilestone (w : Session) (s : Shift) : Milestone :=
  match w.firstPlan? s with
  | some p => .plans w.uptime p
  | none => .fails w.uptime

/-- Words have room for the numbers of the first plan, however it is moved. -/
def HasFirstPlan (w : Session) (s : Shift) : Prop :=
  ∀ j, Keepalive.IsJitter w.engine.config j →
    ∀ x ∈ Keepalive.figures w.engine.config (w.engine.model.bind (·.snapshot.lastKeepaliveAt))
      w.engine.now (!(w.crew s.crew).startupChecked) j, FitsWord x

/-- Where there is room for it, there is a first plan. -/
theorem exists_firstPlan {w : Session} {s : Shift} {config : Config}
    (hc : w.engine.config = config.normalized) (h : w.HasFirstPlan s) :
    ∃ p random, (KeepaliveRun.firstPlan w.engine (!(w.crew s.crew).startupChecked)).run w.random =
      some (p, random) := by
  unfold HasFirstPlan at h
  unfold KeepaliveRun.firstPlan
  rw [hc] at h ⊢
  obtain ⟨p, random, hp, -⟩ := Keepalive.firstPlan_within config _ _ _ w.random fun j s' hj => by
    obtain ⟨j', s'', hj', -, hmem⟩ := Keepalive.jitter_mem config w.random
    cases hj'.symm.trans hj
    exact h _ hmem
  exact ⟨p, random, hp⟩

/-- What a keepalive loop comes to at an event. -/
def milestone? (w : Session) (id : Nat) (ev : Event) : Option Milestone :=
  match w.task? id with
  | some ⟨_, .loop (.keepalive reason) s, stage⟩ =>
    match stage, ev with
    | .fresh, .turn i =>
      if i = id then
        if patience? w.engine.config = none then some (.fails w.uptime)
        else if w.engine.model.isSome then some (w.firstMilestone s) else none
      else none
    | .watching due, .arrive i =>
      if i = id ∧ (w.engine.model.isSome ∨ due ≤ w.uptime) then some (w.firstMilestone s) else none
    | .resting due, .wake i =>
      if i = id ∧ due ≤ w.uptime then
        some (.attempts ⟨due, w.uptime, reason, (w.begun? ev).any (·.call = .runKeepaliveAll)⟩)
      else none
    | .working _, .reply i _ _ =>
      if i = id ∧ (w.answered? ev).isSome then some (.completes w.uptime) else none
    | _, _ => none
  | _ => none

/-- What a keepalive loop comes to in a run, the latest in front. -/
def milestones (w : Session) (id : Nat) : List Event → List Milestone
  | [] => []
  | ev :: events => (w.step ev).milestones id events ++ (w.milestone? id ev).toList

theorem milestones_concat (w : Session) (id : Nat) (events : List Event) (ev : Event) :
    w.milestones id (events ++ [ev]) =
      ((w.run events).milestone? id ev).toList ++ w.milestones id events := by
  induction events generalizing w with
  | nil => simp [milestones]
  | cons x events ih => simp [milestones, ih]

/-- The task is a keepalive loop that stands there. -/
def KeepsAlive (w : Session) (id : Nat) (s : Shift) : LoopStage → Prop
  | .waiting =>
    ∃ reason stage, w.task? id = some ⟨id, .loop (.keepalive reason) s, stage⟩ ∧
      (stage = .fresh ∨ ∃ due, stage = .watching due)
  | .resting due reason => w.task? id = some ⟨id, .loop (.keepalive reason) s, .resting due⟩
  | .running reason =>
    w.task? id = some ⟨id, .loop (.keepalive reason) s, .working (.keepalive s ⟨reason⟩)⟩
  | .gone => w.task? id = none ∧ id < w.nextTask

/-! ## One step of a loop -/

variable {w : Session} {id : Nat} {s : Shift}

/-- The guards of the runs are all that changes when a run begins. -/
theorem task?_setFlight (crew : CrewId) (d : Duty) (f : Flight) (id : Nat) :
    (w.setFlight crew d f).task? id = w.task? id := by
  cases crew <;> rfl

/-- A run of keepalive is kept off by a gate or by another run, or it calls the backend. -/
theorem beginJob_keepalive (w : Session) (s : Shift) (reason : Keepalive.Reason) :
    w.beginJob s (.keepalive reason) =
      if w.engine.isGated then (w, .done (.tick .gated))
      else if w.isFlying (s.crew, .keepalive) then (w, .done (.tick .inFlight))
      else (w.setFlight s.crew .keepalive ⟨true⟩, .waiting (.keepalive s ⟨reason⟩)) := by
  unfold beginJob
  cases hg : w.engine.isGated with
  | true => simp [barrier?, hg]
  | false =>
    have hb : barrier? w.engine (.keepalive reason) = none := by simp [barrier?, hg]
    cases hf : w.isFlying (s.crew, .keepalive) with
    | true =>
      have hguard : ((w.crew s.crew).flights.get .keepalive).running = true := hf
      simp [hb, Job.duty, Flight.tryBegin?, hguard, inFlight]
    | false =>
      have hguard : ((w.crew s.crew).flights.get .keepalive).running = false := hf
      simp [hb, Job.duty, Flight.tryBegin?, hguard, takeOff]

/-- Something keeps a run of keepalive off. -/
def isKeptOff (w : Session) (s : Shift) : Bool :=
  w.engine.isGated || w.isFlying (s.crew, .keepalive)

/-- An attempt calls the backend unless something keeps it off. -/
theorem any_begun?_wake {due : Nat} {reason : Keepalive.Reason}
    (hk : w.KeepsAlive id s (.resting due reason)) (hd : due ≤ w.uptime) :
    (w.begun? (.wake id)).any (·.call = .runKeepaliveAll) = !w.isKeptOff s := by
  rw [begun?_wake_of_resting hk hd, Routine.job, beginJob_keepalive, isKeptOff]
  cases w.engine.isGated <;> cases w.isFlying (s.crew, .keepalive) <;> rfl

theorem task?_runLoop_of_keptOff (ht : (w.task? id).isSome) (h : w.isKeptOff s)
    (reason : Keepalive.Reason) :
    (w.runLoop id (.keepalive reason) s).task? id =
      some ⟨id, .loop (.keepalive reason) s,
        .resting (w.timeAfter w.engine.config.busyRetry.toNat)⟩ := by
  rw [runLoop, Routine.job, beginJob_keepalive]
  cases hg : w.engine.isGated with
  | true => exact task?_rest ht _ _
  | false =>
    have hf : w.isFlying (s.crew, .keepalive) = true := by simpa [isKeptOff, hg] using h
    rw [hf]
    exact task?_rest ht _ _

theorem task?_runLoop_of_free (ht : (w.task? id).isSome) (h : w.isKeptOff s = false)
    (reason : Keepalive.Reason) :
    (w.runLoop id (.keepalive reason) s).task? id =
      some ⟨id, .loop (.keepalive reason) s, .working (.keepalive s ⟨reason⟩)⟩ := by
  obtain ⟨t, ht⟩ := Option.isSome_iff_exists.1 ht
  obtain ⟨hg, hf⟩ := Bool.or_eq_false_iff.1 h
  rw [runLoop, Routine.job, beginJob_keepalive, hg, hf]
  simp [conclude, task?_setTask, task?_setFlight, ht]

theorem task?_afterWatch {r : Routine} {p : Keepalive.Plan} {random : Source}
    (ht : (w.task? id).isSome) (hs : w.isCancelled s.scope = false)
    (hp : (KeepaliveRun.firstPlan w.engine (!(w.crew s.crew).startupChecked)).run w.random =
      some (p, random)) :
    (w.afterWatch id (.loop r s)).task? id =
      some ⟨id, .loop (.keepalive p.reason) s, .resting (w.timeAfter p.delay.toNat)⟩ := by
  obtain ⟨crew, scope⟩ := s
  unfold afterWatch
  cases crew <;> simp only [hs, Bool.false_eq_true, if_false, setCrew, Session.crew] at hp ⊢ <;>
    rw [hp] <;> exact task?_rest ht _ _

theorem task?_endTask_self (w : Session) (id : Nat) : (w.endTask id).task? id = none := by
  rw [task?_endTask, if_pos rfl]

theorem keepsAlive_afterWatch_of_none {r : Routine} (hid : id < w.nextTask)
    (hs : w.isCancelled s.scope = false)
    (hp : (KeepaliveRun.firstPlan w.engine (!(w.crew s.crew).startupChecked)).run w.random = none) :
    (w.afterWatch id (.loop r s)).KeepsAlive id s .gone := by
  obtain ⟨crew, scope⟩ := s
  unfold afterWatch
  cases crew <;> simp only [hs, Bool.false_eq_true, if_false, setCrew, Session.crew] at hp ⊢ <;>
    rw [hp] <;> exact ⟨task?_endTask_self _ id, hid⟩

/-- Once the run has been made, the next one is planned, a periodic one, if there is room for that. -/
theorem keepsAlive_planKeepalive {config : Config} (hc : w.engine.config = config.normalized)
    (ht : (w.task? id).isSome) (hid : id < w.nextTask) :
    ∃ stage, (w.planKeepalive id s).KeepsAlive id s stage ∧
      ∀ past, Milestone.Leaves w.engine.config (.completes w.uptime :: past) stage := by
  rcases Keepalive.isPeriodic_periodicDelay config w.random with
    ⟨delay, random, hrun, hd⟩ | ⟨hrun, hroom⟩ <;> rw [← hc] at hrun
  · refine ⟨.resting (w.timeAfter delay.toNat) .periodic, ?_, fun past => .completed _ past (hc ▸ hd)⟩
    unfold planKeepalive
    rw [hrun]
    exact task?_rest ht _ _
  · refine ⟨.gone, ?_, fun past => .lost _ past (hc ▸ hroom)⟩
    unfold planKeepalive
    rw [hrun]
    exact ⟨task?_endTask_self w id, hid⟩

/-- Whatever the backend has replied, the run was made. -/
theorem shouldRetry_finish (k : KeepaliveRun) (e : Engine) (cancelled : Bool)
    (reply : Except Failure Snapshot) : (k.finish e cancelled reply).2.shouldRetry = false := by
  cases cancelled <;> cases reply <;> rfl

theorem keepsAlive_resume {config : Config} (hc : w.engine.config = config.normalized)
    (ht : (w.task? id).isSome) (hid : id < w.nextTask) (reason : Keepalive.Reason)
    (reply : Reply (Work.keepalive s ⟨reason⟩).call) :
    ∃ stage, ((w.resume (.keepalive s ⟨reason⟩) reply).1.conclude id (.loop (.keepalive reason) s)
        (w.resume (.keepalive s ⟨reason⟩) reply).2).KeepsAlive id s stage ∧
      ∀ past, Milestone.Leaves w.engine.config (.completes w.uptime :: past) stage := by
  have hconf := config_resume w (.keepalive s ⟨reason⟩) reply
  have hran := shouldRetry_finish ⟨reason⟩ w.engine (w.isCancelled s.scope) reply
  simp only [resume, finishRun, land] at hconf ⊢
  generalize KeepaliveRun.finish ⟨reason⟩ w.engine (w.isCancelled s.scope) reply = r
    at hconf hran ⊢
  have hset := (Guards.setFlight { w with engine := r.1 } s.crew .keepalive ⟨false⟩).crews
  generalize { w with engine := r.1 }.setFlight s.crew .keepalive ⟨false⟩ = w' at hconf hset ⊢
  have htask : w'.task? id = w.task? id := (hset.congr (·.task? id) fun _ _ _ _ _ => rfl :)
  have hnext : w'.nextTask = w.nextTask := (hset.congr Session.nextTask fun _ _ _ _ _ => rfl :)
  have hup : w'.uptime = w.uptime := (hset.congr Session.uptime fun _ _ _ _ _ => rfl :)
  obtain ⟨stage, hstage, hleaves⟩ := keepsAlive_planKeepalive (s := s) (hconf.trans hc)
    (htask ▸ ht) (hnext ▸ hid)
  refine ⟨stage, ?_, fun past => ?_⟩
  · simp only [conclude, restAfter, tickOf, Option.any_some, hran, Bool.false_eq_true, if_false]
    exact hstage
  · rw [← hconf, ← hup]
    exact hleaves past

/-! ### What an event makes of a loop -/

theorem task?_step_of_ne (hw : w.Numbered) {ev : Event} {t : Task} (ht : w.task? id = some t)
    (hid : id ≠ w.subject ev) : (w.step ev).task? id = some t := by
  refine (hw.step ev).task?_of_mem ht (mem_step hw (List.mem_of_find?_eq_some ht) ?_)
  rwa [id_of_task? ht]

theorem milestone?_of_ne {ev : Event} (hid : id ≠ w.subject ev) : w.milestone? id ev = none := by
  unfold milestone?
  split
  · split <;> first | rfl | exact if_neg (Ne.symm hid) | exact if_neg fun h => hid h.1.symm
  · rfl

/-- The loop is there after the event, and what it comes to by it comes in its turn. -/
def Goes (w : Session) (id : Nat) (s : Shift) (past : List Milestone) (ev : Event) : Prop :=
  ∃ stage, (w.step ev).KeepsAlive id s stage ∧
    Milestone.Leaves w.engine.config ((w.milestone? id ev).toList ++ past) stage ∧
    ∀ m ∈ w.milestone? id ev, Milestone.Follows w.engine.config past m

variable {past : List Milestone} {ev : Event} {stage : LoopStage}

/-- An event by which the loop comes to nothing leaves it at its stage. -/
theorem Goes.of_none (stage : LoopStage) (hm : w.milestone? id ev = none)
    (hk : (w.step ev).KeepsAlive id s stage)
    (hl : Milestone.Leaves w.engine.config past stage) : w.Goes id s past ev :=
  ⟨stage, hk, by rwa [hm], fun m h => by simp [hm] at h⟩

theorem Goes.of_some (stage : LoopStage) {m : Milestone} (hm : w.milestone? id ev = some m)
    (hk : (w.step ev).KeepsAlive id s stage)
    (hl : Milestone.Leaves w.engine.config (m :: past) stage)
    (hf : Milestone.Follows w.engine.config past m) : w.Goes id s past ev :=
  ⟨stage, hk, by rwa [hm], fun m' h => by
    obtain rfl := Option.some.inj (hm.symm.trans h)
    exact hf⟩

/-- The wait for the dashboard is over. -/
theorem goes_of_afterWatch (hs : w.isCancelled s.scope = false) {r : Routine}
    (ht : (w.task? id).isSome) (hid : id < w.nextTask)
    (hstep : w.step ev = w.afterWatch id (.loop r s))
    (hm : w.milestone? id ev = some (w.firstMilestone s)) : w.Goes id s [] ev := by
  cases hp : (KeepaliveRun.firstPlan w.engine (!(w.crew s.crew).startupChecked)).run w.random with
  | none =>
    have hfails : w.firstMilestone s = .fails w.uptime := by simp [firstMilestone, firstPlan?, hp]
    rw [hfails] at hm
    refine .of_some .gone hm ?_ (.failed w.uptime []) (.fails w.uptime)
    rw [hstep]
    exact keepsAlive_afterWatch_of_none hid hs hp
  | some found =>
    obtain ⟨p, random⟩ := found
    have hplans : w.firstMilestone s = .plans w.uptime p := by simp [firstMilestone, firstPlan?, hp]
    rw [hplans] at hm
    refine .of_some _ hm ?_ (.planned w.uptime p []) (.plans w.uptime p)
    rw [hstep]
    exact task?_afterWatch ht hs hp

/-- A loop that has ended does not come back. -/
theorem KeepsAlive.step (hk : w.KeepsAlive id s .gone) (ev : Event) :
    (w.step ev).KeepsAlive id s .gone :=
  ⟨task?_step_of_none hk.2 hk.1 ev, Nat.lt_of_lt_of_le hk.2 (nextTask_le_step w ev)⟩

theorem milestone?_of_gone (hk : w.KeepsAlive id s .gone) (ev : Event) :
    w.milestone? id ev = none := by
  simp only [milestone?, hk.1]

/-- Another task has the event to itself. -/
theorem Goes.of_ne (hw : w.Numbered) (hid : id ≠ w.subject ev) (hk : w.KeepsAlive id s stage)
    (hl : Milestone.Leaves w.engine.config past stage) : w.Goes id s past ev := by
  refine .of_none _ (milestone?_of_ne hid) ?_ hl
  cases stage with
  | waiting =>
    obtain ⟨r, stage, ht, hstage⟩ := hk
    exact ⟨r, stage, task?_step_of_ne hw ht hid, hstage⟩
  | resting due reason => exact task?_step_of_ne hw hk hid
  | running reason => exact task?_step_of_ne hw hk hid
  | gone => exact hk.step ev

/-- An event that does not fit the stage of a task does nothing. -/
theorem step_of_misfit (hw : w.Numbered) {t : Task} (ht : w.task? (w.subject ev) = some t)
    (hf : ev.fits t.stage = false) : w.step ev = w := by
  obtain ⟨i, errand, stage⟩ := t
  cases ev with
  | ask | act | pass =>
    rw [subject, hw.task?_next] at ht
    cases ht
  | _ =>
    simp only [subject] at ht
    cases stage <;> first | (simp only [step, ht]; done) | cases hf

theorem milestone?_of_misfit {t : Task} (ht : w.task? id = some t)
    (hf : ev.fits t.stage = false) : w.milestone? id ev = none := by
  unfold milestone?
  rw [ht]
  split
  · rename_i heq
    obtain rfl := Option.some.inj heq
    split <;> first | rfl | cases hf
  · rfl

theorem Goes.of_misfit (hw : w.Numbered) {t : Task} (ht : w.task? (w.subject ev) = some t)
    (hf : ev.fits t.stage = false) (hk : w.KeepsAlive (w.subject ev) s stage)
    (hl : Milestone.Leaves w.engine.config past stage) : w.Goes (w.subject ev) s past ev :=
  .of_none _ (milestone?_of_misfit ht hf) ((step_of_misfit hw ht hf).symm ▸ hk) hl

theorem goes_of_fresh (hw : w.Numbered) (hs : w.isCancelled s.scope = false)
    {r : Keepalive.Reason}
    (ht : w.task? (w.subject ev) = some ⟨w.subject ev, .loop (.keepalive r) s, .fresh⟩) :
    w.Goes (w.subject ev) s [] ev := by
  have hk : w.KeepsAlive (w.subject ev) s .waiting := ⟨r, .fresh, ht, .inl rfl⟩
  cases ev with
  | turn id =>
    simp only [subject] at ht ⊢
    have hsome : (w.task? id).isSome := by simp [ht]
    have hid : id < w.nextTask := hw.lt_of_task? ht
    have hstep : w.step (.turn id) = w.watch id (.loop (.keepalive r) s) := by
      simp only [step, ht, firstTurn, enterLoop]
    unfold watch at hstep
    cases hwait : patience? w.engine.config with
    | none =>
      rw [hwait] at hstep
      refine .of_some .gone (by simp [milestone?, ht, hwait]) ?_ (.failed w.uptime [])
        (.fails w.uptime)
      rw [hstep]
      exact ⟨task?_endTask_self w id, hid⟩
    | some ms =>
      cases hmodel : w.engine.model.isSome with
      | true =>
        simp only [hwait, hmodel, if_true] at hstep
        exact goes_of_afterWatch hs hsome hid hstep (by simp [milestone?, ht, hmodel, hwait])
      | false =>
        simp only [hwait, hmodel, Bool.false_eq_true, if_false] at hstep
        refine .of_none .waiting (by simp [milestone?, ht, hmodel, hwait]) ?_ .start
        rw [hstep]
        exact ⟨r, _, by rw [task?_setTask, if_pos rfl, ht]; rfl, .inr ⟨_, rfl⟩⟩
  | _ => exact .of_misfit hw ht rfl hk .start

theorem goes_of_watching (hw : w.Numbered) (hs : w.isCancelled s.scope = false)
    {r : Keepalive.Reason} {due : Nat}
    (ht : w.task? (w.subject ev) = some ⟨w.subject ev, .loop (.keepalive r) s, .watching due⟩) :
    w.Goes (w.subject ev) s [] ev := by
  have hk : w.KeepsAlive (w.subject ev) s .waiting := ⟨r, _, ht, .inr ⟨due, rfl⟩⟩
  cases ev with
  | arrive id =>
    simp only [subject] at ht hk ⊢
    have hsome : (w.task? id).isSome := by simp [ht]
    by_cases hover : w.engine.model.isSome ∨ due ≤ w.uptime
    · have hstep : w.step (.arrive id) = w.afterWatch id (.loop (.keepalive r) s) := by
        simp only [step, ht]
        rw [if_pos (by simpa using hover)]
      exact goes_of_afterWatch hs hsome (hw.lt_of_task? ht) hstep (by simp [milestone?, ht, hover])
    · refine .of_none .waiting (by simp [milestone?, ht, hover]) ?_ .start
      have hstep : w.step (.arrive id) = w := by
        simp only [step, ht]
        rw [if_neg (by simpa using hover)]
      exact hstep.symm ▸ hk
  | _ => exact .of_misfit hw ht rfl hk .start

/-- A rest that is over is followed by an attempt, which comes to a rest or to a call. -/
theorem goes_of_resting (hw : w.Numbered) (hs : w.isCancelled s.scope = false)
    {due : Nat} {reason : Keepalive.Reason} (hk : w.KeepsAlive (w.subject ev) s (.resting due reason))
    (hl : Milestone.Leaves w.engine.config past (.resting due reason)) :
    w.Goes (w.subject ev) s past ev := by
  have ht : w.task? (w.subject ev) = _ := hk
  cases ev with
  | wake id =>
    simp only [subject] at ht hk ⊢
    have hsome : (w.task? id).isSome := by simp [ht]
    by_cases hd : due ≤ w.uptime
    · have hstep : w.step (.wake id) = w.runLoop id (.keepalive reason) s := by
        simp only [step, ht, if_pos hd, wakeUp]
      have hm : w.milestone? id (.wake id) =
          some (.attempts ⟨due, w.uptime, reason, !w.isKeptOff s⟩) := by
        simp [milestone?, ht, hd, any_begun?_wake hk hd]
      cases hoff : w.isKeptOff s with
      | true =>
        refine .of_some (.resting _ reason) hm ?_ (.deferred (by simp [hoff]) past) (.attempts hl)
        rw [hstep]
        exact task?_runLoop_of_keptOff hsome hoff reason
      | false =>
        refine .of_some (.running reason) hm ?_ (.called (by simp [hoff]) past) (.attempts hl)
        rw [hstep]
        exact task?_runLoop_of_free hsome hoff reason
    · refine .of_none _ (by simp [milestone?, ht, hd]) ?_ hl
      have hstep : w.step (.wake id) = w := by simp only [step, ht, if_neg hd]
      exact hstep.symm ▸ hk
  | quit id =>
    simp only [subject] at ht hk ⊢
    refine .of_none _ (by simp [milestone?, ht]) ?_ hl
    have hstep : w.step (.quit id) = w := by
      simp [step, ht, Errand.scope?, hs]
    exact hstep.symm ▸ hk
  | _ => exact .of_misfit hw ht rfl hk hl

theorem goes_of_running {config : Config} (hw : w.Numbered)
    (hc : w.engine.config = config.normalized) {reason : Keepalive.Reason}
    (hk : w.KeepsAlive (w.subject ev) s (.running reason))
    (hl : Milestone.Leaves w.engine.config past (.running reason)) :
    w.Goes (w.subject ev) s past ev := by
  have ht : w.task? (w.subject ev) = _ := hk
  cases ev with
  | reply id c r =>
    simp only [subject] at ht hk ⊢
    have hsome : (w.task? id).isSome := by simp [ht]
    cases ha : w.answered? (.reply id c r) with
    | none =>
      refine .of_none _ (by simp [milestone?, ht, ha]) ?_ hl
      exact (step_of_not_answered ha).symm ▸ hk
    | some a =>
      have hm : w.milestone? id (.reply id c r) = some (.completes w.uptime) := by
        simp [milestone?, ht, ha]
      obtain ⟨k, reply⟩ := a
      obtain ⟨id', errand, ht', hstep⟩ := step_of_answered ha
      cases ht.symm.trans ht'
      obtain ⟨stage, hstage, hleaves⟩ := keepsAlive_resume hc hsome (hw.lt_of_task? ht) reason reply
      refine .of_some stage hm ?_ (hleaves past) (.completes hl w.uptime)
      rw [hstep]
      exact hstage
  | expire id =>
    simp only [subject] at ht hk ⊢
    refine .of_none _ (by simp [milestone?, ht]) ?_ hl
    have hstep : w.step (.expire id) = w := by
      simp [step, ht, Work.limit?]
    exact hstep.symm ▸ hk
  | _ => exact .of_misfit hw ht rfl hk hl

/-- **A loop goes on as scheduled**, whatever happens, as long as its scope is open. -/
theorem goes_of_keepsAlive {config : Config} (hw : w.Numbered)
    (hc : w.engine.config = config.normalized) (hs : w.isCancelled s.scope = false)
    (hk : w.KeepsAlive id s stage) (hl : Milestone.Leaves w.engine.config past stage) (ev : Event) :
    w.Goes id s past ev := by
  by_cases hid : id = w.subject ev
  · subst hid
    cases stage with
    | waiting =>
      cases hl
      obtain ⟨r, stage, ht, rfl | ⟨due, rfl⟩⟩ := hk
      · exact goes_of_fresh hw hs ht
      · exact goes_of_watching hw hs ht
    | resting due reason => exact goes_of_resting hw hs hk hl
    | running reason => exact goes_of_running hw hc hk hl
    | gone => exact .of_none .gone (milestone?_of_gone hk ev) (hk.step ev) hl
  · exact .of_ne hw hid hk hl

/-! ## A whole run -/

/-- **A run keeps a loop to its schedule.** -/
theorem scheduled_run {config : Config} (hw : w.Numbered)
    (hc : w.engine.config = config.normalized) (hk : w.KeepsAlive id s .waiting)
    {events : List Event} (hs : (w.run events).isCancelled s.scope = false) :
    Milestone.Scheduled w.engine.config (w.milestones id events) ∧
      ∃ stage, (w.run events).KeepsAlive id s stage ∧
        Milestone.Leaves w.engine.config (w.milestones id events) stage := by
  induction events using List.reverseRecOn with
  | nil => exact ⟨.nil, .waiting, hk, .start⟩
  | append_singleton events ev ih =>
    rw [run_concat] at hs
    have hopen : (w.run events).isCancelled s.scope = false :=
      Bool.eq_false_iff.2 fun h =>
        Bool.eq_false_iff.1 hs (isCancelled_run (hw.run events) h [ev])
    obtain ⟨hsched, stage, hk, hl⟩ := ih hopen
    have hconf : (w.run events).engine.config = w.engine.config := config_run hw events
    rw [← hconf] at hl
    obtain ⟨stage', hk', hl', hf⟩ :=
      goes_of_keepsAlive (hw.run events) (hconf.trans hc) hopen hk hl ev
    rw [hconf] at hl' hf
    rw [milestones_concat, run_concat]
    refine ⟨?_, stage', hk', hl'⟩
    cases hm : (w.run events).milestone? id ev with
    | none => exact hsched
    | some m => exact .cons hsched (hf m hm)

/-- When the rest of a task is to end, if it rests. -/
def restOf? (w : Session) (id : Nat) : Option Nat :=
  match w.task? id with
  | some ⟨_, _, .resting due⟩ => some due
  | _ => none

/-- The task is woken in time: at no point of the run has it rested too long. -/
def Punctual (w : Session) (id : Nat) : List Event → Prop
  | [] => ∀ due ∈ w.restOf? id, w.uptime ≤ due
  | ev :: events => (∀ due ∈ w.restOf? id, w.uptime ≤ due) ∧ (w.step ev).Punctual id events

theorem Punctual.uptime_le {events : List Event} (h : w.Punctual id events) {due : Nat}
    (hd : (w.run events).restOf? id = some due) : (w.run events).uptime ≤ due := by
  induction events generalizing w with
  | nil => exact h due hd
  | cons ev events ih => exact ih h.2 hd

/-- What the loop waits for takes it on. -/
def GoesOn (w : Session) (id : Nat) : LoopStage → Prop
  | .waiting =>
    w.engine.model.isSome → ∃ ev m, w.milestone? id ev = some m ∧
      (m = .fails w.uptime ∨ ∃ p, m = .plans w.uptime p)
  | .resting due reason =>
    due ≤ w.uptime → ∃ called,
      w.milestone? id (.wake id) = some (.attempts ⟨due, w.uptime, reason, called⟩)
  | .running _ =>
    ∀ r : Reply .runKeepaliveAll,
      w.milestone? id (.reply id .runKeepaliveAll r) = some (.completes w.uptime)
  | .gone => True

theorem firstMilestone_cases (w : Session) (s : Shift) :
    w.firstMilestone s = .fails w.uptime ∨ ∃ p, w.firstMilestone s = .plans w.uptime p := by
  unfold firstMilestone
  split
  · exact .inr ⟨_, rfl⟩
  · exact .inl rfl

/-- What a loop comes to that waits for the dashboard. -/
theorem milestone?_of_waiting (hk : w.KeepsAlive id s .waiting) {m : Milestone}
    (hm : w.milestone? id ev = some m) :
    m = .fails w.uptime ∧ patience? w.engine.config = none ∨ m = w.firstMilestone s := by
  obtain ⟨r, stage, ht, rfl | ⟨due, rfl⟩⟩ := hk
  · cases ev with
    | turn i =>
      simp only [milestone?, ht, Option.ite_none_right_eq_some] at hm
      split at hm
      · rename_i hwait
        cases hm.2
        exact .inl ⟨rfl, hwait⟩
      · simp only [Option.ite_none_right_eq_some, Option.some.injEq] at hm
        exact .inr hm.2.2.symm
    | _ => simp [milestone?, ht] at hm
  · cases ev with
    | arrive i =>
      simp only [milestone?, ht, Option.ite_none_right_eq_some, Option.some.injEq] at hm
      exact .inr hm.2.symm
    | _ => simp [milestone?, ht] at hm

theorem goesOn_of_keepsAlive (hk : w.KeepsAlive id s stage) : w.GoesOn id stage := by
  cases stage with
  | gone => trivial
  | waiting =>
    intro hmodel
    obtain ⟨r, stage, ht, rfl | ⟨due, rfl⟩⟩ := hk
    · by_cases hwait : patience? w.engine.config = none
      · exact ⟨.turn id, .fails w.uptime, by simp [milestone?, ht, hwait], .inl rfl⟩
      · exact ⟨.turn id, w.firstMilestone s, by simp [milestone?, ht, hwait, hmodel],
          w.firstMilestone_cases s⟩
    · exact ⟨.arrive id, w.firstMilestone s, by simp [milestone?, ht, hmodel],
        w.firstMilestone_cases s⟩
  | resting due reason =>
    intro hd
    have ht : w.task? id = _ := hk
    exact ⟨_, by simp only [milestone?, ht, hd, and_self, if_true]; rfl⟩
  | running reason =>
    intro r
    have ht : w.task? id = _ := hk
    have ha : w.answered? (.reply id .runKeepaliveAll r) = some ⟨.keepalive s ⟨reason⟩, r⟩ :=
      answered?_reply (k := .keepalive s ⟨reason⟩) (by rw [workOf?, ht]; rfl) r
    simp [milestone?, ht, ha]

/-- What an attempt is made of: the rest that is over by now, and what keeps it off. -/
theorem attempt_of_milestone {a : Attempt} (hk : w.KeepsAlive id s stage)
    (hm : w.milestone? id ev = some (.attempts a)) :
    stage = .resting a.due a.reason ∧ a.due ≤ a.time ∧ a.time = w.uptime ∧
      a.called = !w.isKeptOff s := by
  cases stage with
  | gone =>
    rw [milestone?_of_gone hk] at hm
    cases hm
  | waiting =>
    rcases milestone?_of_waiting hk hm with ⟨h, -⟩ | h
    · cases h
    · rcases w.firstMilestone_cases s with h' | ⟨p, h'⟩ <;> cases h.trans h'
  | running reason =>
    have ht : w.task? id = _ := hk
    cases ev <;> simp [milestone?, ht] at hm
  | resting due reason =>
    have ht : w.task? id = _ := hk
    cases ev with
    | wake i =>
      simp only [milestone?, ht, Option.ite_none_right_eq_some] at hm
      obtain ⟨⟨rfl, hd⟩, hm⟩ := hm
      rw [any_begun?_wake hk hd] at hm
      cases hm
      exact ⟨rfl, hd, rfl, rfl⟩
    | _ => simp [milestone?, ht] at hm

theorem isKeptOff_eq_false_iff {holder : Option Nat}
    (h : w.Manned (s.crew, .keepalive) holder) :
    w.isKeptOff s = false ↔ w.engine.isGated = false ∧
      ∀ other, w.flightOf? other ≠ some (s.crew, .keepalive) := by
  rw [isKeptOff, Bool.or_eq_false_iff, Bool.eq_false_iff (b := w.isFlying _), ne_eq, h.isFlying_iff,
    not_exists]

/-- **A loop fails to make its first plan** only if a word has no room for the longest wait for the
dashboard, or for a number of the plan. -/
theorem hasFirstPlan_of_fails {config : Config} (hc : w.engine.config = config.normalized)
    (hk : w.KeepsAlive id s stage) {time : Nat} (hm : w.milestone? id ev = some (.fails time)) :
    patience? w.engine.config = none ∨ ¬ w.HasFirstPlan s := by
  cases stage with
  | gone =>
    rw [milestone?_of_gone hk] at hm
    cases hm
  | waiting =>
    rcases milestone?_of_waiting hk hm with ⟨-, hwait⟩ | h
    · exact .inl hwait
    · refine .inr fun hroom => ?_
      obtain ⟨p, random, hp⟩ := exists_firstPlan hc hroom
      simp [firstMilestone, firstPlan?, hp] at h
  | resting due reason =>
    have ht : w.task? id = _ := hk
    cases ev <;> simp [milestone?, ht] at hm
  | running reason =>
    have ht : w.task? id = _ := hk
    cases ev <;> simp [milestone?, ht] at hm

/-- **The schedule of keepalive.** In every run under a normalized configuration, from the start of a
keepalive loop on and as long as its scope is open, whatever happens meanwhile and whatever numbers are
drawn:
* what the loop comes to is scheduled. The first attempt comes after the delay of the plan that ends
  the wait for the dashboard, an attempt after one that was kept off comes after the short rest, and
  one that called the backend is followed, once there is a reply of whatever kind, by a rest of one
  period, moved by the jitter, unless a signed word has no room for every period: then the rest may be
  too short, or there is no next attempt;
* the loop is there, and what it waits for takes it on; it ends only where there is no room for a plan;
* the first plan fails only if a word has no room for the longest wait or for a number of the plan;
* an attempt is never made before its time, and is made just then if the loop is woken in time; it
  calls the backend exactly if no gate is closed and no other run of keepalive is under way; and its
  reason is that of the plan up to and including the first call, and periodic from then on. -/
theorem keepalive_schedule {e : Engine} {random : Source} {config : Config}
    (hconfig : e.config = config.normalized) {before events : List Event} {id : Nat}
    {r : Keepalive.Reason} {s : Shift}
    (ht : ((ofSource e random).run before).task? id =
      some ⟨id, .loop (.keepalive r) s, .fresh⟩)
    (hopen : ((ofSource e random).run (before ++ events)).isCancelled s.scope = false) :
    let start := (ofSource e random).run before
    let w := (ofSource e random).run (before ++ events)
    let past := start.milestones id events
    Milestone.Scheduled e.config past ∧
      (∃ stage, Milestone.Leaves e.config past stage ∧ w.KeepsAlive id s stage ∧
        w.GoesOn id stage) ∧
      (∀ ev time, w.milestone? id ev = some (.fails time) →
        patience? e.config = none ∨ ¬ w.HasFirstPlan s) ∧
      ∀ ev a, w.milestone? id ev = some (.attempts a) →
        Milestone.Leaves e.config past (.resting a.due a.reason) ∧
          a.due ≤ a.time ∧ a.time = w.uptime ∧ (start.Punctual id events → a.time = a.due) ∧
          (a.called ↔ w.engine.isGated = false ∧
            ∀ other, w.flightOf? other ≠ some (s.crew, .keepalive)) ∧
          ∃ time p, past.getLast? = some (.plans time p) ∧
            a.reason = Milestone.laterReason past p := by
  intro start w past
  have hw : w = start.run events := run_append _ _ _
  have hstart : start.engine.config = e.config := config_ofSource e random before
  have hconf : w.engine.config = e.config := config_ofSource e random _
  obtain ⟨hsched, stage, hk, hl⟩ := scheduled_run ((numbered_ofSource e random).run before)
    (hstart.trans hconfig) ⟨r, .fresh, ht, .inl rfl⟩ (by rwa [← hw])
  rw [hstart] at hsched hl
  rw [← hw] at hk
  refine ⟨hsched, ⟨stage, hl, hk, goesOn_of_keepsAlive hk⟩, fun ev time hm => ?_,
    fun ev a hm => ?_⟩
  · rw [← hconf]
    exact hasFirstPlan_of_fails (hconf.trans hconfig) hk hm
  obtain ⟨rfl, hdue, htime, hcalled⟩ := attempt_of_milestone hk hm
  obtain ⟨holder, hmanned⟩ := manned_ofSource e random (before ++ events) (s.crew, .keepalive)
  have hrest : w.task? id = _ := hk
  refine ⟨hl, hdue, htime, fun hp => ?_, ?_, ?_⟩
  · have hle : w.uptime ≤ a.due := hw ▸ hp.uptime_le (by simp [restOf?, ← hw, hrest])
    omega
  · rw [hcalled, Bool.not_eq_true']
    exact isKeptOff_eq_false_iff hmanned
  · obtain ⟨time, p, hplan⟩ := hsched.exists_plan hl nofun nofun
    exact ⟨time, p, hplan, hsched.reason_eq hl (List.mem_of_getLast? hplan)⟩

/-- **A period that no signed word has room for.** The dashboard does not come, a gate keeps the first
attempt off, and the second one fails in the backend. The next one is made at once, where the period
would have it wait for ages. -/
theorem next_run_without_a_rest :
    let config : Config :=
      { keepaliveBase := 9223372036854775808, keepaliveJitter := 0, staggerMin := 10,
        staggerMax := 10 }
    let e : Engine := { Engine.blank with config := config.normalized }
    let s : Shift := ⟨.manual, .manual 0⟩
    let before : List Event := [.act (.startLoop (.manual 0) .keepalive)]
    let events : List Event :=
      [.turn 0, .pass 10000, .arrive 0, .pass 10, .act .enterBusy, .wake 0, .pass 30000,
        .act .leaveBusy, .wake 0, .pass 1000,
        .reply 0 .runKeepaliveAll (.error (.reported "down"))]
    let start := (ofSource e {}).run before
    let w := (ofSource e {}).run (before ++ events)
    let past := start.milestones 0 events
    let a : Attempt := ⟨41010, 41010, .periodic, true⟩
    past = [.completes 41010, .attempts ⟨40010, 40010, .startup, true⟩,
        .attempts ⟨10010, 10010, .startup, false⟩, .plans 10000 ⟨10, .startup⟩] ∧
      start.Punctual 0 events ∧ w.milestone? 0 (.wake 0) = some (.attempts a) ∧
      Milestone.Leaves e.config past (.resting a.due a.reason) ∧ a.time = a.due ∧
      (∀ other, w.flightOf? other ≠ some (s.crew, .keepalive)) ∧
      a.reason = Milestone.laterReason past ⟨10, .startup⟩ ∧
      (0 : Int) ∉ Keepalive.periodicWindow e.config := by
  intro config e s before events start w past a
  have ht : start.task? 0 = some ⟨0, .loop (.keepalive .periodic) s, .fresh⟩ := by decide +kernel
  have hopen : w.isCancelled s.scope = false := by decide +kernel
  have hpast : past = [.completes 41010, .attempts ⟨40010, 40010, .startup, true⟩,
      .attempts ⟨10010, 10010, .startup, false⟩, .plans 10000 ⟨10, .startup⟩] := by
    decide +kernel
  have hpunctual : start.Punctual 0 events := by
    simp only [events, Punctual]
    decide +kernel
  have hm : w.milestone? 0 (.wake 0) = some (.attempts a) := by decide +kernel
  obtain ⟨-, -, -, hattempts⟩ := @keepalive_schedule e {} config rfl before events 0 _ s ht hopen
  obtain ⟨hleaves, -, -, htime, hcalled, time, p, hplan, hreason⟩ := hattempts _ a hm
  refine ⟨hpast, hpunctual, hm, hleaves, htime hpunctual, (hcalled.1 rfl).2, ?_, fun h => ?_⟩
  · have hfirst : past.getLast? = some (.plans 10000 ⟨10, .startup⟩) := by rw [hpast]; rfl
    cases hfirst.symm.trans hplan
    exact hreason
  · exact absurd h.1 (by decide +kernel)

end Session

end Switchboard
