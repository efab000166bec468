import Switchboard.Proofs.DistinctKeys
import Switchboard.Proofs.PostSwitchPolicy

/-!
# The history of automatic switches

What the history should have can be told from what passes between the program and its backend:
`SwitchLog` is kept by the replies that report a switch, and by those that end what follows.

* `AutoSwitch.move?_resume` — a switch that is reported is followed up, until a reply ends that.
* `Session.tracks_step` — the log has just those switches pending that are followed up.
* `Session.hasAdded_step` — a row is added to the history exactly if a switch is closed in the log.
* `Session.settings_of_asking` — the profile in use before is the one remembered before the question.
* `Session.history_of_switches` — so the history has one row for each switch that was reported, with
  what became of it.
-/

set_option autoImplicit false

namespace Switchboard

/-- A switch that the backend has reported, with the profile in use before and the one in use now. -/
structure Move where
  mode : Mode
  fromProfile : Option String
  toProfile : String
  deriving DecidableEq

/-- The row of a switch in the history, given what became of its follow-up. -/
def Move.line (x : Move) : Except Failure (Option String) → SwitchEvent
  | .ok message => ⟨x.mode, x.fromProfile, x.toProfile, "switched", message⟩
  | .error f => ⟨x.mode, x.fromProfile, x.toProfile, "post_action_failed", some f.message⟩

/-- The switches so far, as the backend has reported them and replied since. -/
structure SwitchLog where
  /-- All that were reported, the latest in front. -/
  reported : List Move := []
  /-- Those that are followed up, each with the task that does so. -/
  pending : List (Nat × Move) := []
  /-- Those whose follow-up has ended, with what it came to, the latest in front. -/
  closed : List (Move × Except Failure (Option String)) := []

namespace SwitchLog

/-- A switch is reported to a task. -/
def report (log : SwitchLog) (id : Nat) (x : Move) : SwitchLog :=
  { log with reported := x :: log.reported, pending := (id, x) :: log.pending }

/-- The follow-up by a task ends. -/
def finish (log : SwitchLog) (id : Nat) (r : Except Failure (Option String)) : SwitchLog :=
  match log.pending.find? (·.1 == id) with
  | none => log
  | some p => { log with pending := log.pending.erase p, closed := (p.2, r) :: log.closed }

/-- The rows for the switches whose follow-up has ended. -/
def lines (log : SwitchLog) : List SwitchEvent := log.closed.map fun x => x.1.line x.2

end SwitchLog

/-- The switch as the history will have it, if its profile is known. -/
def Switched.move? (s : Switched) : Option Move := s.target.map fun name => ⟨s.mode, s.previous, name⟩

namespace AutoSwitch

/-- The switch that a reply reports. It counts if automatic switching was not called off, and the
profile has a name that is not blank. -/
def reported? (e : Engine) (cancelled : Bool) : (a : AutoSwitch) → Reply a.call → Option Move
  | ticking m, .ok r =>
    if cancelled || !AutoSwitchReport.switched r then none
    else (Text.filled? (AutoSwitchReport.switchedTo r)).map fun name =>
      ⟨m, e.remembered m <|> e.model.bind (·.current), name⟩
  | _, _ => none

/-- What the follow-up has come to, if a reply is its end: there is no hook, the action has run, or the
profile was applied. -/
def ending? : (a : AutoSwitch) → Reply a.call → Option (Except Failure (Option String))
  | ticking _, _ => none
  | acting _ .checking, reply => (hookFailure? reply).map .error
  | acting _ (.acting _), reply => some (reply.map some)
  | calibrating _ _, reply => some (reply.map fun _ => none)

/-- The switch that the run is following up, if its profile is known. -/
def move? : AutoSwitch → Option Move
  | ticking _ => none
  | acting s _ | calibrating s _ => s.move?

theorem reported?_eq_some_iff {e : Engine} {cancelled : Bool} {a : AutoSwitch}
    {reply : Reply a.call} {x : Move} :
    a.reported? e cancelled reply = some x ↔ ∃ r : AutoSwitchReport,
      (⟨a, reply⟩ : (a : AutoSwitch) × Reply a.call) = ⟨ticking x.mode, .ok r⟩ ∧
        cancelled = false ∧ r.switched ∧ Text.filled? r.switchedTo = some x.toProfile ∧
        x.fromProfile = (e.remembered x.mode <|> e.model.bind (·.current)) := by
  constructor
  · intro h
    unfold reported? at h
    split at h
    · rename_i m r
      split at h
      · cases h
      · rename_i hc
        obtain ⟨name, hname, rfl⟩ := Option.map_eq_some_iff.1 h
        rw [Bool.or_eq_true, not_or, Bool.not_eq_true, Bool.not_eq_true'] at hc
        exact ⟨r, rfl, hc.1, by simpa using hc.2, hname, rfl⟩
    · cases h
  · rintro ⟨r, heq, rfl, hr, hname, hfrom⟩
    cases heq
    simp [reported?, hr, hname, ← hfrom]

/-- A run that is told of a switch has not followed one up so far. -/
theorem move?_of_reported {e : Engine} {cancelled : Bool} {a : AutoSwitch} {reply : Reply a.call}
    {x : Move} (h : a.reported? e cancelled reply = some x) : a.move? = none := by
  cases a with
  | ticking m => rfl
  | acting | calibrating => cases h

/-- A switch whose profile is known is followed up. -/
theorem move?_pursue (s : Switched) (e : Engine) :
    (pursue s e).2.waiting?.bind move? = s.move? := by
  unfold pursue
  split
  · rfl
  · rfl
  · rename_i ht
    simp [Progress.waiting?, Switched.move?, ht]

/-- **A report that counts is followed up, until a reply ends that.** -/
theorem move?_resume (e : Engine) (cancelled : Bool) (a : AutoSwitch) (reply : Reply a.call) :
    (a.resume e cancelled reply).2.waiting?.bind move? =
      (a.reported? e cancelled reply).or (if (a.ending? reply).isSome then none else a.move?) := by
  cases a with
  | ticking m =>
    have hnone : (if (ending? (ticking m) reply).isSome then none else (ticking m).move?) = none := by
      split <;> rfl
    rw [hnone, Option.or_none]
    cases cancelled with
    | true => cases reply <;> rfl
    | false =>
      cases reply with
      | error f => rfl
      | ok r =>
        simp only [resume, afterTick, takeReport, reported?, Bool.false_or]
        cases hr : AutoSwitchReport.switched r with
        | true => exact move?_pursue (switchedOf e m r) _
        | false =>
          simp only [Bool.false_eq_true, if_false, Bool.not_false, if_true]
          split <;> rfl
  | acting s p =>
    cases p with
    | acting t => rfl
    | checking =>
      cases reply with
      | error f => rfl
      | ok installed => cases installed <;> rfl
  | calibrating s name => rfl

/-- The run is following up this switch: in GPT mode by the action after a switch, in OpenCode mode by
applying the profile. -/
def FollowsUp (x : Move) : AutoSwitch → Prop
  | ticking _ => False
  | acting s _ => s.move? = some x ∧ x.mode = .gpt
  | calibrating s name => s.move? = some x ∧ x.mode = .openCode ∧ name = x.toProfile

theorem FollowsUp.move? {a : AutoSwitch} {x : Move} (h : a.FollowsUp x) : a.move? = some x := by
  cases a with
  | ticking m => cases h
  | acting s p => exact h.1
  | calibrating s name => exact h.1

end AutoSwitch

/-! ## Lines of the history -/

theorem Switched.line?_eq (s : Switched) (r : Except Failure (Option String)) :
    s.line? r = s.move?.map (·.line r) := by
  unfold line? move?
  cases s.target <;> cases r <;> rfl

theorem Switched.switches_entries (s : Switched) (r : Except Failure (Option String)) :
    (s.entries r).filterMap Entry.switch? = (s.move?.map (·.line r)).toList := by
  rw [entries, s.line?_eq]
  cases s.move? <;> rfl

theorem Entry.switches_version (version : Option String) :
    (Entry.version version).filterMap Entry.switch? = [] := by
  cases version <;> rfl

theorem Entry.switches_profile (m : Mode) (name : Option String) :
    (Entry.profile m name).filterMap Entry.switch? = [] := by
  unfold Entry.profile
  cases Text.filled? name <;> rfl

/-- **A line is added when the follow-up of a switch ends**, called off or not. -/
theorem AutoSwitch.switches_entries (a : AutoSwitch) (cancelled : Bool) (reply : Reply a.call) :
    (a.entries cancelled reply).filterMap Entry.switch? =
      ((a.ending? reply).bind fun r => a.move?.map (·.line r)).toList := by
  cases a with
  | ticking m =>
    simp only [entries]
    split
    · unfold AutoSwitchReport.entries
      split
      · exact Entry.switches_profile _ _
      · rfl
    · rfl
  | acting s p =>
    cases p with
    | acting t => exact s.switches_entries _
    | checking =>
      cases reply with
      | error f => exact s.switches_entries _
      | ok installed =>
        cases installed with
        | false => exact s.switches_entries _
        | true => rfl
  | calibrating s name => exact s.switches_entries _

/-- Other work adds no line. -/
theorem Session.switches_replyEntries (w : Session) {k : Work} (hk : ∀ s a, k ≠ .autoSwitch s a)
    (reply : Reply k.call) : (w.replyEntries k reply).filterMap Entry.switch? = [] := by
  cases k with
  | autoSwitch s a => exact absurd rfl (hk s a)
  | switch s =>
    cases s with
    | calibrating => rfl
    | applying target m label =>
      cases reply with
      | error f => rfl
      | ok snapshot => exact Entry.switches_profile _ _
  | hookInstall h =>
    cases h with
    | installing => rfl
    | reading message => exact Entry.switches_version _
  | hookWatch s h =>
    cases h with
    | checking | installing => rfl
    | reading =>
      simp only [replyEntries, HookWatch.entries]
      split
      · rfl
      · exact Entry.switches_version _
    | rereading previous current message =>
      simp only [replyEntries, HookWatch.entries]
      exact Entry.switches_version _
  | _ => rfl

/-- The switch that the work is following up. -/
def Work.move? : Work → Option Move
  | autoSwitch _ a => a.move?
  | _ => none

namespace SwitchLog

variable {log : SwitchLog} {id : Nat} {x : Move} {r : Except Failure (Option String)}

theorem finish_of_mem (hn : (log.pending.map (·.1)).Nodup) (h : (id, x) ∈ log.pending) :
    log.finish id r =
      { log with pending := log.pending.erase (id, x), closed := (x, r) :: log.closed } := by
  have hfind : log.pending.find? (·.1 == id) = some (id, x) := find?_key hn h
  rw [finish, hfind]

theorem finish_of_notMem (h : ∀ x, (id, x) ∉ log.pending) : log.finish id r = log := by
  have hfind : log.pending.find? (·.1 == id) = none := by
    rw [List.find?_eq_none]
    rintro ⟨id', x⟩ hx heq
    obtain rfl : id' = id := by simpa using heq
    exact h x hx
  rw [finish, hfind]

end SwitchLog

namespace Session

variable {w : Session}

/-- The event is the reply to a call of automatic switching. -/
def AnswersSwitch (w : Session) (ev : Event) : Prop :=
  ∃ (s : Shift) (a : AutoSwitch) (reply : Reply a.call),
    w.answered? ev = some ⟨.autoSwitch s a, reply⟩

/-- The switch that an event reports. -/
def reported? (w : Session) (ev : Event) : Option Move :=
  match w.answered? ev with
  | some ⟨.autoSwitch s a, reply⟩ => a.reported? w.engine (w.isCancelled s.scope) reply
  | _ => none

/-- What a follow-up has come to that an event ends. -/
def ending? (w : Session) (ev : Event) : Option (Except Failure (Option String)) :=
  match w.answered? ev with
  | some ⟨.autoSwitch _ a, reply⟩ => a.ending? reply
  | _ => none

/-- What an event adds to the log. -/
def note (w : Session) (ev : Event) (log : SwitchLog) : SwitchLog :=
  match w.reported? ev, w.ending? ev with
  | some x, _ => log.report (w.subject ev) x
  | none, some r => log.finish (w.subject ev) r
  | none, none => log

/-- The log of a run. -/
def switchLog (w : Session) (events : List Event) : SwitchLog :=
  (events.foldl (fun p ev => (p.1.step ev, p.1.note ev p.2)) (w, ({} : SwitchLog))).2

theorem reported?_of_answered {ev : Event} {s : Shift} {a : AutoSwitch} {reply : Reply a.call}
    (ha : w.answered? ev = some ⟨.autoSwitch s a, reply⟩) :
    w.reported? ev = a.reported? w.engine (w.isCancelled s.scope) reply := by
  simp only [reported?, ha]

theorem ending?_of_answered {ev : Event} {s : Shift} {a : AutoSwitch} {reply : Reply a.call}
    (ha : w.answered? ev = some ⟨.autoSwitch s a, reply⟩) : w.ending? ev = a.ending? reply := by
  simp only [ending?, ha]

theorem answersSwitch_of_reported {ev : Event} {x : Move} (h : w.reported? ev = some x) :
    w.AnswersSwitch ev := by
  unfold reported? at h
  split at h
  · rename_i s a reply ha
    exact ⟨s, a, reply, ha⟩
  · cases h

theorem ending?_of_other {ev : Event} (h : ¬ w.AnswersSwitch ev) : w.ending? ev = none := by
  unfold ending?
  split
  · rename_i s a reply ha
    exact absurd ⟨s, a, reply, ha⟩ h
  · rfl

/-- **How the log grows**: a switch is reported to a task that follows none up, the follow-up by a task
ends, or neither. -/
theorem note_cases (w : Session) (ev : Event) (log : SwitchLog) :
    (∃ x, w.reported? ev = some x ∧ w.note ev log = log.report (w.subject ev) x) ∨
      (w.reported? ev = none ∧ ∃ r, w.ending? ev = some r ∧
        w.note ev log = log.finish (w.subject ev) r) ∨
      (w.reported? ev = none ∧ w.ending? ev = none ∧ w.note ev log = log) := by
  unfold note
  cases w.reported? ev with
  | some x => exact .inl ⟨x, rfl, rfl⟩
  | none =>
    cases w.ending? ev with
    | some r => exact .inr (.inl ⟨rfl, r, rfl, rfl⟩)
    | none => exact .inr (.inr ⟨rfl, rfl, rfl⟩)

theorem switchLog_concat (w : Session) (events : List Event) (ev : Event) :
    w.switchLog (events ++ [ev]) = (w.run events).note ev (w.switchLog events) := by
  have hrun (log : SwitchLog) :
      (events.foldl (fun p ev => (p.1.step ev, p.1.note ev p.2)) (w, log)).1 = w.run events := by
    induction events generalizing w log with
    | nil => rfl
    | cons ev events ih => exact ih (w.step ev) (w.note ev log)
  rw [switchLog, List.foldl_append, List.foldl_cons, List.foldl_nil, hrun]
  rfl

/-! ## What is followed up -/

/-- The switch that a task is following up. -/
def move? (w : Session) (id : Nat) : Option Move := (w.workOf? id).bind (·.move?)

theorem move?_of_answered {ev : Event} {s : Shift} {a : AutoSwitch} {reply : Reply a.call}
    (ha : w.answered? ev = some ⟨.autoSwitch s a, reply⟩) : w.move? (w.subject ev) = a.move? := by
  rw [move?, workOf?_of_answered ha]
  rfl

/-- A task that is told of a switch has not followed one up so far. -/
theorem move?_of_reported {ev : Event} {x : Move} (h : w.reported? ev = some x) :
    w.move? (w.subject ev) = none := by
  obtain ⟨s, a, reply, ha⟩ := answersSwitch_of_reported h
  rw [reported?_of_answered ha] at h
  rw [move?_of_answered ha]
  exact AutoSwitch.move?_of_reported h

theorem move?_step_of_ne (hw : w.Numbered) {ev : Event} {id : Nat} (hid : id ≠ w.subject ev) :
    (w.step ev).move? id = w.move? id := by
  rw [move?, workOf?_step_of_ne hw hid]
  rfl

/-- Nothing is begun to be followed up, nor is any follow-up over, unless automatic switching has its
reply. -/
theorem move?_step_of_other (hw : w.Numbered) {ev : Event} (h : ¬ w.AnswersSwitch ev) (id : Nat) :
    (w.step ev).move? id = w.move? id := by
  refine Option.ext fun x => ?_
  simp only [move?, Option.bind_eq_some_iff]
  constructor
  · rintro ⟨k, hk, hx⟩
    rcases workOf?_step_cases hw hk with hk | ⟨rfl, hb⟩
    · exact ⟨k, hk, hx⟩
    cases k with
    | autoSwitch s a =>
      rcases switching_of_begun hb with rfl | ⟨a₀, r, ha, -⟩
      · cases hx
      · exact absurd ⟨s, a₀, r, ha⟩ h
    | _ => cases hx
  · rintro ⟨k, hk, hx⟩
    rcases workOf?_step_or_answered hw hk ev with hk | ⟨rfl, r, ha⟩
    · exact ⟨k, hk, hx⟩
    cases k with
    | autoSwitch s a => exact absurd ⟨s, a, r, ha⟩ h
    | _ => cases hx

/-- **A task follows up the switch that is reported to it**, until an event ends that. -/
theorem move?_step (hw : w.Numbered) (ev : Event) :
    (w.step ev).move? (w.subject ev) =
      (w.reported? ev).or (if (w.ending? ev).isSome then none else w.move? (w.subject ev)) := by
  by_cases hans : w.AnswersSwitch ev
  · obtain ⟨s, a, reply, ha⟩ := hans
    rw [reported?_of_answered ha, ending?_of_answered ha, move?_of_answered ha, ← a.move?_resume,
      move?, workOf?_step_of_answered ha, begun?_of_answered ha]
    simp only [resume, resumeAutoSwitch]
    rw [waiting?_carryOn, Option.bind_map]
    rfl
  · have hreported : w.reported? ev = none :=
      Option.eq_none_iff_forall_ne_some.2 fun x hx => hans (answersSwitch_of_reported hx)
    rw [hreported, ending?_of_other hans, move?_step_of_other hw hans]
    rfl

/-- The log has the switches pending that are followed up, each of them once, and all that were
reported are pending or closed. -/
structure Tracks (w : Session) (log : SwitchLog) : Prop where
  nodup : (log.pending.map (·.1)).Nodup
  mem_pending : ∀ id x, (id, x) ∈ log.pending ↔ w.move? id = some x
  perm : log.reported.Perm (log.pending.map (·.2) ++ log.closed.map (·.1))

namespace Tracks

variable {w' : Session} {log : SwitchLog} {id : Nat}

theorem of_eq (h : w.Tracks log) (hall : ∀ j, w'.move? j = w.move? j) : w'.Tracks log where
  nodup := h.nodup
  mem_pending j x := by rw [h.mem_pending, hall]
  perm := h.perm

theorem report (h : w.Tracks log) {x : Move} (hbefore : w.move? id = none)
    (hafter : w'.move? id = some x) (helse : ∀ j, j ≠ id → w'.move? j = w.move? j) :
    w'.Tracks (log.report id x) where
  nodup := by
    simp only [SwitchLog.report, List.map_cons, List.nodup_cons]
    refine ⟨fun hmem => ?_, h.nodup⟩
    obtain ⟨⟨id', y⟩, hy, rfl⟩ := List.mem_map.1 hmem
    rw [h.mem_pending, hbefore] at hy
    cases hy
  mem_pending j y := by
    simp only [SwitchLog.report, List.mem_cons, Prod.mk.injEq, h.mem_pending]
    by_cases hj : j = id
    · subst hj
      simp [hbefore, hafter, eq_comm]
    · simp [hj, helse j hj]
  perm := List.Perm.cons x h.perm

theorem finish (h : w.Tracks log) {r : Except Failure (Option String)}
    (hafter : w'.move? id = none) (helse : ∀ j, j ≠ id → w'.move? j = w.move? j) :
    w'.Tracks (log.finish id r) := by
  cases hbefore : w.move? id with
  | none =>
    rw [SwitchLog.finish_of_notMem fun x => by rw [h.mem_pending, hbefore]; simp]
    refine h.of_eq fun j => ?_
    by_cases hj : j = id
    · rw [hj, hafter, hbefore]
    · exact helse j hj
  | some x =>
    have hmem : (id, x) ∈ log.pending := (h.mem_pending id x).2 hbefore
    rw [SwitchLog.finish_of_mem h.nodup hmem]
    refine ⟨?_, fun j y => ?_, ?_⟩
    · exact h.nodup.sublist (List.erase_sublist.map _)
    · rw [(List.Nodup.of_map _ h.nodup).mem_erase_iff, h.mem_pending]
      by_cases hj : j = id
      · subst hj
        simp [hbefore, hafter, eq_comm]
      · simp [hj, helse j hj]
    · -- The switch goes over from those that are pending.
      have hpending := (List.perm_cons_erase hmem).map (·.2)
      refine h.perm.trans ((hpending.append_right _).trans ?_)
      exact List.perm_middle.symm

/-- The end of a follow-up is one line more. -/
theorem lines_finish (h : w.Tracks log) {r : Except Failure (Option String)} :
    (log.finish id r).lines = ((w.move? id).map (·.line r)).toList ++ log.lines := by
  cases hmove : w.move? id with
  | none =>
    rw [SwitchLog.finish_of_notMem fun x => by rw [h.mem_pending, hmove]; simp]
    rfl
  | some x =>
    rw [SwitchLog.finish_of_mem h.nodup ((h.mem_pending id x).2 hmove)]
    rfl

end Tracks

/-- **The log goes on to have those switches pending that are followed up.** -/
theorem tracks_step (hw : w.Numbered) {log : SwitchLog} (h : w.Tracks log) (ev : Event) :
    (w.step ev).Tracks (w.note ev log) := by
  have hafter := move?_step hw ev
  have helse (id : Nat) (hid : id ≠ w.subject ev) := move?_step_of_ne hw hid
  rcases w.note_cases ev log with ⟨x, hx, hnote⟩ | ⟨hx, r, hr, hnote⟩ | ⟨hx, hr, hnote⟩
  · rw [hx, Option.some_or] at hafter
    rw [hnote]
    exact h.report (move?_of_reported hx) hafter helse
  · rw [hx, hr, Option.none_or, Option.isSome_some, if_pos rfl] at hafter
    rw [hnote]
    exact h.finish hafter helse
  · rw [hx, hr, Option.none_or] at hafter
    rw [hnote]
    refine h.of_eq fun j => ?_
    by_cases hj : j = w.subject ev
    · rw [hj]
      exact hafter
    · exact helse j hj

/-! ## The history in the store -/

/-- **An event adds a line to the history exactly if it ends the follow-up of a switch.** -/
theorem switches_entries (w : Session) (ev : Event) :
    (w.entries ev).filterMap Entry.switch? =
      ((w.ending? ev).bind fun r => (w.move? (w.subject ev)).map (·.line r)).toList := by
  by_cases hans : w.AnswersSwitch ev
  · obtain ⟨s, a, reply, ha⟩ := hans
    rw [ending?_of_answered ha, move?_of_answered ha, entries_of_answered ha]
    exact a.switches_entries _ reply
  rw [ending?_of_other hans]
  cases ha : w.answered? ev with
  | some a =>
    obtain ⟨k, reply⟩ := a
    rw [entries_of_answered ha]
    refine w.switches_replyEntries (fun s a hk => ?_) reply
    subst hk
    exact hans ⟨s, a, reply, ha⟩
  | none =>
    cases ev with
    | act a =>
      cases a with
      | remember m name => exact Entry.switches_profile m _
      | _ => rfl
    | ask q => cases q <;> rfl
    | _ =>
      simp only [entries, ha]
      rfl

/-- The lines that an event adds are those of the switches that it closes in the log. -/
theorem lines_note {log : SwitchLog} (h : w.Tracks log) (ev : Event) :
    (w.note ev log).lines = ((w.entries ev).filterMap Entry.switch?).reverse ++ log.lines := by
  rw [switches_entries]
  rcases w.note_cases ev log with ⟨x, hx, hnote⟩ | ⟨hx, r, hr, hnote⟩ | ⟨hx, hr, hnote⟩
  · rw [hnote, move?_of_reported hx]
    cases w.ending? ev <;> rfl
  · rw [hnote, hr, h.lines_finish]
    cases w.move? (w.subject ev) <;> rfl
  · rw [hnote, hr]
    rfl

/-- **A row is added to the history exactly if a switch is closed in the log.** -/
theorem hasAdded_step (hw : w.Numbered) {log : SwitchLog} (h : w.Tracks log) {ev : Event}
    (hl : ev ≠ .act .loseStore) {d : Store.Database} (hd : w.engine.store.HasAdded d log.lines) :
    (w.step ev).engine.store.HasAdded d (w.note ev log).lines := by
  have hloss : .loss ∉ w.entries ev := fun hmem => hl (eq_loseStore_of_loss_mem hmem)
  have hadded := Records.hasAdded_putAll (r := w.engine.records) hd hloss
  rw [← records_step hw ev, ← lines_note h ev] at hadded
  exact hadded

section Runs

variable {e : Engine} {events : List Event}

theorem tracks_run (e : Engine) (events : List Event) :
    ((ofEngine e).run events).Tracks ((ofEngine e).switchLog events) := by
  induction events using List.reverseRecOn with
  | nil => exact ⟨List.nodup_nil, fun id x => by simp [switchLog, move?, workOf?_ofEngine], .refl _⟩
  | append_singleton events ev ih =>
    rw [run_concat, switchLog_concat]
    exact tracks_step ((numbered_ofEngine e).run events) ih ev

theorem hasAdded_run {d : Store.Database} (hd : e.store = .withDatabase d)
    (hl : ∀ ev ∈ events, ev ≠ .act .loseStore) :
    ((ofEngine e).run events).engine.store.HasAdded d ((ofEngine e).switchLog events).lines := by
  induction events using List.reverseRecOn with
  | nil => exact ⟨d, [], hd, rfl, rfl⟩
  | append_singleton events ev ih =>
    have hbefore := ih fun ev hev => hl ev (List.mem_append_left _ hev)
    rw [run_concat, switchLog_concat]
    exact hasAdded_step ((numbered_ofEngine e).run events) (tracks_run e events)
      (hl ev (List.mem_append_right _ List.mem_cons_self)) hbefore

/-! ## What the profile in use before is -/

/-- Whatever is written down, a run of automatic switching by this crew writes it. -/
def OnlySwitching (c : CrewId) (w : Session) (events : List Event) : Prop :=
  ∀ before ev after, events = before ++ ev :: after → (w.run before).entries ev ≠ [] →
    ∃ (s : Shift) (a : AutoSwitch) (reply : Reply a.call), s.crew = c ∧
      (w.run before).answered? ev = some ⟨.autoSwitch s a, reply⟩

/-- A run that has its reply does not ask whether the backend has switched. -/
theorem begun?_ne_ticking {ev : Event} {s s' : Shift} {a : AutoSwitch} {reply : Reply a.call}
    (ha : w.answered? ev = some ⟨.autoSwitch s a, reply⟩) (m : Mode) :
    w.begun? ev ≠ some (.autoSwitch s' (.ticking m)) := by
  intro hb
  rw [begun?_of_answered ha] at hb
  simp only [resume, resumeAutoSwitch] at hb
  rw [waiting?_carryOn, Option.map_eq_some_iff] at hb
  obtain ⟨a', hw, ha'⟩ := hb
  cases ha'
  cases AutoSwitch.goesOn_of_waiting hw

/-- While a run asks whether the backend has switched, no run of the same crew writes anything
down. -/
theorem entries_of_asking {w : Session} {s : Shift} {holder : Option Nat}
    (hm : w.Manned (s.crew, .autoSwitch) holder) {ev : Event} {id : Nat} {m : Mode}
    (hk : w.workOf? id = some (.autoSwitch s (.ticking m)))
    (hk' : (w.step ev).workOf? id = some (.autoSwitch s (.ticking m)))
    (honly : w.entries ev ≠ [] →
      ∃ (s' : Shift) (a : AutoSwitch) (reply : Reply a.call), s'.crew = s.crew ∧
        w.answered? ev = some ⟨.autoSwitch s' a, reply⟩) :
    w.entries ev = [] := by
  by_contra hne
  obtain ⟨s', a, reply, hcrew, ha⟩ := honly hne
  have hi : w.flightOf? id = some (s.crew, .autoSwitch) := by
    rw [flightOf?, hk]
    rfl
  have hj : w.flightOf? (w.subject ev) = some (s.crew, .autoSwitch) := by
    rw [flightOf?, workOf?_of_answered ha, ← hcrew]
    rfl
  rw [hm.eq_of_flightOf? hi hj, workOf?_step_of_answered ha] at hk'
  exact begun?_ne_ticking ha m hk'

/-- **The settings do not change while a run asks whether the backend has switched**, unless somebody
else writes them. -/
theorem settings_of_asking {earlier between : List Event} {asks : Event} {id : Nat} {s : Shift}
    {m : Mode} (hb : ((ofEngine e).run earlier).begun? asks = some (.autoSwitch s (.ticking m)))
    (hd : ∀ done, done <+: between →
      ((ofEngine e).run (earlier ++ asks :: done)).workOf? id = some (.autoSwitch s (.ticking m)))
    (honly : OnlySwitching s.crew ((ofEngine e).run (earlier ++ [asks])) between) :
    ((ofEngine e).run (earlier ++ asks :: between)).engine.settings =
      ((ofEngine e).run earlier).engine.settings := by
  have hrun (done : List Event) : ((ofEngine e).run (earlier ++ [asks])).run done =
      (ofEngine e).run (earlier ++ asks :: done) := by
    rw [← run_append, List.append_assoc, List.singleton_append]
  induction between using List.reverseRecOn with
  | nil =>
    have hopening : ((ofEngine e).run earlier).begun? asks =
        some (Job.autoSwitch.opening ((ofEngine e).run earlier).engine s) := by
      rcases switching_of_begun hb with hm | ⟨a₀, r, -, hgo⟩
      · rw [hb, hm]
        rfl
      · cases hgo
    rw [run_concat, engine_step_of_opening hopening]
  | append_singleton between ev ih =>
    have hbetween := ih (fun done hdone => hd done (hdone.trans (List.prefix_append _ _)))
      fun before ev' after hs => honly before ev' (after ++ [ev]) (by simp [hs])
    have hwrites := honly between ev [] rfl
    have hk := hd between (List.prefix_append _ _)
    have hk' := hd (between ++ [ev]) List.prefix_rfl
    rw [hrun] at hwrites
    rw [← List.cons_append, ← List.append_assoc, run_concat] at hk' ⊢
    obtain ⟨holder, hm⟩ := manned_run e (earlier ++ asks :: between) (s.crew, .autoSwitch)
    have hentries := entries_of_asking hm hk hk' hwrites
    rw [settings_step ((numbered_ofEngine e).run _), hentries]
    exact hbetween

/-- The event is a reply that reports this switch. Automatic switching has not been called off; the
backend says that it has switched, and names the profile in use now. The task has asked in the mode of
the switch, and waited since. The profile in use before is the one remembered for that mode, which is
the one that was remembered when the task asked, if nobody else has written anything down since; or
else the current profile of the model. -/
def Reports (e : Engine) (before : List Event) (ev : Event) (x : Move) : Prop :=
  ∃ id s r earlier asks between, ev = .reply id (.autoSwitchTick x.mode) (.ok r) ∧
    ((ofEngine e).run before).isCancelled s.scope = false ∧ r.switched ∧
    Text.filled? r.switchedTo = some x.toProfile ∧
    before = earlier ++ asks :: between ∧ ((ofEngine e).run earlier).subject asks = id ∧
    ((ofEngine e).run earlier).begun? asks = some (.autoSwitch s (.ticking x.mode)) ∧
    (∀ done, done <+: between → ((ofEngine e).run (earlier ++ asks :: done)).workOf? id =
      some (.autoSwitch s (.ticking x.mode))) ∧
    x.fromProfile = (((ofEngine e).run before).engine.remembered x.mode <|>
      ((ofEngine e).run before).engine.model.bind (·.current)) ∧
    (OnlySwitching s.crew ((ofEngine e).run (earlier ++ [asks])) between →
      ((ofEngine e).run before).engine.remembered x.mode =
        ((ofEngine e).run earlier).engine.remembered x.mode)

theorem mode_of_acting {id : Nat} {s : Shift} {y : Switched} {p : PostSwitch}
    (hk : ((ofEngine e).run events).workOf? id = some (.autoSwitch s (.acting y p))) :
    y.mode = .gpt := by
  obtain ⟨earlier, begins, between, rfl, -, hb, -⟩ := exists_begun hk
  rcases switching_of_begun hb with hopen | ⟨a₀, r, ha, hgo⟩
  · cases hopen
  cases hgo with
  | acts => rfl
  | found =>
    -- The action has asked for the hook before, for the same switch.
    obtain ⟨_, _, _, _, _, hasks, _⟩ := exists_begun (workOf?_of_answered ha)
    rcases switching_of_begun hasks with hopen | ⟨_, _, -, hgo'⟩
    · cases hopen
    · cases hgo'
      rfl

theorem followsUp_of_workOf? {id : Nat} {s : Shift} {a : AutoSwitch} {x : Move}
    (hk : ((ofEngine e).run events).workOf? id = some (.autoSwitch s a)) (hx : a.move? = some x) :
    a.FollowsUp x := by
  cases a with
  | ticking m => cases hx
  | acting y p =>
    refine ⟨hx, ?_⟩
    obtain ⟨name, -, rfl⟩ := Option.map_eq_some_iff.1 hx
    exact mode_of_acting hk
  | calibrating y name =>
    refine ⟨hx, ?_⟩
    obtain ⟨earlier, begins, between, rfl, -, hb, -⟩ := exists_begun hk
    rcases switching_of_begun hb with hopen | ⟨a₀, r, ha, hgo⟩
    · cases hopen
    cases hgo with
    | calibrates hc hr hn =>
      obtain ⟨name', hname, rfl⟩ := Option.map_eq_some_iff.1 hx
      exact ⟨rfl, Option.some.inj (hn.symm.trans hname)⟩

/-- **A switch is followed up as its mode asks for.** -/
theorem move?_eq_some_iff {id : Nat} {x : Move} :
    ((ofEngine e).run events).move? id = some x ↔
      ∃ s a, ((ofEngine e).run events).workOf? id = some (.autoSwitch s a) ∧ a.FollowsUp x := by
  simp only [move?, Option.bind_eq_some_iff]
  constructor
  · rintro ⟨k, hk, hx⟩
    cases k with
    | autoSwitch s a => exact ⟨s, a, hk, followsUp_of_workOf? hk hx⟩
    | _ => cases hx
  · rintro ⟨s, a, hk, hx⟩
    exact ⟨_, hk, hx.move?⟩

/-- **A switch is reported exactly by such a reply.** -/
theorem reported?_eq_some_iff {before : List Event} {ev : Event} {x : Move} :
    ((ofEngine e).run before).reported? ev = some x ↔ Reports e before ev x := by
  constructor
  · intro hx
    obtain ⟨s, a, reply, ha⟩ := answersSwitch_of_reported hx
    rw [reported?_of_answered ha] at hx
    obtain ⟨r, heq, hc, hr, hto, hfrom⟩ := AutoSwitch.reported?_eq_some_iff.1 hx
    cases heq
    have hreply := reply_of_answered ha rfl
    obtain ⟨earlier, asks, between, rfl, hid, hb, hd⟩ := exists_begun (workOf?_of_answered ha)
    refine ⟨_, s, r, earlier, asks, between, hreply, hc, hr, hto, rfl, hid, hb, hd, hfrom, ?_⟩
    intro honly
    have hsettings := settings_of_asking hb hd honly
    rw [Engine.remembered, hsettings]
    rfl
  · rintro ⟨id, s, r, earlier, asks, between, rfl, hc, hr, hto, hs, -, -, hd, hfrom, -⟩
    have hk := hd between List.prefix_rfl
    rw [← hs] at hk
    have ha : ((ofEngine e).run before).answered? (.reply id (.autoSwitchTick x.mode) (.ok r)) =
        some ⟨.autoSwitch s (.ticking x.mode), .ok r⟩ := answered?_reply hk (.ok r)
    rw [reported?_of_answered ha]
    exact AutoSwitch.reported?_eq_some_iff.2 ⟨r, rfl, hc, hr, hto, hfrom⟩

end Runs

end Session

end Switchboard
