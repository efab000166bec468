import Mathlib.Data.List.Nodup
import Switchboard.Proofs.ClosedScopes
import Switchboard.Proofs.RememberedProfile
import Switchboard.Proofs.Shutdown

/-!
# Automatic switching turned off

When the scope of automatic switching is closed, the backend is told to reset. A start that finds the duty
turned off does so, too. A scope that is cancelled with the root, since it was opened while the runtime was
being stopped, gets no reset.

* `Session.resets` — the resets that a run sends, each with the scope that was closed with it.
* `Session.startsOff_of_reset` — a reset that closes no scope is that of a start with the duty turned off.
* `Session.tracksResets_run` — a task sends one reset at most, and a scope is closed once.
* `Session.stopped_scopes_reset` — so a scope that was closed has one reset, and what its loops are told
  later is dropped.
* `Session.scope_stopped_without_reset` — the scope that was opened while the runtime was being stopped.
-/

set_option autoImplicit false

namespace Switchboard

/-! ## Resets -/

/-- Work that waits for a reset of automatic switching. -/
theorem Work.waits_for_reset {k : Work} (h : k.call = .autoSwitchReset) :
    k = .turnOff ∨ k = .stop ∨ ∃ settings, k = .startup (.resetting settings) := by
  cases k with
  | turnOff => exact .inl rfl
  | stop => exact .inr (.inl rfl)
  | startup s =>
    cases s with
    | resetting settings => exact .inr (.inr ⟨settings, rfl⟩)
    | loading settings l => cases h
    | refreshing settings r => cases r <;> cases h
  | refresh r => cases r <;> cases h
  | switch s => cases s <;> cases h
  | manualAction p => cases p <;> cases h
  | bareAction p => cases p <;> cases h
  | hookInstall x => cases x <;> cases h
  | flush crew f => cases f <;> cases h
  | hookWatch s x => cases x <;> cases h
  | autoSwitch s a =>
    cases a with
    | acting x p => cases p <;> cases h
    | _ => cases h
  | _ => cases h

theorem Work.isAsked_of_reset {k : Work} (h : k.call = .autoSwitchReset) : k.kind.IsAsked := by
  rcases waits_for_reset h with rfl | rfl | ⟨settings, rfl⟩ <;> trivial

/-- A reset of automatic switching that was sent. -/
structure Reset where
  /-- The task that waits for it. -/
  id : Nat
  /-- The scope that was closed with it. -/
  closed : Option Nat
  deriving DecidableEq, Repr

/-- The settings that the start goes by. -/
def Startup.settings : Startup → Settings
  | loading settings _ | refreshing settings _ | resetting settings => settings

namespace Session

/-- The reset that an event sends. -/
def reset? (w : Session) (ev : Event) : Option Reset :=
  ((w.begun? ev).filter fun k => k.call = .autoSwitchReset).map fun _ =>
    ⟨w.subject ev, w.closed? ev⟩

/-- The resets that a run sends, one after another. -/
def resets (w : Session) : List Event → List Reset
  | [] => []
  | ev :: events => (w.reset? ev).toList ++ (w.step ev).resets events

/-- The task is a start that was asked for when automatic switching was turned off. -/
def StartsOff (e : Engine) (events : List Event) (id : Nat) : Prop :=
  ∃ earlier later, events = earlier ++ .ask .startup :: later ∧
    ((ofEngine e).run earlier).nextTask = id ∧
    ((ofEngine e).run earlier).engine.settings.autoSwitch = false

variable {w : Session} {ev : Event} {e : Engine} {events : List Event}

theorem reset?_eq_some_iff {x : Reset} :
    w.reset? ev = some x ↔
      (∃ k, w.begun? ev = some k ∧ k.call = .autoSwitchReset) ∧
        x = ⟨w.subject ev, w.closed? ev⟩ := by
  simp only [reset?, Option.map_eq_some_iff, Option.filter_eq_some_iff, decide_eq_true_eq]
  constructor
  · rintro ⟨k, hk, rfl⟩
    exact ⟨⟨k, hk⟩, rfl⟩
  · rintro ⟨⟨k, hk⟩, rfl⟩
    exact ⟨k, hk, rfl⟩

theorem resets_append (w : Session) (events more : List Event) :
    w.resets (events ++ more) = w.resets events ++ (w.run events).resets more := by
  induction events generalizing w with
  | nil => rfl
  | cons ev events ih => simp [resets, ih]

theorem resets_concat (w : Session) (events : List Event) (ev : Event) :
    w.resets (events ++ [ev]) = w.resets events ++ ((w.run events).reset? ev).toList := by
  simp [resets_append, resets]

theorem mem_resets {w : Session} {before events : List Event} {ev : Event} {x : Reset}
    (hb : before ++ [ev] <+: events) (hx : (w.run before).reset? ev = some x) :
    x ∈ w.resets events := by
  obtain ⟨after, rfl⟩ := hb
  rw [resets_append, resets_concat, hx]
  simp

/-- A request that waits for a reset is one to close the open scope. -/
theorem closes_of_waiting {q : Request} {k : Work} (h : (w.start q).2.waiting? = some k)
    (hk : k.call = .autoSwitchReset) : q.closes := by
  have hkind := kind_start h
  rcases Work.waits_for_reset hk with rfl | rfl | ⟨settings, rfl⟩
  · cases q with
    | setAutoSwitch enabled =>
      cases enabled with
      | true => cases h
      | false => rfl
    | _ => cases hkind
  · cases q with
    | shutdown => rfl
    | _ => cases hkind
  · cases q with
    | startup => cases h
    | _ => cases hkind

/-- The reply to a reset is the end of the work. -/
theorem waiting?_resume_of_reset {k : Work} (hk : k.call = .autoSwitchReset) (r : Reply k.call) :
    (w.resume k r).2.waiting? = none := by
  rcases Work.waits_for_reset hk with rfl | rfl | ⟨settings, rfl⟩ <;> rfl

/-- Work that goes on waits for a reset only as a start. -/
theorem startup_of_waiting {k₀ k : Work} {r : Reply k₀.call}
    (h : (w.resume k₀ r).2.waiting? = some k) (hk : k.call = .autoSwitchReset) :
    (∃ s, k₀ = .startup s) ∧ ∃ settings, k = .startup (.resetting settings) := by
  have hkind := kind_resume h
  rcases Work.waits_for_reset hk with rfl | rfl | ⟨settings, rfl⟩
  · cases k₀ with
    | turnOff => cases h
    | _ => cases hkind
  · cases k₀ with
    | stop => cases h
    | _ => cases hkind
  · cases k₀ with
    | startup s => exact ⟨⟨s, rfl⟩, settings, rfl⟩
    | _ => cases hkind

/-- **A reset that is not sent for the scope that is closed** is sent by a start that goes on. -/
theorem starting_of_reset {k : Work} (hb : w.begun? ev = some k) (hk : k.call = .autoSwitchReset)
    (hnone : w.closed? ev = none) :
    ∃ (s : Startup) (r : Reply s.call) (settings : Settings),
      w.answered? ev = some ⟨.startup s, r⟩ ∧
        (w.resumeStartup s r).2.waiting? = some (.startup (.resetting settings)) := by
  rcases request_of_begun hb (Work.isAsked_of_reset hk) with ⟨q, rfl, hwait⟩ | ⟨k₀, r, ha, -, hwait⟩
  · have hq := closes_of_waiting hwait hk
    cases ho : w.autoSwitch with
    | some n =>
      rw [(closes_of_asked hq ho).closed?] at hnone
      cases hnone
    | none =>
      obtain ⟨⟨o, hdone⟩, -⟩ := start_of_not_open (w := w.spawn .request) hq ho
      rw [hdone] at hwait
      cases hwait
  · obtain ⟨⟨s, rfl⟩, settings, rfl⟩ := startup_of_waiting hwait hk
    exact ⟨s, r, settings, ha, hwait⟩

/-! ### The start of the runtime -/

/-- The start goes by the settings that it was begun with, and resets only what is turned off. -/
theorem settings_of_resumeStartup {s s' : Startup} {r : Reply s.call}
    (h : (w.resumeStartup s r).2.waiting? = some (.startup s')) :
    s'.settings = s.settings ∧ (s'.call = .autoSwitchReset → s.settings.autoSwitch = false) := by
  cases s with
  | loading settings l =>
    simp only [resumeStartup, afterLoading] at h
    split at h
    · cases h
      refine ⟨rfl, fun hc => ?_⟩
      cases hc
    · obtain ⟨heq, hoff⟩ := waiting_launch h
      cases heq
      exact ⟨rfl, fun _ => hoff⟩
  | refreshing settings x =>
    obtain ⟨heq, hoff⟩ := waiting_launch h
    cases heq
    exact ⟨rfl, fun _ => hoff⟩
  | resetting settings => cases h

/-- **A start that waits for a reply** was asked for, and goes by the settings of that time. -/
theorem startup_asked {id : Nat} {s : Startup}
    (h : ((ofEngine e).run events).workOf? id = some (.startup s)) :
    ∃ earlier later, events = earlier ++ .ask .startup :: later ∧
      ((ofEngine e).run earlier).nextTask = id ∧
      s.settings = ((ofEngine e).run earlier).engine.settings := by
  induction events using List.reverseRecOn generalizing s with
  | nil => cases h
  | append_singleton events ev ih =>
    have before {s₀ : Startup} (h : ((ofEngine e).run events).workOf? id = some (.startup s₀))
        (hs : s.settings = s₀.settings) :
        ∃ earlier later, events ++ [ev] = earlier ++ .ask .startup :: later ∧
          ((ofEngine e).run earlier).nextTask = id ∧
          s.settings = ((ofEngine e).run earlier).engine.settings := by
      obtain ⟨earlier, later, rfl, hid, hset⟩ := ih h
      exact ⟨earlier, later ++ [ev], by simp, hid, hs.trans hset⟩
    rw [run_concat] at h
    rcases workOf?_step_cases ((numbered_ofEngine e).run events) h with h | ⟨rfl, hb⟩
    · exact before h rfl
    rcases request_of_begun hb trivial with ⟨q, rfl, hwait⟩ | ⟨k₀, r, ha, hkind, hwait⟩
    · have hq := kind_start hwait
      cases q with
      | startup =>
        cases hwait
        exact ⟨events, [], rfl, rfl, rfl⟩
      | _ => cases hq
    · cases k₀ with
      | startup s₀ => exact before (workOf?_of_answered ha) (settings_of_resumeStartup hwait).1
      | _ => cases hkind

/-- **A reset without a scope** is sent by a start that found automatic switching turned off. -/
theorem startsOff_of_reset {ev : Event} {x : Reset}
    (h : ((ofEngine e).run events).reset? ev = some x) (hx : x.closed = none) :
    StartsOff e events x.id := by
  obtain ⟨⟨k, hb, hk⟩, rfl⟩ := reset?_eq_some_iff.1 h
  obtain ⟨s, r, settings, ha, hwait⟩ := starting_of_reset hb hk hx
  obtain ⟨earlier, later, hevents, hid, hset⟩ := startup_asked (workOf?_of_answered ha)
  refine ⟨earlier, later, hevents, hid, ?_⟩
  rw [← hset]
  exact (settings_of_resumeStartup hwait).2 rfl

/-! ## The resets of a run -/

/-- What is known of the resets that were sent: their tasks are different ones, wait for the reply to the
reset if for any, and closed different scopes, which are of the past. -/
structure TracksResets (w : Session) (log : List Reset) : Prop where
  ids : (log.map (·.id)).Nodup
  waits : ∀ x ∈ log, x.id < w.nextTask ∧
    ∀ k, w.workOf? x.id = some k → k.kind.IsAsked → k.call = .autoSwitchReset
  scopes : (log.filterMap (·.closed)).Nodup
  past : ∀ n ∈ log.filterMap (·.closed), w.book.Past (.autoSwitch n)

theorem TracksResets.not_open {log : List Reset} (h : w.TracksResets log) {n : Nat}
    (hn : n ∈ log.filterMap (·.closed)) : w.autoSwitch ≠ some n :=
  of_decide_eq_false (h.past n hn).not_open

/-- A task that has sent a reset begins nothing more for a caller. -/
theorem not_isAsked_of_waits (hlt : w.subject ev < w.nextTask)
    (hwaits : ∀ k, w.workOf? (w.subject ev) = some k → k.kind.IsAsked → k.call = .autoSwitchReset)
    {k : Work} (hb : w.begun? ev = some k) : ¬ k.kind.IsAsked := by
  intro hasked
  rcases request_of_begun hb hasked with ⟨q, rfl, hwait⟩ | ⟨k₀, r, ha, hkind, hwait⟩
  · exact Nat.lt_irrefl _ hlt
  · have hk₀ := hwaits k₀ (workOf?_of_answered ha) (hkind ▸ hasked)
    rw [waiting?_resume_of_reset hk₀] at hwait
    cases hwait

theorem TracksResets.waits_step {log : List Reset} (h : w.TracksResets log) (hw : w.Numbered)
    (ev : Event) {x : Reset} (hx : x ∈ log) :
    x.id < (w.step ev).nextTask ∧
      ∀ k, (w.step ev).workOf? x.id = some k → k.kind.IsAsked → k.call = .autoSwitchReset := by
  obtain ⟨hlt, hwaits⟩ := h.waits x hx
  refine ⟨Nat.lt_of_lt_of_le hlt (nextTask_le_step w ev), fun k hk hasked => ?_⟩
  rcases workOf?_step_cases hw hk with hk | ⟨hid, hb⟩
  · exact hwaits k hk hasked
  · rw [← hid] at hlt hwaits
    exact absurd hasked (not_isAsked_of_waits hlt hwaits hb)

/-- A reset that is sent waits for its reply. -/
theorem waits_of_reset (hw : w.Numbered) {x : Reset} (hx : w.reset? ev = some x) :
    x.id < (w.step ev).nextTask ∧
      ∀ k, (w.step ev).workOf? x.id = some k → k.call = .autoSwitchReset := by
  obtain ⟨⟨k, hb, hk⟩, rfl⟩ := reset?_eq_some_iff.1 hx
  obtain ⟨⟨w', p⟩, hadv, hwait⟩ := Option.bind_eq_some_iff.1 hb
  refine ⟨subject_lt_nextTask hw hadv, fun k' hk' => ?_⟩
  rw [workOf?_step_of_advance hadv, if_pos rfl, hwait] at hk'
  cases hk'
  exact hk

/-- A task that has sent a reset sends no other one. -/
theorem TracksResets.not_mem_ids {log : List Reset} (h : w.TracksResets log) {x : Reset}
    (hx : w.reset? ev = some x) : x.id ∉ log.map (·.id) := by
  intro hmem
  obtain ⟨y, hy, hid⟩ := List.mem_map.1 hmem
  obtain ⟨⟨k, hb, hk⟩, rfl⟩ := reset?_eq_some_iff.1 hx
  obtain ⟨hlt, hwaits⟩ := h.waits y hy
  rw [show y.id = w.subject ev from hid] at hlt hwaits
  exact not_isAsked_of_waits hlt hwaits hb (Work.isAsked_of_reset hk)

/-- A scope is open when it is closed, and so has not been closed before. -/
theorem TracksResets.not_mem_scopes {log : List Reset} (h : w.TracksResets log) {n : Nat}
    (hn : w.closed? ev = some n) : n ∉ log.filterMap (·.closed) := fun hmem =>
  h.not_open hmem (closed?_eq_some_iff.1 hn).1

theorem TracksResets.step {log : List Reset} (h : w.TracksResets log) (hw : w.Numbered)
    (hcount : w.book.Counted) (ev : Event) :
    (w.step ev).TracksResets (log ++ (w.reset? ev).toList) := by
  have hpast (n : Nat) (hn : n ∈ log.filterMap (·.closed)) :
      (w.step ev).book.Past (.autoSwitch n) := (moves_step ev).past (h.past n hn)
  cases hx : w.reset? ev with
  | none =>
    rw [Option.toList_none, List.append_nil]
    exact ⟨h.ids, fun x => h.waits_step hw ev, h.scopes, hpast⟩
  | some x =>
    have hclosed : x.closed = w.closed? ev := by rw [(reset?_eq_some_iff.1 hx).2]
    have hscopes : (log ++ [x]).filterMap (·.closed) =
        log.filterMap (·.closed) ++ (w.closed? ev).toList := by
      rw [List.filterMap_append, List.filterMap_cons, hclosed]
      cases w.closed? ev <;> rfl
    have hwaits := waits_of_reset hw hx
    refine ⟨?_, fun y hy => ?_, ?_, fun n hn => ?_⟩
    · rw [Option.toList_some, List.map_append]
      refine List.nodup_append.2 ⟨h.ids, by simp, fun id hid id' hid' => ?_⟩
      obtain rfl := List.mem_singleton.1 hid'
      rintro rfl
      exact h.not_mem_ids hx hid
    · rcases List.mem_append.1 hy with hy | hy
      · exact h.waits_step hw ev hy
      · obtain rfl := List.mem_singleton.1 hy
        exact ⟨hwaits.1, fun k hk _ => hwaits.2 k hk⟩
    · rw [Option.toList_some, hscopes]
      refine List.nodup_append.2 ⟨h.scopes, ?_, fun n hn n' hn' => ?_⟩
      · cases w.closed? ev <;> simp
      · rintro rfl
        exact h.not_mem_scopes (Option.mem_toList.1 hn') hn
    · rw [Option.toList_some, hscopes] at hn
      rcases List.mem_append.1 hn with hn | hn
      · exact hpast n hn
      · exact past_of_closed hcount (Option.mem_toList.1 hn)

/-- **A task sends one reset at most, and a scope is closed once.** -/
theorem tracksResets_run (e : Engine) (events : List Event) :
    ((ofEngine e).run events).TracksResets ((ofEngine e).resets events) := by
  induction events using List.reverseRecOn with
  | nil =>
    exact ⟨List.nodup_nil, fun x hx => absurd hx List.not_mem_nil, List.nodup_nil,
      fun n hn => absurd hn List.not_mem_nil⟩
  | append_singleton events ev ih =>
    rw [run_concat, resets_concat]
    exact ih.step ((numbered_ofEngine e).run events) (counted_run e events) ev

/-! ## Scopes that are not open any more -/

/-- **A scope that has been open** has no reset as long as it is open, and one when it is not any
more. -/
theorem count_resets (hown : OwnScopes events) {before : List Event} (hb : before <+: events)
    {n : Nat} (h : ((ofEngine e).run before).autoSwitch = some n) :
    (((ofEngine e).resets events).filterMap (·.closed)).count n =
      if ((ofEngine e).run events).autoSwitch = some n then 0 else 1 := by
  have htracks := tracksResets_run e events
  split
  · rename_i ho
    exact List.count_eq_zero.2 fun hmem => htracks.not_open hmem ho
  · rename_i hclosed
    obtain ⟨upTo, ev, hup, hc⟩ := (open_or_closed hb h).resolve_left hclosed
    obtain ⟨w', k, hadv, -, hk⟩ := (closes_in_run hown hup hc).sent
    have hreset : ((ofEngine e).run upTo).reset? ev =
        some ⟨((ofEngine e).run upTo).subject ev, some n⟩ :=
      reset?_eq_some_iff.2 ⟨⟨k, by simp [begun?, hadv, Progress.waiting?], hk⟩, by rw [hc]⟩
    exact List.count_eq_one_of_mem htracks.scopes
      (List.mem_filterMap.2 ⟨_, mem_resets hup hreset, rfl⟩)

/-! ## Replies to a loop whose scope is cancelled -/

/-- A run that was called off does nothing to the engine, but that it may record a switch that it follows
up. -/
theorem engine_of_cancelled {k : Work} {s : Shift} {d : Duty} (hk : k.kind = .run s d)
    (hd : d = .autoSwitch ∨ d = .recover) (hc : w.isCancelled s.scope) (r : Reply k.call) :
    (w.resume k r).1.engine = w.engine ∨
      k.isFollowUp ∧ ∃ row, (w.resume k r).1.engine = w.engine.recordSwitch row := by
  cases k with
  | autoSwitch s' a =>
    cases hk
    simp only [resume, resumeAutoSwitch, engine_carryOn, hc]
    cases a with
    | ticking mode => exact .inl rfl
    | acting x p =>
      exact ((AutoSwitch.acting x p).resume_of_cancelled w.engine r).imp_right fun h => ⟨rfl, h⟩
    | calibrating x name =>
      exact ((AutoSwitch.calibrating x name).resume_of_cancelled w.engine r).imp_right
        fun h => ⟨rfl, h⟩
  | recover s' x =>
    cases hk
    simp only [resume, engine_finishRun, hc]
    exact .inl rfl
  | poll | hookWatch | keepalive =>
    cases hk
    rcases hd with h | h <;> cases h
  | _ => cases hk

/-- What is cancelled at some time is cancelled later. -/
theorem isCancelled_later {stop : List Event} (hs : stop <+: events) {s : Scope}
    (h : ((ofEngine e).run stop).isCancelled s) : ((ofEngine e).run events).isCancelled s := by
  obtain ⟨later, rfl⟩ := hs
  rw [run_append]
  exact isCancelled_run ((numbered_ofEngine e).run stop) h later

/-- **Automatic switching turned off.** In every run in which callers cancel only scopes of their own:

* an event that closes a scope is a request to turn automatic switching off or to stop the runtime,
  which cancels the scope and then sends a reset; and every reset that closes no scope is that of a
  start that found automatic switching turned off;
* no task sends two resets;
* a scope that has been open has no reset while it is open, and exactly one when it is not any more; and
  one that was opened before any shutdown was asked for is not open any more once it is cancelled;
* once a scope is cancelled, no reply to a run of automatic switching or of thread recovery under it moves
  the model, the status line or the settings; at most a switch that the run follows up is recorded in the
  history. -/
theorem stopped_scopes_reset (hown : OwnScopes events) :
    (∀ before ev, before ++ [ev] <+: events →
      (∀ n, ((ofEngine e).run before).closed? ev = some n →
        ((ofEngine e).run before).Closes ev n) ∧
      ∀ x, ((ofEngine e).run before).reset? ev = some x → x.closed = none →
        StartsOff e before x.id) ∧
    (((ofEngine e).resets events).map (·.id)).Nodup ∧
    (∀ before n, before <+: events → ((ofEngine e).run before).autoSwitch = some n →
      (((ofEngine e).resets events).filterMap (·.closed)).count n =
        (if ((ofEngine e).run events).autoSwitch = some n then 0 else 1) ∧
      (.ask .shutdown ∉ before → ((ofEngine e).run events).isCancelled (.autoSwitch n) →
        ((ofEngine e).run events).autoSwitch ≠ some n)) ∧
    ∀ (stop : List Event) (ev : Event) (s : Shift) (d : Duty) (k : Work) (r : Reply k.call),
      stop <+: events → ((ofEngine e).run stop).isCancelled s.scope →
      ((ofEngine e).run events).answered? ev = some ⟨k, r⟩ →
      k.kind = .run s d → d = .autoSwitch ∨ d = .recover →
      ((ofEngine e).run events).engine.Unmoved (((ofEngine e).run events).step ev).engine ∧
        ((((ofEngine e).run events).step ev).engine = ((ofEngine e).run events).engine ∨
          k.isFollowUp ∧ ∃ row, (((ofEngine e).run events).step ev).engine =
            ((ofEngine e).run events).engine.recordSwitch row) := by
  refine ⟨fun before ev hb => ⟨fun n h => closes_in_run hown hb h, fun x h hx => ?_⟩,
    (tracksResets_run e events).ids, fun before n hb h => ⟨count_resets hown hb h, fun hs hc => ?_⟩,
    fun stop ev s d k r hs hc ha hk hd => ?_⟩
  · exact startsOff_of_reset h hx
  · exact not_open_of_isCancelled hown hb h hs hc
  · rw [engine_step_of_answered ha]
    have heng := engine_of_cancelled hk hd (isCancelled_later hs hc) r
    refine ⟨?_, heng⟩
    rcases heng with heq | ⟨-, row, heq⟩
    · rw [heq]
      exact .refl _
    · rw [heq]
      exact Engine.unmoved_recordSwitch _ row

/-- **A scope that was stopped without a reset.** Automatic switching is on, and its question under way,
when the runtime is to be stopped: its scope is closed with a reset. While the reset is under way,
automatic switching is turned on again. The reply to the reset lets the root scope be cancelled, and the
new scope with it, which stays open and never has a reset. The reply to the old question is dropped. -/
theorem scope_stopped_without_reset :
    let events : List Event :=
      [.ask (.setAutoSwitch true), .turn 1, .pass 30000, .wake 1, .ask .shutdown,
        .ask (.setAutoSwitch true), .reply 3 .autoSwitchReset (.ok ())]
    let late : Event :=
      .reply 1 (.autoSwitchTick .gpt) (.ok { action := "switched", switchedTo := some "b" })
    let w := (ofEngine Engine.blank).run events
    OwnScopes events ∧
      (ofEngine Engine.blank).resets events = [⟨3, some 0⟩] ∧
      w.isCancelled (.autoSwitch 0) ∧ w.isCancelled (.autoSwitch 1) ∧ w.autoSwitch = some 1 ∧
      (((ofEngine Engine.blank).resets events).filterMap (·.closed)).count 1 = 0 ∧
      w.engine.Unmoved (w.step late).engine := by
  intro events late w
  have hown : OwnScopes events := by
    intro s hs
    simp [events] at hs
  have hopen : w.autoSwitch = some 1 := by decide +kernel
  have hc : w.isCancelled (.autoSwitch 0) := by decide +kernel
  have hwork : w.workOf? 1 = some (.autoSwitch ⟨.standing, .autoSwitch 0⟩ (.ticking .gpt)) := by
    decide +kernel
  obtain ⟨-, -, hcount, hlate⟩ := stopped_scopes_reset (e := Engine.blank) hown
  refine ⟨hown, by decide +kernel, hc, by decide +kernel, hopen, ?_, ?_⟩
  · exact (hcount events 1 (List.prefix_refl _) hopen).1.trans (if_pos hopen)
  · exact (hlate events late _ .autoSwitch _ _ (List.prefix_refl _) hc (answered?_reply hwork _) rfl
      (.inl rfl)).1

end Session

end Switchboard
