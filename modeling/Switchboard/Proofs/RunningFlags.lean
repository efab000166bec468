import Switchboard.Proofs.AutoSwitchReset

/-!
# What is turned on, and what runs

Automatic switching and keepalive are turned on and off in the settings. Each runs in a scope, which is
opened when a caller turns it on, or at the end of a start that has found it turned on.

* `Session.openScope?_step` — only a caller's turn, a shutdown or the reply to a start opens or closes
  a scope; `Session.isOn_step` — only a caller turns anything on or off.
* `Session.RunsOrStarts` — it runs, or a start under way is going to run it.
* `Session.LeftRunning` — it was last turned off while such a start was under way.
* `Session.flags_tell_what_runs` — what runs has a scope that is not cancelled, unless the root scope
  is, and is turned on, unless it was left running.
* `Session.keepalive_left_running` — keepalive that a start leaves running, and a shutdown after it.
-/

set_option autoImplicit false

namespace Switchboard

/-- What callers turn on and off. -/
inductive Toggle where
  | autoSwitch
  | keepalive
  deriving DecidableEq, Repr

namespace Toggle

/-- The settings have it turned on. -/
def isOn : Toggle → Settings → Bool
  | autoSwitch, s => s.autoSwitch
  | keepalive, s => s.keepalive

/-- Its scope with this serial. -/
def scope : Toggle → Nat → Scope
  | autoSwitch, n => .autoSwitch n
  | keepalive, n => .keepalive n

/-- A caller turns it on or off. -/
def turn : Toggle → Bool → Event
  | autoSwitch, enabled => .ask (.setAutoSwitch enabled)
  | keepalive, enabled => .act (.setKeepalive enabled)

theorem isInRoot_scope (t : Toggle) (n : Nat) : (t.scope n).isInRoot := by
  cases t <;> rfl

theorem answered?_turn (t : Toggle) (b : Bool) (w : Session) : w.answered? (t.turn b) = none := by
  cases t <;> rfl

end Toggle

namespace Session

/-- The serial of the scope in which it runs. -/
def openScope? (w : Session) : Toggle → Option Nat
  | .autoSwitch => w.autoSwitch
  | .keepalive => w.keepalive

/-- It runs. -/
def isRunning (w : Session) (t : Toggle) : Bool := (w.openScope? t).isSome

/-- A start is under way that has found it turned on. -/
def IsStarting (w : Session) (t : Toggle) : Prop :=
  ∃ id s, w.workOf? id = some (.startup s) ∧ t.isOn s.settings

/-- It runs, or a start under way is going to run it. -/
def RunsOrStarts (w : Session) (t : Toggle) : Prop := w.isRunning t ∨ w.IsStarting t

/-- A start that waits for a reset has found automatic switching turned off. -/
def ResetsOff (w : Session) : Prop :=
  ∀ id settings, w.workOf? id = some (.startup (.resetting settings)) → settings.autoSwitch = false

/-- It was last turned off while a start was under way that had found it turned on. -/
def LeftRunning (e : Engine) (events : List Event) (t : Toggle) : Prop :=
  ∃ before after, events = before ++ t.turn false :: after ∧ (∀ b, t.turn b ∉ after) ∧
    ((ofEngine e).run before).IsStarting t

variable {w : Session} {ev : Event} {t : Toggle}

theorem isOpen_scope {n : Nat} : w.book.isOpen (t.scope n) ↔ w.openScope? t = some n := by
  cases t <;> exact decide_eq_true_iff

/-! ## What an event does to the open scopes -/

theorem openScope?_of_book {w' : Session} (h : w'.book = w.book) (t : Toggle) :
    w'.openScope? t = w.openScope? t := by
  cases t with
  | autoSwitch => exact congrArg ScopeBook.autoSwitch h
  | keepalive => exact congrArg ScopeBook.keepalive h

theorem openScope?_onEngine (f : Engine → Engine) (t : Toggle) :
    (w.onEngine f).openScope? t = w.openScope? t := openScope?_of_book rfl t

theorem isRunning_of_book {w' : Session} (h : w'.book = w.book) (t : Toggle) :
    w'.isRunning t = w.isRunning t :=
  congrArg Option.isSome (openScope?_of_book h t)

theorem openScope?_act {a : Action} (ha : ∀ b, .act a ≠ t.turn b) :
    (w.act a).openScope? t = w.openScope? t := by
  cases a with
  | setKeepalive enabled =>
    cases t with
    | keepalive => exact absurd rfl (ha enabled)
    | autoSwitch =>
      simp only [act, setKeepalive, startKeepalive, closeKeepalive]
      split <;> split <;> rfl
  | queueOrder crew names => exact openScope?_of_book (book_setCrew _ crew _) t
  | remember m name => exact openScope?_onEngine _ t
  | _ => cases t <;> rfl

theorem openScope?_start {q : Request} (hq : ∀ b, .ask q ≠ t.turn b) (hs : q ≠ .shutdown) :
    (w.start q).1.openScope? t = w.openScope? t := by
  cases q with
  | flush => exact openScope?_of_book (queues_embedFlush w .manual _).book t
  | switch | refresh => exact openScope?_of_book (congrArg book (fst_embed w _ _ _)) t
  | job scope j => exact openScope?_of_book (crews_beginJob w _ j).book t
  | shutdown => exact absurd rfl hs
  | setAutoSwitch enabled =>
    cases t with
    | autoSwitch => exact absurd rfl (hq enabled)
    | keepalive =>
      simp only [start, setAutoSwitch, startAutoSwitch, closeAutoSwitch, onEngine]
      split <;> cases w.autoSwitch <;> rfl
  | _ => cases t <;> rfl

theorem openScope?_resume {k : Work} (hk : k.kind ≠ .startup) (r : Reply k.call) :
    (w.resume k r).1.openScope? t = w.openScope? t := by
  cases k with
  | flush crew f => exact openScope?_of_book (queues_embedFlush w crew _).book t
  | switch | bareAction | hookInstall =>
    exact openScope?_of_book (congrArg book (fst_embed w _ _ _)) t
  | poll | autoSwitch | recover | hookWatch | keepalive =>
    obtain ⟨e, h⟩ := crews_resume (w := w) rfl r
    exact openScope?_of_book h.book t
  | manualAction p =>
    simp only [resume, resumeManual]
    split <;> cases t <;> rfl
  | startup s => exact absurd rfl hk
  | _ => cases t <;> rfl

theorem openScope?_advance {r : Session × Progress Work Outcome} (h : w.advance? ev = some r)
    (hturn : ∀ b, ev ≠ t.turn b) (hshut : ev ≠ .ask .shutdown)
    (hstart : ∀ s r, w.answered? ev ≠ some ⟨.startup s, r⟩) : r.1.openScope? t = w.openScope? t := by
  cases stretch_of_advance h with
  | @resume k reply ha =>
    refine openScope?_resume (fun hk => ?_) reply
    cases k with
    | startup s => exact hstart s reply ha
    | _ => cases hk
  | start q hq =>
    subst hq
    refine (openScope?_start (w := w.spawn .request) hturn fun hq => hshut (hq ▸ rfl)).trans ?_
    cases t <;> rfl
  | job s j hf => exact openScope?_of_book (crews_beginJob w s j).book t
  | flush crew hf => exact openScope?_of_book (queues_embedFlush w crew _).book t
  | sync hf => exact openScope?_of_book rfl t

/-- **Only a caller's turn, a shutdown or the reply to a start** opens or closes a scope. -/
theorem openScope?_step (hturn : ∀ b, ev ≠ t.turn b) (hshut : ev ≠ .ask .shutdown)
    (hstart : ∀ s r, w.answered? ev ≠ some ⟨.startup s, r⟩) :
    (w.step ev).openScope? t = w.openScope? t := by
  by_cases hact : ∃ a, ev = .act a
  · obtain ⟨a, rfl⟩ := hact
    exact openScope?_act hturn
  cases h : w.advance? ev with
  | none => exact openScope?_of_book (book_of_quiet h fun a he => hact ⟨a, he⟩) t
  | some r =>
    obtain ⟨errand, hstep⟩ := step_of_advance h
    rw [hstep, openScope?_of_book (rests_conclude _ _ _ _).settles.book]
    exact openScope?_advance h hturn hshut hstart

/-- Once a caller has turned it on it runs, and once one has turned it off it does not. -/
theorem isRunning_turn (t : Toggle) (b : Bool) : (w.step (t.turn b)).isRunning t = b := by
  cases t with
  | autoSwitch =>
    simp only [Toggle.turn, step, takeRequest]
    rw [isRunning_of_book (rests_conclude _ _ _ _).settles.book]
    simp only [start, setAutoSwitch, startAutoSwitch, closeAutoSwitch, onEngine, isRunning, openScope?]
    cases b <;> cases ho : w.autoSwitch <;> simp [spawn, cancel, showOff, startLoop, onEngine, ho]
  | keepalive =>
    simp only [Toggle.turn, step, act, setKeepalive, startKeepalive, closeKeepalive, onEngine,
      isRunning, openScope?]
    cases b <;> cases w.keepalive <;> simp [spawn, cancel, startLoop]

/-! ## The start -/

theorem isRunning_startAutoSwitch (w : Session) (t : Toggle) :
    w.startAutoSwitch.isRunning t = (w.isRunning t || t = .autoSwitch) := by
  cases t <;> cases ho : w.autoSwitch <;>
    simp [isRunning, openScope?, startAutoSwitch, startLoop, spawn, onEngine, ho]

theorem isRunning_startKeepalive (w : Session) (t : Toggle) :
    w.startKeepalive.isRunning t = (w.isRunning t || t = .keepalive) := by
  cases t <;> cases ho : w.keepalive <;>
    simp [isRunning, openScope?, startKeepalive, startLoop, spawn, ho]

theorem isRunning_finishStartup (w : Session) (settings : Settings) (t : Toggle) :
    (w.finishStartup settings).1.isRunning t =
      (w.isRunning t || t = .keepalive && settings.keepalive) := by
  cases hk : settings.keepalive <;>
    simp [finishStartup, hk, isRunning_startKeepalive]

theorem isRunning_launch (w : Session) (settings : Settings) (t : Toggle) :
    (w.launch settings).1.isRunning t =
      (w.isRunning t || t.isOn settings && (w.launch settings).2.waiting?.isNone) := by
  have hloops : ((w.startLoop .poll ⟨.standing, .root⟩).startLoop .hookWatch
      ⟨.standing, .root⟩).isRunning t = w.isRunning t := isRunning_of_book rfl t
  unfold launch
  dsimp only
  split
  · rename_i hon
    rw [isRunning_finishStartup, isRunning_startAutoSwitch, hloops]
    cases t <;> simp [finishStartup, Progress.waiting?, Toggle.isOn, hon]
  · rw [hloops]
    simp [Progress.waiting?]

/-- **What a start has found turned on** runs when the start is over; nothing else is turned on. A
start that waits for a reset has found automatic switching turned off. -/
theorem isRunning_resumeStartup {s : Startup} (r : Reply s.call) (t : Toggle)
    (hoff : ∀ settings, s = .resetting settings → settings.autoSwitch = false) :
    (w.resumeStartup s r).1.isRunning t =
      (w.isRunning t || t.isOn s.settings && (w.resumeStartup s r).2.waiting?.isNone) := by
  have hengine (f : Engine → Engine) : (w.onEngine f).isRunning t = w.isRunning t :=
    isRunning_of_book rfl t
  cases s with
  | loading settings l =>
    have hspawn (w' : Session) : (w'.spawn .sync).isRunning t = w'.isRunning t :=
      isRunning_of_book rfl t
    simp only [resumeStartup, afterLoading]
    split
    · cases settings.mode <;> simp [Progress.waiting?] <;> exact isRunning_of_book rfl t
    · rw [isRunning_launch]
      cases settings.mode <;> simp only [hspawn, hengine, Startup.settings]
  | refreshing settings x => simp only [resumeStartup, isRunning_launch, hengine, Startup.settings]
  | resetting settings =>
    rw [resumeStartup, isRunning_finishStartup]
    have hauto := hoff settings rfl
    cases t <;> simp [finishStartup, Progress.waiting?, Toggle.isOn, Startup.settings, hauto]

theorem resetsOff_run (e : Engine) (events : List Event) : ((ofEngine e).run events).ResetsOff := by
  intro id settings h
  obtain ⟨before, begins, -, -, -, hb, -⟩ := exists_begun h
  rcases request_of_begun hb trivial with ⟨q, rfl, hwait⟩ | ⟨k₀, r, ha, hkind, hwait⟩
  · have hq := kind_start hwait
    cases q with
    | startup => cases hwait
    | _ => cases hq
  · cases k₀ with
    | startup s₀ =>
      obtain ⟨heq, hoff⟩ := settings_of_resumeStartup hwait
      exact (congrArg Settings.autoSwitch heq).trans (hoff rfl)
    | _ => cases hkind

theorem isRunning_step_of_answered (hoff : w.ResetsOff) {s : Startup} {r : Reply s.call}
    (ha : w.answered? ev = some ⟨.startup s, r⟩) :
    (w.step ev).isRunning t =
      (w.isRunning t || t.isOn s.settings && (w.resumeStartup s r).2.waiting?.isNone) := by
  obtain ⟨id, errand, -, hstep⟩ := step_of_answered ha
  rw [hstep, isRunning_of_book (rests_conclude _ _ _ _).settles.book]
  refine isRunning_resumeStartup r t fun settings hs => hoff (w.subject ev) settings ?_
  rw [← hs]
  exact workOf?_of_answered ha

/-! ## What an event does to the settings -/

theorem isOn_put {x : Entry} (hx : x ∈ w.entries ev) (hturn : ∀ b, ev ≠ t.turn b)
    (hput : ∀ s, ev ≠ .act (.putSettings s)) (r : Records) :
    t.isOn (r.put x).settings = t.isOn r.settings := by
  cases x with
  | switch | loss => rfl
  | change c =>
    cases ha : w.answered? ev with
    | some a =>
      rw [entries_of_answered ha] at hx
      rcases change_of_mem_replyEntries hx with ⟨v, rfl⟩ | ⟨m, name, rfl⟩ <;> cases t <;> rfl
    | none =>
      cases ev with
      | ask q =>
        cases q with
        | setMode m =>
          cases List.mem_singleton.1 hx
          cases t <;> rfl
        | setAutoSwitch enabled =>
          cases List.mem_singleton.1 hx
          cases t with
          | autoSwitch => exact absurd rfl (hturn enabled)
          | keepalive => rfl
        | _ => cases hx
      | act a =>
        cases a with
        | remember m name =>
          simp only [entries, Action.entries, Entry.mem_profile] at hx
          obtain ⟨n, -, hc⟩ := hx
          cases hc
          cases t <;> rfl
        | putSettings s => exact absurd rfl (hput s)
        | setKeepalive enabled =>
          cases List.mem_singleton.1 hx
          cases t with
          | autoSwitch => rfl
          | keepalive => exact absurd rfl (hturn enabled)
        | setMode | setStrategy | setRefreshOnStartup =>
          cases List.mem_singleton.1 hx
          cases t <;> rfl
        | loseStore => cases List.mem_singleton.1 hx
        | _ => cases hx
      | _ =>
        simp only [entries, ha] at hx
        cases hx

/-- **Only a caller turns it on or off** in the settings. -/
theorem isOn_step (hw : w.Numbered) (hturn : ∀ b, ev ≠ t.turn b)
    (hput : ∀ s, ev ≠ .act (.putSettings s)) :
    t.isOn (w.step ev).engine.settings = t.isOn w.engine.settings := by
  rw [settings_step hw]
  refine Records.putAll_induction (P := fun r => t.isOn r.settings = t.isOn w.engine.settings)
    (fun r x hx hr => ?_) rfl
  exact (isOn_put hx hturn hput r).trans hr

theorem isOn_turn (hw : w.Numbered) (t : Toggle) (b : Bool) :
    t.isOn (w.step (t.turn b)).engine.settings = b := by
  rw [settings_step hw]
  cases t <;> rfl

/-! ## Starts under way -/

/-- A start that is under way goes on with the settings that it has found, or is over. -/
theorem isStarting_or_ended (hw : w.Numbered) (h : w.IsStarting t) (ev : Event) :
    (w.step ev).IsStarting t ∨
      ∃ s r, w.answered? ev = some ⟨.startup s, r⟩ ∧ t.isOn s.settings ∧
        (w.resumeStartup s r).2.waiting? = none := by
  obtain ⟨id, s, hk, hon⟩ := h
  rcases workOf?_step_or_answered hw hk ev with hk' | ⟨rfl, r, ha⟩
  · exact .inl ⟨id, s, hk', hon⟩
  · have hwork : (w.step ev).workOf? (w.subject ev) = (w.resumeStartup s r).2.waiting? :=
      (workOf?_step_of_answered ha).trans (begun?_of_answered ha)
    cases hwait : (w.resumeStartup s r).2.waiting? with
    | none => exact .inr ⟨s, r, ha, hon, hwait⟩
    | some k =>
      have hkind := kind_resume (k := .startup s) (r := r) hwait
      cases k with
      | startup s' =>
        refine .inl ⟨w.subject ev, s', hwork.trans hwait, ?_⟩
        rw [(settings_of_resumeStartup hwait).1]
        exact hon
      | _ => cases hkind

/-- A start that is under way was so before, or is asked for. -/
theorem isStarting_step_cases (hw : w.Numbered) (h : (w.step ev).IsStarting t) :
    w.IsStarting t ∨ ev = .ask .startup ∧ t.isOn w.engine.settings := by
  obtain ⟨id, s, hk, hon⟩ := h
  rcases workOf?_step_cases hw hk with hk' | ⟨-, hb⟩
  · exact .inl ⟨id, s, hk', hon⟩
  rcases request_of_begun hb trivial with ⟨q, rfl, hwait⟩ | ⟨k₀, r, ha, hkind, hwait⟩
  · have hq := kind_start hwait
    cases q with
    | startup =>
      cases hwait
      exact .inr ⟨rfl, hon⟩
    | _ => cases hq
  · cases k₀ with
    | startup s₀ =>
      rw [(settings_of_resumeStartup hwait).1] at hon
      exact .inl ⟨_, s₀, workOf?_of_answered ha, hon⟩
    | _ => cases hkind

/-- A start that is asked for finds turned on what is turned on. -/
theorem isStarting_of_asked (h : t.isOn w.engine.settings) :
    (w.step (.ask .startup)).IsStarting t := by
  have hwork : (w.step (.ask .startup)).workOf? w.nextTask =
      ((w.spawn .request).start .startup).2.waiting? :=
    (workOf?_step_of_advance rfl w.nextTask).trans (if_pos rfl)
  exact ⟨w.nextTask, _, hwork, h⟩

/-- **What runs or is about to** goes on to, unless a caller turns it off or stops the runtime. -/
theorem runsOrStarts_step (hw : w.Numbered) (hoff : w.ResetsOff) (hturn : ev ≠ t.turn false)
    (hshut : ev ≠ .ask .shutdown) (h : w.RunsOrStarts t) : (w.step ev).RunsOrStarts t := by
  by_cases hon : ev = t.turn true
  · subst hon
    exact .inl (isRunning_turn t true)
  have hturns (b : Bool) : ev ≠ t.turn b := by cases b <;> assumption
  rcases h with hrun | hstart
  · by_cases hans : ∃ s r, w.answered? ev = some ⟨.startup s, r⟩
    · obtain ⟨s, r, ha⟩ := hans
      exact .inl (by simp [isRunning_step_of_answered hoff ha, hrun])
    · refine .inl ?_
      rw [isRunning, openScope?_step hturns hshut fun s r ha => hans ⟨s, r, ha⟩]
      exact hrun
  · rcases isStarting_or_ended hw hstart ev with hstart' | ⟨s, r, ha, hon', hdone⟩
    · exact .inr hstart'
    · exact .inl (by simp [isRunning_step_of_answered hoff ha, hon', hdone])

/-- What runs or is about to did so before, unless a start finds it turned on. -/
theorem runsOrStarts_step_cases (hw : w.Numbered) (hoff : w.ResetsOff)
    (hturn : ∀ b, ev ≠ t.turn b) (hshut : ev ≠ .ask .shutdown) (h : (w.step ev).RunsOrStarts t) :
    w.RunsOrStarts t ∨ ev = .ask .startup ∧ t.isOn w.engine.settings := by
  rcases h with hrun | hstart
  · by_cases hans : ∃ s r, w.answered? ev = some ⟨.startup s, r⟩
    · obtain ⟨s, r, ha⟩ := hans
      rw [isRunning_step_of_answered hoff ha, Bool.or_eq_true, Bool.and_eq_true] at hrun
      rcases hrun with hrun | ⟨hon, -⟩
      · exact .inl (.inl hrun)
      · exact .inl (.inr ⟨_, s, workOf?_of_answered ha, hon⟩)
    · rw [isRunning, openScope?_step hturn hshut fun s r ha => hans ⟨s, r, ha⟩] at hrun
      exact .inl (.inl hrun)
  · exact (isStarting_step_cases hw hstart).imp_left .inr

/-! ## Whole runs -/

section Runs

variable {e : Engine} {events : List Event}

theorem LeftRunning.concat (h : LeftRunning e events t) (hev : ∀ b, ev ≠ t.turn b) :
    LeftRunning e (events ++ [ev]) t := by
  obtain ⟨before, after, rfl, hlast, hstart⟩ := h
  refine ⟨before, after ++ [ev], by simp, fun b hb => ?_, hstart⟩
  rcases List.mem_append.1 hb with hb | hb
  · exact hlast b hb
  · exact hev b (List.mem_singleton.1 hb).symm

/-- **What runs or is about to** is turned on, or was left running. -/
theorem on_or_leftRunning (hput : ∀ s, .act (.putSettings s) ∉ events)
    (hshut : .ask .shutdown ∉ events) (h : ((ofEngine e).run events).RunsOrStarts t) :
    t.isOn ((ofEngine e).run events).engine.settings ∨ LeftRunning e events t := by
  induction events using List.reverseRecOn with
  | nil =>
    rcases h with hrun | ⟨id, s, hk, -⟩
    · cases t <;> cases hrun
    · cases hk
  | append_singleton events ev ih =>
    have hw := (numbered_ofEngine e).run events
    rw [run_concat] at h ⊢
    simp only [List.mem_append, List.mem_singleton, not_or] at hput hshut
    by_cases hon : ev = t.turn true
    · subst hon
      exact .inl (isOn_turn hw t true)
    by_cases hoff : ev = t.turn false
    · subst hoff
      -- It does not run any more, so a start is under way, which was so before.
      refine .inr ⟨events, [], rfl, fun b hb => absurd hb List.not_mem_nil, ?_⟩
      rcases h with hrun | hstart
      · rw [isRunning_turn] at hrun
        cases hrun
      · rcases isStarting_step_cases hw hstart with hstart | ⟨hask, -⟩
        · exact hstart
        · cases t <;> cases hask
    · have hturn (b : Bool) : ev ≠ t.turn b := by cases b <;> assumption
      rw [isOn_step hw hturn fun s => Ne.symm (hput s).2]
      rcases runsOrStarts_step_cases hw (resetsOff_run e events) hturn (Ne.symm hshut.2) h with
        hup | ⟨-, hon⟩
      · exact (ih (fun s => (hput s).1) hshut.1 hup).imp_right (·.concat hturn)
      · exact .inl hon

/-- **What is turned on** runs or is about to, once a start has been asked for. -/
theorem runsOrStarts_of_on (hput : ∀ s, .act (.putSettings s) ∉ events)
    (hshut : .ask .shutdown ∉ events) (hask : .ask .startup ∈ events)
    (hon : t.isOn ((ofEngine e).run events).engine.settings) :
    ((ofEngine e).run events).RunsOrStarts t := by
  induction events using List.reverseRecOn with
  | nil => cases hask
  | append_singleton events ev ih =>
    have hw := (numbered_ofEngine e).run events
    rw [run_concat] at hon ⊢
    simp only [List.mem_append, List.mem_singleton, not_or] at hput hshut hask
    by_cases hturn : ∃ b, ev = t.turn b
    · obtain ⟨b, rfl⟩ := hturn
      rw [isOn_turn hw] at hon
      exact .inl ((isRunning_turn t b).trans hon)
    have hturn' (b : Bool) : ev ≠ t.turn b := fun hb => hturn ⟨b, hb⟩
    rw [isOn_step hw hturn' fun s => Ne.symm (hput s).2] at hon
    rcases hask with hask | rfl
    · exact runsOrStarts_step hw (resetsOff_run e events) (hturn' false) (Ne.symm hshut.2)
        (ih (fun s => (hput s).1) hshut.1 hask hon)
    · exact .inr (isStarting_of_asked hon)

/-- **What was left running** runs or is about to. -/
theorem runsOrStarts_of_leftRunning (hshut : .ask .shutdown ∉ events)
    (h : LeftRunning e events t) : ((ofEngine e).run events).RunsOrStarts t := by
  obtain ⟨before, after, rfl, hlast, hstart⟩ := h
  induction after using List.reverseRecOn with
  | nil =>
    rw [run_concat]
    rcases isStarting_or_ended ((numbered_ofEngine e).run before) hstart (t.turn false) with
      hstart | ⟨s, r, ha, -⟩
    · exact .inr hstart
    · rw [Toggle.answered?_turn] at ha
      cases ha
  | append_singleton after ev ih =>
    rw [← List.cons_append, ← List.append_assoc] at hshut ⊢
    rw [run_concat]
    simp only [List.mem_append, List.mem_singleton, not_or] at hlast hshut
    refine runsOrStarts_step ((numbered_ofEngine e).run _) (resetsOff_run e _) ?_ (Ne.symm hshut.2) ?_
    · exact Ne.symm (hlast false).2
    · exact ih (by simpa using hshut.1) fun b => (hlast b).1

/-- Something that runs has a scope that is not cancelled, unless the root scope is. -/
theorem exists_uncancelled_iff (hown : OwnScopes events) :
    (∃ before n, before <+: events ∧ ((ofEngine e).run before).openScope? t = some n ∧
      ¬ ((ofEngine e).run events).isCancelled (t.scope n)) ↔
    ((ofEngine e).run events).isRunning t ∧ ¬ ((ofEngine e).run events).isCancelled .root := by
  constructor
  · rintro ⟨before, n, hb, hopen, hc⟩
    rcases isOpen_or_isCancelled hb (isOpen_scope.2 hopen) with ho | hcancel
    · refine ⟨Option.isSome_iff_exists.2 ⟨n, isOpen_scope.1 ho⟩, fun hroot => hc ?_⟩
      exact isCancelled_of_root hroot (t.isInRoot_scope n)
    · exact absurd hcancel hc
  · rintro ⟨hrun, hroot⟩
    obtain ⟨n, hn⟩ := Option.isSome_iff_exists.1 hrun
    refine ⟨events, n, List.prefix_refl _, hn, fun hc => ?_⟩
    have hself : t.scope n ∉ ((ofEngine e).run events).cancelled := fun hmem => by
      have hpast := (cancelledPast_run hown _ hmem).not_open
      rw [isOpen_scope.2 hn] at hpast
      cases hpast
    rw [isCancelled_root_iff] at hroot
    simp [isCancelled, hself, hroot] at hc

/-- **The flags tell what runs.** In every run in which callers cancel only scopes of their own, and
for either of automatic switching and keepalive:

* it has a scope that is not cancelled exactly if it runs and the root scope is not cancelled, which
  happens only once a shutdown has been asked for;
* once a start has been asked for and none is under way, and as long as no shutdown has been asked
  for, it runs exactly if it is turned on or was left running: it was last turned off while a start was
  under way that had found it turned on. That is so whatever else happens, but that callers must not
  put settings in place as a whole. -/
theorem flags_tell_what_runs (hown : OwnScopes events) (t : Toggle) :
    let w := (ofEngine e).run events
    ((∃ before n, before <+: events ∧ ((ofEngine e).run before).openScope? t = some n ∧
        ¬ w.isCancelled (t.scope n)) ↔ w.isRunning t ∧ ¬ w.isCancelled .root) ∧
    (w.isCancelled .root → .ask .shutdown ∈ events) ∧
    ((∀ s, .act (.putSettings s) ∉ events) → .ask .shutdown ∉ events → .ask .startup ∈ events →
      (∀ id s, w.workOf? id ≠ some (.startup s)) →
      (w.isRunning t ↔ t.isOn w.engine.settings ∨ LeftRunning e events t)) := by
  intro w
  refine ⟨exists_uncancelled_iff hown,
    fun hroot => shutdown_of_root hown (isCancelled_root_iff.1 hroot),
    fun hput hshut hask hnone => ⟨fun hrun => on_or_leftRunning hput hshut (.inl hrun), fun h => ?_⟩⟩
  have hup : w.RunsOrStarts t := by
    rcases h with hon | hleft
    · exact runsOrStarts_of_on hput hshut hask hon
    · exact runsOrStarts_of_leftRunning hshut hleft
  exact hup.resolve_right fun ⟨id, s, hk, _⟩ => hnone id s hk

/-- **Keepalive that was left running.** While the dashboard is loaded for a start, keepalive is turned
off. The start goes by the settings that it has found, and turns it on when it is over: keepalive runs
and is turned off. A shutdown then cancels its scope with the root, and keepalive still counts as
running. -/
theorem keepalive_left_running :
    let events : List Event :=
      [.ask .startup, .act (.setKeepalive false), .reply 0 (.fetchDashboard true .gpt) (.ok {})]
    let stopped : List Event := events ++ [.ask .shutdown, .reply 6 .autoSwitchReset (.ok ())]
    let w := (ofEngine Engine.blank).run events
    let w' := (ofEngine Engine.blank).run stopped
    OwnScopes events ∧ (∀ s, .act (.putSettings s) ∉ events) ∧ .ask .shutdown ∉ events ∧
      .ask .startup ∈ events ∧ (∀ id s, w.workOf? id ≠ some (.startup s)) ∧
      w.engine.settings.keepalive = false ∧ w.isRunning .keepalive ∧
      LeftRunning Engine.blank events .keepalive ∧
      OwnScopes stopped ∧ w'.isRunning .keepalive ∧ w'.isCancelled .root ∧
      ¬ ∃ before n, before <+: stopped ∧
        ((ofEngine Engine.blank).run before).openScope? .keepalive = some n ∧
        ¬ w'.isCancelled (.keepalive n) := by
  intro events stopped w w'
  have hown : OwnScopes events := by
    intro s hs
    simp [events] at hs
  have hstop : OwnScopes stopped := by
    intro s hs
    simp [stopped, events] at hs
  have hput (s : Settings) : .act (.putSettings s) ∉ events := by simp [events]
  have hshut : .ask .shutdown ∉ events := by simp [events]
  have hask : .ask .startup ∈ events := by simp [events]
  have hidle : ∀ task ∈ w.tasks, task.stage.work? = none := by decide +kernel
  have hnone (id : Nat) (s : Startup) : w.workOf? id ≠ some (.startup s) := by
    intro hk
    obtain ⟨task, htask, hstage⟩ := workOf?_eq_some_iff.1 hk
    have hno := hidle task (List.mem_of_find?_eq_some htask)
    rw [Stage.work?_eq_some_iff.2 hstage] at hno
    cases hno
  have hoff : w.engine.settings.keepalive = false := by decide +kernel
  have hrun : w.isRunning .keepalive := by decide +kernel
  have hroot : w'.isCancelled .root := by decide +kernel
  have hleft := ((flags_tell_what_runs hown .keepalive).2.2 hput hshut hask hnone).1 hrun
  refine ⟨hown, hput, hshut, hask, hnone, hoff, hrun, hleft.resolve_left ?_, hstop,
    by decide +kernel, hroot, fun h => ?_⟩
  · simp only [Toggle.isOn]
    rw [hoff]
    exact Bool.false_ne_true
  · exact ((flags_tell_what_runs hstop .keepalive).1.1 h).2 hroot

end Runs

end Session

end Switchboard
