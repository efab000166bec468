import Mathlib.Data.List.Induction
import Switchboard.Proofs.Surface

/-!
# What is written down

The settings and the history of switches outlast the program. `Session.entries` lists what an event
writes there: a change of one setting, a switch that was finished, or the loss of the whole store.

* `Records.put` — what becomes of the settings, the store and the serial numbers by one entry.
* `Session.records_step` — the entries of its event are all that becomes of them in a step, and
  `Session.records_run`: what those entries keep, a run keeps.
* `Session.config_step`, `Session.config_run` — no entry is about the configuration, which stays.
-/

set_option autoImplicit false

namespace Switchboard

/-- A change of the settings. -/
inductive SettingsChange where
  | all (s : Settings)
  | mode (m : Mode)
  | autoSwitch (enabled : Bool)
  | refreshOnStartup (enabled : Bool)
  | keepalive (enabled : Bool)
  | strategy (s : Strategy)
  | hookVersion (version : String)
  | remembered (m : Mode) (name : String)
  deriving DecidableEq

/-- The settings with the change made. -/
def SettingsChange.apply (c : SettingsChange) (s : Settings) : Settings :=
  match c with
  | all t => t
  | mode m => { s with mode := m }
  | autoSwitch enabled => { s with autoSwitch := enabled }
  | refreshOnStartup enabled => { s with refreshOnStartup := enabled }
  | keepalive enabled => { s with keepalive := enabled }
  | strategy t => { s with strategy := t }
  | hookVersion version => { s with hookVersion := some version }
  | remembered m name => { s with remembered := s.remembered.set m (some name) }

/-- Something that is written down. -/
inductive Entry where
  | change (c : SettingsChange)
  | switch (s : SwitchEvent)
  /-- The data directory is deleted. -/
  | loss
  deriving DecidableEq

/-- The line of the history, if the entry is one. -/
def Entry.switch? : Entry → Option SwitchEvent
  | switch s => some s
  | _ => none

/-- The store is this database, but that rows with these lines were added to its history, the latest
in front. The settings may be others. -/
def Store.HasAdded (s : Store) (d : Database) (lines : List SwitchEvent) : Prop :=
  ∃ (d' : Database) (records : List SwitchRecord), s = .withDatabase d' ∧
    d'.history = records.map .ofRecord ++ d.history ∧ records.map (·.toSwitchEvent) = lines

/-- The settings, the store, and the serial number of the next switch, under a configuration. The
configuration is read once, at the start of the program. -/
structure Records where
  settings : Settings
  store : Store
  switches : Nat
  config : Config

namespace Records

/-- Writes one thing down, in the store if that can be done. -/
def put (r : Records) : Entry → Records
  | .change c =>
    { r with
      settings := c.apply r.settings
      store := r.store.orKeep (r.store.save (c.apply r.settings)) }
  | .switch s =>
    { r with
      store := r.store.orKeep (r.store.add (.ofEvent r.switches s))
      switches := r.switches + 1 }
  | .loss => { r with store := r.store.removeDirectory }

/-- Writes one thing down after another. -/
def putAll (r : Records) (entries : List Entry) : Records := entries.foldl put r

@[simp] theorem putAll_nil (r : Records) : r.putAll [] = r := rfl

@[simp] theorem putAll_cons (r : Records) (x : Entry) (entries : List Entry) :
    r.putAll (x :: entries) = (r.put x).putAll entries := rfl

/-- What every entry keeps, any number of them keep. -/
theorem putAll_induction {P : Records → Prop} {entries : List Entry}
    (h : ∀ r, ∀ x ∈ entries, P r → P (r.put x)) {r : Records} (hr : P r) :
    P (r.putAll entries) := by
  induction entries generalizing r with
  | nil => exact hr
  | cons x entries ih =>
    have hx : P (r.put x) := h r x List.mem_cons_self hr
    exact ih (fun r y hy => h r y (List.mem_cons_of_mem x hy)) hx

/-- No entry changes the configuration. -/
theorem config_putAll (r : Records) (entries : List Entry) : (r.putAll entries).config = r.config := by
  refine putAll_induction (P := fun r' => r'.config = r.config) (fun r' x _ h => ?_) rfl
  cases x <;> exact h

/-- Writing a switch down adds a row to the history, and writing other things down adds none, as long
as the database is there. -/
theorem hasAdded_put {r : Records} {d : Store.Database} {lines : List SwitchEvent}
    (h : r.store.HasAdded d lines) {x : Entry} (hx : x ≠ .loss) :
    (r.put x).store.HasAdded d (x.switch?.toList ++ lines) := by
  obtain ⟨⟨settings, history⟩, records, hs, rfl, rfl⟩ := h
  cases x with
  | loss => exact absurd rfl hx
  | change c =>
    refine ⟨⟨settings.map fun _ => .ofSettings (c.apply r.settings), _⟩, records, ?_, rfl, rfl⟩
    rw [put, hs]
    rfl
  | switch s =>
    refine ⟨⟨settings, _⟩, .ofEvent r.switches s :: records, ?_, rfl, rfl⟩
    rw [put, hs]
    rfl

/-- The rows that are added are those of the switches among the entries, the latest in front. -/
theorem hasAdded_putAll {r : Records} {d : Store.Database} {lines : List SwitchEvent}
    (h : r.store.HasAdded d lines) {entries : List Entry} (hl : .loss ∉ entries) :
    (r.putAll entries).store.HasAdded d ((entries.filterMap Entry.switch?).reverse ++ lines) := by
  induction entries generalizing r lines with
  | nil => exact h
  | cons x entries ih =>
    obtain ⟨hx, hl⟩ : x ≠ .loss ∧ .loss ∉ entries := by
      rw [List.mem_cons, not_or] at hl
      exact ⟨Ne.symm hl.1, hl.2⟩
    have hall := ih (hasAdded_put h hx) hl
    rw [putAll_cons]
    cases hx : x.switch? <;> simpa [List.filterMap_cons, hx] using hall

end Records

/-! ## What commands, duties and callers write down -/

/-- A version that the hook was seen with, if there is one. -/
def Entry.version (version : Option String) : List Entry :=
  (version.map fun v => .change (.hookVersion v)).toList

/-- A profile that is in use now, if it has a name. -/
def Entry.profile (m : Mode) (name : Option String) : List Entry :=
  ((Text.filled? name).map fun n => .change (.remembered m n)).toList

theorem Entry.mem_version {x : Entry} {version : Option String} :
    x ∈ Entry.version version ↔ ∃ v, version = some v ∧ .change (.hookVersion v) = x := by
  simp [Entry.version]

theorem Entry.mem_profile {x : Entry} {m : Mode} {name : Option String} :
    x ∈ Entry.profile m name ↔
      ∃ n, Text.filled? name = some n ∧ .change (.remembered m n) = x := by
  simp [Entry.profile]

/-- A profile is remembered once it is applied. -/
def Switch.entries : (s : Switch) → Reply s.call → List Entry
  | .applying target m _, .ok _ => Entry.profile m (some target)
  | _, _ => []

/-- A version is noted once the hook is installed. -/
def HookInstall.entries : (h : HookInstall) → Reply h.call → List Entry
  | .installing, _ => []
  | .reading _, reply => Entry.version (version? reply)

/-- A profile is remembered as soon as the backend says that it has switched. -/
def AutoSwitchReport.entries (m : Mode) (r : AutoSwitchReport) : List Entry :=
  if r.switched then Entry.profile m r.switchedTo else []

/-- The line in the history for a switch whose follow-up came to this, if its profile is known. -/
def Switched.line? (s : Switched) (r : Except Failure (Option String)) : Option SwitchEvent :=
  s.target.map fun target =>
    match r with
    | .ok message => ⟨s.mode, s.previous, target, Result.switched.name, message⟩
    | .error f => ⟨s.mode, s.previous, target, Result.postActionFailed.name, some f.message⟩

/-- The entry of that line. -/
def Switched.entries (s : Switched) (r : Except Failure (Option String)) : List Entry :=
  ((s.line? r).map .switch).toList

theorem Switched.mem_entries {x : Entry} {s : Switched} {r : Except Failure (Option String)} :
    x ∈ s.entries r ↔ ∃ line, s.line? r = some line ∧ .switch line = x := by
  simp [Switched.entries]

/-- A switch is recorded once its follow-up has ended, called off or not. -/
def AutoSwitch.entries (cancelled : Bool) : (a : AutoSwitch) → Reply a.call → List Entry
  | .ticking m, reply =>
    match cancelled, reply with
    | false, .ok r => r.entries m
    | _, _ => []
  | .acting s p, reply =>
    match p.resume reply with
    | .waiting _ => []
    | .done r => s.entries (r.map some)
  | .calibrating s _, reply => s.entries (reply.map fun _ => none)

/-- The hook watch notes a version at first sight, and whenever it has installed the hook. -/
def HookWatch.entries (e : Engine) (cancelled : Bool) : (h : HookWatch) → Reply h.call → List Entry
  | .checking, _ | .installing _ _, _ => []
  | .reading, reply =>
    if cancelled || e.settings.hookVersion.isSome then []
    else Entry.version (HookInstall.version? reply)
  | .rereading _ current _, reply =>
    Entry.version (some ((HookInstall.version? reply).getD current))

/-! None of these is the loss of the store. -/

@[simp] theorem Entry.loss_notMem_version {version : Option String} :
    .loss ∉ Entry.version version := by
  simp [mem_version]

@[simp] theorem Entry.loss_notMem_profile {m : Mode} {name : Option String} :
    .loss ∉ Entry.profile m name := by
  simp [mem_profile]

@[simp] theorem Switched.loss_notMem_entries {s : Switched} {r : Except Failure (Option String)} :
    .loss ∉ s.entries r := by
  simp [mem_entries]

theorem Switch.loss_notMem_entries (s : Switch) {r : Reply s.call} : .loss ∉ s.entries r := by
  unfold entries
  split <;> simp

theorem HookInstall.loss_notMem_entries (h : HookInstall) {r : Reply h.call} :
    .loss ∉ h.entries r := by
  cases h <;> simp [entries]

theorem AutoSwitch.loss_notMem_entries (a : AutoSwitch) {cancelled : Bool} {r : Reply a.call} :
    .loss ∉ a.entries cancelled r := by
  cases a with
  | ticking m =>
    simp only [entries, AutoSwitchReport.entries]
    split
    · split <;> simp
    · simp
  | acting s p =>
    simp only [entries]
    split <;> simp
  | calibrating s name => simp [entries]

theorem HookWatch.loss_notMem_entries (h : HookWatch) {e : Engine} {cancelled : Bool}
    {r : Reply h.call} : .loss ∉ h.entries e cancelled r := by
  cases h with
  | checking | installing => simp [entries]
  | reading =>
    simp only [entries]
    split <;> simp
  | rereading => exact Entry.loss_notMem_version

/-- What a caller writes down at once. -/
def Action.entries : Action → List Entry
  | .remember m name => Entry.profile m (some name)
  | .putSettings s => [.change (.all s)]
  | .setMode m => [.change (.mode m)]
  | .setStrategy s => [.change (.strategy s)]
  | .setRefreshOnStartup enabled => [.change (.refreshOnStartup enabled)]
  | .setKeepalive enabled => [.change (.keepalive enabled)]
  | .loseStore => [.loss]
  | _ => []

/-- What is written down when a caller asks for something. -/
def Request.entries : Request → List Entry
  | .setMode m => [.change (.mode m)]
  | .setAutoSwitch enabled => [.change (.autoSwitch enabled)]
  | _ => []

namespace Session

/-- What a reply writes down. -/
def replyEntries (w : Session) : (k : Work) → Reply k.call → List Entry
  | .switch s, reply => s.entries reply
  | .hookInstall h, reply => h.entries reply
  | .autoSwitch s a, reply => a.entries (w.isCancelled s.scope) reply
  | .hookWatch s h, reply => h.entries w.engine (w.isCancelled s.scope) reply
  | _, _ => []

/-- What an event writes down. -/
def entries (w : Session) (ev : Event) : List Entry :=
  match ev with
  | .act a => a.entries
  | .ask r => r.entries
  | ev =>
    match w.answered? ev with
    | some a => w.replyEntries a.1 a.2
    | none => []

end Session

/-! ## Commands and duties -/

namespace Engine

variable (e : Engine)

/-- What the engine keeps for later. -/
def records : Records := ⟨e.settings, e.store, e.switches, e.config⟩

variable {e}

theorem Fronts.records {e' : Engine} (h : e.Fronts e') : e'.records = e.records :=
  h.congr Engine.records fun _ _ _ _ _ => rfl

variable (e)

theorem records_updateSettings (c : SettingsChange) :
    (e.updateSettings c.apply).records = e.records.put (.change c) := rfl

theorem records_remember (m : Mode) (name : String) :
    (e.remember m name).records = e.records.putAll (Entry.profile m (some name)) := by
  simp only [remember, Entry.profile, Text.filled?, Option.bind_some]
  cases Text.filled name with
  | none => rfl
  | some n => exact e.records_updateSettings (.remembered m n)

theorem records_block (message : String) : (e.block message).records = e.records := rfl

theorem records_applySnapshot (s : Snapshot) (preserve : Bool) :
    (e.applySnapshot s preserve).records = e.records := rfl

theorem records_applyIfChanged (s : Snapshot) : (e.applyIfChanged s).records = e.records := by
  unfold applyIfChanged
  split <;> rfl

theorem records_reorderDisplay (names : List String) :
    (e.reorderDisplay names).records = e.records := by
  unfold reorderDisplay
  split <;> rfl

theorem records_select (name : String) : (e.select name).records = e.records := by
  unfold select
  split <;> rfl

end Engine

section Work

variable (e : Engine)

theorem Load.records_finish (l : Load) (reply : Except Failure Snapshot) :
    (l.finish e reply).1.records = e.records := by
  cases reply with
  | error f => rfl
  | ok s =>
    unfold finish
    dsimp only
    split <;> split <;> rfl

theorem Dashboard.records_finish (success failure : String) (reply : Except Failure Snapshot) :
    (Dashboard.finish success failure e reply).1.records = e.records := by
  cases reply <;> rfl

theorem Refresh.records_finish (r : Refresh) (reply : Reply r.call) :
    (r.finish e reply).1.records = e.records := by
  cases r <;> exact Dashboard.records_finish e _ _ reply

theorem Switch.records_resume (s : Switch) (reply : Reply s.call) :
    (s.resume e reply).1.records = e.records.putAll (s.entries reply) := by
  cases s with
  | applying target mode label =>
    cases reply with
    | error f => rfl
    | ok s =>
      simp only [resume, afterApply, Dashboard.finish, entries, Engine.records_block,
        Engine.records_remember]
      rfl
  | calibrating target mode label m => cases reply <;> rfl

theorem Flush.records_next (q : OrderQueue) : (next q e).2.1.records = e.records :=
  (tells_next q e).fronts.records

theorem Flush.records_resume (q : OrderQueue) (f : Flush) (reply : Reply f.call) :
    (f.resume q e reply).2.1.records = e.records := by
  cases f with
  | saving names =>
    cases reply with
    | error f => rfl
    | ok s =>
      simp only [resume, release, records_next, accept]
      split <;> rfl
  | rereading l =>
    simp only [resume, release, records_next]
    exact l.records_finish e reply

theorem Poll.records_finish (p : Poll) (b : Backoff) (cancelled : Bool)
    (reply : Except Failure Snapshot) : (p.finish e b cancelled reply).1.records = e.records := by
  cases reply with
  | error f => rfl
  | ok s =>
    simp only [finish]
    split
    · rfl
    · exact e.records_applyIfChanged s

theorem Manual.records_finish (r : TextResult) : (Manual.finish e r).records = e.records := by
  cases r <;> rfl

theorem HookInstall.records_resume (h : HookInstall) (reply : Reply h.call) :
    (h.resume e reply).1.records = e.records.putAll (h.entries reply) := by
  cases h with
  | installing => cases reply <;> rfl
  | reading message =>
    simp only [resume, entries, Entry.version]
    cases version? reply <;> rfl

theorem KeepaliveRun.records_finish (k : KeepaliveRun) (cancelled : Bool)
    (reply : Except Failure Snapshot) : (k.finish e cancelled reply).1.records = e.records := by
  cases cancelled <;> cases reply <;> rfl

theorem Recover.records_finish (cancelled : Bool) (reply : Except Failure RecoverReport) :
    (Recover.finish e cancelled reply).1.records = e.records := by
  unfold finish
  split
  · rfl
  · rfl
  · split <;> rfl

theorem Switched.records_report (cancelled : Bool) (text : String) :
    (report e cancelled text).records = e.records := by
  unfold report
  split <;> rfl

theorem Switched.records_record (s : Switched) (r : Except Failure (Option String)) {e' : Engine}
    {result : Result} {message : Option String}
    (hr : ∀ target, s.target = some target →
      s.line? r = some ⟨s.mode, s.previous, target, result.name, message⟩)
    (he : e'.records = e.records) :
    (s.record e' result message).records = e.records.putAll (s.entries r) := by
  unfold record entries
  cases ht : s.target with
  | none =>
    have hline : s.line? r = none := by simp [line?, ht]
    rw [hline]
    exact he
  | some target =>
    rw [hr target ht, ← he]
    rfl

theorem Switched.records_finishAction (s : Switched) (cancelled : Bool) (r : TextResult) :
    (s.finishAction e cancelled r).records = e.records.putAll (s.entries (r.map some)) := by
  cases r with
  | ok message =>
    exact s.records_record e _ (fun target h => by simp [line?, h, Except.map])
      (records_report e cancelled _)
  | error f =>
    exact s.records_record e _ (fun target h => by simp [line?, h, Except.map])
      (records_report e cancelled _)

theorem Switched.records_finishCalibration (s : Switched) (cancelled : Bool)
    (reply : Except Failure Snapshot) :
    (s.finishCalibration e cancelled reply).records =
      e.records.putAll (s.entries (reply.map fun _ => none)) := by
  cases reply with
  | ok snapshot =>
    have hd : (if cancelled then e else e.applySnapshot snapshot false).records = e.records := by
      split <;> rfl
    exact s.records_record e _ (fun target h => by simp [line?, h, Except.map])
      ((records_report _ cancelled _).trans hd)
  | error f =>
    exact s.records_record e _ (fun target h => by simp [line?, h, Except.map])
      (records_report e cancelled _)

theorem AutoSwitch.records_adopt (s : Switched) :
    (adopt s e).records = e.records.putAll (Entry.profile s.mode s.target) := by
  unfold adopt
  cases s.target with
  | none => rfl
  | some name => rw [Engine.records_select, Engine.records_remember]

theorem AutoSwitch.records_pursue (s : Switched) : (pursue s e).1.records = e.records := by
  unfold pursue
  split <;> rfl

theorem AutoSwitch.records_takeReport (m : Mode) (r : AutoSwitchReport) :
    (takeReport m e r).1.records = e.records.putAll (r.entries m) := by
  have afterDashboard (e' : Engine) (he : e'.records = e.records)
      {quiet : Engine × Progress AutoSwitch Tick} (hq : quiet.1.records = e'.records) :
      (if r.switched then pursue (switchedOf e m r) (adopt (switchedOf e m r) e')
        else quiet).1.records = e.records.putAll (r.entries m) := by
    unfold AutoSwitchReport.entries
    split
    · rw [records_pursue, records_adopt, he]
      simp only [switchedOf, Entry.profile, Text.filled?_idem]
    · rw [hq, he]
      rfl
  unfold takeReport
  cases r.dashboard with
  | none =>
    refine afterDashboard e rfl ?_
    split <;> rfl
  | some s =>
    refine afterDashboard (e.applySnapshot s false) (e.records_applySnapshot s false) ?_
    split <;> rfl

theorem AutoSwitch.records_resume (a : AutoSwitch) (cancelled : Bool) (reply : Reply a.call) :
    (a.resume e cancelled reply).1.records = e.records.putAll (a.entries cancelled reply) := by
  cases a with
  | ticking m =>
    cases cancelled with
    | true => rfl
    | false =>
      cases reply with
      | error f => rfl
      | ok r => exact records_takeReport e m r
  | acting s p =>
    simp only [resume, entries]
    cases p.resume reply with
    | waiting q => rfl
    | done r => exact s.records_finishAction e cancelled r
  | calibrating s name => exact s.records_finishCalibration e cancelled reply

theorem HookWatch.records_conclude (cancelled : Bool) (text : String) :
    (conclude e cancelled text).1.records = e.records := by
  unfold conclude
  split <;> rfl

theorem HookWatch.records_compare (current : String) :
    (compare e current).1.records =
      e.records.putAll (if e.settings.hookVersion.isSome then [] else Entry.version (some current)) := by
  unfold compare
  cases e.settings.hookVersion with
  | none => rfl
  | some previous =>
    dsimp only
    split
    · rfl
    · split <;> rfl

theorem HookWatch.records_resume (h : HookWatch) (cancelled : Bool) (reply : Reply h.call) :
    (h.resume e cancelled reply).1.records = e.records.putAll (h.entries e cancelled reply) := by
  cases h with
  | checking =>
    simp only [resume]
    split <;> rfl
  | reading =>
    simp only [resume, afterReading, entries]
    cases HookInstall.version? reply with
    | none =>
      dsimp only
      split <;> rfl
    | some current =>
      cases cancelled with
      | true => rfl
      | false => exact records_compare e current
  | installing previous current =>
    cases reply with
    | ok message => rfl
    | error f => exact records_conclude e cancelled _
  | rereading previous current message =>
    exact (records_conclude _ cancelled _).trans (e.records_updateSettings (.hookVersion _))

end Work

/-! ## Steps -/

namespace Session

theorem records_resume (w : Session) (k : Work) (r : Reply k.call) :
    (w.resume k r).1.engine.records = w.engine.records.putAll (w.replyEntries k r) := by
  cases k with
  | load l => exact l.records_finish w.engine r
  | refresh x => exact x.records_finish w.engine r
  | switch s =>
    simp only [resume, engine_embed]
    exact s.records_resume w.engine r
  | manualAction p =>
    simp only [resume, resumeManual]
    split
    · rfl
    · exact Manual.records_finish w.engine _
  | bareAction p =>
    simp only [resume, engine_embed]
    rfl
  | hookInstall h =>
    simp only [resume, engine_embed]
    exact h.records_resume w.engine r
  | flush crew f =>
    simp only [resume, engine_embedFlush]
    exact f.records_resume w.engine (w.crew crew).orders r
  | poll s p =>
    have h := p.records_finish w.engine (w.crew s.crew).backoff (w.isCancelled s.scope) r
    exact (congrArg Engine.records (engine_resumePoll w s p r)).trans h
  | autoSwitch s a =>
    simp only [resume, resumeAutoSwitch, engine_carryOn]
    exact a.records_resume w.engine (w.isCancelled s.scope) r
  | recover s x =>
    simp only [resume, engine_finishRun]
    exact Recover.records_finish w.engine (w.isCancelled s.scope) r
  | hookWatch s h =>
    simp only [resume, resumeHookWatch, engine_carryOn]
    exact h.records_resume w.engine (w.isCancelled s.scope) r
  | keepalive s x =>
    simp only [resume, engine_finishRun]
    exact x.records_finish w.engine (w.isCancelled s.scope) r
  | startup s =>
    cases s with
    | loading settings l =>
      have h := fronts_afterLoading (w.onEngine fun e => (l.finish e r).1) settings
      exact h.records.trans (l.records_finish w.engine r)
    | refreshing settings x =>
      have h := (opens_launch (w.onEngine fun e => (x.finish e r).1) settings).engine
      exact h.fronts.records.trans (x.records_finish w.engine r)
    | resetting settings => exact (opens_finishStartup w settings).engine.fronts.records
  | turnOff => rfl
  | stop => rfl

theorem records_start (w : Session) (r : Request) :
    (w.start r).1.engine.records = w.engine.records.putAll r.entries := by
  have h := (fronts_start w r).records
  have hr : (r.setting w.engine).records = w.engine.records.putAll r.entries := by
    cases r <;> rfl
  rw [h, hr]

theorem records_act (w : Session) (a : Action) :
    (w.act a).engine.records = w.engine.records.putAll a.entries := by
  cases a with
  | applyIfChanged s => exact w.engine.records_applyIfChanged s
  | select name => exact w.engine.records_select name
  | reorder names => exact w.engine.records_reorderDisplay names
  | queueOrder crew names =>
    refine (congrArg Engine.records (engine_setCrew _ crew _)).trans ?_
    exact w.engine.records_reorderDisplay names
  | remember m name =>
    simp only [act, onEngine, Action.entries]
    exact w.engine.records_remember m name
  | setKeepalive b => exact (directs_setKeepalive w b).engine.fronts.records
  | _ => rfl

theorem entries_of_answered {w : Session} {ev : Event} {k : Work} {r : Reply k.call}
    (h : w.answered? ev = some ⟨k, r⟩) : w.entries ev = w.replyEntries k r := by
  cases ev with
  | reply | expire => simp only [entries, h]
  | _ => cases h

/-- An event that takes up a task that waits for nothing writes nothing down. -/
theorem entries_of_free {w : Session} (hw : w.Numbered) {ev : Event}
    (hf : w.Free (w.subject ev)) : w.entries ev = [] := by
  have hnext := hw.task?_next
  have hnone : w.answered? ev = none := by
    cases ha : w.answered? ev with
    | none => rfl
    | some a =>
      have hk := workOf?_of_answered ha
      rw [hf.workOf?] at hk
      cases hk
  cases ev with
  | ask | act =>
    have ht := hf.isSome_task?
    rw [subject, hnext] at ht
    cases ht
  | _ => simp only [entries, hnone]

theorem records_advance {w : Session} (hw : w.Numbered) {ev : Event}
    {r : Session × Progress Work Outcome} (h : w.advance? ev = some r) :
    r.1.engine.records = w.engine.records.putAll (w.entries ev) := by
  cases stretch_of_advance h with
  | @resume k reply ha =>
    rw [entries_of_answered ha]
    exact records_resume w k reply
  | start q hq =>
    subst hq
    exact records_start (w.spawn .request) q
  | job s j hf =>
    rw [entries_of_free hw hf, engine_beginJob]
    rfl
  | flush crew hf =>
    rw [entries_of_free hw hf]
    exact (tells_beginFlush w crew).fronts.records
  | sync hf =>
    rw [entries_of_free hw hf]
    rfl

/-- The store is lost when a caller deletes it, and never else. -/
theorem eq_loseStore_of_loss_mem {w : Session} {ev : Event} (h : .loss ∈ w.entries ev) :
    ev = .act .loseStore := by
  cases ha : w.answered? ev with
  | none =>
    cases ev with
    | act a => cases a <;> simp_all [entries, Action.entries]
    | ask r => cases r <;> simp_all [entries, Request.entries]
    | _ =>
      simp only [entries, ha] at h
      cases h
  | some a =>
    obtain ⟨k, r⟩ := a
    rw [entries_of_answered ha] at h
    cases k with
    | switch s => exact absurd h s.loss_notMem_entries
    | hookInstall x => exact absurd h x.loss_notMem_entries
    | autoSwitch s a => exact absurd h a.loss_notMem_entries
    | hookWatch s x => exact absurd h x.loss_notMem_entries
    | _ => cases h

theorem entries_of_quiet {w : Session} {ev : Event} (h : w.advance? ev = none)
    (ha : ∀ a, ev ≠ .act a) : w.entries ev = [] := by
  cases ev with
  | act a => exact absurd rfl (ha a)
  | ask r => cases r <;> first | rfl | cases h
  | reply id c r =>
    have hnone : w.answered? (.reply id c r) = none := Option.map_eq_none_iff.1 h
    simp only [entries, hnone]
  | expire id =>
    have hnone : w.answered? (.expire id) = none := Option.map_eq_none_iff.1 h
    simp only [entries, hnone]
  | _ => rfl

/-- The settings that a reply changes are the version of the hook and the profiles that are
remembered. -/
theorem change_of_mem_replyEntries {w : Session} {k : Work} {r : Reply k.call} {c : SettingsChange}
    (h : .change c ∈ w.replyEntries k r) :
    (∃ v, c = .hookVersion v) ∨ ∃ m name, c = .remembered m name := by
  have version {v? : Option String} (hv : .change c ∈ Entry.version v?) : ∃ v, c = .hookVersion v := by
    obtain ⟨v, -, hc⟩ := Entry.mem_version.1 hv
    exact ⟨v, (Entry.change.inj hc).symm⟩
  have profile {m : Mode} {name : Option String} (hp : .change c ∈ Entry.profile m name) :
      ∃ m name, c = .remembered m name := by
    obtain ⟨n, -, hc⟩ := Entry.mem_profile.1 hp
    exact ⟨m, n, (Entry.change.inj hc).symm⟩
  cases k with
  | switch x =>
    cases x with
    | calibrating => cases h
    | applying =>
      cases r with
      | error f => cases h
      | ok snapshot => exact .inr (profile h)
  | hookInstall x =>
    cases x with
    | installing => cases h
    | reading message => exact .inl (version h)
  | autoSwitch x a =>
    cases a with
    | ticking m =>
      simp only [replyEntries, AutoSwitch.entries, AutoSwitchReport.entries] at h
      split at h
      · split at h
        · exact .inr (profile h)
        · cases h
      · cases h
    | acting y p =>
      simp only [replyEntries, AutoSwitch.entries] at h
      split at h <;> simp [Switched.mem_entries] at h
    | calibrating y name => simp [replyEntries, AutoSwitch.entries, Switched.mem_entries] at h
  | hookWatch x y =>
    cases y with
    | checking | installing => cases h
    | reading =>
      simp only [replyEntries, HookWatch.entries] at h
      split at h
      · cases h
      · exact .inl (version h)
    | rereading previous current message =>
      have hv : .change c ∈ Entry.version (some ((HookInstall.version? r).getD current)) := h
      exact .inl (version hv)
  | _ => cases h

/-- **All that becomes of the settings, the store and the serial numbers in a step** are the entries
of its event. -/
theorem records_step {w : Session} (hw : w.Numbered) (ev : Event) :
    (w.step ev).engine.records = w.engine.records.putAll (w.entries ev) := by
  by_cases hact : ∃ a, ev = .act a
  · obtain ⟨a, rfl⟩ := hact
    exact records_act w a
  have hact' : ∀ a, ev ≠ .act a := fun a he => hact ⟨a, he⟩
  cases h : w.advance? ev with
  | some r =>
    obtain ⟨errand, hs⟩ := step_of_advance h
    rw [hs, engine_conclude]
    exact records_advance hw h
  | none =>
    rw [entries_of_quiet h hact']
    rcases tells_or_passes h hact' with ht | ⟨ms, hm⟩
    · exact ht.fronts.records
    · rw [hm]
      rfl

/-- What every entry of a run keeps, the run keeps. -/
theorem records_run {P : Records → Prop} {e : Engine} (h₀ : P e.records) {events : List Event}
    (h : ∀ before ev after, events = before ++ ev :: after →
      ∀ r, ∀ x ∈ ((ofEngine e).run before).entries ev, P r → P (r.put x)) :
    P ((ofEngine e).run events).engine.records := by
  induction events using List.reverseRecOn with
  | nil => exact h₀
  | append_singleton events ev ih =>
    have hbefore : P ((ofEngine e).run events).engine.records := by
      refine ih fun before ev' after hs => h before ev' (after ++ [ev]) ?_
      rw [hs, List.append_assoc, List.cons_append]
    rw [run_append, run_cons, run_nil, records_step ((numbered_ofEngine e).run events)]
    exact Records.putAll_induction (h events ev [] rfl) hbefore

theorem settings_step {w : Session} (hw : w.Numbered) (ev : Event) :
    (w.step ev).engine.settings = (w.engine.records.putAll (w.entries ev)).settings :=
  congrArg Records.settings (records_step hw ev)

/-! ## The configuration stays -/

theorem config_resume (w : Session) (k : Work) (r : Reply k.call) :
    (w.resume k r).1.engine.config = w.engine.config := by
  have h := congrArg Records.config (records_resume w k r)
  exact h.trans (Records.config_putAll _ _)

/-- **No step changes the configuration.** -/
theorem config_step {w : Session} (hw : w.Numbered) (ev : Event) :
    (w.step ev).engine.config = w.engine.config := by
  have h := congrArg Records.config (records_step hw ev)
  exact h.trans (Records.config_putAll _ _)

theorem config_run {w : Session} (hw : w.Numbered) (events : List Event) :
    (w.run events).engine.config = w.engine.config :=
  hw.run_induction (P := fun w' => w'.engine.config = w.engine.config)
    (fun _ ev hw' h => (config_step hw' ev).trans h) rfl events

theorem config_ofSource (e : Engine) (random : Source) (events : List Event) :
    ((ofSource e random).run events).engine.config = e.config :=
  config_run (numbered_ofSource e random) events

end Session

end Switchboard
