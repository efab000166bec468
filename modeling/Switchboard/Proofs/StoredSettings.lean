import Switchboard.Proofs.HookVersion

/-!
# Settings across a restart

Every change of the settings is written to the store, as it is. When the settings are read again, a
text loses the white space at its ends, and counts as absent if nothing is left of it.

* `Settings.cleaned` — the settings as they are read again; `Settings.cleaned_cleaned` says that they
  are kept from then on.
* `Records.Backed` — the store reads as the settings, cleaned; `Session.backed_run` says so of every
  state of a run.
* `Session.settings_after_restart` — so the settings survive a restart if they are clean, and they are
  as long as the backend reports clean versions.
* `Session.version_lost_in_restart` — a version with a blank at its end does not survive.
-/

set_option autoImplicit false

namespace Switchboard

/-- The settings as they are read from the store that they were written to. -/
def Settings.cleaned (s : Settings) : Settings :=
  { s with
    hookVersion := Text.filled? s.hookVersion
    remembered := ⟨Text.filled? s.remembered.gpt, Text.filled? s.remembered.openCode⟩ }

/-- The settings are read as they were written. -/
def Settings.IsClean (s : Settings) : Prop := s.cleaned = s

theorem Settings.isClean_iff {s : Settings} :
    s.IsClean ↔ Text.filled? s.hookVersion = s.hookVersion ∧
      ∀ m, Text.filled? (s.remembered.get m) = s.remembered.get m := by
  constructor
  · intro h
    rw [← h]
    exact ⟨Text.filled?_idem _, fun m => by cases m <;> exact Text.filled?_idem _⟩
  · rintro ⟨hv, hm⟩
    have hg : Text.filled? s.remembered.gpt = s.remembered.gpt := hm .gpt
    have ho : Text.filled? s.remembered.openCode = s.remembered.openCode := hm .openCode
    rw [IsClean, cleaned, hv, hg, ho]

@[simp] theorem Settings.cleaned_cleaned (s : Settings) : s.cleaned.cleaned = s.cleaned := by
  simp [cleaned]

namespace Store

theorem SettingsRow.isClean_of_settings? {row : SettingsRow} {s : Settings}
    (h : row.settings? = some s) : s.IsClean := by
  simp only [settings?, Option.bind_eq_bind, Option.bind_eq_some_iff] at h
  obtain ⟨_, -, _, -, _, -, _, -, _, -, _, -, _, -, _, -, h⟩ := h
  cases h
  simp [Settings.IsClean, Settings.cleaned]

theorem load_withDatabase {d : Database} {row : SettingsRow} (h : d.settings = some row) :
    (withDatabase d).load = row.settings?.elim (.error .readSettings) .ok := by
  obtain ⟨settings, history⟩ := d
  cases h
  rfl

/-- A store that was made ready has a row of settings. -/
theorem exists_row_of_init {store store' : Store} (h : store.init = .ok store') :
    ∃ d row, store' = withDatabase d ∧ d.settings = some row := by
  unfold init at h
  split at h
  · cases h
    exact ⟨_, _, rfl, rfl⟩
  · cases h
  · cases h
  · cases h
  · rename_i d hplace
    cases h
    cases hd : d.settings with
    | none => exact ⟨_, .fresh, rfl, by simp⟩
    | some row => exact ⟨_, row, rfl, by simp⟩

end Store

/-- The store has a row of settings, and it reads as the settings, cleaned. -/
def Records.Backed (r : Records) : Prop :=
  ∃ d row, r.store = .withDatabase d ∧ d.settings = some row ∧
    row.settings? = some r.settings.cleaned

namespace Records

variable {r : Records}

theorem Backed.load (h : r.Backed) : r.store.load = .ok r.settings.cleaned := by
  obtain ⟨d, row, hs, hrow, hread⟩ := h
  rw [hs, Store.load_withDatabase hrow, hread, Option.elim_some]

/-- Whatever is written down, the store goes on to read as the settings. -/
theorem Backed.put (h : r.Backed) {x : Entry} (hx : x ≠ .loss) : (r.put x).Backed := by
  obtain ⟨⟨settings, history⟩, row, hs, rfl, hread⟩ := h
  cases x with
  | loss => exact absurd rfl hx
  | change c =>
    refine ⟨⟨some (.ofSettings (c.apply r.settings)), history⟩, _, ?_, rfl,
      Store.SettingsRow.settings?_ofSettings _⟩
    rw [Records.put, hs]
    rfl
  | switch s =>
    refine ⟨⟨some row, .ofRecord (.ofEvent r.switches s) :: history⟩, row, ?_, rfl, hread⟩
    rw [Records.put, hs]
    rfl

end Records

/-- The engine starts from the store that was made ready, with the settings in it. -/
theorem Engine.exists_of_start {store : Store} {config : Config} {now : Int64} {e : Engine}
    (h : Engine.start store config now = .ok e) :
    store.init = .ok e.store ∧ e.store.load = .ok e.settings := by
  unfold Engine.start at h
  cases hi : store.init with
  | error f => simp [hi, bind, Except.bind] at h
  | ok store' =>
    cases hl : store'.load with
    | error f => simp [hi, hl, bind, Except.bind] at h
    | ok settings =>
      simp only [hi, hl, bind, Except.bind, pure, Except.pure, Except.ok.injEq] at h
      subst h
      exact ⟨rfl, hl⟩

theorem Engine.backed_of_start {store : Store} {config : Config} {now : Int64} {e : Engine}
    (h : Engine.start store config now = .ok e) : e.records.Backed := by
  obtain ⟨hinit, hload⟩ := exists_of_start h
  obtain ⟨d, row, hs, hrow⟩ := Store.exists_row_of_init hinit
  rw [hs, Store.load_withDatabase hrow] at hload
  cases hread : row.settings? with
  | none => simp [hread] at hload
  | some settings =>
    simp only [hread, Option.elim_some, Except.ok.injEq] at hload
    subst hload
    have hclean := Store.SettingsRow.isClean_of_settings? hread
    exact ⟨d, row, hs, hrow, hread.trans (congrArg some hclean.symm)⟩

/-- The settings that the engine starts with are clean. -/
theorem Engine.isClean_of_start {store : Store} {config : Config} {now : Int64} {e : Engine}
    (h : Engine.start store config now = .ok e) : e.settings.IsClean := by
  have hload := (backed_of_start h).load
  rw [show e.records.store = e.store from rfl, (exists_of_start h).2, Except.ok.injEq] at hload
  exact hload.symm

/-- From such a store the engine starts, with the settings cleaned. -/
theorem Records.Backed.exists_start {r : Records} (h : r.Backed) (config : Config) (now : Int64) :
    ∃ e, Engine.start r.store config now = .ok e ∧ e.settings = r.settings.cleaned := by
  have hload := h.load
  obtain ⟨⟨settings, history⟩, row, hs, rfl, hread⟩ := h
  have hinit : r.store.init = .ok r.store := by
    rw [hs]
    rfl
  refine ⟨{ store := r.store, config := config.normalized, settings := r.settings.cleaned,
            now := now, banner := .ofDelay config.normalized.bannerDelay }, ?_, rfl⟩
  simp only [Engine.start, hinit, hload, bind, Except.bind, pure, Except.pure]

/-! ## What makes settings unclean -/

/-- The event brings no text into the settings that a store would not give back: a version that the
backend reports is not blank and has no white space at its ends, and neither have the texts of
settings that are put in place as a whole. -/
def Event.IsClean (ev : Event) : Prop :=
  (∀ v, ev.version? = some v → Text.filled v = some v) ∧
    ∀ s, ev = .act (.putSettings s) → s.IsClean

/-- The change keeps clean settings clean. -/
def SettingsChange.IsClean : SettingsChange → Prop
  | all s => s.IsClean
  | hookVersion version => Text.filled version = some version
  | remembered _ name => Text.filled name = some name
  | _ => True

theorem SettingsChange.isClean_apply {c : SettingsChange} (hc : c.IsClean) {s : Settings}
    (hs : s.IsClean) : (c.apply s).IsClean := by
  rw [Settings.isClean_iff] at hs ⊢
  obtain ⟨hv, hm⟩ := hs
  cases c with
  | all t => exact Settings.isClean_iff.1 hc
  | hookVersion version =>
    rw [SettingsChange.IsClean] at hc
    simp only [apply, Text.filled?_some]
    exact ⟨hc, hm⟩
  | remembered m name =>
    rw [SettingsChange.IsClean] at hc
    simp only [apply]
    refine ⟨hv, fun m' => ?_⟩
    by_cases hmm : m' = m
    · subst hmm
      rw [ByMode.get_set_self, Text.filled?_some]
      exact hc
    · rw [ByMode.get_set_of_ne _ _ hmm]
      exact hm m'
  | _ => exact ⟨hv, hm⟩

/-- The entry, if it is one of the settings, keeps clean settings clean. -/
def Entry.IsClean (x : Entry) : Prop := ∀ c, x = .change c → c.IsClean

theorem Entry.isClean_of_mem_profile {x : Entry} {m : Mode} {name : Option String}
    (hx : x ∈ Entry.profile m name) : x.IsClean := by
  obtain ⟨n, hn, rfl⟩ := Entry.mem_profile.1 hx
  obtain ⟨raw, -, hraw⟩ := Text.filled?_eq_some_iff.1 hn
  rintro c hc
  cases hc
  exact Text.filled_of_filled hraw

theorem Entry.isClean_of_mem_version {x : Entry} {version : Option String}
    (hv : ∀ v, version = some v → Text.filled v = some v) (hx : x ∈ Entry.version version) :
    x.IsClean := by
  obtain ⟨v, hver, rfl⟩ := Entry.mem_version.1 hx
  rintro c hc
  cases hc
  exact hv v hver

/-- No other entry is one of the settings. -/
theorem Switched.isClean_of_mem_entries {x : Entry} {s : Switched}
    {r : Except Failure (Option String)} (hx : x ∈ s.entries r) : x.IsClean := by
  obtain ⟨line, -, rfl⟩ := Switched.mem_entries.1 hx
  rintro c hc
  cases hc

theorem Switch.isClean_of_mem_entries {x : Entry} {s : Switch} {r : Reply s.call}
    (hx : x ∈ s.entries r) : x.IsClean := by
  unfold entries at hx
  split at hx
  · exact Entry.isClean_of_mem_profile hx
  · cases hx

theorem HookInstall.isClean_of_mem_entries {x : Entry} {h : HookInstall} {r : Reply h.call} {id : Nat}
    (hv : ∀ v, (Event.reply id h.call r).version? = some v → Text.filled v = some v)
    (hx : x ∈ h.entries r) : x.IsClean := by
  cases h with
  | installing => cases hx
  | reading message => exact Entry.isClean_of_mem_version hv hx

theorem AutoSwitch.isClean_of_mem_entries {a : AutoSwitch} {cancelled : Bool} {r : Reply a.call}
    {x : Entry} (hx : x ∈ a.entries cancelled r) : x.IsClean := by
  cases a with
  | ticking m =>
    simp only [entries] at hx
    split at hx
    · unfold AutoSwitchReport.entries at hx
      split at hx
      · exact Entry.isClean_of_mem_profile hx
      · cases hx
    · cases hx
  | acting s p =>
    simp only [entries] at hx
    split at hx
    · cases hx
    · exact Switched.isClean_of_mem_entries hx
  | calibrating s name => exact Switched.isClean_of_mem_entries hx

theorem HookWatch.isClean_of_mem_entries {e : Engine} {cancelled : Bool} {h : HookWatch}
    {r : Reply h.call} {x : Entry} {id : Nat}
    (hv : ∀ v, (Event.reply id h.call r).version? = some v → Text.filled v = some v)
    (hcurrent : ∀ v, h.current? = some v → Text.filled v = some v)
    (hx : x ∈ h.entries e cancelled r) : x.IsClean := by
  cases h with
  | checking => cases hx
  | installing previous current => cases hx
  | reading =>
    simp only [entries] at hx
    split at hx
    · cases hx
    · exact Entry.isClean_of_mem_version hv hx
  | rereading previous current message =>
    refine Entry.isClean_of_mem_version (fun v hnew => ?_) hx
    cases hr : HookInstall.version? r with
    | none =>
      rw [hr, Option.getD_none] at hnew
      exact hcurrent v hnew
    | some v' =>
      rw [hr, Option.getD_some] at hnew
      exact hv v (hr.trans hnew)

theorem Action.isClean_of_mem_entries {a : Action} {x : Entry}
    (ha : (Event.act a).IsClean) (hx : x ∈ a.entries) : x.IsClean := by
  cases a with
  | remember m name => exact Entry.isClean_of_mem_profile hx
  | putSettings s =>
    rw [entries, List.mem_singleton] at hx
    subst hx
    rintro _ ⟨⟩
    exact ha.2 s rfl
  | setMode | setStrategy | setRefreshOnStartup | setKeepalive | loseStore =>
    rw [entries, List.mem_singleton] at hx
    subst hx
    rintro _ ⟨⟩ <;> trivial
  | _ => cases hx

theorem Request.isClean_of_mem_entries {r : Request} {x : Entry} (hx : x ∈ r.entries) :
    x.IsClean := by
  cases r with
  | setMode | setAutoSwitch =>
    rw [entries, List.mem_singleton] at hx
    subst hx
    rintro _ ⟨⟩
    trivial
  | _ => cases hx

namespace Session

variable {w : Session}

/-- **A clean event writes down clean entries.** -/
theorem isClean_of_mem_entries {ev : Event} (hev : ev.IsClean)
    (hcurrent : ∀ id s h v, w.workOf? id = some (.hookWatch s h) → h.current? = some v →
      Text.filled v = some v) {x : Entry} (hx : x ∈ w.entries ev) : x.IsClean := by
  cases ha : w.answered? ev with
  | none =>
    cases ev with
    | act a => exact a.isClean_of_mem_entries hev hx
    | ask r => exact r.isClean_of_mem_entries hx
    | _ =>
      simp only [entries, ha] at hx
      cases hx
  | some a =>
    obtain ⟨k, r⟩ := a
    rw [entries_of_answered ha] at hx
    have hwork := workOf?_of_answered ha
    cases k with
    | switch s => exact Switch.isClean_of_mem_entries hx
    | hookInstall h =>
      have hreply := reply_of_answered ha rfl
      rw [hreply] at hev
      exact h.isClean_of_mem_entries hev.1 hx
    | autoSwitch s a => exact a.isClean_of_mem_entries hx
    | hookWatch s h =>
      have hreply := reply_of_answered ha (by cases h <;> rfl)
      rw [hreply] at hev
      exact h.isClean_of_mem_entries hev.1 (hcurrent _ s h · hwork) hx
    | _ => cases hx

/-! ## Whole runs -/

section Runs

variable {e : Engine} {events : List Event}

/-- **The store reads as the settings, cleaned**, as long as it is not lost. -/
theorem backed_run (h₀ : e.records.Backed) (hl : ∀ ev ∈ events, ev ≠ .act .loseStore) :
    ((ofEngine e).run events).engine.records.Backed := by
  refine records_run h₀ fun before ev after hs r x hx hr => hr.put ?_
  rintro rfl
  have hev : ev ∈ events := by simp [hs]
  exact hl ev hev (eq_loseStore_of_loss_mem hx)

/-- **Clean settings stay clean** as long as the backend reports clean versions. -/
theorem isClean_run (h₀ : e.settings.IsClean) (hc : ∀ ev ∈ events, ev.IsClean) :
    ((ofEngine e).run events).engine.settings.IsClean := by
  have hput : ∀ before ev after, events = before ++ ev :: after → ∀ r : Records,
      ∀ x ∈ ((ofEngine e).run before).entries ev, r.settings.IsClean →
        (r.put x).settings.IsClean := by
    intro before ev after hs r x hx hr
    have hbefore : ∀ ev ∈ before, ev.IsClean := fun ev hev => hc ev (by simp [hs, hev])
    have hreported (id : Nat) (s : Shift) (h : HookWatch) (v : String)
        (hk : ((ofEngine e).run before).workOf? id = some (.hookWatch s h))
        (hv : h.current? = some v) : Text.filled v = some v :=
      holds_of_reports (fun ev hev => (hbefore ev hev).1) hk hv
    have hclean := isClean_of_mem_entries (hc ev (by simp [hs])) hreported hx
    cases x with
    | change c => exact SettingsChange.isClean_apply (hclean c rfl) hr
    | switch | loss => exact hr
  exact records_run (P := fun r => r.settings.IsClean) h₀ hput

end Runs

/-- **The settings across a restart.** Let the engine start from any store, and anything happen but
the loss of the store. Then the store reads as the settings, cleaned, and the engine can start from
it anew with these. They are the same settings exactly if these are clean, and they are if all
versions that the backend reports are. -/
theorem settings_after_restart {store : Store} {config : Config} {now : Int64} {e : Engine}
    (hs : Engine.start store config now = .ok e) {events : List Event}
    (hl : ∀ ev ∈ events, ev ≠ .act .loseStore) :
    let w := (ofEngine e).run events
    w.engine.store.load = .ok w.engine.settings.cleaned ∧
      (∀ config now, ∃ e', Engine.start w.engine.store config now = .ok e' ∧
        e'.settings = w.engine.settings.cleaned) ∧
      (w.engine.store.load = .ok w.engine.settings ↔ w.engine.settings.IsClean) ∧
      ((∀ ev ∈ events, ev.IsClean) → w.engine.settings.IsClean) := by
  intro w
  have hb : w.engine.records.Backed := backed_run (Engine.backed_of_start hs) hl
  have hload : w.engine.store.load = .ok w.engine.settings.cleaned := hb.load
  refine ⟨hload, hb.exists_start, ?_, isClean_run (Engine.isClean_of_start hs)⟩
  rw [hload, Except.ok.injEq]
  exact Iff.rfl

/-- **A version that is not the same after a restart.** The hook is installed, and the backend reports
the version 26.1.0 with a blank at either end. With the settings that are noted then, a run of the
hook watch that is told this version has nothing to do; with those that the engine starts with anew,
it installs the hook. -/
theorem version_lost_in_restart :
    let report : Event := .reply 0 .getExtensionInfo (.ok { currentVersion := some " 26.1.0 " })
    let install : List Event :=
      [.ask .installHook, .reply 0 .installHook (.ok "installed"), report]
    let watched : List Event :=
      [.ask (.job (.manual 0) .hookWatch), .reply 0 .isHookInstalled (.ok true)]
    ∃ e, Engine.start {} {} 0 = .ok e ∧ (∀ ev ∈ install, ev ≠ .act .loseStore) ∧
      let w := (ofEngine e).run install
      w.engine.settings.hookVersion = some " 26.1.0 " ∧
        w.engine.store.load = .ok w.engine.settings.cleaned ∧
        w.engine.settings.cleaned.hookVersion = some "26.1.0" ∧
        w.engine.store.load ≠ .ok w.engine.settings ∧
        ((ofEngine w.engine).run watched).begun? report = none ∧
        ∃ e', Engine.start w.engine.store {} 0 = .ok e' ∧
          ((ofEngine e').run watched).begun? report =
            some (.hookWatch ⟨.manual, .manual 0⟩ (.installing "26.1.0" " 26.1.0 ")) := by
  intro report install watched
  have hs : Engine.start {} {} 0 = .ok _ := rfl
  have hl : ∀ ev ∈ install, ev ≠ .act .loseStore := by simp [install, report]
  refine ⟨_, hs, hl, ?_⟩
  intro w
  obtain ⟨hload, -, hsame, -⟩ := settings_after_restart hs hl
  have hunclean : ¬ w.engine.settings.cleaned = w.engine.settings := by decide +kernel
  have hagain : ((Engine.start w.engine.store {} 0).toOption.bind fun e' =>
      ((ofEngine e').run watched).begun? report) =
        some (.hookWatch ⟨.manual, .manual 0⟩ (.installing "26.1.0" " 26.1.0 ")) := by
    decide +kernel
  refine ⟨by decide +kernel, hload, by decide +kernel, fun h => hunclean (hsame.1 h),
    by decide +kernel, ?_⟩
  cases hstart : Engine.start w.engine.store {} 0 with
  | error f =>
    rw [hstart] at hagain
    cases hagain
  | ok e' =>
    rw [hstart] at hagain
    exact ⟨e', rfl, hagain⟩

end Session

end Switchboard
