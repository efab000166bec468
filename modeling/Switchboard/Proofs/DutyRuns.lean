import Switchboard.Proofs.Surface

/-!
# Runs of duties

Work is of one kind until it is done, so that it belongs to a run of a duty exactly if a run has
begun it: what callers ask for otherwise, and what goes on from that, never turns into a run.

* `Session.runBegun_of_begun` — a run that waits for a reply has just begun, or it is a run of
  automatic switching or of the hook watch that goes on.
* `AutoSwitch.GoesOn`, `HookWatch.GoesOn` — the three ways in which each of these goes on.
* `Session.engine_step_of_opening` — to begin a run does nothing to the engine.
-/

set_option autoImplicit false

namespace Switchboard

/-! ## How a run goes on -/

/-- How a run of automatic switching goes on when a reply has come. -/
inductive AutoSwitch.GoesOn (e : Engine) (cancelled : Bool) :
    (a : AutoSwitch) → Reply a.call → AutoSwitch → Prop where
  /-- The backend has switched in GPT mode: the action after a switch asks for the hook. -/
  | acts {r : AutoSwitchReport} (hc : cancelled = false) (hr : r.switched) :
    GoesOn e cancelled (.ticking .gpt) (.ok r) (.acting (switchedOf e .gpt r) .checking)
  /-- The backend has switched in OpenCode mode, to a profile with a name. -/
  | calibrates {r : AutoSwitchReport} {name : String} (hc : cancelled = false) (hr : r.switched)
      (hn : Text.filled? r.switchedTo = some name) :
    GoesOn e cancelled (.ticking .openCode) (.ok r)
      (.calibrating (switchedOf e .openCode r) name)
  /-- The hook is there, so that the action runs. -/
  | found (s : Switched) : GoesOn e cancelled (.acting s .checking) (.ok true)
      (.acting s (.acting .hook))

theorem AutoSwitch.goesOn_of_waiting {e : Engine} {cancelled : Bool} {a a' : AutoSwitch}
    {r : Reply a.call} (hw : (a.resume e cancelled r).2.waiting? = some a') :
    GoesOn e cancelled a r a' := by
  cases a with
  | ticking mode =>
    simp only [resume, afterTick] at hw
    split at hw
    · cases hw
    · cases hw
    · rename_i r
      simp only [takeReport] at hw
      split at hw
      · rename_i hr
        unfold pursue at hw
        cases mode with
        | gpt =>
          cases hw
          exact .acts rfl hr
        | openCode =>
          simp only [switchedOf] at hw
          split at hw
          · rename_i hm
            cases hm
          · rename_i name _ hn
            cases hw
            exact .calibrates rfl hr hn
          · cases hw
      · split at hw <;> cases hw
  | acting s p =>
    cases p with
    | checking =>
      cases r with
      | error f => cases hw
      | ok installed =>
        cases installed with
        | false => cases hw
        | true =>
          cases hw
          exact .found s
    | acting t => cases hw
  | calibrating s name => cases hw

/-- How a run of the hook watch goes on when a reply has come. -/
inductive HookWatch.GoesOn (e : Engine) (cancelled : Bool) :
    (h : HookWatch) → Reply h.call → HookWatch → Prop where
  /-- The hook is installed, so that its version matters. -/
  | found (hc : cancelled = false) : GoesOn e cancelled .checking (.ok true) .reading
  /-- Another version is in use than the one noted. -/
  | outdated {info : ExtensionInfo} {previous current : String} (hc : cancelled = false)
      (hv : info.currentVersion = some current) (hp : e.settings.hookVersion = some previous)
      (hne : previous ≠ current) (hg : e.isGated = false) :
    GoesOn e cancelled .reading (.ok info) (.installing previous current)
  /-- The hook has been installed. -/
  | installed (previous current message : String) :
    GoesOn e cancelled (.installing previous current) (.ok message)
      (.rereading previous current message)

theorem HookWatch.goesOn_of_waiting {e : Engine} {cancelled : Bool} {h h' : HookWatch}
    {r : Reply h.call} (hw : (h.resume e cancelled r).2.waiting? = some h') :
    GoesOn e cancelled h r h' := by
  cases h with
  | checking =>
    simp only [resume] at hw
    split at hw
    · cases hw
      exact .found rfl
    · cases hw
  | reading =>
    cases r with
    | error f => cases hw
    | ok info =>
      simp only [resume, afterReading, HookInstall.version?] at hw
      split at hw
      · cases hw
      · cases hw
      · rename_i current hv
        unfold compare at hw
        split at hw
        · cases hw
        · rename_i previous hp
          split at hw
          · cases hw
          · rename_i hne
            split at hw
            · cases hw
            · rename_i hg
              cases hw
              exact .outdated rfl hv hp hne (by simpa using hg)
  | installing previous current =>
    cases r with
    | error f => cases hw
    | ok message =>
      cases hw
      exact .installed previous current message
  | rereading previous current message => cases hw

namespace Session

variable {w : Session}

/-! ## How a run waits for a reply -/

/-- How an event makes a run of a duty wait for a reply. -/
inductive RunBegun (w : Session) (ev : Event) : Work → Prop where
  /-- A run begins. -/
  | opens (s : Shift) (j : Job) (hb : barrier? w.engine j = none)
      (hf : ((w.crew s.crew).flights.get j.duty).running = false) :
    RunBegun w ev (j.opening w.engine s)
  /-- A run of automatic switching goes on. -/
  | switching {s : Shift} {a a' : AutoSwitch} {r : Reply a.call}
      (ha : w.answered? ev = some ⟨.autoSwitch s a, r⟩)
      (hw : (a.resume w.engine (w.isCancelled s.scope) r).2.waiting? = some a') :
    RunBegun w ev (.autoSwitch s a')
  /-- A run of the hook watch goes on. -/
  | watching {s : Shift} {h h' : HookWatch} {r : Reply h.call}
      (ha : w.answered? ev = some ⟨.hookWatch s h, r⟩)
      (hw : (h.resume w.engine (w.isCancelled s.scope) r).2.waiting? = some h') :
    RunBegun w ev (.hookWatch s h')

/-- **A run that waits for a reply** has just begun, or it is one of automatic switching or of the
hook watch that goes on. -/
theorem runBegun_of_begun {ev : Event} {k : Work} (hb : w.begun? ev = some k)
    (hk : k.shift?.isSome) : w.RunBegun ev k := by
  obtain ⟨r, hr, hwait⟩ := Option.bind_eq_some_iff.1 hb
  have contradiction (hno : k.shift? = none) : w.RunBegun ev k := by
    rw [hno] at hk
    cases hk
  have opens {s : Shift} {j : Job} (h : (w.beginJob s j).2.waiting? = some k) :
      w.RunBegun ev k := by
    obtain ⟨hbar, hfl, rfl⟩ := waiting_beginJob h
    exact .opens s j hbar hfl
  cases stretch_of_advance hr with
  | start q hq =>
    by_cases hjob : ∃ scope j, q = .job scope j
    · obtain ⟨scope, j, rfl⟩ := hjob
      obtain ⟨hbar, hfl, rfl⟩ := waiting_beginJob hwait
      exact .opens ⟨.manual, scope⟩ j hbar hfl
    · exact contradiction (shift?_start (fun scope j h => hjob ⟨scope, j, h⟩) hwait)
  | job s j hf => exact opens hwait
  | flush crew hf => exact contradiction (shift?_embedFlush hwait)
  | sync hf =>
    cases hwait
    exact contradiction rfl
  | @resume k' reply ha =>
    cases hs : k'.shift? with
    | none => exact contradiction ((shift?_resume hwait).trans hs)
    | some s =>
      cases k' with
      | autoSwitch s' a =>
        simp only [resume, resumeAutoSwitch] at hwait
        rw [waiting?_carryOn, Option.map_eq_some_iff] at hwait
        obtain ⟨a', hwait, rfl⟩ := hwait
        exact .switching ha hwait
      | hookWatch s' h =>
        simp only [resume, resumeHookWatch] at hwait
        rw [waiting?_carryOn, Option.map_eq_some_iff] at hwait
        obtain ⟨h', hwait, rfl⟩ := hwait
        exact .watching ha hwait
      | poll | recover | keepalive => cases hwait
      | _ => cases hs

/-- How automatic switching begins a call: a run begins with its question, or it goes on. -/
theorem switching_of_begun {ev : Event} {s : Shift} {a : AutoSwitch}
    (hb : w.begun? ev = some (.autoSwitch s a)) :
    a = .begin w.engine ∨ ∃ (a₀ : AutoSwitch) (r : Reply a₀.call),
      w.answered? ev = some ⟨.autoSwitch s a₀, r⟩ ∧
        a₀.GoesOn w.engine (w.isCancelled s.scope) r a := by
  generalize hk : Work.autoSwitch s a = k at hb
  cases runBegun_of_begun hb (by rw [← hk]; rfl) with
  | opens s' j hbar hf =>
    cases j with
    | autoSwitch =>
      cases hk
      exact .inl rfl
    | _ => cases hk
  | @switching s' a₀ a' r ha hw =>
    cases hk
    exact .inr ⟨a₀, r, ha, AutoSwitch.goesOn_of_waiting hw⟩
  | watching ha hw => cases hk

/-- How the hook watch begins a call: a run begins with its question, or it goes on. -/
theorem watching_of_begun {ev : Event} {s : Shift} {h : HookWatch}
    (hb : w.begun? ev = some (.hookWatch s h)) :
    h = .checking ∨ ∃ (h₀ : HookWatch) (r : Reply h₀.call),
      w.answered? ev = some ⟨.hookWatch s h₀, r⟩ ∧
        h₀.GoesOn w.engine (w.isCancelled s.scope) r h := by
  generalize hk : Work.hookWatch s h = k at hb
  cases runBegun_of_begun hb (by rw [← hk]; rfl) with
  | opens s' j hbar hf =>
    cases j with
    | hookWatch =>
      cases hk
      exact .inl rfl
    | _ => cases hk
  | switching ha hw => cases hk
  | @watching s' h₀ h' r ha hw =>
    cases hk
    exact .inr ⟨h₀, r, ha, HookWatch.goesOn_of_waiting hw⟩

theorem shift?_opening (e : Engine) (s : Shift) (j : Job) : (j.opening e s).shift? = some s := by
  cases j <;> rfl

/-- A run that goes on does not begin anew. -/
theorem waiting?_resume_ne_opening (k : Work) (r : Reply k.call) (e : Engine) (s : Shift) (j : Job) :
    (w.resume k r).2.waiting? ≠ some (j.opening e s) := by
  intro h
  cases hs : k.shift? with
  | none =>
    have hno := (shift?_resume h).trans hs
    rw [shift?_opening] at hno
    cases hno
  | some s' =>
    cases k with
    | autoSwitch s' a =>
      simp only [resume, resumeAutoSwitch] at h
      rw [waiting?_carryOn, Option.map_eq_some_iff] at h
      obtain ⟨a', hw, ha'⟩ := h
      cases j with
      | autoSwitch =>
        cases ha'
        cases AutoSwitch.goesOn_of_waiting hw
      | _ => cases ha'
    | hookWatch s' h' =>
      simp only [resume, resumeHookWatch] at h
      rw [waiting?_carryOn, Option.map_eq_some_iff] at h
      obtain ⟨h'', hw, hh⟩ := h
      cases j with
      | hookWatch =>
        cases hh
        cases HookWatch.goesOn_of_waiting hw
      | _ => cases hh
    | poll | recover | keepalive => cases h
    | _ => cases hs

/-- **To begin a run does nothing to the engine.** -/
theorem engine_step_of_opening {ev : Event} {s : Shift} {j : Job}
    (hb : w.begun? ev = some (j.opening w.engine s)) : (w.step ev).engine = w.engine := by
  obtain ⟨r, hr, hwait⟩ := Option.bind_eq_some_iff.1 hb
  obtain ⟨errand, hs⟩ : ∃ errand, w.step ev = r.1.conclude (w.subject ev) errand r.2 :=
    step_of_advance hr
  have contradiction (hno : (j.opening w.engine s).shift? = none) :
      (w.step ev).engine = w.engine := by
    rw [shift?_opening] at hno
    cases hno
  cases stretch_of_advance hr with
  | resume ha => exact absurd hwait (waiting?_resume_ne_opening _ _ _ _ _)
  | start q hq =>
    by_cases hjob : ∃ scope i, q = .job scope i
    · obtain ⟨scope, i, rfl⟩ := hjob
      rw [hs, engine_conclude]
      exact engine_beginJob (w.spawn .request) ⟨.manual, scope⟩ i
    · exact contradiction (shift?_start (fun scope i h => hjob ⟨scope, i, h⟩) hwait)
  | job s' i hf =>
    rw [hs, engine_conclude]
    exact engine_beginJob w s' i
  | flush crew hf => exact contradiction (shift?_embedFlush hwait)
  | sync hf => cases j <;> cases hwait

end Session

end Switchboard
