import Switchboard.Proofs.GateHolders
import Switchboard.Proofs.Records
import Switchboard.Proofs.SingleFlight

/-!
# The version that the hook was seen with

The hook watch compares the version in use with the one that is noted in the settings, and installs
the hook anew when they differ.

* `Session.exists_wentOn` — a run is where it is because of the reply before; so the version that it is
  about has been reported (`Session.holds_of_reports`).
* `Session.settled_step` — once the hook is installed for a version, and nothing else is reported,
  every run finds that version noted, or the one that is about to note it is still under way.
* `Session.Warranted`, `Session.Sighted`, `Session.Reinstalled` — when the hook may be installed, and
  when a version may be noted.
* `Session.hook_watch_sound` — so the hook is installed for a version that differs from the one noted,
  and once for each version.
-/

set_option autoImplicit false

namespace Switchboard

/-- The version that a run of the hook watch is about, once it is installing the hook. -/
def HookWatch.current? : HookWatch → Option String
  | .checking | .reading => none
  | .installing _ current | .rereading _ current _ => some current

/-- A run of the hook watch has begun to install the hook. -/
def HookWatch.isInstalling (h : HookWatch) : Bool := h.current?.isSome

/-- The version in a reply of the backend, if the event brings one. -/
def Event.version? : Event → Option String
  | .reply _ .getExtensionInfo r => HookInstall.version? r
  | _ => none

theorem Event.version?_eq_some_iff {ev : Event} {v : String} :
    ev.version? = some v ↔ ∃ id r, ev = .reply id .getExtensionInfo r ∧
      HookInstall.version? r = some v := by
  constructor
  · intro h
    unfold version? at h
    split at h
    · rename_i id r
      exact ⟨id, r, rfl, h⟩
    · cases h
  · rintro ⟨id, r, rfl, h⟩
    exact h

/-- The busy gate is held from the installation on. -/
theorem HookWatch.holds_stake (h : HookWatch) : h.stake.holds = h.isInstalling := by
  cases h <;> rfl

namespace Session

variable {w : Session}

/-! ## What a run of the hook watch has done so far -/

section Runs

variable {e : Engine} {events : List Event} {id : Nat} {s : Shift}

/-- **How a run of the hook watch has come to where it is**: past its first question, it has gone on
with the reply to the call before, and waited since. -/
theorem exists_wentOn {h : HookWatch}
    (hk : ((ofEngine e).run events).workOf? id = some (.hookWatch s h)) (hne : h ≠ .checking) :
    ∃ (h₀ : HookWatch) (r : Reply h₀.call) (earlier between : List Event),
      events = earlier ++ .reply id h₀.call r :: between ∧
        ((ofEngine e).run earlier).workOf? id = some (.hookWatch s h₀) ∧
        h₀.GoesOn ((ofEngine e).run earlier).engine (((ofEngine e).run earlier).isCancelled s.scope)
          r h ∧
        ∀ done, done <+: between →
          ((ofEngine e).run (earlier ++ .reply id h₀.call r :: done)).workOf? id =
            some (.hookWatch s h) := by
  obtain ⟨earlier, begins, between, hs, rfl, hb, hd⟩ := exists_begun hk
  rcases watching_of_begun hb with hopen | ⟨h₀, r, ha, hgo⟩
  · exact absurd hopen hne
  have hreply : begins = .reply (((ofEngine e).run earlier).subject begins) h₀.call r :=
    reply_of_answered ha (by cases h₀ <;> rfl)
  refine ⟨h₀, r, earlier, between, ?_⟩
  rw [← hreply]
  exact ⟨hs, workOf?_of_answered ha, hgo, hd⟩

/-- A run that has asked for the version has found the hook installed. -/
theorem exists_found (hk : ((ofEngine e).run events).workOf? id = some (.hookWatch s .reading)) :
    ∃ earlier between, events = earlier ++ .reply id .isHookInstalled (.ok true) :: between ∧
      ((ofEngine e).run earlier).workOf? id = some (.hookWatch s .checking) ∧
      ∀ done, done <+: between →
        ((ofEngine e).run (earlier ++ .reply id .isHookInstalled (.ok true) :: done)).workOf? id =
          some (.hookWatch s .reading) := by
  obtain ⟨h₀, r, earlier, between, hs, hwork, hgo, hd⟩ := exists_wentOn hk nofun
  cases hgo with
  | found hc => exact ⟨earlier, between, hs, hwork, hd⟩

/-- A run that asks for the version once more has installed the hook. -/
theorem exists_installed {previous current message : String}
    (hk : ((ofEngine e).run events).workOf? id =
      some (.hookWatch s (.rereading previous current message))) :
    ∃ earlier between, events = earlier ++ .reply id .installHook (.ok message) :: between ∧
      ((ofEngine e).run earlier).workOf? id = some (.hookWatch s (.installing previous current)) ∧
      ∀ done, done <+: between →
        ((ofEngine e).run (earlier ++ .reply id .installHook (.ok message) :: done)).workOf? id =
          some (.hookWatch s (.rereading previous current message)) := by
  obtain ⟨h₀, r, earlier, between, hs, hwork, hgo, hd⟩ := exists_wentOn hk nofun
  cases hgo with
  | installed => exact ⟨earlier, between, hs, hwork, hd⟩

/-- **The version that a run is about has been reported**, so that what is true of every version that
is reported is true of it. -/
theorem holds_of_reports {Q : String → Prop}
    (hQ : ∀ ev ∈ events, ∀ v, ev.version? = some v → Q v) {h : HookWatch}
    (hk : ((ofEngine e).run events).workOf? id = some (.hookWatch s h)) {v : String}
    (hv : h.current? = some v) : Q v := by
  have installing {events : List Event} (hQ : ∀ ev ∈ events, ∀ v, ev.version? = some v → Q v)
      {previous current : String} (hk : ((ofEngine e).run events).workOf? id =
        some (.hookWatch s (.installing previous current))) : Q current := by
    obtain ⟨h₀, r, earlier, between, rfl, -, hgo, -⟩ := exists_wentOn hk nofun
    cases hgo with
    | outdated hc hinfo hp hne hg =>
      exact hQ _ (List.mem_append_right _ List.mem_cons_self) current hinfo
  cases h with
  | checking | reading => cases hv
  | installing previous current =>
    cases hv
    exact installing hQ hk
  | rereading previous current message =>
    cases hv
    obtain ⟨earlier, between, rfl, hinstalling, -⟩ := exists_installed hk
    exact installing (fun ev hev => hQ ev (List.mem_append_left _ hev)) hinstalling

end Runs

/-! ## What is noted -/

/-- The version that the hook was last seen with, as the settings have it. -/
def noted (w : Session) : Option String := w.engine.settings.hookVersion

/-- Once the hook is installed, the version that is reported then is noted, or the one that the run
is about. -/
theorem noted_step_of_reread (hw : w.Numbered) {ev : Event} {s : Shift}
    {previous current message : String}
    {r : Reply (Work.hookWatch s (.rereading previous current message)).call}
    (ha : w.answered? ev = some ⟨.hookWatch s (.rereading previous current message), r⟩) :
    (w.step ev).noted = some (ev.version?.getD current) := by
  have hreply := reply_of_answered ha rfl
  rw [noted, settings_step hw, entries_of_answered ha, hreply]
  rfl

/-- A run that is told the version notes it if none is noted, unless it was called off. -/
theorem noted_step_of_read (hw : w.Numbered) {ev : Event} {s : Shift}
    {r : Reply (Work.hookWatch s .reading).call}
    (ha : w.answered? ev = some ⟨.hookWatch s .reading, r⟩) :
    (w.step ev).noted = if w.isCancelled s.scope then w.noted else w.noted.or ev.version? := by
  have hreply := reply_of_answered ha rfl
  have hversion : ev.version? = HookInstall.version? r := by
    rw [hreply]
    rfl
  rw [hversion, noted, settings_step hw, entries_of_answered ha]
  simp only [replyEntries, HookWatch.entries, noted]
  cases hc : w.isCancelled s.scope with
  | true => rfl
  | false =>
    cases hn : w.engine.settings.hookVersion with
    | some previous => exact hn
    | none =>
      cases HookInstall.version? r with
      | none => exact hn
      | some v => rfl

/-- A run of the hook watch notes a version at first sight, or after it has installed the hook. -/
theorem noted_step_of_watch (hw : w.Numbered) {ev : Event} {s : Shift} {h : HookWatch}
    {r : Reply h.call} (ha : w.answered? ev = some ⟨.hookWatch s h, r⟩)
    (hchange : (w.step ev).noted ≠ w.noted) :
    (h = .reading ∧ w.isCancelled s.scope = false ∧ w.noted = none ∧
        ∃ v, ev.version? = some v) ∨
      ∃ previous current message, h = .rereading previous current message := by
  have hsettings := settings_step hw ev
  rw [entries_of_answered ha] at hsettings
  cases h with
  | checking => exact absurd (congrArg Settings.hookVersion hsettings) hchange
  | installing previous current => exact absurd (congrArg Settings.hookVersion hsettings) hchange
  | rereading previous current message => exact .inr ⟨previous, current, message, rfl⟩
  | reading =>
    rw [noted_step_of_read hw ha] at hchange
    cases hc : w.isCancelled s.scope with
    | true => simp [hc] at hchange
    | false =>
      cases hn : w.noted with
      | some previous => simp [hc, hn] at hchange
      | none =>
        cases hv : ev.version? with
        | none => simp [hc, hn, hv] at hchange
        | some v => exact .inl ⟨rfl, rfl, rfl, v, rfl⟩

/-- The hook watch of a crew is all that changes the version that is noted. -/
def OnlyWatch (c : CrewId) (e : Engine) (events : List Event) : Prop :=
  ∀ before ev after, events = before ++ ev :: after →
    ((ofEngine e).run (before ++ [ev])).noted ≠ ((ofEngine e).run before).noted →
      ∃ (s : Shift) (h : HookWatch) (r : Reply h.call), s.crew = c ∧
        ((ofEngine e).run before).answered? ev = some ⟨.hookWatch s h, r⟩

/-! ## Once the hook is installed -/

/-- The hook watch of a crew is not about to install the hook, and the version is noted or about to
be noted. -/
structure Settled (c : CrewId) (v : String) (w : Session) : Prop where
  noInstall : ∀ id s previous current,
    w.workOf? id = some (.hookWatch s (.installing previous current)) → s.crew ≠ c
  noted : w.noted = some v ∨ ∃ id s previous message, s.crew = c ∧
    w.workOf? id = some (.hookWatch s (.rereading previous v message))

theorem flightOf?_of_watch {id : Nat} {s : Shift} {h : HookWatch}
    (hk : w.workOf? id = some (.hookWatch s h)) : w.flightOf? id = some (s.crew, .hookWatch) := by
  rw [flightOf?, hk]
  rfl

/-- The runs of the hook watch that have come to an installation are about this version. -/
def OnlyAbout (w : Session) (v : String) : Prop :=
  ∀ id s h current, w.workOf? id = some (.hookWatch s h) → h.current? = some current → current = v

/-- **A settled hook watch stays settled** as long as nothing but this version is reported: to install
the hook again, a run would have to find another version noted. -/
theorem settled_step {c : CrewId} {v : String} {holder : Option Nat} (hw : w.Numbered)
    (hm : w.Manned (c, .hookWatch) holder) (habout : w.OnlyAbout v) {ev : Event}
    (hv : ∀ v', ev.version? = some v' → v' = v)
    (honly : (w.step ev).noted ≠ w.noted → ∃ (s : Shift) (h : HookWatch) (r : Reply h.call),
      s.crew = c ∧ w.answered? ev = some ⟨.hookWatch s h, r⟩)
    (h : w.Settled c v) : (w.step ev).Settled c v := by
  have rereads {s : Shift} {previous current message : String}
      {r : Reply (Work.hookWatch s (.rereading previous current message)).call}
      (ha : w.answered? ev = some ⟨.hookWatch s (.rereading previous current message), r⟩) :
      (w.step ev).noted = some v := by
    rw [noted_step_of_reread hw ha, habout _ _ _ current (workOf?_of_answered ha) rfl]
    cases hver : ev.version? with
    | none => rfl
    | some v' => rw [Option.getD_some, hv v' hver]
  constructor
  · intro id s previous current hk hcrew
    rcases workOf?_step_cases hw hk with hk | ⟨rfl, hb⟩
    · exact h.noInstall id s previous current hk hcrew
    rcases watching_of_begun hb with hopen | ⟨h₀, r, ha, hgo⟩
    · cases hopen
    have hwork := workOf?_of_answered ha
    have hreply := reply_of_answered ha rfl
    cases hgo with
    | outdated hc hinfo hp hne hg =>
      rcases h.noted with hn | ⟨id, s', _, _, hcrew', hk'⟩
      · have hcurrent : current = v := hv current (by rw [hreply]; exact hinfo)
        have hprevious : some previous = some v := hp.symm.trans hn
        exact hne ((Option.some.inj hprevious).trans hcurrent.symm)
      · -- The run that is about to note the version keeps every other run off.
        have hi := flightOf?_of_watch hwork
        have hj := flightOf?_of_watch hk'
        rw [hcrew] at hi
        rw [hcrew'] at hj
        rw [hm.eq_of_flightOf? hi hj] at hwork
        cases hwork.symm.trans hk'
  · rcases h.noted with hn | ⟨id, s, previous, message, hcrew, hk⟩
    · left
      by_cases hsame : (w.step ev).noted = w.noted
      · exact hsame.trans hn
      obtain ⟨s, h₀, r, -, ha⟩ := honly hsame
      rcases noted_step_of_watch hw ha hsame with ⟨-, -, hnone, -⟩ | ⟨_, _, _, rfl⟩
      · rw [hn] at hnone
        cases hnone
      · exact rereads ha
    · rcases workOf?_step_or_answered hw hk ev with hk' | ⟨-, r, ha⟩
      · exact .inr ⟨id, s, previous, message, hcrew, hk'⟩
      · exact .inl (rereads ha)

/-- The hook watch of a crew has just installed the hook. -/
def Installs (c : CrewId) (w : Session) (ev : Event) : Prop :=
  ∃ id s previous current message, s.crew = c ∧ ev = .reply id .installHook (.ok message) ∧
    w.workOf? id = some (.hookWatch s (.installing previous current))

/-- The hook watch is settled as soon as it has installed the hook. -/
theorem settled_of_installs {c : CrewId} {v : String} {holder : Option Nat}
    (hm : w.Manned (c, .hookWatch) holder) (habout : w.OnlyAbout v) {ev : Event}
    (h : w.Installs c ev) : (w.step ev).Settled c v := by
  obtain ⟨id, s, previous, current, message, hcrew, rfl, hk⟩ := h
  obtain rfl := habout id s _ current hk rfl
  have ha : w.answered? (.reply id .installHook (.ok message)) =
      some ⟨.hookWatch s (.installing previous current), .ok message⟩ :=
    answered?_reply hk (.ok message)
  have hstep := workOf?_step_of_advance (advance?_of_answered ha)
  have hown : (w.step (.reply id .installHook (.ok message))).workOf? id =
      some (.hookWatch s (.rereading previous current message)) := (hstep id).trans (if_pos rfl)
  refine ⟨fun j s' _ _ hk' hcrew' => ?_, .inr ⟨id, s, previous, message, hcrew, hown⟩⟩
  by_cases hj : j = id
  · subst hj
    cases hown.symm.trans hk'
  · -- The other run would have been under way beside this one.
    have hbefore : w.workOf? j = some _ := ((hstep j).trans (if_neg hj)).symm.trans hk'
    have hi := flightOf?_of_watch hk
    have hi' := flightOf?_of_watch hbefore
    rw [hcrew] at hi
    rw [hcrew'] at hi'
    exact hj (hm.eq_of_flightOf? hi' hi)

/-! ## The busy gate -/

/-- The task is on a run of the hook watch that has begun to install the hook. -/
def isInstalling (w : Session) (id : Nat) : Bool :=
  (w.workOf? id).any fun
    | .hookWatch _ h => h.isInstalling
    | _ => false

theorem isInstalling_of_workOf? {id : Nat} {s : Shift} {h : HookWatch}
    (hk : w.workOf? id = some (.hookWatch s h)) : w.isInstalling id = h.isInstalling := by
  rw [isInstalling, hk]
  rfl

/-- A task that is on no other work holds the busy gate exactly while it installs the hook. -/
theorem holds_stakeOf {id : Nat} (hk : ∀ k, w.workOf? id = some k → ∃ s h, k = .hookWatch s h) :
    (w.stakeOf id).holds = w.isInstalling id := by
  cases hw : w.workOf? id with
  | none =>
    rw [stakeOf_of_workOf?_eq_none hw, isInstalling, hw]
    rfl
  | some k =>
    obtain ⟨s, h, rfl⟩ := hk k hw
    rw [stakeOf_of_workOf? hw, isInstalling_of_workOf? hw]
    exact h.holds_stake

/-! ## Whole runs -/

section Runs

variable {e : Engine} {c : CrewId} {v : String}

theorem OnlyWatch.of_append {events more : List Event} (h : OnlyWatch c e (events ++ more)) :
    OnlyWatch c e events := by
  intro before ev after hs
  refine h before ev (after ++ more) ?_
  rw [hs, List.append_assoc, List.cons_append]

theorem onlyAbout_run {events : List Event}
    (hv : ∀ ev ∈ events, ∀ v', ev.version? = some v' → v' = v) :
    ((ofEngine e).run events).OnlyAbout v :=
  fun _ _ _ _ hk hc => holds_of_reports hv hk hc

/-- A settled hook watch stays settled for the rest of the run. -/
theorem settled_run {before after : List Event} (honly : OnlyWatch c e (before ++ after))
    (hv : ∀ ev ∈ before ++ after, ∀ v', ev.version? = some v' → v' = v)
    (h : ((ofEngine e).run before).Settled c v) :
    ((ofEngine e).run (before ++ after)).Settled c v := by
  induction after using List.reverseRecOn with
  | nil =>
    rw [List.append_nil]
    exact h
  | append_singleton after ev ih =>
    rw [← List.append_assoc] at honly hv
    have hv' : ∀ ev ∈ before ++ after, ∀ v', ev.version? = some v' → v' = v :=
      fun ev hev => hv ev (List.mem_append_left _ hev)
    have hsettled := ih honly.of_append hv'
    have hchange := honly (before ++ after) ev [] rfl
    obtain ⟨holder, hm⟩ := manned_run e (before ++ after) (c, .hookWatch)
    rw [run_concat] at hchange
    rw [← List.append_assoc, run_concat]
    exact settled_step ((numbered_ofEngine e).run _) hm (onlyAbout_run hv')
      (hv ev (List.mem_append_right _ List.mem_cons_self)) hchange hsettled

/-- **The hook is installed once for a version.** -/
theorem not_installs_again {before between after : List Event} {ev ev' : Event}
    (honly : OnlyWatch c e (before ++ ev :: (between ++ ev' :: after)))
    (hv : ∀ ev'' ∈ before ++ ev :: (between ++ ev' :: after), ∀ v', ev''.version? = some v' → v' = v)
    (h : ((ofEngine e).run before).Installs c ev) :
    ¬ ((ofEngine e).run (before ++ ev :: between)).Installs c ev' := by
  rintro ⟨id, s, previous, current, message, hcrew, -, hk⟩
  have hsplit : before ++ ev :: (between ++ ev' :: after) =
      ((before ++ [ev]) ++ between) ++ ev' :: after := by simp
  rw [hsplit] at honly hv
  obtain ⟨holder, hm⟩ := manned_run e before (c, .hookWatch)
  have habout : ((ofEngine e).run before).OnlyAbout v :=
    onlyAbout_run fun x hx => hv x (by simp [hx])
  have hfirst : ((ofEngine e).run (before ++ [ev])).Settled c v := by
    rw [run_concat]
    exact settled_of_installs hm habout h
  have hlater := settled_run honly.of_append (fun x hx => hv x (List.mem_append_left _ hx)) hfirst
  rw [List.append_assoc, List.singleton_append] at hlater
  exact hlater.noInstall id s previous current hk hcrew

end Runs

/-- A run of the hook watch has good reason to install the hook for the version `current` in place of
`previous`: it has found the hook installed, and has asked for the version since; the version that is
reported now is another one than the one noted; the run has not been called off; and the gates are
open. -/
structure Warranted (e : Engine) (before : List Event) (ev : Event) (s : Shift)
    (previous current : String) : Prop where
  found : ∃ id earlier between info, ev = .reply id .getExtensionInfo (.ok info) ∧
    before = earlier ++ .reply id .isHookInstalled (.ok true) :: between ∧
    ((ofEngine e).run earlier).workOf? id = some (.hookWatch s .checking) ∧
    ∀ done, done <+: between →
      ((ofEngine e).run (earlier ++ .reply id .isHookInstalled (.ok true) :: done)).workOf? id =
        some (.hookWatch s .reading)
  reported : ev.version? = some current
  noted : ((ofEngine e).run before).noted = some previous
  ne : previous ≠ current
  active : ((ofEngine e).run before).isCancelled s.scope = false
  opened : ((ofEngine e).run before).engine.isGated = false

/-- A run of the hook watch sees the version `v` of a hook for which none is noted. -/
def Sighted (c : CrewId) (w : Session) (ev : Event) (v : String) : Prop :=
  ∃ s, s.crew = c ∧ w.workOf? (w.subject ev) = some (.hookWatch s .reading) ∧
    w.isCancelled s.scope = false ∧ w.noted = none ∧ ev.version? = some v

/-- A run of the hook watch has installed the hook, and takes `v` to be its version: the one that is
reported now, or the one that it has found out before. -/
def Reinstalled (e : Engine) (c : CrewId) (before : List Event) (ev : Event) (v : String) : Prop :=
  ∃ (s : Shift) (id : Nat) (previous current message : String) (earlier between : List Event)
      (r : Reply .getExtensionInfo),
    s.crew = c ∧ ev = .reply id .getExtensionInfo r ∧
      before = earlier ++ .reply id .installHook (.ok message) :: between ∧
      ((ofEngine e).run earlier).workOf? id = some (.hookWatch s (.installing previous current)) ∧
      (∀ done, done <+: between →
        ((ofEngine e).run (earlier ++ .reply id .installHook (.ok message) :: done)).workOf? id =
          some (.hookWatch s (.rereading previous current message))) ∧
      v = (HookInstall.version? r).getD current

section Runs

variable {e : Engine} {c : CrewId} {before : List Event} {ev : Event} {s : Shift}

/-- **The hook watch installs the hook exactly if that is warranted.** -/
theorem begins_installing_iff {previous current : String} :
    ((ofEngine e).run before).begun? ev = some (.hookWatch s (.installing previous current)) ↔
      Warranted e before ev s previous current := by
  constructor
  · intro hb
    rcases watching_of_begun hb with hopen | ⟨h₀, r, ha, hgo⟩
    · cases hopen
    have hwork := workOf?_of_answered ha
    have hreply := reply_of_answered ha rfl
    cases hgo with
    | outdated hc hinfo hp hne hg =>
      obtain ⟨earlier, between, hs, hchecking, hd⟩ := exists_found hwork
      have hversion : ev.version? = some current := by
        rw [hreply]
        exact hinfo
      exact ⟨⟨_, earlier, between, _, hreply, hs, hchecking, hd⟩, hversion, hp, hne, hc, hg⟩
  · intro h
    obtain ⟨id, earlier, between, info, rfl, hs, -, hd⟩ := h.found
    have hwork := hd between List.prefix_rfl
    rw [← hs] at hwork
    have ha := answered?_reply hwork (.ok info)
    have hv : info.currentVersion = some current := h.reported
    have hp : ((ofEngine e).run before).engine.settings.hookVersion = some previous := h.noted
    refine (begun?_of_answered ha).trans ?_
    simp only [resume, resumeHookWatch]
    rw [waiting?_carryOn]
    simp [HookWatch.resume, HookWatch.afterReading, HookInstall.version?, HookWatch.compare, hv, hp,
      h.ne, h.active, h.opened, Progress.waiting?]

/-- **What is noted after an event**, when nobody but the hook watch notes versions. -/
theorem noted_step_iff (honly : OnlyWatch c e (before ++ [ev])) :
    (∀ v, ((ofEngine e).run before).Sighted c ev v ∨ Reinstalled e c before ev v →
        ((ofEngine e).run (before ++ [ev])).noted = some v) ∧
      ((∀ v, ¬ (((ofEngine e).run before).Sighted c ev v ∨ Reinstalled e c before ev v)) →
        ((ofEngine e).run (before ++ [ev])).noted = ((ofEngine e).run before).noted) := by
  have hw := (numbered_ofEngine e).run before
  rw [run_concat]
  refine ⟨fun v h => ?_, fun h => ?_⟩
  · rcases h with ⟨s, -, hk, hc, hn, hv⟩ | ⟨s, id, _, _, _, earlier, between, r, -, rfl, hs, -, hd, rfl⟩
    · obtain ⟨id, r, rfl, -⟩ := Event.version?_eq_some_iff.1 hv
      refine (noted_step_of_read hw (answered?_reply hk r)).trans ?_
      rw [hc, hn, if_neg Bool.false_ne_true]
      exact hv
    · have hk := hd between List.prefix_rfl
      rw [← hs] at hk
      exact noted_step_of_reread hw (answered?_reply hk r)
  · by_contra hchange
    have hex := honly before ev [] rfl
    rw [run_concat] at hex
    obtain ⟨s, h₀, r, hcrew, ha⟩ := hex hchange
    have hwork := workOf?_of_answered ha
    have hreply := reply_of_answered ha rfl
    rcases noted_step_of_watch hw ha hchange with ⟨rfl, hc, hn, v, hv⟩ | ⟨_, _, _, rfl⟩
    · exact h v (.inl ⟨s, hcrew, hwork, hc, hn, hv⟩)
    · obtain ⟨earlier, between, hs, hinstalling, hd⟩ := exists_installed hwork
      exact h _ (.inr ⟨s, _, _, _, _, earlier, between, r, hcrew, hreply, hs, hinstalling, hd, rfl⟩)

/-- **The busy gate is held exactly while a run of the hook watch installs the hook**: with each reply
it is taken if the run begins to install, and given back if the run ends then. -/
theorem holders_step_of_watch (hcount : CallersKeepCount before) {h : HookWatch}
    {r : Reply h.call} (ha : ((ofEngine e).run before).answered? ev = some ⟨.hookWatch s h, r⟩) :
    ((ofEngine e).run (before ++ [ev])).engine.busy.holders +
        (((ofEngine e).run before).isInstalling (((ofEngine e).run before).subject ev)).toNat =
      ((ofEngine e).run before).engine.busy.holders +
        (((ofEngine e).run (before ++ [ev])).isInstalling
          (((ofEngine e).run before).subject ev)).toNat := by
  have hw := (numbered_ofEngine e).run before
  have hadv := advance?_of_answered ha
  have hbalanced := balanced_run (e := e) hcount
  have hle := hcount before List.prefix_rfl
  have hbusy := (handover_step hw hadv).busy (hbalanced.le_holders (by omega) _)
  have hbefore : ∀ k, ((ofEngine e).run before).workOf?
      (((ofEngine e).run before).subject ev) = some k → ∃ s h, k = .hookWatch s h := by
    intro k hk
    exact ⟨s, h, Option.some.inj (hk.symm.trans (workOf?_of_answered ha))⟩
  have hafter : ∀ k, (((ofEngine e).run before).step ev).workOf?
      (((ofEngine e).run before).subject ev) = some k → ∃ s h, k = .hookWatch s h := by
    intro k hk
    rcases workOf?_step_cases hw hk with hk | ⟨-, hb⟩
    · exact hbefore k hk
    rw [begun?_of_answered ha] at hb
    simp only [resume, resumeHookWatch] at hb
    rw [waiting?_carryOn, Option.map_eq_some_iff] at hb
    obtain ⟨h', -, rfl⟩ := hb
    exact ⟨s, h', rfl⟩
  rw [holds_stakeOf hbefore, holds_stakeOf hafter] at hbusy
  rw [run_concat]
  exact hbusy

theorem isBusy_of_isInstalling (hcount : CallersKeepCount before) {id : Nat}
    (h : ((ofEngine e).run before).isInstalling id) :
    ((ofEngine e).run before).engine.busy.isBusy := by
  unfold isInstalling at h
  cases hk : ((ofEngine e).run before).workOf? id with
  | none =>
    rw [hk] at h
    cases h
  | some k =>
    rw [hk] at h
    cases k with
    | hookWatch s h' => exact isBusy_of_holds hcount hk (h'.holds_stake.trans h)
    | _ => cases h

end Runs

/-- An installation that fails changes no setting, and is the end of its run. -/
theorem failed_install (hw : w.Numbered) {id : Nat} {s : Shift} {previous current : String}
    (hk : w.workOf? id = some (.hookWatch s (.installing previous current))) (f : Failure) :
    (w.step (.reply id .installHook (.error f))).engine.settings = w.engine.settings ∧
      (w.step (.reply id .installHook (.error f))).workOf? id = none := by
  have ha : w.answered? (.reply id .installHook (.error f)) =
      some ⟨.hookWatch s (.installing previous current), .error f⟩ :=
    answered?_reply hk (.error f)
  refine ⟨?_, ?_⟩
  · rw [settings_step hw, entries_of_answered ha]
    rfl
  · obtain ⟨o, ho⟩ : ∃ o, (w.resume (.hookWatch s (.installing previous current)) (.error f)).2 =
        .done o := ⟨_, rfl⟩
    exact (ended_of_done ha ho).2

/-- **The hook watch notes versions soundly and does not go round in circles.** In every run in which
nobody else changes the version that is noted, and callers give back no hold of the busy gate that
they have not taken, for the runs of the hook watch by one crew:
* a run begins to install the hook exactly if that is warranted;
* a version is noted exactly at first sight and once the hook is installed, and stays otherwise;
* an installation that fails changes no setting, and is the end of its run;
* a run takes the busy gate as it begins to install, gives it back as it ends, and holds it in
  between, and no other call of a run changes the number of holders;
* while all versions that are reported are the same, the hook is installed once at most. -/
theorem hook_watch_sound {e : Engine} {c : CrewId} {events : List Event}
    (honly : OnlyWatch c e events) (hcount : CallersKeepCount events) :
    (∀ before ev after s previous current, events = before ++ ev :: after →
        (((ofEngine e).run before).begun? ev = some (.hookWatch s (.installing previous current)) ↔
          Warranted e before ev s previous current)) ∧
      (∀ before ev after, events = before ++ ev :: after →
        (∀ v, ((ofEngine e).run before).Sighted c ev v ∨ Reinstalled e c before ev v →
          ((ofEngine e).run (before ++ [ev])).noted = some v) ∧
        ((∀ v, ¬ (((ofEngine e).run before).Sighted c ev v ∨ Reinstalled e c before ev v)) →
          ((ofEngine e).run (before ++ [ev])).noted = ((ofEngine e).run before).noted)) ∧
      (∀ before id f after s previous current,
        events = before ++ .reply id .installHook (.error f) :: after →
        ((ofEngine e).run before).workOf? id = some (.hookWatch s (.installing previous current)) →
          ((ofEngine e).run (before ++ [.reply id .installHook (.error f)])).engine.settings =
              ((ofEngine e).run before).engine.settings ∧
            ((ofEngine e).run (before ++ [.reply id .installHook (.error f)])).workOf? id = none) ∧
      ((∀ before ev after s, events = before ++ ev :: after →
          ((ofEngine e).run before).begun? ev = some (.hookWatch s .checking) →
            ((ofEngine e).run (before ++ [ev])).engine.busy = ((ofEngine e).run before).engine.busy) ∧
        (∀ before ev after id s (h : HookWatch) (r : Reply h.call), events = before ++ ev :: after →
          ((ofEngine e).run before).answered? ev = some ⟨.hookWatch s h, r⟩ →
            ((ofEngine e).run before).subject ev = id →
            ((ofEngine e).run (before ++ [ev])).engine.busy.holders +
                (((ofEngine e).run before).isInstalling id).toNat =
              ((ofEngine e).run before).engine.busy.holders +
                (((ofEngine e).run (before ++ [ev])).isInstalling id).toNat) ∧
        ∀ before, before <+: events → ∀ id, ((ofEngine e).run before).isInstalling id →
          ((ofEngine e).run before).engine.busy.isBusy) ∧
      ∀ v, (∀ ev ∈ events, ∀ v', ev.version? = some v' → v' = v) →
        ∀ before ev between ev' after, events = before ++ ev :: (between ++ ev' :: after) →
          ((ofEngine e).run before).Installs c ev →
            ¬ ((ofEngine e).run (before ++ ev :: between)).Installs c ev' := by
  refine ⟨?_, ?_, ?_, ⟨?_, ?_, ?_⟩, ?_⟩
  · rintro before ev after s previous current -
    exact begins_installing_iff
  · rintro before ev after rfl
    rw [List.append_cons] at honly
    exact noted_step_iff honly.of_append
  · rintro before id f after s previous current - hk
    rw [run_concat]
    exact failed_install ((numbered_ofEngine e).run before) hk f
  · rintro before ev after s - hb
    rw [run_concat, engine_step_of_opening (j := .hookWatch) hb]
  · rintro before ev after id s h r rfl ha rfl
    exact holders_step_of_watch hcount.of_append ha
  · rintro before ⟨after, rfl⟩ id hinst
    exact isBusy_of_isInstalling hcount.of_append hinst
  · rintro v hv before ev between ev' after rfl
    exact not_installs_again honly hv

/-- **The hook is installed for a new version.** A run led by hand finds version 2 where version 1 is
noted. It installs the hook with the busy gate held, notes version 2, and gives the gate back. -/
theorem hook_installed_for_new_version :
    let e : Engine := { Engine.blank with settings := { hookVersion := some "1" } }
    let report : Event := .reply 0 .getExtensionInfo (.ok { currentVersion := some "2" })
    let events : List Event :=
      [.ask (.job (.manual 0) .hookWatch), .reply 0 .isHookInstalled (.ok true), report,
        .reply 0 .installHook (.ok "installed"), report]
    OnlyWatch .manual e events ∧ CallersKeepCount events ∧
      Warranted e (events.take 2) report ⟨.manual, .manual 0⟩ "1" "2" ∧
      ((ofEngine e).run (events.take 4)).isInstalling 0 ∧
      ((ofEngine e).run (events.take 4)).engine.busy.isBusy ∧
      ((ofEngine e).run events).engine.busy.isBusy = false ∧
      Reinstalled e .manual (events.take 4) report "2" ∧
      ((ofEngine e).run events).noted = some "2" := by
  intro e report events
  have hreread : ((ofEngine e).run (events.take 4)).workOf? 0 =
      some (.hookWatch ⟨.manual, .manual 0⟩ (.rereading "1" "2" "installed")) := by
    decide +kernel
  have hlast : ∀ i ev, events[i]? = some ev →
      ((ofEngine e).run (events.take i ++ [ev])).noted = ((ofEngine e).run (events.take i)).noted ∨
        i = 4 ∧ ev = report := by
    intro i ev hi
    match i, hi with
    | 0, hi | 1, hi | 2, hi | 3, hi =>
      cases hi
      exact .inl (by decide +kernel)
    | 4, hi =>
      cases hi
      exact .inr ⟨rfl, rfl⟩
    | _ + 5, hi => cases hi
  have honly : OnlyWatch .manual e events := by
    intro before ev after hs hchange
    have hi : events[before.length]? = some ev := by simp [hs]
    have htake : events.take before.length = before := by simp [hs]
    rcases hlast before.length ev hi with hsame | ⟨hlen, rfl⟩
    · rw [htake] at hsame
      exact absurd hsame hchange
    · rw [← htake, hlen]
      exact ⟨_, _, _, rfl, answered?_reply hreread (.ok { currentVersion := some "2" })⟩
  have hcount : CallersKeepCount events := by
    have h : ∀ done ∈ events.inits,
        done.countP (·.givesBack) ≤ done.countP (·.takesHold) := by
      decide
    exact fun done hd => h done ((List.mem_inits _ _).2 hd)
  have hinst : ((ofEngine e).run (events.take 4)).isInstalling 0 := by decide +kernel
  obtain ⟨hbegins, hnoted, -, ⟨-, -, hbusy⟩, -⟩ := hook_watch_sound honly hcount
  have hwarranted := (hbegins (events.take 2) report (events.drop 3) ⟨.manual, .manual 0⟩ "1" "2"
    rfl).1 (by decide +kernel)
  obtain ⟨earlier, between, hs, hinstalling, hd⟩ := exists_installed hreread
  have hnew : Reinstalled e .manual (events.take 4) report "2" :=
    ⟨_, 0, _, _, _, earlier, between, _, rfl, rfl, hs, hinstalling, hd, rfl⟩
  exact ⟨honly, hcount, hwarranted, hinst, hbusy _ (List.take_prefix 4 events) 0 hinst,
    by decide +kernel, hnew, (hnoted (events.take 4) report [] rfl).1 "2" (.inr hnew)⟩

end Session

end Switchboard
