import Switchboard.Proofs.Errands
import Switchboard.Proofs.Footing
import Switchboard.Proofs.ModelWrites
import Switchboard.Proofs.Records

/-!
# The profile that a mode remembers

For each mode the settings have the profile used last. A switch that was asked for puts it there once
the backend has applied the profile, and automatic switching once the backend reports that it has
switched; both do so for the mode in which they asked, whatever the mode is by then.

* `Session.adoption?` — the profile that an event brings into use, with its mode.
* `Session.remembered_step` — that is all that becomes of the remembered profiles in a step.
* `Session.adoption?_eq_some_iff` — the two ways in which a profile comes into use (`Session.Adopts`).
* `Session.remembered_since_adoption` — so a mode remembers the profile that came into use last, and
  what follows on a switch takes nothing back.
-/

set_option autoImplicit false

namespace Switchboard

/-- A caller writes a remembered profile itself, without any switch. -/
def Event.putsProfile : Event → Bool
  | .act (.remember _ _) | .act (.putSettings _) => true
  | _ => false

/-- The profile that comes into use with a thing that is written down. -/
def Entry.adoption? : Entry → Option (Mode × String)
  | .change (.remembered m name) => some (m, name)
  | _ => none

/-- The remembered profiles once another one is in use. -/
def ByMode.adopt (v : ByMode (Option String)) (x : Mode × String) : ByMode (Option String) :=
  v.set x.1 (some x.2)

theorem ByMode.get_adopt (v : ByMode (Option String)) (x : Mode × String) (m : Mode) :
    (v.adopt x).get m = if x.1 = m then some x.2 else v.get m := by
  split
  · rename_i h
    rw [← h]
    exact v.get_set_self x.1 _
  · rename_i h
    exact v.get_set_of_ne _ (Ne.symm h)

/-- Unless the settings are replaced as a whole, the profiles that come into use are remembered, one
after the other. -/
theorem Records.remembered_putAll {entries : List Entry} (h : ∀ s, .change (.all s) ∉ entries)
    (r : Records) :
    (r.putAll entries).settings.remembered =
      (entries.filterMap Entry.adoption?).foldl ByMode.adopt r.settings.remembered := by
  induction entries generalizing r with
  | nil => rfl
  | cons x entries ih =>
    rw [putAll_cons, ih fun s hs => h s (List.mem_cons_of_mem x hs)]
    cases x with
    | switch | loss => rfl
    | change c =>
      cases c with
      | all s => exact absurd List.mem_cons_self (h s)
      | _ => rfl

/-! ## Who brings a profile into use -/

/-- The profile that the first part of a switch brings into use, whatever comes of the second. -/
def Switch.adoption? : (s : Switch) → Reply s.call → Option (Mode × String)
  | .applying target m _, .ok _ => (Text.filled target).map (m, ·)
  | _, _ => none

/-- The profile that a reported switch brings into use, unless switching was called off. -/
def AutoSwitch.adoption? (cancelled : Bool) : (a : AutoSwitch) → Reply a.call → Option (Mode × String)
  | .ticking m, .ok r =>
    if cancelled || !AutoSwitchReport.switched r then none
    else (Text.filled? (AutoSwitchReport.switchedTo r)).map (m, ·)
  | _, _ => none

theorem Entry.adoptions_profile (m : Mode) (name : Option String) :
    (Entry.profile m name).filterMap Entry.adoption? = ((Text.filled? name).map (m, ·)).toList := by
  unfold Entry.profile
  cases Text.filled? name <;> rfl

theorem Entry.adoptions_version (version : Option String) :
    (Entry.version version).filterMap Entry.adoption? = [] := by
  cases version <;> rfl

theorem Switched.adoptions_entries (s : Switched) (r : Except Failure (Option String)) :
    (s.entries r).filterMap Entry.adoption? = [] := by
  unfold Switched.entries
  cases s.line? r <;> rfl

theorem Switch.adoptions_entries (s : Switch) (reply : Reply s.call) :
    (s.entries reply).filterMap Entry.adoption? = (s.adoption? reply).toList := by
  cases s with
  | calibrating => rfl
  | applying target m label =>
    cases reply with
    | error f => rfl
    | ok snapshot =>
      have hprofile := Entry.adoptions_profile m (some target)
      rw [Text.filled?_some] at hprofile
      exact hprofile

theorem AutoSwitch.adoptions_entries (a : AutoSwitch) (cancelled : Bool) (reply : Reply a.call) :
    (a.entries cancelled reply).filterMap Entry.adoption? =
      (a.adoption? cancelled reply).toList := by
  cases a with
  | acting s p =>
    simp only [entries]
    split
    · rfl
    · exact s.adoptions_entries _
  | calibrating s name => exact s.adoptions_entries _
  | ticking m =>
    cases cancelled with
    | true => cases reply <;> rfl
    | false =>
      cases reply with
      | error f => rfl
      | ok r =>
        simp only [entries, adoption?, AutoSwitchReport.entries, Bool.false_or]
        cases AutoSwitchReport.switched r with
        | false => rfl
        | true => exact Entry.adoptions_profile m _

namespace Session

/-- The profile that a reply brings into use, with its mode. -/
def replyAdoption? (w : Session) : (k : Work) → Reply k.call → Option (Mode × String)
  | .switch s, reply => s.adoption? reply
  | .autoSwitch s a, reply => a.adoption? (w.isCancelled s.scope) reply
  | _, _ => none

/-- The profile that an event brings into use, with its mode. -/
def adoption? (w : Session) (ev : Event) : Option (Mode × String) :=
  (w.answered? ev).bind fun a => w.replyAdoption? a.1 a.2

variable {w : Session}

theorem adoption?_of_answered {ev : Event} {k : Work} {r : Reply k.call}
    (ha : w.answered? ev = some ⟨k, r⟩) : w.adoption? ev = w.replyAdoption? k r := by
  rw [adoption?, ha]
  rfl

theorem adoptions_replyEntries (w : Session) (k : Work) (r : Reply k.call) :
    (w.replyEntries k r).filterMap Entry.adoption? = (w.replyAdoption? k r).toList := by
  cases k with
  | switch s => exact s.adoptions_entries r
  | autoSwitch s a => exact a.adoptions_entries _ r
  | hookInstall h =>
    cases h with
    | installing => rfl
    | reading message => exact Entry.adoptions_version _
  | hookWatch s h =>
    cases h with
    | checking | installing => rfl
    | reading =>
      simp only [replyEntries, HookWatch.entries]
      split
      · rfl
      · exact Entry.adoptions_version _
    | rereading previous current message =>
      simp only [replyEntries, HookWatch.entries]
      exact Entry.adoptions_version _
  | _ => rfl

/-- What is written down when a caller writes no profile itself: a profile comes into use, or none is
touched. -/
theorem adoptions_entries {ev : Event} (hev : ev.putsProfile = false) :
    (w.entries ev).filterMap Entry.adoption? = (w.adoption? ev).toList := by
  cases ha : w.answered? ev with
  | some a =>
    obtain ⟨k, r⟩ := a
    rw [entries_of_answered ha, adoption?_of_answered ha]
    exact adoptions_replyEntries w k r
  | none =>
    rw [adoption?, ha]
    cases ev with
    | ask q => cases q <;> rfl
    | act a =>
      cases a with
      | remember m name => cases hev
      | putSettings s => cases hev
      | _ => rfl
    | _ =>
      simp only [entries, ha]
      rfl

theorem all_notMem_replyEntries (w : Session) (k : Work) (r : Reply k.call) (s : Settings) :
    .change (.all s) ∉ w.replyEntries k r := by
  intro h
  rcases change_of_mem_replyEntries h with ⟨v, hc⟩ | ⟨m, name, hc⟩ <;> cases hc

theorem all_notMem_entries {ev : Event} (hev : ev.putsProfile = false) (s : Settings) :
    .change (.all s) ∉ w.entries ev := by
  cases ha : w.answered? ev with
  | some a =>
    obtain ⟨k, r⟩ := a
    rw [entries_of_answered ha]
    exact all_notMem_replyEntries w k r s
  | none =>
    cases ev with
    | ask q => cases q <;> simp [entries, Request.entries]
    | act a =>
      cases a with
      | remember m name => cases hev
      | putSettings s => cases hev
      | _ => simp [entries, Action.entries]
    | _ => simp [entries, ha]

/-- **All that becomes of the remembered profiles in a step** is that one comes into use. -/
theorem remembered_step (hw : w.Numbered) {ev : Event} (hev : ev.putsProfile = false) (m : Mode) :
    (w.step ev).engine.remembered m =
      match w.adoption? ev with
      | some x => if x.1 = m then some x.2 else w.engine.remembered m
      | none => w.engine.remembered m := by
  have hall : (w.step ev).engine.settings.remembered =
      (w.adoption? ev).toList.foldl ByMode.adopt w.engine.settings.remembered := by
    rw [settings_step hw, Records.remembered_putAll (all_notMem_entries hev), adoptions_entries hev]
    rfl
  rw [Engine.remembered, hall]
  cases w.adoption? ev with
  | none => rfl
  | some x => exact ByMode.get_adopt _ x m

theorem remembered_step_of_adoption (hw : w.Numbered) {ev : Event} {m : Mode} {name : String}
    (hev : ev.putsProfile = false) (h : w.adoption? ev = some (m, name)) :
    (w.step ev).engine.remembered m = some name := by
  rw [remembered_step hw hev, h]
  exact if_pos rfl

theorem remembered_step_of_none (hw : w.Numbered) {ev : Event} {m : Mode}
    (hev : ev.putsProfile = false) (h : ∀ name, w.adoption? ev ≠ some (m, name)) :
    (w.step ev).engine.remembered m = w.engine.remembered m := by
  rw [remembered_step hw hev]
  split
  · rename_i x hx
    exact if_neg fun hm => h x.2 (by rw [hx, ← hm])
  · rfl

/-! ## How a profile comes into use -/

/-- How an event brings a profile into use in a mode. Either way the task has waited for the reply
since it asked, and this mode was the current one then. -/
inductive Adopts (e : Engine) (before : List Event) : Event → Mode → String → Prop where
  /-- The profile of a switch that was asked for is applied. -/
  | switched {requested : Option String} {target label name : String} {m : Mode} {s : Snapshot}
      {earlier between : List Event} (hs : before = earlier ++ .ask (.switch requested) :: between)
      (hm : ((ofEngine e).run earlier).engine.mode = m)
      (ht : ((ofEngine e).run earlier).engine.target? requested = some target)
      (hd : ∀ done, done <+: between →
        ((ofEngine e).run (earlier ++ .ask (.switch requested) :: done)).workOf?
          ((ofEngine e).run earlier).nextTask = some (.switch (.applying target m label)))
      (hn : Text.filled target = some name) :
      Adopts e before
        (.reply ((ofEngine e).run earlier).nextTask (.applyProfile target m) (.ok s)) m name
  /-- Automatic switching is not called off, and the backend reports that it has switched to a profile
  with a name. -/
  | reported {id : Nat} {name : String} {m : Mode} {s : Shift} {r : AutoSwitchReport} {asks : Event}
      {earlier between : List Event} (hs : before = earlier ++ asks :: between)
      (hid : ((ofEngine e).run earlier).subject asks = id)
      (hm : ((ofEngine e).run earlier).engine.mode = m)
      (hd : ∀ done, done <+: between → ((ofEngine e).run (earlier ++ asks :: done)).workOf? id =
        some (.autoSwitch s (.ticking m)))
      (hc : ((ofEngine e).run before).isCancelled s.scope = false) (hr : r.switched)
      (hn : Text.filled? r.switchedTo = some name) :
      Adopts e before (.reply id (.autoSwitchTick m) (.ok r)) m name

/-- A switch begins with the profile that was asked for, in the current mode. -/
theorem switch_of_begun {ev : Event} {target label : String} {m : Mode}
    (hb : w.begun? ev = some (.switch (.applying target m label))) :
    ∃ requested, ev = .ask (.switch requested) ∧ w.engine.mode = m ∧
      w.engine.target? requested = some target := by
  rcases request_of_begun hb trivial with ⟨q, rfl, hwait⟩ | ⟨k₀, r, -, hkind, hwait⟩
  · have hq := kind_start hwait
    cases q with
    | switch requested =>
      simp only [start] at hwait
      rw [waiting?_embed, Option.map_eq_some_iff] at hwait
      obtain ⟨s, hs, heq⟩ := hwait
      cases heq
      unfold Switch.begin at hs
      split at hs <;> cases hs
      exact ⟨requested, rfl, rfl, ‹_›⟩
    | _ => cases hq
  · -- What goes on is the calibration.
    cases k₀ with
    | switch s =>
      simp only [resume] at hwait
      rw [waiting?_embed, Option.map_eq_some_iff] at hwait
      obtain ⟨s', hs, heq⟩ := hwait
      cases heq
      cases s with
      | calibrating => cases hs
      | applying target' m' label' => cases r <;> cases hs
    | _ => cases hkind

variable {e : Engine}

/-- **The two ways in which a profile comes into use.** -/
theorem adoption?_eq_some_iff {before : List Event} {ev : Event} {m : Mode} {name : String} :
    ((ofEngine e).run before).adoption? ev = some (m, name) ↔ Adopts e before ev m name := by
  constructor
  · intro h
    obtain ⟨⟨k, r⟩, ha, h⟩ := Option.bind_eq_some_iff.1 h
    obtain ⟨earlier, asks, between, rfl, hid, hb, hd⟩ := exists_begun (workOf?_of_answered ha)
    cases k with
    | switch s =>
      cases s with
      | calibrating => cases h
      | applying target m' label =>
        have hreply := reply_of_answered ha rfl
        cases r with
        | error f => cases h
        | ok s =>
          obtain ⟨name', hn, heq⟩ := Option.map_eq_some_iff.1 h
          cases heq
          obtain ⟨requested, rfl, hm, ht⟩ := switch_of_begun hb
          rw [hreply, ← hid]
          rw [← hid] at hd
          exact .switched rfl hm ht hd hn
    | autoSwitch s a =>
      cases a with
      | acting | calibrating => cases h
      | ticking m' =>
        have hreply := reply_of_answered ha rfl
        cases r with
        | error f => cases h
        | ok r =>
          simp only [replyAdoption?, AutoSwitch.adoption?] at h
          split at h
          · cases h
          · rename_i hoff
            rw [Bool.or_eq_true, not_or, Bool.not_eq_true, Bool.not_eq_true', Bool.not_eq_false] at hoff
            obtain ⟨name', hn, heq⟩ := Option.map_eq_some_iff.1 h
            cases heq
            have hm : ((ofEngine e).run earlier).engine.mode = m := by
              rcases switching_of_begun hb with hopen | ⟨a₀, r₀, -, hgo⟩
              · cases hopen
                rfl
              · cases hgo
            rw [hreply]
            exact .reported rfl hid hm hd hoff.1 hoff.2 hn
    | _ => cases h
  · intro h
    cases h with
    | @switched requested target label _ _ s earlier between hs hm ht hd hn =>
      have hk := hd between List.prefix_rfl
      rw [← hs] at hk
      refine (adoption?_of_answered (answered?_reply hk (.ok s))).trans ?_
      exact congrArg (Option.map (m, ·)) hn
    | @reported id _ _ s r asks earlier between hs hid hm hd hc hr hn =>
      have hk := hd between List.prefix_rfl
      rw [← hs] at hk
      refine (adoption?_of_answered (answered?_reply hk (.ok r))).trans ?_
      simp [replyAdoption?, AutoSwitch.adoption?, hc, hr, hn]

/-- A profile comes into use with the reply to a call that was made in its mode. -/
theorem Adopts.call {before : List Event} {ev : Event} {m : Mode} {name : String}
    (h : Adopts e before ev m name) : ∃ id c r, ev = .reply id c r ∧ c.mode? = some m := by
  cases h with
  | switched => exact ⟨_, _, _, rfl, rfl⟩
  | reported => exact ⟨_, _, _, rfl, rfl⟩

end Session

/-- What is done about a switch that the backend has made already. -/
def Work.isFollowUp : Work → Bool
  | switch (.calibrating ..) | autoSwitch _ (.acting ..) | autoSwitch _ (.calibrating ..) => true
  | _ => false

namespace Session

/-- What follows on a switch brings no profile into use. -/
theorem adoption?_of_isFollowUp {w : Session} {ev : Event} {k : Work} {r : Reply k.call}
    (ha : w.answered? ev = some ⟨k, r⟩) (hk : k.isFollowUp) : w.adoption? ev = none := by
  rw [adoption?_of_answered ha]
  cases k with
  | switch s =>
    cases s with
    | applying => cases hk
    | calibrating => rfl
  | autoSwitch s a =>
    cases a with
    | ticking => cases hk
    | acting | calibrating => rfl
  | _ => cases hk

/-- No event of a run brings a profile into use in a mode. -/
def NoAdoption (e : Engine) (before : List Event) (m : Mode) (events : List Event) : Prop :=
  ∀ done ev, done ++ [ev] <+: events → ∀ name, ¬ Adopts e (before ++ done) ev m name

variable {e : Engine} {before events : List Event} {m : Mode} {ev : Event}

theorem noAdoption_nil : NoAdoption e before m [] := by
  intro done ev h
  simp at h

theorem noAdoption_concat (h : NoAdoption e before m events)
    (hev : ∀ name, ¬ Adopts e (before ++ events) ev m name) :
    NoAdoption e before m (events ++ [ev]) := by
  intro done ev' hpre
  rcases List.prefix_concat_iff.1 hpre with heq | hpre
  · obtain ⟨rfl, rfl⟩ : done = events ∧ ev' = ev := by simpa using heq
    exact hev
  · exact h done ev' hpre

/-- What a mode remembers after a run is what it did before, or the profile that came into use last. -/
theorem remembered_run (hev : ∀ ev ∈ events, ev.putsProfile = false) :
    NoAdoption e [] m events ∧
        ((ofEngine e).run events).engine.remembered m = e.remembered m ∨
      ∃ before ev after name, events = before ++ ev :: after ∧ Adopts e before ev m name ∧
        NoAdoption e (before ++ [ev]) m after ∧
        ((ofEngine e).run events).engine.remembered m = some name := by
  induction events using List.reverseRecOn with
  | nil => exact .inl ⟨noAdoption_nil, rfl⟩
  | append_singleton events ev ih =>
    have hw := (numbered_ofEngine e).run events
    have hlast : ev.putsProfile = false := hev ev (List.mem_append_right _ List.mem_cons_self)
    rw [run_concat]
    by_cases hadopts : ∃ name, Adopts e events ev m name
    · obtain ⟨name, hname⟩ := hadopts
      refine .inr ⟨events, ev, [], name, rfl, hname, noAdoption_nil, ?_⟩
      exact remembered_step_of_adoption hw hlast (adoption?_eq_some_iff.2 hname)
    have hno : ∀ name, ¬ Adopts e events ev m name := fun name h => hadopts ⟨name, h⟩
    rw [remembered_step_of_none hw hlast fun name h => hno name (adoption?_eq_some_iff.1 h)]
    rcases ih fun ev' hmem => hev ev' (List.mem_append_left _ hmem) with
      ⟨hbefore, hsame⟩ | ⟨before, adopts, after, name, rfl, hname, hsince, hsame⟩
    · exact .inl ⟨noAdoption_concat hbefore hno, hsame⟩
    · refine .inr ⟨before, adopts, after ++ [ev], name, by simp, hname, ?_, hsame⟩
      exact noAdoption_concat hsince (by simpa using hno)

/-- **What a mode remembers is the profile that came into use last.** In every run in which callers
write no profile themselves: whenever a profile comes into use, its mode remembers it; nothing else
changes what a mode remembers, so that no reply to a call of another mode does, or to a call without
one, and no end of a calibration or of an action after a switch. Hence in the end a mode remembers
what came into use last, or what it did at the start. -/
theorem remembered_since_adoption (hev : ∀ ev ∈ events, ev.putsProfile = false) :
    (∀ before ev, before ++ [ev] <+: events →
      (∀ name, Adopts e before ev m name →
        ((ofEngine e).run (before ++ [ev])).engine.remembered m = some name) ∧
      ((∀ name, ¬ Adopts e before ev m name) →
        ((ofEngine e).run (before ++ [ev])).engine.remembered m =
          ((ofEngine e).run before).engine.remembered m) ∧
      (∀ id c r, ev = .reply id c r → c.mode? ≠ some m → ∀ name, ¬ Adopts e before ev m name) ∧
      (∀ (k : Work) (r : Reply k.call), ((ofEngine e).run before).answered? ev = some ⟨k, r⟩ →
        k.isFollowUp → ∀ name, ¬ Adopts e before ev m name)) ∧
    (NoAdoption e [] m events ∧
        ((ofEngine e).run events).engine.remembered m = e.remembered m ∨
      ∃ before ev after name, events = before ++ ev :: after ∧ Adopts e before ev m name ∧
        NoAdoption e (before ++ [ev]) m after ∧
        ((ofEngine e).run events).engine.remembered m = some name) := by
  refine ⟨fun before ev hpre => ?_, remembered_run hev⟩
  have hw := (numbered_ofEngine e).run before
  have hputs : ev.putsProfile = false :=
    hev ev (hpre.subset (List.mem_append_right _ List.mem_cons_self))
  rw [run_concat]
  refine ⟨fun name h => ?_, fun hno => ?_, ?_, ?_⟩
  · exact remembered_step_of_adoption hw hputs (adoption?_eq_some_iff.2 h)
  · exact remembered_step_of_none hw hputs fun name h => hno name (adoption?_eq_some_iff.1 h)
  · rintro id c r rfl hc name h
    obtain ⟨_, _, _, heq, hmode⟩ := h.call
    cases heq
    exact hc hmode
  · intro k r ha hk name h
    rw [← adoption?_eq_some_iff, adoption?_of_isFollowUp ha hk] at h
    cases h

/-- **A switch that outlives its mode.** The mode is changed while the backend applies the profile, and
the calibration fails then: the profile is remembered for the mode in which it was asked for, and for
no other. -/
theorem remembered_of_former_mode :
    let events : List Event :=
      [.ask (.switch (some " a ")), .ask (.setMode .openCode),
        .reply 0 (.applyProfile "a" .gpt) (.ok {}),
        .reply 0 (.refreshQuota "a" .gpt false) (.error (.reported "down"))]
    (∀ ev ∈ events, ev.putsProfile = false) ∧
      Adopts Engine.blank (events.take 2) events[2] .gpt "a" ∧
      ((ofEngine Engine.blank).run events).engine.mode = .openCode ∧
      ((ofEngine Engine.blank).run events).engine.remembered .gpt = some "a" ∧
      ((ofEngine Engine.blank).run events).engine.remembered .openCode = none := by
  intro events
  have hev : ∀ ev ∈ events, ev.putsProfile = false := by decide
  have hadopts : Adopts Engine.blank (events.take 2) events[2] .gpt "a" :=
    adoption?_eq_some_iff.1 (by decide +kernel)
  obtain ⟨m, hk⟩ : ∃ m, ((ofEngine Engine.blank).run (events.take 3)).workOf? 0 =
      some (.switch (.calibrating "a" .gpt "a" m)) := ⟨_, rfl⟩
  refine ⟨hev, hadopts, by decide +kernel, ?_, by decide +kernel⟩
  obtain ⟨heach, -⟩ := remembered_since_adoption (e := Engine.blank) (m := .gpt) hev
  have happlied := (heach (events.take 2) events[2] (by simp [events])).1 "a" hadopts
  obtain ⟨-, hkeeps, -, hfollows⟩ := heach (events.take 3) events[3] (by simp [events])
  have ha := answered?_reply hk (.error (.reported "down"))
  exact (hkeeps (hfollows _ _ ha rfl)).trans happlied

end Session

end Switchboard
