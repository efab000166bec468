import Switchboard.Proofs.Records
import Switchboard.Proofs.SessionTwins

/-!
# Writes that fail

Whether a write to the store succeeds makes a difference to the store, and to nothing else.

* `Session.length_entries_le` — an event writes at most once.
* `BrokenStore` — a store that takes no write; `Session.stepOn` is an event during which the store is
  broken, or is not.
* `Session.store_failures_invisible` — a run in which some writes fail is the run in which they do
  not, but for the store.
-/

set_option autoImplicit false

namespace Switchboard

theorem Entry.length_profile_le (m : Mode) (name : Option String) :
    (Entry.profile m name).length ≤ 1 := Option.length_toList_le

theorem Entry.length_version_le (v : Option String) : (Entry.version v).length ≤ 1 :=
  Option.length_toList_le

theorem Switch.length_entries_le (s : Switch) (r : Reply s.call) : (s.entries r).length ≤ 1 := by
  cases s with
  | applying target m label =>
    cases r with
    | ok snapshot => exact Entry.length_profile_le m _
    | error f => exact Nat.zero_le 1
  | calibrating => exact Nat.zero_le 1

theorem AutoSwitch.length_entries_le (a : AutoSwitch) (cancelled : Bool) (r : Reply a.call) :
    (a.entries cancelled r).length ≤ 1 := by
  cases a with
  | ticking m =>
    simp only [entries, AutoSwitchReport.entries]
    split
    · split
      · exact Entry.length_profile_le _ _
      · exact Nat.zero_le 1
    · exact Nat.zero_le 1
  | acting s p =>
    simp only [entries]
    split
    · exact Nat.zero_le 1
    · exact Option.length_toList_le
  | calibrating s name => exact Option.length_toList_le

theorem HookWatch.length_entries_le (h : HookWatch) (e : Engine) (cancelled : Bool)
    (r : Reply h.call) : (h.entries e cancelled r).length ≤ 1 := by
  cases h with
  | checking | installing => exact Nat.zero_le 1
  | reading =>
    simp only [entries]
    split
    · exact Nat.zero_le 1
    · exact Entry.length_version_le _
  | rereading => exact Entry.length_version_le _

namespace Session

theorem length_replyEntries_le (w : Session) (k : Work) (r : Reply k.call) :
    (w.replyEntries k r).length ≤ 1 := by
  cases k with
  | switch s => exact s.length_entries_le r
  | hookInstall h =>
    cases h with
    | installing => exact Nat.zero_le 1
    | reading => exact Entry.length_version_le _
  | autoSwitch s a => exact a.length_entries_le _ r
  | hookWatch s h => exact h.length_entries_le _ _ r
  | _ => exact Nat.zero_le 1

/-- **An event writes at most once.** -/
theorem length_entries_le (w : Session) (ev : Event) : (w.entries ev).length ≤ 1 := by
  cases ha : w.answered? ev with
  | some a =>
    rw [entries_of_answered ha]
    exact w.length_replyEntries_le a.1 a.2
  | none =>
    cases ev with
    | act a =>
      cases a with
      | remember m name => exact Entry.length_profile_le m _
      | putSettings | setMode | setStrategy | setRefreshOnStartup | setKeepalive | loseStore =>
        exact Nat.le_refl 1
      | _ => exact Nat.zero_le 1
    | ask r =>
      cases r with
      | setMode | setAutoSwitch => exact Nat.le_refl 1
      | _ => exact Nat.zero_le 1
    | _ =>
      simp only [entries, ha]
      exact Nat.zero_le 1

end Session

/-! ## A store that fails at times -/

/-- A store that takes no write, for whatever reason. -/
structure BrokenStore where
  store : Store
  save_fails : ∀ settings, ∃ fault, store.save settings = .error fault
  add_fails : ∀ r, ∃ fault, store.add r = .error fault

/-- The file is no database. -/
def BrokenStore.garbage : BrokenStore :=
  ⟨⟨.garbage⟩, fun _ => ⟨_, rfl⟩, fun _ => ⟨_, rfl⟩⟩

namespace Session

/-- One event, during which the store may be broken. In the store nothing has changed then. -/
def stepOn (w : Session) : Option BrokenStore × Event → Session
  | (none, ev) => w.step ev
  | (some b, ev) => ((w.withStore b.store).step ev).withStore w.engine.store

/-- All events, one after another. -/
def runOn (w : Session) (events : List (Option BrokenStore × Event)) : Session :=
  events.foldl stepOn w

/-- What goes to the backend at an event, during which the store may be broken. -/
def callOn? (w : Session) : Option BrokenStore × Event → Option Call
  | (none, ev) => (w.begun? ev).map (·.call)
  | (some b, ev) => ((w.withStore b.store).begun? ev).map (·.call)

/-- The calls to the backend, the first one in front, if the store is broken during some events. -/
def callsOn (w : Session) : List (Option BrokenStore × Event) → List Call
  | [] => []
  | ev :: events => (w.callOn? ev).toList ++ (w.stepOn ev).callsOn events

/-- The calls to the backend, the first one in front. -/
def calls (w : Session) : List Event → List Call
  | [] => []
  | ev :: events => ((w.begun? ev).map (·.call)).toList ++ (w.step ev).calls events

variable {w w' : Session}

theorem twin_withStore (w : Session) (s : Store) : w.Twin (w.withStore s) := ⟨s, rfl⟩

theorem Twin.trans {w'' : Session} (h : w.Twin w') (h' : w'.Twin w'') : w.Twin w'' := by
  obtain ⟨s, rfl⟩ := h
  obtain ⟨s', rfl⟩ := h'
  exact ⟨s', rfl⟩

/-- An event does to a session with a broken store what it does to any other, but to the store. -/
theorem Twin.stepOn (h : w.Twin w') (ev : Option BrokenStore × Event) :
    (w.step ev.2).Twin (w'.stepOn ev) := by
  obtain ⟨_ | b, ev⟩ := ev
  · exact h.step ev
  · have hbroken := h.trans (twin_withStore w' b.store)
    exact (hbroken.step ev).trans (twin_withStore _ _)

theorem Twin.callOn? (h : w.Twin w') (ev : Option BrokenStore × Event) :
    w'.callOn? ev = (w.begun? ev.2).map (·.call) := by
  obtain ⟨_ | b, ev⟩ := ev
  · rw [Session.callOn?, h.begun?]
  · rw [Session.callOn?, (h.trans (twin_withStore w' b.store)).begun?]

theorem Twin.runOn (h : w.Twin w') (events : List (Option BrokenStore × Event)) :
    (w.run (events.map (·.2))).Twin (w'.runOn events) := by
  induction events generalizing w w' with
  | nil => exact h
  | cons ev events ih => exact ih (h.stepOn ev)

theorem Twin.callsOn (h : w.Twin w') (events : List (Option BrokenStore × Event)) :
    w'.callsOn events = w.calls (events.map (·.2)) := by
  induction events generalizing w w' with
  | nil => rfl
  | cons ev events ih => rw [Session.callsOn, List.map_cons, calls, h.callOn?, ih (h.stepOn ev)]

/-- **Writes that fail are not noticed.** Let anything happen to an engine, and let the store be broken
during any of the events, in any way. Then the session is, in all but the content of the store, what
it is if the store is never broken, and the same calls have gone to the backend in the same order. An
event writes at most once, so that any of the writes can be chosen to fail. -/
theorem store_failures_invisible (e : Engine) (events : List (Option BrokenStore × Event)) :
    let w := (ofEngine e).run (events.map (·.2))
    let w' := (ofEngine e).runOn events
    w' = w.withStore w'.engine.store ∧
      (ofEngine e).callsOn events = (ofEngine e).calls (events.map (·.2)) ∧
      ∀ (v : Session) (ev : Event), (v.entries ev).length ≤ 1 := by
  intro w w'
  have h : (ofEngine e).Twin (ofEngine e) := twin_withStore _ e.store
  obtain ⟨s, hs⟩ : w.Twin w' := h.runOn events
  refine ⟨?_, h.callsOn events, length_entries_le⟩
  rw [hs]
  rfl

/-- The mode changes, and the store stays as it was. -/
example :
    let e : Engine :=
      { store := .withDatabase {}, config := {}, settings := {}, banner := .ofDelay 0, now := 0 }
    let w := (ofEngine e).runOn [(some .garbage, .act (.setMode .openCode))]
    w.engine.settings.mode = .openCode ∧ w.engine.store = .withDatabase {} := by
  decide +kernel

end Session

end Switchboard
