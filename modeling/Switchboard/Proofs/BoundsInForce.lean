import Switchboard.Proofs.Bounds
import Switchboard.Proofs.KeepaliveSchedule
import Switchboard.Proofs.WireFormat

/-!
# The bounds in force

A configuration is brought into its bounds when it is loaded, and once more when the engine starts,
which then changes nothing. From there on the bounds hold: no random choice is made from an empty
range, and no loop that is woken rests for no time at all.

* `Config.exists_load_iff` — the configurations that can be loaded are those in their bounds.
* `Engine.config_of_start` — the engine goes by the normalized configuration.
* `Config.samples_normalized` — every choice from a range has a value.
* `Session.neverSpins` — a loop that has been woken waits for a reply or for a later time.
* `Config.normalized_projects` — all of it.
-/

set_option autoImplicit false

namespace Switchboard

/-! ## Loading -/

/-- The bytes of a text are read as the text. -/
theorem fromUTF8?_toUTF8 (text : String) :
    String.fromUTF8? (ByteArray.mk text.toUTF8.toList.toArray) = some text := by
  have hbytes : ByteArray.mk text.toUTF8.toList.toArray = text.toUTF8 := by
    ext1
    simp [ByteArray.toList, toList_loop_eq]
  rw [hbytes, String.toUTF8_eq_toByteArray, String.fromUTF8?, dif_pos text.isValidUTF8]
  rfl

namespace Config

variable {c : Config} {path : String} {file : File}

/-- A file in which the configuration is written. -/
def File.ofConfig (c : Config) : File := .bytes c.toJson.compact.toUTF8.toList

theorem load_ofConfig (path : String) (c : Config) :
    load path (.ofConfig c) = .ok c.normalized := by
  have hdecode : Json.decodeText ofDoc c.toJson.compact = .ok c :=
    (Json.faithful_of_inverts Config.ofDoc_toJson).decode_compact c
  simp only [load, File.ofConfig, fromUTF8?_toUTF8, hdecode]

theorem inBounds_of_load (h : load path file = .ok c) : c.InBounds := by
  cases file with
  | absent =>
    cases h
    exact normalized_eq_self_iff.1 normalized_default
  | directory => cases h
  | bytes content =>
    simp only [load] at h
    split at h
    · cases h
    · split at h
      · cases h
        exact inBounds_normalized _
      · cases h

/-- **What can be loaded** is what is in its bounds. -/
theorem exists_load_iff (path : String) : (∃ file, load path file = .ok c) ↔ c.InBounds :=
  ⟨fun ⟨_, h⟩ => inBounds_of_load h, fun h => ⟨.ofConfig c, by rw [load_ofConfig, h.normalized_eq]⟩⟩

end Config

/-! ## The start -/

namespace Engine

/-- The start of an engine that takes its configuration as it is. -/
def startUnder (store : Store) (config : Config) (now : Int64) : Except Store.Fault Engine := do
  let store ← store.init
  let settings ← store.load
  return {
    store := store, config := config, settings := settings, now := now
    banner := .ofDelay config.bannerDelay }

variable {store : Store} {config : Config} {now : Int64} {e : Engine}

theorem start_eq_startUnder (store : Store) (config : Config) (now : Int64) :
    start store config now = startUnder store config.normalized now := rfl

theorem config_of_startUnder (h : startUnder store config now = .ok e) : e.config = config := by
  unfold startUnder at h
  cases hinit : store.init with
  | error f => simp [hinit, bind, Except.bind] at h
  | ok store' =>
    cases hload : store'.load with
    | error f => simp [hinit, hload, bind, Except.bind] at h
    | ok settings =>
      simp only [hinit, hload, bind, Except.bind, pure, Except.pure, Except.ok.injEq] at h
      rw [← h]

theorem config_of_start (h : start store config now = .ok e) : e.config = config.normalized :=
  config_of_startUnder h

end Engine

/-! ## Choices from a range -/

namespace Config

/-- Every choice from a range has a value, whatever numbers are drawn, and one of the range as it is
configured. -/
structure Samples (c : Config) : Prop where
  /-- The signed word of the jitter stands for the jitter. -/
  jitter_word : c.keepaliveJitter.toInt64.toInt = c.keepaliveJitter.toNat
  jitter : ∀ s : Source, ∃ j s', (Keepalive.jitter c).run s = some (j, s') ∧
    -(c.keepaliveJitter.toNat : Int) ≤ j.toInt ∧ j.toInt ≤ c.keepaliveJitter.toNat
  stagger : ∀ s : Source, ∃ d s', (Keepalive.staggerDelay c).run s = some (d, s') ∧
    c.staggerMin ≤ d ∧ d ≤ c.staggerMax

theorem samples_normalized (c : Config) : c.normalized.Samples where
  jitter_word := (Keepalive.toInt_jitter c).1
  jitter s := by
    obtain ⟨j, s', hrun, -, hlow, hhigh⟩ := Keepalive.jitter_mem c s
    exact ⟨j, s', hrun, hlow, hhigh⟩
  stagger s := by
    obtain ⟨d, s', hrun, -, hlow, hhigh⟩ := Draw.uint64_mem c.inBounds_normalized.stagger s
    exact ⟨d, s', hrun, UInt64.le_iff_toNat_le.2 hlow, UInt64.le_iff_toNat_le.2 hhigh⟩

end Config

/-! ## Loops that are woken -/

namespace Session

variable {w : Session} {id due : Nat} {r r' : Routine} {s s' : Shift}

/-- A loop that has just been woken is not at once due to be woken again: it waits for a reply, or it
rests until a later time. -/
def NeverSpins (w : Session) : Prop :=
  ∀ id r s due, (w.step (.wake id)).task? id = some ⟨id, .loop r s, .resting due⟩ → w.uptime < due

theorem eq_of_task?_setTask {t : Task} {errand : Errand} {stage : Stage}
    (h : (w.setTask id errand stage).task? id = some t) : t = ⟨id, errand, stage⟩ := by
  rw [task?_setTask, if_pos rfl] at h
  obtain ⟨_, -, rfl⟩ := Option.map_eq_some_iff.1 h
  rfl

/-- The next point of the polling grid is still to come. -/
theorem lt_nextPoint {c : Config} (hc : c.InBounds) {due uptime : Nat} (hd : due ≤ uptime) :
    uptime < nextPoint c due uptime := by
  have hpoll : 100 ≤ c.livePoll.toNat := UInt64.le_iff_toNat_le.1 hc.livePoll.1
  have hlt := Nat.lt_mul_div_succ (uptime - due) (show 0 < c.livePoll.toNat by omega)
  rw [nextPoint]
  omega

/-- A rest of some time ends later, also where it is cut short because it is too long. -/
theorem lt_of_rest {errand errand' : Errand} {ms : UInt64} (hms : 100 ≤ ms)
    (h : (w.rest id errand ms).task? id = some ⟨id, errand', .resting due⟩) : w.uptime < due := by
  have hpos : 100 ≤ ms.toNat := UInt64.le_iff_toNat_le.1 hms
  cases eq_of_task?_setTask h
  rw [timeAfter, longestWait]
  omega

@[simp] theorem uptime_setCrew (id : CrewId) (c : Crew) : (w.setCrew id c).uptime = w.uptime := by
  cases id <;> rfl

theorem uptime_beginJob (w : Session) (s : Shift) (j : Job) :
    (w.beginJob s j).1.uptime = w.uptime := by
  unfold beginJob
  split
  · rfl
  · split
    · rfl
    · cases j with
      | poll =>
        simp only [takeOff]
        split <;> simp [land, setBackoff, setFlight]
      | _ => exact uptime_setCrew s.crew _

/-- A run that comes to something before any reply was kept off; only a poll may just not be due. -/
theorem shouldRetry_of_beginJob {j : Job} (hj : j ≠ .poll) {o : Outcome}
    (h : (w.beginJob s j).2 = .done o) : (tickOf o).any (·.shouldRetry) := by
  unfold beginJob at h
  split at h
  · rename_i o' hbarrier
    obtain rfl : o' = o := Progress.done.inj h
    cases j with
    | poll => exact absurd rfl hj
    | hookWatch => cases hbarrier
    | _ =>
      obtain ⟨-, hgated⟩ := Option.ite_none_right_eq_some.1 hbarrier
      cases hgated
      rfl
  · split at h
    · obtain rfl : inFlight j = o := Progress.done.inj h
      cases j with
      | poll => exact absurd rfl hj
      | _ => rfl
    · cases j with
      | poll => exact absurd rfl hj
      | _ => cases h

/-- The rest after a run ends later than it begins. A poll rests until a point that is known before the
run, and keepalive for a delay that is drawn, unless the run was kept off. -/
theorem lt_of_restAfter (hc : w.engine.config.InBounds) {o : Outcome}
    (hnext : ∀ next, r = .poll next → w.uptime < next)
    (hretry : ∀ reason, r = .keepalive reason → (tickOf o).any (·.shouldRetry))
    (h : (w.restAfter id r s o).task? id = some ⟨id, .loop r' s', .resting due⟩) :
    w.uptime < due := by
  cases r with
  | poll next =>
    cases eq_of_task?_setTask h
    exact hnext _ rfl
  | autoSwitch => exact lt_of_rest hc.autoSwitchTick h
  | recover => exact lt_of_rest hc.recoverTick h
  | hookWatch => exact lt_of_rest hc.hookPoll h
  | keepalive reason =>
    simp only [restAfter, if_pos (hretry reason rfl)] at h
    exact lt_of_rest hc.busyRetry h

/-- A loop that makes a run rests for some time, or it waits for a reply. -/
theorem lt_of_runLoop (hc : w.engine.config.InBounds)
    (hnext : ∀ next, r = .poll next → w.uptime < next)
    (h : (w.runLoop id r s).task? id = some ⟨id, .loop r' s', .resting due⟩) : w.uptime < due := by
  have huptime := uptime_beginJob w s r.job
  have hengine := engine_beginJob w s r.job
  have hretry (reason : Keepalive.Reason) (hr : r = .keepalive reason) (o : Outcome)
      (ho : (w.beginJob s r.job).2 = .done o) : (tickOf o).any (·.shouldRetry) := by
    subst hr
    refine shouldRetry_of_beginJob ?_ ho
    rintro ⟨⟩
  unfold runLoop at h
  generalize w.beginJob s r.job = begun at h huptime hengine hretry
  obtain ⟨w', p⟩ := begun
  cases p with
  | waiting k => cases eq_of_task?_setTask h
  | done o =>
    rw [← hengine] at hc
    rw [← huptime] at hnext ⊢
    exact lt_of_restAfter hc hnext (fun reason hr => hretry reason hr o rfl) h

/-- **No loop spins**: before time passes or a reply comes, it is woken once at most. -/
theorem neverSpins (hc : w.engine.config.InBounds) : w.NeverSpins := by
  intro id r s due h
  cases ht : w.task? id with
  | none =>
    simp only [step, ht] at h
    cases h
  | some t =>
    obtain ⟨id', errand, stage⟩ := t
    cases stage with
    | resting due' =>
      simp only [step, ht] at h
      by_cases hd : due' ≤ w.uptime
      · rw [if_pos hd] at h
        cases errand with
        | loop r' s' =>
          cases r' with
          | poll next =>
            refine lt_of_runLoop hc ?_ h
            rintro _ ⟨⟩
            exact lt_nextPoint hc hd
          | _ => exact lt_of_runLoop hc (by rintro _ ⟨⟩) h
        | sync => cases eq_of_task?_setTask h
        | request | flush => cases ht.symm.trans h
      · rw [if_neg hd] at h
        cases ht.symm.trans h
        omega
    | _ =>
      simp only [step, ht] at h
      cases h

end Session

/-! ## All of it -/

namespace Config

/-- **Normalizing is a projection onto the configurations in their bounds.** It brings every
configuration into its bounds and leaves exactly those alone that are there, so that doing it again
changes nothing. No range that is drawn from is empty then. The configurations that can be loaded are
the ones in their bounds, and the start of the engine changes nothing about them. And whatever
configuration an engine was started with, in every run it goes by the normalized one, under which no
loop spins. -/
theorem normalized_projects (c : Config) :
    c.normalized.InBounds ∧ (c.normalized = c ↔ c.InBounds) ∧
    c.normalized.normalized = c.normalized ∧ c.normalized.Samples ∧
    (∀ path, (∃ file, load path file = .ok c) ↔ c.InBounds) ∧
    (∀ path file, load path file = .ok c → ∀ store now,
      Engine.start store c now = Engine.startUnder store c now) ∧
    ∀ store now e, Engine.start store c now = .ok e → ∀ source events,
      ((Session.ofSource e source).run events).engine.config = c.normalized ∧
        ((Session.ofSource e source).run events).NeverSpins := by
  refine ⟨inBounds_normalized c, normalized_eq_self_iff, (inBounds_normalized c).normalized_eq,
    samples_normalized c, exists_load_iff, fun path file h store now => ?_,
    fun store now e h source events => ?_⟩
  · rw [Engine.start_eq_startUnder, (inBounds_of_load h).normalized_eq]
  · have hconfig : ((Session.ofSource e source).run events).engine.config = c.normalized :=
      (Session.config_ofSource e source events).trans (Engine.config_of_start h)
    exact ⟨hconfig, Session.neverSpins (hconfig ▸ inBounds_normalized c)⟩

/-- A file with a poll every five milliseconds, and a stagger that ends before it begins. What is
loaded polls ten times a second, and the engine starts with just that. While a gate is closed, a
polling loop that is woken at the start rests until the next point of its grid. -/
theorem normalized_projects_of_file :
    let text := "\x7b\"live_poll_ms\": 5, \"startup_stagger_min_ms\": 9000, " ++
      "\"startup_stagger_max_ms\": 10\x7d"
    let file : File := .bytes text.toUTF8.toList
    let c : Config := { livePoll := 100, staggerMin := 9000, staggerMax := 9000 }
    let events : List Event :=
      [.act .enterBusy, .act (.startLoop (.manual 0) .poll), .turn 0]
    load "engine.json" file = .ok c ∧ c.InBounds ∧ c.normalized = c ∧
      ∃ e, Engine.start {} c 0 = .ok e ∧ Engine.startUnder {} c 0 = .ok e ∧
        let w := (Session.ofSource e {}).run events
        w.engine.config = c ∧
        (w.step (.wake 0)).task? 0 =
          some ⟨0, .loop (.poll 100) ⟨.manual, .manual 0⟩, .resting 100⟩ ∧
        w.uptime < 100 := by
  intro text file c events
  have hload : load "engine.json" file = .ok c := by decide +kernel
  have hstart : Engine.start {} c 0 = .ok _ := rfl
  obtain ⟨-, hself, -, -, hfile, hsame, hrun⟩ := normalized_projects c
  have hbounds : c.InBounds := (hfile _).1 ⟨_, hload⟩
  refine ⟨hload, hbounds, hself.2 hbounds, _, hstart, hsame _ _ hload {} 0 ▸ hstart, ?_⟩
  intro w
  obtain ⟨hconfig, hspins⟩ := hrun _ _ _ hstart {} events
  have hwake : (w.step (.wake 0)).task? 0 =
      some ⟨0, .loop (.poll 100) ⟨.manual, .manual 0⟩, .resting 100⟩ := by decide +kernel
  exact ⟨hconfig.trans (hself.2 hbounds), hwake, hspins _ _ _ _ hwake⟩

end Config

end Switchboard
