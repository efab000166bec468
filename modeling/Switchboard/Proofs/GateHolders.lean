import Mathlib.Data.Finset.Card
import Mathlib.Data.List.Infix
import Switchboard.Proofs.Footing
import Switchboard.Proofs.ModelWrites
import Switchboard.Proofs.Outstanding

/-!
# Who keeps the gates closed

The busy gate counts its holders, so that it stays closed as long as anybody holds it. The screen is
covered by one message at a time, and whoever uncovers it uncovers it for all.

* `Session.balanced_run` — the gate is held once for every task at work that holds it, and once for
  every caller that has taken it and not given it back.
* `Session.covered_or_uncovered` — a switch under way covers the screen, unless somebody has
  uncovered it since its call was made.
* `Session.gated_while_waiting` — so every command keeps background work off as long as it waits,
  but for a switch that is calibrated after another one has ended.
* `Session.switch_uncovered_by_another` — that switch does not.
-/

set_option autoImplicit false

namespace Switchboard

/-- A caller takes hold of the busy gate. -/
def Event.takesHold : Event → Bool
  | act .enterBusy => true
  | _ => false

/-- A caller gives a hold of the busy gate back. -/
def Event.givesBack : Event → Bool
  | act .leaveBusy => true
  | _ => false

/-- At no time have callers given back more holds of the busy gate than they had taken. -/
def CallersKeepCount (events : List Event) : Prop :=
  ∀ done, done <+: events → done.countP (·.givesBack) ≤ done.countP (·.takesHold)

theorem CallersKeepCount.of_append {events more : List Event}
    (h : CallersKeepCount (events ++ more)) : CallersKeepCount events :=
  fun done hd => h done (hd.trans (List.prefix_append events more))

theorem countP_concat {α : Type} (p : α → Bool) (xs : List α) (x : α) :
    (xs ++ [x]).countP p = xs.countP p + (p x).toNat := by
  rw [List.countP_append, List.countP_singleton]
  cases p x <;> rfl

/-- A finite set with one element put in or taken out. -/
theorem exists_finset_update (s : Finset Nat) (i : Nat) (b : Bool) :
    ∃ s' : Finset Nat, (∀ j, j ∈ s' ↔ if j = i then b = true else j ∈ s) ∧
      s'.card + (decide (i ∈ s)).toNat = s.card + b.toNat := by
  cases b with
  | true =>
    refine ⟨insert i s, fun j => ?_, ?_⟩
    · by_cases hj : j = i <;> simp [hj]
    · by_cases hi : i ∈ s
      · simp [hi]
      · simp [hi]
  | false =>
    refine ⟨s.erase i, fun j => ?_, ?_⟩
    · by_cases hj : j = i <;> simp [hj]
    · by_cases hi : i ∈ s
      · simpa [hi] using Finset.card_erase_add_one hi
      · simp [hi]

namespace Session

variable {w : Session}

/-! ## Counting the holders -/

/-- The gate is held once for each task at work that holds it, and once for each hold that callers
have `taken` and not `returned`. -/
def Balanced (w : Session) (taken returned : Nat) : Prop :=
  ∃ holders : Finset Nat, (∀ id, id ∈ holders ↔ (w.stakeOf id).holds) ∧
    w.engine.busy.holders + returned = taken + holders.card

theorem balanced_ofEngine (e : Engine) : (ofEngine e).Balanced e.busy.holders 0 :=
  ⟨∅, fun _ => by simp [stakeOf, workOf?_ofEngine], rfl⟩

theorem Balanced.of_eq {w' : Session} {taken returned : Nat} (h : w.Balanced taken returned)
    (hb : w'.engine.busy = w.engine.busy) (hs : ∀ j, w'.workOf? j = w.workOf? j) :
    w'.Balanced taken returned := by
  obtain ⟨holders, hmem, hcount⟩ := h
  refine ⟨holders, fun id => ?_, by rw [hb]; exact hcount⟩
  rw [hmem, stakeOf, stakeOf, hs]

/-- Somebody holds the gate if a task does. -/
theorem Balanced.le_holders {taken returned : Nat} (h : w.Balanced taken returned)
    (hle : returned ≤ taken) (id : Nat) : (w.stakeOf id).holds.toNat ≤ w.engine.busy.holders := by
  obtain ⟨holders, hmem, hcount⟩ := h
  cases hid : (w.stakeOf id).holds with
  | false => exact Nat.zero_le _
  | true =>
    have hpos : 0 < holders.card := Finset.card_pos.2 ⟨id, (hmem id).2 hid⟩
    simp only [Bool.toNat_true]
    omega

theorem Balanced.advance {taken returned : Nat} (h : w.Balanced taken returned)
    (hle : returned ≤ taken) (hw : w.Numbered) {ev : Event} {r : Session × Progress Work Outcome}
    (hr : w.advance? ev = some r) : (w.step ev).Balanced taken returned := by
  have hbusy := (handover_step hw hr).busy (h.le_holders hle _)
  obtain ⟨holders, hmem, hcount⟩ := h
  obtain ⟨holders', hmem', hcard⟩ :=
    exists_finset_update holders (w.subject ev) ((w.step ev).stakeOf (w.subject ev)).holds
  refine ⟨holders', fun id => ?_, ?_⟩
  · rw [hmem']
    by_cases hid : id = w.subject ev
    · rw [if_pos hid, hid]
    · rw [if_neg hid, hmem, stakeOf, stakeOf,
        workOf?_step_of_advance hr, if_neg hid]
  · have hdec : decide (w.subject ev ∈ holders) = (w.stakeOf (w.subject ev)).holds := by
      rw [Bool.eq_iff_iff, decide_eq_true_iff, hmem]
    rw [hdec] at hcard
    have hbusy' : (w.step ev).engine.busy.holders + (w.stakeOf (w.subject ev)).holds.toNat =
        w.engine.busy.holders + ((w.step ev).stakeOf (w.subject ev)).holds.toNat := hbusy
    omega

theorem Balanced.act {taken returned : Nat} (h : w.Balanced taken returned) (a : Action)
    (hle : returned + (Event.act a).givesBack.toNat ≤ taken + (Event.act a).takesHold.toNat) :
    (w.act a).Balanced (taken + (Event.act a).takesHold.toNat)
      (returned + (Event.act a).givesBack.toNat) := by
  have hs := (grows_act w a).workOf?
  have hb : (w.act a).engine.busy = (a.onGates w.engine.footing).busy :=
    congrArg Footing.busy (footing_act a)
  obtain ⟨holders, hmem, hcount⟩ := h
  refine ⟨holders, fun id => by rw [hmem, stakeOf, stakeOf, hs], ?_⟩
  rw [hb]
  cases a with
  | enterBusy =>
    show w.engine.busy.holders + 1 + returned = taken + 1 + holders.card
    omega
  | leaveBusy =>
    have hle' : returned + 1 ≤ taken := hle
    show w.engine.busy.holders - 1 + (returned + 1) = taken + holders.card
    omega
  | _ => exact hcount

/-- **The holders of the busy gate** are, after any events, the tasks at work that hold it and the
callers that have taken it. -/
theorem balanced_run {e : Engine} {events : List Event} (h : CallersKeepCount events) :
    ((ofEngine e).run events).Balanced (e.busy.holders + events.countP (·.takesHold))
      (events.countP (·.givesBack)) := by
  induction events using List.reverseRecOn with
  | nil => exact balanced_ofEngine e
  | append_singleton events ev ih =>
    have hb := ih h.of_append
    have hw := (numbered_ofEngine e).run events
    have hle := h events (List.prefix_append events [ev])
    have hle' := h (events ++ [ev]) List.prefix_rfl
    rw [countP_concat, countP_concat] at hle' ⊢
    rw [run_concat]
    by_cases ha : ∃ a, ev = .act a
    · obtain ⟨a, rfl⟩ := ha
      rw [← Nat.add_assoc]
      exact hb.act a (by omega)
    have hnone : ev.takesHold = false ∧ ev.givesBack = false := by
      cases ev <;> first | exact ⟨rfl, rfl⟩ | exact absurd ⟨_, rfl⟩ ha
    rw [hnone.1, hnone.2]
    cases hr : ((ofEngine e).run events).advance? ev with
    | some r => exact hb.advance (by omega) hw hr
    | none =>
      have hq := still_of_quiet hw hr fun a he => ha ⟨a, he⟩
      exact hb.of_eq (congrArg Prod.fst hq.gates) hq.workOf?

theorem isBusy_of_holds {e : Engine} {events : List Event} (h : CallersKeepCount events) {id : Nat}
    {k : Work} (hk : ((ofEngine e).run events).workOf? id = some k) (hh : k.stake.holds) :
    ((ofEngine e).run events).engine.busy.isBusy := by
  have hle := h events List.prefix_rfl
  have hpos := (balanced_run (e := e) h).le_holders (by omega) id
  rw [stakeOf_of_workOf? hk, hh] at hpos
  exact decide_eq_true hpos

/-! ## Covering the screen -/

/-- Only a switch covers the screen. -/
theorem covers_iff {k : Work} : k.stake.covers ↔ ∃ s, k = .switch s := by
  cases k with
  | switch s => cases s <;> simp [Work.stake, Switch.stake]
  | flush crew f => cases f <;> simp [Work.stake, Flush.stake, Load.stake]
  | hookWatch s h => cases h <;> simp [Work.stake, HookWatch.stake]
  | startup s => cases s <;> simp [Work.stake, Startup.stake, Load.stake, Refresh.stake]
  | _ => simp [Work.stake, Load.stake, Refresh.stake, AutoSwitch.stake]

theorem covers_stakeOf_iff {id : Nat} :
    (w.stakeOf id).covers ↔ ∃ s, w.workOf? id = some (.switch s) := by
  unfold stakeOf
  cases w.workOf? id with
  | none => simp
  | some k => simp [covers_iff]

/-- The event uncovers the screen though this task may be at work: a caller uncovers it, or another
task has ended its switch. -/
def Uncovers (w : Session) (id : Nat) (ev : Event) : Prop :=
  ev = .act .unblock ∨
    w.subject ev ≠ id ∧ (∃ s, w.workOf? (w.subject ev) = some (.switch s)) ∧
      ¬ ∃ s, (w.step ev).workOf? (w.subject ev) = some (.switch s)

/-- A switch that is begun, or goes on, covers the screen. -/
theorem isBlocking_of_begun (hw : w.Numbered) {ev : Event} {s : Switch}
    (h : w.begun? ev = some (.switch s)) : (w.step ev).engine.blocking.isBlocking := by
  obtain ⟨r, hr, hwait⟩ := Option.bind_eq_some_iff.1 h
  have hafter : (w.step ev).workOf? (w.subject ev) = some (.switch s) := by
    rw [workOf?_step_of_advance hr, if_pos rfl]
    exact hwait
  refine (handover_step hw hr).blocking.trans ?_
  rw [covers_stakeOf_iff.2 ⟨s, hafter⟩]
  rfl

/-- As long as a switch waits, the screen stays covered unless the event uncovers it. -/
theorem isBlocking_step (hw : w.Numbered) {ev : Event} {id : Nat} {s : Switch}
    (hafter : (w.step ev).workOf? id = some (.switch s)) (hb : w.engine.blocking.isBlocking) :
    (w.step ev).engine.blocking.isBlocking ∨ w.Uncovers id ev := by
  by_cases ha : ∃ a, ev = .act a
  · obtain ⟨a, rfl⟩ := ha
    have hblock : (w.act a).engine.blocking = (a.onGates w.engine.footing).blocking :=
      congrArg Footing.blocking (footing_act a)
    simp only [step]
    rw [hblock]
    cases a with
    | unblock => exact .inr (.inl rfl)
    | block message => exact .inl rfl
    | _ => exact .inl hb
  cases hr : w.advance? ev with
  | none =>
    have hgates := (still_of_quiet hw hr fun a he => ha ⟨a, he⟩).gates
    have hblock : (w.step ev).engine.blocking = w.engine.blocking := congrArg Prod.snd hgates
    rw [hblock]
    exact .inl hb
  | some r =>
    have hblock : (w.step ev).engine.blocking.isBlocking =
        (((w.step ev).stakeOf (w.subject ev)).covers ||
          !(w.stakeOf (w.subject ev)).covers && w.engine.blocking.isBlocking) :=
      (handover_step hw hr).blocking
    cases hc' : ((w.step ev).stakeOf (w.subject ev)).covers with
    | true =>
      rw [hblock, hc']
      exact .inl rfl
    | false =>
      have hended : ¬ ∃ s, (w.step ev).workOf? (w.subject ev) = some (.switch s) := by
        rw [← covers_stakeOf_iff, hc']
        exact Bool.false_ne_true
      cases hc : (w.stakeOf (w.subject ev)).covers with
      | true => exact .inr (.inr ⟨fun hid => hended ⟨s, hid ▸ hafter⟩, covers_stakeOf_iff.1 hc, hended⟩)
      | false =>
        rw [hblock, hc', hc, hb]
        exact .inl rfl

/-- **A switch under way covers the screen**, unless somebody has uncovered it since the switch has
waited for the reply it waits for now. -/
theorem covered_or_uncovered {e : Engine} {events : List Event} {id : Nat} {s : Switch}
    (h : ((ofEngine e).run events).workOf? id = some (.switch s)) :
    ((ofEngine e).run events).engine.blocking.isBlocking ∨
      ∃ before ev after, events = before ++ ev :: after ∧
        (∀ done, done <+: ev :: after →
          ((ofEngine e).run (before ++ done)).workOf? id = some (.switch s)) ∧
        ((ofEngine e).run before).Uncovers id ev := by
  by_cases hcovered : ((ofEngine e).run events).engine.blocking.isBlocking
  · exact .inl hcovered
  -- The open screen under the waiting switch goes back to an event that opened it.
  have hsince : Since
      (fun history => ((ofEngine e).run history).workOf? id = some (.switch s) ∧
        ¬ ((ofEngine e).run history).engine.blocking.isBlocking)
      (fun history => ∃ before ev, history = before ++ [ev] ∧
        ((ofEngine e).run before).workOf? id = some (.switch s) ∧
        ((ofEngine e).run before).Uncovers id ev) events := by
    refine Since.of_step (fun ⟨hk, _⟩ => ?_) (fun history ev ⟨hk, hopen⟩ => ?_) ⟨h, hcovered⟩
    · rw [run_nil, workOf?_ofEngine] at hk
      cases hk
    · have hw := (numbered_ofEngine e).run history
      rw [run_concat] at hk hopen
      rcases workOf?_step_cases hw hk with hbefore | ⟨-, hbegun⟩
      · by_cases hb : ((ofEngine e).run history).engine.blocking.isBlocking
        · rcases isBlocking_step hw hk hb with hb' | hu
          · exact absurd hb' hopen
          · exact .inr ⟨history, ev, rfl, hbefore, hu⟩
        · exact .inl ⟨hbefore, hb⟩
      · exact absurd (isBlocking_of_begun hw hbegun) hopen
  obtain ⟨upTo, after, rfl, ⟨before, ev, rfl, hbefore, hu⟩, hd⟩ := hsince
  refine .inr ⟨before, ev, after, List.append_assoc .., fun done hdone => ?_, hu⟩
  cases done with
  | nil =>
    rw [List.append_nil]
    exact hbefore
  | cons ev' done =>
    obtain ⟨rfl, hrest⟩ := List.cons_prefix_cons.1 hdone
    have hk := (hd done hrest).1
    rwa [List.append_assoc] at hk

end Session

/-! ## Commands under way -/

/-- The work of a foreground command, which background work keeps off from: a load, a refresh, a
switch, an action or an installation. A caller asks for it, or it is a part of the start of the
runtime or of the save of an order. -/
def Work.isForeground : Work → Bool
  | load _ | refresh _ | switch _ | manualAction _ | hookInstall _ => true
  | startup (.loading _ _) | startup (.refreshing _ _) | flush _ (.rereading _) => true
  | _ => false

/-- Foreground work holds the busy gate, unless it is a switch that is being calibrated. -/
theorem Work.holds_of_isForeground {k : Work} (hf : k.isForeground)
    (hk : ∀ target m label model, k ≠ .switch (.calibrating target m label model)) :
    k.stake.holds := by
  cases k with
  | switch s =>
    cases s with
    | applying => rfl
    | calibrating target m label model => exact absurd rfl (hk target m label model)
  | load | refresh | manualAction | hookInstall => rfl
  | startup s =>
    cases s with
    | loading | refreshing => rfl
    | resetting => cases hf
  | flush crew f =>
    cases f with
    | rereading => rfl
    | saving => cases hf
  | _ => cases hf

namespace Session

/-- **The gates are closed as long as a command waits**, with one exception. After any events among
which callers give back no hold that they have not taken, and for every foreground command that
waits for a reply: a gate is closed, unless the command is a switch that is being calibrated; and a
switch, calibrated or not, covers the screen, so that a gate is closed, unless a caller or the end
of another switch has uncovered the screen since the switch began to wait for this reply. -/
theorem gated_while_waiting {e : Engine} {events : List Event} (hc : CallersKeepCount events)
    {id : Nat} {k : Work} (hk : ((ofEngine e).run events).workOf? id = some k)
    (hf : k.isForeground) :
    ((∀ target m label model, k ≠ .switch (.calibrating target m label model)) →
        ((ofEngine e).run events).engine.isGated) ∧
      ∀ s, k = .switch s →
        (((ofEngine e).run events).engine.blocking.isBlocking ∧
            ((ofEngine e).run events).engine.isGated) ∨
          ∃ before ev after, events = before ++ ev :: after ∧
            (∀ done, done <+: ev :: after →
              ((ofEngine e).run (before ++ done)).workOf? id = some k) ∧
            ((ofEngine e).run before).Uncovers id ev := by
  constructor
  · intro hother
    have hbusy := isBusy_of_holds hc hk (Work.holds_of_isForeground hf hother)
    rw [Engine.isGated, hbusy]
    rfl
  · rintro s rfl
    rcases covered_or_uncovered hk with hb | hu
    · refine .inl ⟨hb, ?_⟩
      rw [Engine.isGated, hb, Bool.or_true]
    · exact .inr hu

/-- **A switch may be left without a closed gate.** Two switches are under way; the one that was
begun later ends while the other is being calibrated, and uncovers the screen for both. -/
theorem switch_uncovered_by_another :
    let s : Snapshot := { profiles := [{ name := "a" }, { name := "b" }] }
    let events : List Event :=
      [.ask (.switch (some "a")), .reply 0 (.applyProfile "a" .gpt) (.ok s),
        .ask (.switch (some "b")), .reply 1 (.applyProfile "b" .gpt) (.ok s),
        .reply 1 (.refreshQuota "b" .gpt false) (.ok s)]
    CallersKeepCount events ∧
      ∃ x, ((ofEngine Engine.blank).run events).workOf? 0 = some (.switch x) ∧
        x.call = .refreshQuota "a" .gpt false ∧
        ((ofEngine Engine.blank).run events).engine.isGated = false ∧
        ∃ before ev after, events = before ++ ev :: after ∧
          ((ofEngine Engine.blank).run before).Uncovers 0 ev := by
  intro s events
  have hcount : ∀ done ∈ events.inits, done.countP (·.givesBack) ≤ done.countP (·.takesHold) := by
    decide
  have hc : CallersKeepCount events := fun done hd => hcount done ((List.mem_inits _ _).2 hd)
  obtain ⟨x, hx, hcall, hopen⟩ : ∃ x,
      ((ofEngine Engine.blank).run events).workOf? 0 = some (.switch x) ∧
        x.call = .refreshQuota "a" .gpt false ∧
        ((ofEngine Engine.blank).run events).engine.isGated = false :=
    ⟨_, rfl, rfl, by decide +kernel⟩
  refine ⟨hc, x, hx, hcall, hopen, ?_⟩
  rcases (gated_while_waiting hc hx rfl).2 x rfl with ⟨-, hgated⟩ | ⟨before, ev, after, hs, -, hu⟩
  · rw [hopen] at hgated
    cases hgated
  · exact ⟨before, ev, after, hs, hu⟩

end Session

end Switchboard
