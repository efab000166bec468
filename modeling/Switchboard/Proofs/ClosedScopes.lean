import Switchboard.Proofs.Errands
import Switchboard.Proofs.SingleFlight

/-!
# Closed scopes

The scope of automatic switching is closed by a request to turn the duty off, or to stop the runtime:
it is cancelled, and then the backend is told to reset. A runtime that is being stopped cancels its
root scope when the reset is done, and with it a scope that was opened meanwhile.

* `Session.Cancels` — how a scope is cancelled; `Session.cancels_of_step`: there is no other way.
* `Session.closes_of_closed` — a scope is closed on request only, and is cancelled before its reset is
  sent.
* `Session.cancelledPast_run` — an open scope, of either kind, was not cancelled itself.
* `Session.open_or_closed` — a scope that has been open is open, or some event has closed it.
* `Session.not_open_of_isCancelled` — a scope that was opened before any shutdown was asked for is
  cancelled only when it is closed.
-/

set_option autoImplicit false

namespace Switchboard

/-- The request closes the open scope of automatic switching. -/
def Request.closes : Request → Bool
  | setAutoSwitch enabled => !enabled
  | shutdown => true
  | _ => false

namespace Session

/-- The scope of automatic switching that an event closes. -/
def closed? (w : Session) (ev : Event) : Option Nat :=
  w.autoSwitch.filter fun n => (w.step ev).autoSwitch ≠ some n

/-- The event is a request to close the open scope: the scope is cancelled, and then a reset is sent. -/
structure Closes (w : Session) (ev : Event) (n : Nat) : Prop where
  isOpen : w.autoSwitch = some n
  asked : ∃ q : Request, ev = .ask q ∧ q.closes
  closed : (w.step ev).autoSwitch = none
  sent : ∃ w' k, w.advance? ev = some (w', .waiting k) ∧ w'.isCancelled (.autoSwitch n) ∧
    k.call = .autoSwitchReset

variable {w : Session} {ev : Event}

theorem closed?_eq_some_iff {n : Nat} :
    w.closed? ev = some n ↔ w.autoSwitch = some n ∧ (w.step ev).autoSwitch ≠ some n := by
  simp [closed?, Option.filter_eq_some_iff]

/-! ## What an event cancels -/

/-- A reply cancels nothing, unless the runtime is being stopped. -/
theorem cancelled_resume_of_ne {k : Work} (hk : k ≠ .stop) (r : Reply k.call) :
    (w.resume k r).1.cancelled = w.cancelled := by
  cases k with
  | stop => exact absurd rfl hk
  | flush crew f => exact (queues_embedFlush w crew _).cancelled
  | switch | bareAction | hookInstall => rw [resume, fst_embed]
  | poll | autoSwitch | recover | hookWatch | keepalive =>
    obtain ⟨e, h⟩ := crews_resume (w := w) rfl r
    exact h.cancelled
  | manualAction p =>
    simp only [resume, resumeManual]
    split <;> rfl
  | startup s =>
    cases s with
    | loading settings l =>
      obtain ⟨e, -, h⟩ := opens_afterLoading (w.onEngine fun e => (l.finish e r).1) settings
      exact h.cancelled_eq
    | refreshing settings x => exact (opens_launch _ settings).cancelled_eq
    | resetting settings => exact (opens_finishStartup w settings).cancelled_eq
  | _ => rfl

/-- A request cancels nothing, unless something is to be closed. -/
theorem cancelled_start_of_not_closes {q : Request} (hq : q.closes = false) :
    (w.start q).1.cancelled = w.cancelled := by
  cases q with
  | flush => exact (queues_embedFlush w .manual _).cancelled
  | switch | refresh => rw [start, fst_embed]
  | job scope j => exact (crews_beginJob w _ j).cancelled
  | setAutoSwitch enabled =>
    cases enabled with
    | true => exact (opens_startAutoSwitch _).cancelled_eq
    | false => cases hq
  | shutdown => cases hq
  | _ => rfl

theorem closeAutoSwitch_of_open {n : Nat} (hn : w.autoSwitch = some n) :
    w.closeAutoSwitch = ({ w with autoSwitch := none }.cancel (.autoSwitch n), true) := by
  simp only [closeAutoSwitch, hn]

theorem closeAutoSwitch_of_not_open (hn : w.autoSwitch = none) : w.closeAutoSwitch = (w, false) := by
  simp only [closeAutoSwitch, hn]

theorem closeKeepalive_of_open {n : Nat} (hn : w.keepalive = some n) :
    w.closeKeepalive = { w with keepalive := none }.cancel (.keepalive n) := by
  simp only [closeKeepalive, hn]

theorem closeKeepalive_of_not_open (hn : w.keepalive = none) : w.closeKeepalive = w := by
  simp only [closeKeepalive, hn]

/-- A request to close the open scope cancels it, and then sends a reset. -/
theorem start_of_open {q : Request} (hq : q.closes) {n : Nat} (hn : w.autoSwitch = some n) :
    (w.start q).1.autoSwitch = none ∧
      (w.start q).1.cancelled = .autoSwitch n :: w.cancelled ∧
      ∃ k, (w.start q).2 = .waiting k ∧ k.call = .autoSwitchReset := by
  cases q with
  | setAutoSwitch enabled =>
    obtain rfl : enabled = false := by simpa [Request.closes] using hq
    have hc := closeAutoSwitch_of_open
      (w := w.onEngine (·.updateSettings ({ · with autoSwitch := false }))) hn
    simp only [start, setAutoSwitch, hc]
    exact ⟨rfl, rfl, .turnOff, rfl, rfl⟩
  | shutdown =>
    simp only [start, shutdown, closeAutoSwitch_of_open hn]
    exact ⟨rfl, rfl, .stop, rfl, rfl⟩
  | _ => cases hq

/-- Where no scope is open, the request is done at once. -/
theorem start_of_not_open {q : Request} (hq : q.closes) (hn : w.autoSwitch = none) :
    (∃ o, (w.start q).2 = .done o) ∧
      ∀ s ∈ (w.start q).1.cancelled, s ∈ w.cancelled ∨ q = .shutdown ∧ s = .root := by
  cases q with
  | setAutoSwitch enabled =>
    obtain rfl : enabled = false := by simpa [Request.closes] using hq
    have hc := closeAutoSwitch_of_not_open
      (w := w.onEngine (·.updateSettings ({ · with autoSwitch := false }))) hn
    simp only [start, setAutoSwitch, hc]
    exact ⟨⟨.nothing, rfl⟩, fun s hs => .inl hs⟩
  | shutdown =>
    simp only [start, shutdown, closeAutoSwitch_of_not_open hn]
    refine ⟨⟨.nothing, rfl⟩, fun s hs => ?_⟩
    rcases List.mem_cons.1 hs with rfl | hs
    · exact .inr ⟨trivial, rfl⟩
    · exact .inl hs
  | _ => cases hq

theorem advance?_of_closes {q : Request} (hq : q.closes) :
    w.advance? (.ask q) = some ((w.spawn .request).start q) := by
  cases q with
  | awaitDashboard => cases hq
  | _ => rfl

/-- **A request to close the open scope** cancels it before the reset is sent. -/
theorem closes_of_asked {q : Request} (hq : q.closes) {n : Nat} (hn : w.autoSwitch = some n) :
    w.Closes (.ask q) n := by
  obtain ⟨hclosed, hc, k, hk, hcall⟩ := start_of_open (w := w.spawn .request) hq hn
  have hadv : w.advance? (.ask q) = some (((w.spawn .request).start q).1, .waiting k) := by
    rw [advance?_of_closes hq, ← hk]
  obtain ⟨errand, hstep⟩ := step_of_advance hadv
  refine ⟨hn, ⟨q, rfl, hq⟩, ?_, _, k, hadv, ?_, hcall⟩
  · rw [hstep]
    exact hclosed
  · simp [isCancelled, hc]

/-- How an event cancels a scope. -/
inductive Cancels (w : Session) (ev : Event) : Scope → Prop where
  /-- A caller cancels it. -/
  | byHand {s : Scope} (h : ev = .act (.cancel s)) : Cancels w ev s
  /-- Keepalive is turned off. -/
  | keepalive {n : Nat} (hopen : w.keepalive = some n) (hclosed : (w.step ev).keepalive = none) :
    Cancels w ev (.keepalive n)
  /-- A shutdown is asked for, or done. -/
  | stopped (h : ev = .ask .shutdown ∨ ∃ r, w.answered? ev = some ⟨.stop, r⟩) : Cancels w ev .root
  /-- Automatic switching is turned off, or the runtime is to be stopped. -/
  | closes {n : Nat} (h : w.Closes ev n) : Cancels w ev (.autoSwitch n)

theorem cancels_of_act {a : Action} {s : Scope} (hs : s ∈ (w.act a).cancelled)
    (hn : s ∉ w.cancelled) : w.Cancels (.act a) s := by
  cases a with
  | cancel s' =>
    obtain rfl := (List.mem_cons.1 hs).resolve_right hn
    exact .byHand rfl
  | setKeepalive enabled =>
    cases enabled with
    | true =>
      rw [show (w.act (.setKeepalive true)).cancelled = w.cancelled from
        (opens_startKeepalive _).cancelled_eq] at hs
      exact absurd hs hn
    | false =>
      have hact : w.act (.setKeepalive false) =
          (w.onEngine (·.updateSettings ({ · with keepalive := false }))).closeKeepalive.onEngine
            (·.setStatus "自动保活已关闭。") := rfl
      cases hk : w.keepalive with
      | none =>
        rw [hact, closeKeepalive_of_not_open (w := w.onEngine _) hk] at hs
        exact absurd hs hn
      | some n =>
        have hclosed : (w.act (.setKeepalive false)).keepalive = none := by
          rw [hact, closeKeepalive_of_open (w := w.onEngine _) hk]
          rfl
        rw [hact, closeKeepalive_of_open (w := w.onEngine _) hk] at hs
        obtain rfl := (List.mem_cons.1 hs).resolve_right hn
        exact .keepalive hk hclosed
  | queueOrder crew names =>
    rw [show (w.act (.queueOrder crew names)).cancelled = w.cancelled from
      cancelled_setCrew _ crew _] at hs
    exact absurd hs hn
  | _ =>
    simp only [act, onEngine] at hs
    exact absurd hs hn

theorem cancels_of_advance {r : Session × Progress Work Outcome} (h : w.advance? ev = some r)
    {s : Scope} (hs : s ∈ r.1.cancelled) (hn : s ∉ w.cancelled) : w.Cancels ev s := by
  have contradiction (heq : r.1.cancelled = w.cancelled) : w.Cancels ev s :=
    absurd (heq ▸ hs) hn
  cases stretch_of_advance h with
  | @resume k reply ha =>
    by_cases hk : k = .stop
    · subst hk
      obtain rfl := (List.mem_cons.1 hs).resolve_right hn
      exact .stopped (.inr ⟨reply, ha⟩)
    · exact contradiction (cancelled_resume_of_ne hk reply)
  | start q hq =>
    subst hq
    cases hc : q.closes with
    | false => exact contradiction (cancelled_start_of_not_closes hc)
    | true =>
      cases ho : w.autoSwitch with
      | some n =>
        rw [(start_of_open (w := w.spawn .request) hc ho).2.1] at hs
        obtain rfl := (List.mem_cons.1 hs).resolve_right hn
        exact .closes (closes_of_asked hc ho)
      | none =>
        rcases (start_of_not_open (w := w.spawn .request) hc ho).2 s hs with hs | ⟨rfl, rfl⟩
        · exact absurd hs hn
        · exact .stopped (.inl rfl)
  | job s' j hf => exact contradiction (crews_beginJob w s' j).cancelled
  | flush crew hf => exact contradiction (queues_embedFlush w crew _).cancelled
  | sync hf => exact contradiction rfl

/-- **What an event cancels**, it cancels in one of these ways. -/
theorem cancels_of_step (hw : w.Numbered) {s : Scope} (hs : s ∈ (w.step ev).cancelled)
    (hn : s ∉ w.cancelled) : w.Cancels ev s := by
  by_cases hact : ∃ a, ev = .act a
  · obtain ⟨a, rfl⟩ := hact
    exact cancels_of_act hs hn
  · cases h : w.advance? ev with
    | some r =>
      obtain ⟨w', p⟩ := r
      obtain ⟨errand, hstep⟩ := step_of_advance h
      rw [hstep, cancelled_conclude] at hs
      exact cancels_of_advance h hs hn
    | none =>
      rw [(still_of_quiet hw h fun a he => hact ⟨a, he⟩).cancelled] at hs
      exact absurd hs hn

/-! ## Which events close a scope -/

/-- Scopes that were cancelled are of the past, so that no open one was. -/
def CancelledPast (w : Session) : Prop := ∀ s ∈ w.cancelled, w.book.Past s

theorem CancelledPast.not_open (h : w.CancelledPast) {n : Nat} (hn : .autoSwitch n ∈ w.cancelled) :
    w.autoSwitch ≠ some n :=
  of_decide_eq_false (h _ hn).not_open

/-- **A scope is closed on request only**, and cancelled before its reset is sent. -/
theorem closes_of_closed (hw : w.Numbered) (hpast : w.CancelledPast)
    (hev : ∀ n, ev ≠ .act (.cancel (.autoSwitch n))) {n : Nat} (h : w.closed? ev = some n) :
    w.Closes ev n := by
  obtain ⟨hopen, hclosed⟩ := closed?_eq_some_iff.1 h
  have hbook : w.book.isOpen (.autoSwitch n) := decide_eq_true hopen
  rcases (moves_step (w := w) ev).isOpen_or_cancelled hbook with ho | hc
  · exact absurd (of_decide_eq_true ho) hclosed
  · have hn : .autoSwitch n ∉ w.cancelled := fun hmem => hpast.not_open hmem hopen
    cases cancels_of_step hw hc hn with
    | byHand h => exact absurd h (hev n)
    | closes h => exact h

theorem Closes.closed? {n : Nat} (h : w.Closes ev n) : w.closed? ev = some n :=
  closed?_eq_some_iff.2 ⟨h.isOpen, by simp [h.closed]⟩

/-- A scope that is closed is of the past. -/
theorem past_of_closed (hcount : w.book.Counted) {n : Nat} (h : w.closed? ev = some n) :
    (w.step ev).book.Past (.autoSwitch n) :=
  have ⟨hopen, hclosed⟩ := closed?_eq_some_iff.1 h
  (moves_step ev).past_of_open hcount (decide_eq_true hopen) (decide_eq_false hclosed)

theorem cancelledPast_step (hw : w.Numbered) (hcount : w.book.Counted) (hpast : w.CancelledPast)
    (hev : ∀ s, s.isInRoot → ev ≠ .act (.cancel s)) : (w.step ev).CancelledPast := by
  have closed {s : Scope} (ho : w.book.isOpen s) (hc : (w.step ev).book.isOpen s = false) :
      (w.step ev).book.Past s := (moves_step ev).past_of_open hcount ho hc
  intro s hs
  by_cases hold : s ∈ w.cancelled
  · exact (moves_step ev).past (hpast s hold)
  · cases cancels_of_step hw hs hold with
    | byHand h =>
      cases s with
      | manual n => exact ScopeBook.past_of_serial? rfl
      | _ => exact absurd h (hev _ rfl)
    | keepalive hopen hclosed =>
      exact closed (decide_eq_true hopen) (decide_eq_false (by simp [book, hclosed]))
    | stopped h => exact ScopeBook.past_of_serial? rfl
    | closes h => exact closed (decide_eq_true h.isOpen) (decide_eq_false (by simp [book, h.closed]))

variable {e : Engine} {events : List Event}

theorem counted_run (e : Engine) (events : List Event) : ((ofEngine e).run events).book.Counted :=
  (moves_run (ofEngine e) events).counted fun s n hs _ => by cases s <;> cases hs

/-- Callers cancel nothing of the runtime: they only have scopes of their own. -/
def OwnScopes (events : List Event) : Prop :=
  ∀ s, Event.act (.cancel s) ∈ events → s.isInRoot = false

theorem OwnScopes.early (h : OwnScopes events) {before : List Event} (hb : before <+: events) :
    OwnScopes before := fun s hs => h s (hb.subset hs)

theorem OwnScopes.ne_cancel (h : OwnScopes events) {before : List Event} {ev : Event}
    (hb : before ++ [ev] <+: events) {s : Scope} (hs : s.isInRoot) : ev ≠ .act (.cancel s) := by
  rintro rfl
  rw [h s (hb.subset (by simp))] at hs
  cases hs

/-- **An open scope was not cancelled itself**, in a run in which callers only cancel scopes of their
own. -/
theorem cancelledPast_run (h : OwnScopes events) : ((ofEngine e).run events).CancelledPast := by
  induction events using List.reverseRecOn with
  | nil =>
    intro s hs
    cases hs
  | append_singleton events ev ih =>
    rw [run_concat]
    exact cancelledPast_step ((numbered_ofEngine e).run events) (counted_run e events)
      (ih (h.early (List.prefix_append _ _))) fun s hs => h.ne_cancel (List.prefix_refl _) hs

/-- A scope that has been open is open, or it was closed by some event. -/
theorem open_or_closed {before : List Event} (hb : before <+: events) {n : Nat}
    (h : ((ofEngine e).run before).autoSwitch = some n) :
    ((ofEngine e).run events).autoSwitch = some n ∨
      ∃ upTo ev, upTo ++ [ev] <+: events ∧ ((ofEngine e).run upTo).closed? ev = some n := by
  obtain ⟨after, rfl⟩ := hb
  induction after using List.reverseRecOn with
  | nil =>
    rw [List.append_nil]
    exact .inl h
  | append_singleton after ev ih =>
    rw [← List.append_assoc, run_concat]
    rcases ih with ho | ⟨upTo, ev', hup, hc⟩
    · by_cases hstep : (((ofEngine e).run (before ++ after)).step ev).autoSwitch = some n
      · exact .inl hstep
      · exact .inr ⟨before ++ after, ev, List.prefix_refl _, closed?_eq_some_iff.2 ⟨ho, hstep⟩⟩
    · exact .inr ⟨upTo, ev', hup.trans (List.prefix_append _ _), hc⟩

theorem closes_in_run (hown : OwnScopes events) {before : List Event} {ev : Event}
    (hb : before ++ [ev] <+: events) {n : Nat}
    (h : ((ofEngine e).run before).closed? ev = some n) : ((ofEngine e).run before).Closes ev n :=
  closes_of_closed ((numbered_ofEngine e).run before)
    (cancelledPast_run (hown.early ((List.prefix_append before [ev]).trans hb)))
    (fun _ => hown.ne_cancel hb rfl) h

/-- A scope that is open early and late is open in between. -/
theorem open_between {before mid : List Event} (hb : before <+: mid) (hm : mid <+: events)
    {n : Nat} (h : ((ofEngine e).run before).autoSwitch = some n)
    (ho : ((ofEngine e).run events).autoSwitch = some n) :
    ((ofEngine e).run mid).autoSwitch = some n := by
  by_contra hclosed
  obtain ⟨more, rfl⟩ := hb
  obtain ⟨after, rfl⟩ := hm
  rw [run_append] at hclosed ho
  have hpast := (moves_run ((ofEngine e).run before) more).past_of_open (s := .autoSwitch n)
    (counted_run e before) (decide_eq_true h) (decide_eq_false hclosed)
  rw [run_append] at ho
  exact of_decide_eq_false ((moves_run _ after).past hpast).not_open ho

/-- A shutdown that waits for a reply was asked for. -/
theorem shutdown_asked {id : Nat} (h : ((ofEngine e).run events).workOf? id = some .stop) :
    .ask .shutdown ∈ events := by
  obtain ⟨before, ev, during, rfl, -, hb, -⟩ := exists_begun h
  rcases request_of_begun hb trivial with ⟨q, rfl, hwait⟩ | ⟨k₀, r, ha, hkind, hwait⟩
  · have hq := kind_start hwait
    cases q with
    | shutdown => simp
    | _ => cases hq
  · cases k₀ with
    | stop => cases hwait
    | _ => cases hkind

/-- The root scope is cancelled only if a shutdown was asked for. -/
theorem shutdown_of_root (hown : OwnScopes events)
    (h : .root ∈ ((ofEngine e).run events).cancelled) : .ask .shutdown ∈ events := by
  induction events using List.reverseRecOn with
  | nil => cases h
  | append_singleton events ev ih =>
    have hprefix := List.prefix_append events [ev]
    by_cases hold : .root ∈ ((ofEngine e).run events).cancelled
    · exact hprefix.subset (ih (hown.early hprefix) hold)
    · rw [run_concat] at h
      cases cancels_of_step ((numbered_ofEngine e).run events) h hold with
      | byHand h => exact absurd h (hown.ne_cancel (List.prefix_refl _) rfl)
      | stopped h =>
        rcases h with rfl | ⟨r, ha⟩
        · simp
        · exact hprefix.subset (shutdown_asked (workOf?_of_answered ha))

/-- **A scope that was opened before any shutdown was asked for** is cancelled only when it is
closed. -/
theorem not_open_of_isCancelled (hown : OwnScopes events) {before : List Event}
    (hb : before <+: events) {n : Nat} (h : ((ofEngine e).run before).autoSwitch = some n)
    (hshut : .ask .shutdown ∉ before)
    (hc : ((ofEngine e).run events).isCancelled (.autoSwitch n)) :
    ((ofEngine e).run events).autoSwitch ≠ some n := by
  intro ho
  have hself : .autoSwitch n ∉ ((ofEngine e).run events).cancelled := fun hmem =>
    (cancelledPast_run hown).not_open hmem ho
  have hroot : .root ∈ ((ofEngine e).run events).cancelled := by
    simpa [isCancelled, hself, Scope.isInRoot] using hc
  -- The shutdown was asked for while the scope was open, and has closed it.
  obtain ⟨upTo, later, rfl⟩ := List.append_of_mem (shutdown_of_root hown hroot)
  have hmid : upTo ++ [.ask .shutdown] <+: upTo ++ .ask .shutdown :: later := ⟨later, by simp⟩
  have hmem : Event.ask .shutdown ∈ upTo ++ [.ask .shutdown] := by simp
  have hbefore : before <+: upTo := by
    rcases List.prefix_or_prefix_of_prefix hb hmid with hpre | hpre
    · exact (List.prefix_concat_iff.1 hpre).resolve_left fun heq => hshut (heq ▸ hmem)
    · exact absurd (hpre.subset hmem) hshut
  have hopen := open_between hbefore (List.prefix_append _ _) h ho
  have hnext := open_between (hbefore.trans (List.prefix_append _ _)) hmid h ho
  rw [run_concat, (closes_of_asked rfl hopen).closed] at hnext
  cases hnext

end Session

end Switchboard
