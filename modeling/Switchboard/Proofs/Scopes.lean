import Switchboard.Proofs.Advance

/-!
# What is no run of a duty

Runs of duties are begun and ended by the crews. Everything else that happens in a session leaves their
guards and their pollers alone, and moves the scopes as they can be moved.

* `Session.Grounded` — scopes may have been moved, but no run of a duty has begun or ended.
* `Session.grounded_start`, `Session.grounded_resume` — requests and replies that are no concern of a
  run.
* `Session.grounded_conclude`, `Session.grounded_of_quiet`, `Session.grounded_act` — settling a
  task, quiet events and what a caller does at once.
-/

set_option autoImplicit false

namespace Switchboard.Session

/-- No run of a duty has begun or ended, and the scopes were moved as they can be. -/
structure Grounded (w w' : Session) : Prop where
  flights : w'.flights = w.flights
  backoff : w'.backoff = w.backoff
  book : w.book.Moves w'.book

variable {w w' w'' : Session}

theorem Grounded.trans (h : w.Grounded w') (h' : w'.Grounded w'') : w.Grounded w'' :=
  ⟨h'.flights.trans h.flights, h'.backoff.trans h.backoff, h.book.trans h'.book⟩

theorem Directs.grounded {e : Engine} (h : w.Directs e w') : w.Grounded w' :=
  ⟨h.flights, h.backoff, h.book⟩

theorem Settles.grounded (h : w.Settles w') : w.Grounded w' := ⟨h.flights, h.backoff, by rw [h.book]⟩

theorem Queues.grounded (h : w.Queues w') : w.Grounded w' := ⟨h.flights, h.backoff, by rw [h.book]⟩

theorem grounded_embedFlush (w : Session) (crew : CrewId)
    (r : OrderQueue × Engine × Progress Flush Unit) : w.Grounded (w.embedFlush crew r).1 :=
  (Directs.setEngine w _).grounded.trans (queues_embedFlush w crew r).grounded

/-- What is asked for is no run, unless it is asked for as one. -/
theorem grounded_start {q : Request} (hq : ∀ scope j, q ≠ .job scope j) :
    w.Grounded (w.start q).1 := by
  by_cases hf : q = .flush
  · subst hf
    exact grounded_embedFlush w .manual _
  · obtain ⟨e, -, h⟩ := directs_start (w := w) hq hf
    exact h.grounded

theorem grounded_resume {k : Work} (hk : k.shift? = none) (r : Reply k.call) :
    w.Grounded (w.resume k r).1 := by
  cases k with
  | flush crew f => exact grounded_embedFlush w crew _
  | _ =>
    obtain ⟨e, h⟩ := directs_resume (w := w) hk (fun _ => rfl) r
    exact h.grounded

/-- Settling a task begins and ends no run. -/
theorem grounded_conclude (w : Session) (id : Nat) (errand : Errand)
    (p : Progress Work Outcome) : w.Grounded (w.conclude id errand p) :=
  (rests_conclude w id errand p).settles.grounded

theorem grounded_act (w : Session) (a : Action) : w.Grounded (w.act a) := by
  by_cases hq : ∃ crew names, a = .queueOrder crew names
  · obtain ⟨crew, names, rfl⟩ := hq
    obtain ⟨w', hq, hw⟩ := queues_queueOrder w crew names
    rw [act, hw]
    exact ((Directs.onEngine w _).grounded.trans hq.grounded).trans (Directs.spawn w' _).grounded
  · obtain ⟨e, h⟩ := directs_act (w := w) fun crew names h => hq ⟨crew, names, h⟩
    exact h.grounded

/-- A quiet event moves no scope. -/
theorem book_of_quiet {ev : Event} (h : w.advance? ev = none) (ha : ∀ a, ev ≠ .act a) :
    (w.step ev).book = w.book := by
  rcases settles_or_passes h ha with ⟨w', rfl | rfl, hs⟩ | ⟨ms, hm⟩
  · exact hs.book
  · exact hs.book
  · rw [hm]
    rfl

/-- A quiet event begins and ends no run. -/
theorem grounded_of_quiet {ev : Event} (h : w.advance? ev = none) (ha : ∀ a, ev ≠ .act a) :
    w.Grounded (w.step ev) := by
  rcases settles_or_passes h ha with ⟨w', rfl | rfl, hs⟩ | ⟨ms, hm⟩
  · exact hs.grounded
  · exact (Directs.spawn w .request).grounded.trans hs.grounded
  · rw [hm]
    exact ⟨rfl, rfl, .refl⟩

end Switchboard.Session
