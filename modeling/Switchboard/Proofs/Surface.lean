import Switchboard.Proofs.Advance

/-!
# What stays on the surface

Beside commands and duties, a session does little to its engine: it writes on the status line, and
what is asked for closes a gate and may change one setting.

* `Session.engine_beginJob` and its like — the engine after a run has begun, or goes on.
* `Session.fronts_start` — a caller asks for something.
* `Session.tells_or_passes` — a quiet event.
-/

set_option autoImplicit false

namespace Switchboard

theorem Flush.tells_next (q : OrderQueue) (e : Engine) : e.Tells (next q e).2.1 := by
  unfold next
  split
  · exact .setStatus e _
  · exact .refl e

namespace Session

variable (w : Session)

/-! ## Runs of duties and commands -/

/-- To begin a run does nothing to the engine. -/
theorem engine_beginJob (s : Shift) (j : Job) : (w.beginJob s j).1.engine = w.engine :=
  (crews_beginJob w s j).engine

theorem engine_embed {σ ρ : Type} (f : σ → Work) (g : ρ → Outcome)
    (r : Engine × Progress σ ρ) : (w.embed f g r).1.engine = r.1 :=
  congrArg Session.engine (fst_embed w f g r)

theorem engine_embedFlush (crew : CrewId) (r : OrderQueue × Engine × Progress Flush Unit) :
    (w.embedFlush crew r).1.engine = r.2.1 := (queues_embedFlush w crew r).engine

theorem engine_carryOn {σ : Type} (s : Shift) (d : Duty) (f : σ → Work)
    (r : Engine × Progress σ Tick) : (w.carryOn s d f r).1.engine = r.1 :=
  (guards_carryOn w s d f r).crews.engine

theorem engine_finishRun (s : Shift) (d : Duty) (r : Engine × Tick) :
    (w.finishRun s d r).1.engine = r.1 := (guards_finishRun w s d r).crews.engine

theorem engine_resumePoll (s : Shift) (p : Poll) (reply : Reply p.call) :
    (w.resumePoll s p reply).1.engine =
      (p.finish w.engine (w.crew s.crew).backoff (w.isCancelled s.scope) reply).1 :=
  (crews_resumePoll w s p reply).engine

theorem tells_beginFlush (crew : CrewId) : w.engine.Tells (w.beginFlush crew).1.engine := by
  simp only [beginFlush, engine_embedFlush]
  exact Flush.tells_next _ w.engine

/-! ## Requests -/

/-- Once the dashboard is loaded, the start of the runtime may go on with a refresh. -/
theorem fronts_afterLoading (settings : Settings) :
    w.engine.Fronts (w.afterLoading settings).1.engine := by
  obtain ⟨e, he, h⟩ := opens_afterLoading w settings
  exact he.trans_tells h.engine

/-- **What is asked for** stays on the surface at first, the setting apart that it is about. -/
theorem fronts_start (q : Request) : (q.setting w.engine).Fronts (w.start q).1.engine := by
  by_cases hq : (∃ scope j, q = .job scope j) ∨ q = .flush
  · rcases hq with ⟨scope, j, rfl⟩ | rfl
    · simp only [start, engine_beginJob]
      exact .refl _
    · exact (tells_beginFlush w .manual).fronts
  · rw [not_or] at hq
    obtain ⟨e, he, h⟩ := directs_start (w := w) (fun scope j h => hq.1 ⟨scope, j, h⟩) hq.2
    exact he.trans_tells h.engine

/-! ## Quiet events -/

variable {w}

/-- **A quiet event** stays on the status line, or time passes. -/
theorem tells_or_passes {ev : Event} (h : w.advance? ev = none) (ha : ∀ a, ev ≠ .act a) :
    w.engine.Tells (w.step ev).engine ∨
      ∃ ms, (w.step ev).engine = { w.engine with now := w.engine.now + Int64.ofNat ms } := by
  rcases settles_or_passes h ha with ⟨w', rfl | rfl, hs⟩ | ⟨ms, hm⟩
  · exact .inl hs.engine
  · exact .inl hs.engine
  · exact .inr ⟨ms, congrArg Session.engine hm⟩

end Session

end Switchboard
