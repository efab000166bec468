import Switchboard.Proofs.DutyRuns
import Switchboard.Proofs.Outstanding

/-!
# Errands

What a task works at is what its errand is for: a loop makes runs of its duty under its scope, and the
other errands that nobody waits for save an order or sync the identity. So everything else that waits
for a reply is a request, and a caller gets what comes of it.

* `Session.working_step` — a task that waits for a reply after a step has done so before, or the step
  has taken it on.
* `Session.onErrand_run` — tasks work at what their errands are for.
* `Session.request_of_begun` — so work that no other errand takes is begun by a request.
-/

set_option autoImplicit false

namespace Switchboard

/-- Work of this kind is never done but for a request. -/
def Work.Kind.IsAsked : Kind → Prop
  | load | flush _ | run _ _ => False
  | _ => True

/-- Work of this kind is done on the errand. -/
def Errand.Takes : Errand → Work.Kind → Prop
  | request, _ => True
  | loop r s, kind => kind = .run s r.job.duty
  | sync, kind => kind = .load
  | flush crew, kind => kind = .flush crew

theorem Errand.Takes.eq_request {errand : Errand} {kind : Work.Kind} (h : errand.Takes kind)
    (hk : kind.IsAsked) : errand = .request := by
  cases errand with
  | request => rfl
  | loop r s =>
    obtain rfl : kind = _ := h
    cases hk
  | sync =>
    obtain rfl : kind = _ := h
    cases hk
  | flush crew =>
    obtain rfl : kind = _ := h
    cases hk

namespace Session

variable {w : Session}

/-- A task that is still there is the task with its id. -/
theorem Numbered.task?_of_mem {w' : Session} (hw : w'.Numbered) {id : Nat} {t : Task}
    (ht : w.task? id = some t) (hmem : t ∈ w'.tasks) : w'.task? id = some t := by
  rw [← id_of_task? ht]
  exact hw.task?_eq_some hmem

/-- A quiet event does nothing to a task that waits for a reply. -/
theorem step_eq_of_quiet {ev : Event} (hquiet : w.advance? ev = none) (ha : ∀ a, ev ≠ .act a)
    (hw : w.Numbered) {k : Work} (hk : w.workOf? (w.subject ev) = some k) : w.step ev = w := by
  obtain ⟨⟨id, errand, stage⟩, ht, rfl : stage = .working k⟩ := workOf?_eq_some_iff.1 hk
  have isNext (hid : w.subject ev = w.nextTask) : w.step ev = w := by
    rw [hid, hw.task?_next] at ht
    cases ht
  cases ev with
  | act a => exact absurd rfl (ha a)
  | ask r => exact isNext rfl
  | pass ms => exact isNext rfl
  | reply id c r => exact step_of_not_answered (Option.map_eq_none_iff.1 hquiet)
  | expire id => exact step_expire_of_not_answered (Option.map_eq_none_iff.1 hquiet)
  | _ =>
    simp only [subject] at ht
    simp only [step, ht]

/-- A task that is taken on and waits has the errand on which it was taken on. -/
theorem errand_of_conclude {id : Nat} {errand : Errand} {p : Progress Work Outcome} {k : Work}
    (hp : p.waiting? = some k) {t : Task} (ht : (w.conclude id errand p).task? id = some t) :
    t.errand = errand := by
  cases p with
  | done o => cases hp
  | waiting k' =>
    simp only [conclude, task?_setTask, if_pos, Option.map_eq_some_iff] at ht
    obtain ⟨_, -, rfl⟩ := ht
    rfl

/-- **A task that waits for a reply after a step** has done so before, or the step has taken it
on. -/
theorem working_step (hw : w.Numbered) {ev : Event} {id : Nat} {t : Task} {k : Work}
    (ht : (w.step ev).task? id = some t) (hs : t.stage = .working k) :
    w.task? id = some t ∨
      ∃ r, w.Taken ev t.errand r ∧ w.subject ev = id ∧ r.2.waiting? = some k := by
  have hk : (w.step ev).workOf? id = some k := workOf?_eq_some_iff.2 ⟨t, ht, hs⟩
  have stays {t₀ : Task} (ht₀ : w.task? id = some t₀) (hmem : t₀ ∈ (w.step ev).tasks) :
      w.task? id = some t := by
    rw [ht₀, ← ht]
    exact ((hw.step ev).task?_of_mem ht₀ hmem).symm
  by_cases hact : ∃ a, ev = .act a
  · obtain ⟨a, rfl⟩ := hact
    have hk₀ : w.workOf? id = some k := ((grows_act w a).workOf? id).symm.trans hk
    obtain ⟨t₀, ht₀, -⟩ := workOf?_eq_some_iff.1 hk₀
    exact .inl (stays ht₀ ((grows_act w a).mem (List.mem_of_find?_eq_some ht₀)))
  have ha : ∀ a, ev ≠ .act a := fun a he => hact ⟨a, he⟩
  by_cases hid : w.subject ev = id
  · subst hid
    cases hadv : w.advance? ev with
    | none =>
      have hk₀ : w.workOf? (w.subject ev) = some k :=
        ((still_of_quiet hw hadv ha).workOf? _).symm.trans hk
      rw [step_eq_of_quiet hadv ha hw hk₀] at ht
      exact .inl ht
    | some r =>
      obtain ⟨w', p⟩ := r
      obtain ⟨errand, htaken, hstep⟩ := taken_of_advance hadv
      rw [workOf?_step_of_advance hadv, if_pos rfl] at hk
      rw [hstep] at ht
      rw [errand_of_conclude hk ht]
      exact .inr ⟨(w', p), htaken, rfl, hk⟩
  · obtain ⟨t₀, ht₀, -⟩ := workOf?_eq_some_iff.1
      ((workOf?_step_cases hw hk).resolve_right fun h => hid h.1)
    have hne : t₀.id ≠ w.subject ev := by
      rw [id_of_task? ht₀]
      exact Ne.symm hid
    exact .inl (stays ht₀ (mem_step hw (List.mem_of_find?_eq_some ht₀) hne))

/-- Tasks work at what their errands are for. -/
def OnErrand (w : Session) : Prop :=
  ∀ id t k, w.task? id = some t → t.stage = .working k → t.errand.Takes k.kind

theorem onErrand_step (hw : w.Numbered) (h : w.OnErrand) (ev : Event) :
    (w.step ev).OnErrand := by
  intro id t k ht hs
  rcases working_step hw ht hs with ht | ⟨r, htaken, -, hk⟩
  · exact h id t k ht hs
  generalize t.errand = errand at htaken
  cases htaken with
  | @resume _ _ k₀ reply ht₀ ha =>
    rw [kind_resume hk]
    exact h _ _ k₀ ht₀ rfl
  | start q hq => trivial
  | job ht₀ hstage hj =>
    obtain ⟨-, -, rfl⟩ := waiting_beginJob hk
    rw [kind_opening]
    exact congrArg (fun j : Job => Work.Kind.run _ j.duty) hj.symm
  | flush ht₀ hstage => exact kind_embedFlush hk
  | sync ht₀ hstage =>
    cases hk
    rfl

/-- **Tasks work at what their errands are for**, in every state of a run. -/
theorem onErrand_run (e : Engine) (events : List Event) : ((ofEngine e).run events).OnErrand := by
  refine (numbered_ofEngine e).run_induction (P := OnErrand) (fun w ev hw h => ?_) ?_ events
  · exact onErrand_step hw h ev
  · intro id t k ht
    cases ht

/-- Work that is done for requests only is begun by one, or goes on from work of its kind. -/
theorem request_of_begun {ev : Event} {k : Work} (hb : w.begun? ev = some k)
    (hk : k.kind.IsAsked) :
    (∃ q, ev = .ask q ∧ ((w.spawn .request).start q).2.waiting? = some k) ∨
      ∃ (k₀ : Work) (r : Reply k₀.call), w.answered? ev = some ⟨k₀, r⟩ ∧ k.kind = k₀.kind ∧
        (w.resume k₀ r).2.waiting? = some k := by
  obtain ⟨r, hr, hwait⟩ := Option.bind_eq_some_iff.1 hb
  obtain ⟨errand, htaken, -⟩ := taken_of_advance hr
  cases htaken with
  | @resume _ _ k₀ reply ht ha => exact .inr ⟨k₀, reply, ha, kind_resume hwait, hwait⟩
  | start q hq => exact .inl ⟨q, hq, hwait⟩
  | @job _ r r' s _ ht hs hj =>
    obtain ⟨-, -, rfl⟩ := waiting_beginJob hwait
    have htakes : (Errand.loop r s).Takes _ := kind_opening w.engine s r.job
    cases htakes.eq_request hk
  | @flush _ crew _ ht hs =>
    have htakes : (Errand.flush crew).Takes _ := kind_embedFlush hwait
    cases htakes.eq_request hk
  | sync ht hs =>
    cases hwait
    cases hk

end Session

end Switchboard
