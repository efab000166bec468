import Mathlib.Data.List.Induction
import Switchboard.Proofs.Advance

/-!
# Calls under way

A task that waits for a reply has waited for it ever since an event of its own made it wait.

* `Since` — something has been so from some point of a history on; `Since.of_step` finds the point.
* `Session.workOf?_step_cases` — what a task waits with after a step it waited with before, or the
  step began it.
* `Session.workOf?_step_or_answered` — what a task waits with before a step it waits with afterwards,
  or the step brought the reply.
* `Session.exists_begun` — so a call under way has been so since the event that began it.
* `Session.task?_run_of_none` — a task that has ended does not come back.
-/

set_option autoImplicit false

namespace Switchboard

/-- From some point of the history on `P` has been so, and at that point `Q` was. -/
def Since {α : Type} (P Q : List α → Prop) (history : List α) : Prop :=
  ∃ before during, history = before ++ during ∧ Q before ∧
    ∀ done, done <+: during → P (before ++ done)

namespace Since

variable {α : Type} {P Q : List α → Prop}

/-- What is so at the end of a history, and at no step comes about without `Q`, has been so since
`Q`. -/
theorem of_step (h₀ : P [] → Q []) (hs : ∀ xs x, P (xs ++ [x]) → P xs ∨ Q (xs ++ [x]))
    {history : List α} (h : P history) : Since P Q history := by
  induction history using List.reverseRecOn with
  | nil =>
    refine ⟨[], [], rfl, h₀ h, fun done hd => ?_⟩
    rw [List.prefix_nil.1 hd]
    exact h
  | append_singleton xs x ih =>
    rcases hs xs x h with hp | hq
    · obtain ⟨before, during, rfl, hb, hd⟩ := ih hp
      refine ⟨before, during ++ [x], List.append_assoc .., hb, fun done hdone => ?_⟩
      rcases List.prefix_concat_iff.1 hdone with rfl | hdone
      · rw [List.append_assoc] at h
        exact h
      · exact hd done hdone
    · refine ⟨xs ++ [x], [], (List.append_nil _).symm, hq, fun done hd => ?_⟩
      rw [List.prefix_nil.1 hd, List.append_nil]
      exact h

end Since

namespace Session

/-- What a task waits with after a step it waited with before, or the step is its own and began
it. -/
theorem workOf?_step_cases {w : Session} (hw : w.Numbered) {ev : Event} {id : Nat} {k : Work}
    (h : (w.step ev).workOf? id = some k) :
    w.workOf? id = some k ∨ w.subject ev = id ∧ w.begun? ev = some k := by
  by_cases ha : ∃ a, ev = .act a
  · obtain ⟨a, rfl⟩ := ha
    rw [← (grows_act w a).workOf? id]
    exact .inl h
  cases hadv : w.advance? ev with
  | some r =>
    obtain ⟨w', p⟩ := r
    rw [workOf?_step_of_advance hadv] at h
    split at h
    · rename_i hid
      refine .inr ⟨hid.symm, ?_⟩
      simpa [begun?, hadv] using h
    · exact .inl h
  | none =>
    have hquiet := still_of_quiet hw hadv fun a he => ha ⟨a, he⟩
    rw [hquiet.workOf?] at h
    exact .inl h

/-- An event concerns the work of one task only. -/
theorem workOf?_step_of_ne {w : Session} (hw : w.Numbered) {ev : Event} {id : Nat}
    (hid : id ≠ w.subject ev) : (w.step ev).workOf? id = w.workOf? id := by
  by_cases ha : ∃ a, ev = .act a
  · obtain ⟨a, rfl⟩ := ha
    exact (grows_act w a).workOf? id
  cases hadv : w.advance? ev with
  | none => exact (still_of_quiet hw hadv fun a he => ha ⟨a, he⟩).workOf? id
  | some r =>
    obtain ⟨w', p⟩ := r
    rw [workOf?_step_of_advance hadv, if_neg hid]

/-- Work that waits for a reply goes on waiting, unless the event is that reply. -/
theorem workOf?_step_or_answered {w : Session} (hw : w.Numbered) {id : Nat} {k : Work}
    (h : w.workOf? id = some k) (ev : Event) :
    (w.step ev).workOf? id = some k ∨
      w.subject ev = id ∧ ∃ r : Reply k.call, w.answered? ev = some ⟨k, r⟩ := by
  by_cases hid : id = w.subject ev
  swap
  · exact .inl ((workOf?_step_of_ne hw hid).trans h)
  subst hid
  by_cases ha : ∃ a, ev = .act a
  · obtain ⟨a, rfl⟩ := ha
    exact .inl (((grows_act w a).workOf? _).trans h)
  cases hadv : w.advance? ev with
  | none =>
    have hquiet := still_of_quiet hw hadv fun a he => ha ⟨a, he⟩
    exact .inl ((hquiet.workOf? _).trans h)
  | some r =>
    have stands (hf : w.workOf? (w.subject ev) = none) : False := by
      rw [hf] at h
      cases h
    cases stretch_of_advance hadv with
    | @resume k' reply hans =>
      obtain rfl : k' = k := Option.some.inj ((workOf?_of_answered hans).symm.trans h)
      exact .inr ⟨rfl, reply, hans⟩
    | start q hq =>
      subst hq
      exact (stands (by simp [subject, workOf?, hw.task?_next])).elim
    | job s j hf => exact (stands hf.workOf?).elim
    | flush crew hf => exact (stands hf.workOf?).elim
    | sync hf => exact (stands hf.workOf?).elim

theorem run_concat (w : Session) (events : List Event) (ev : Event) :
    w.run (events ++ [ev]) = (w.run events).step ev := by
  simp [run_append]

theorem workOf?_ofEngine (e : Engine) (id : Nat) : (ofEngine e).workOf? id = none := rfl

/-- **A call under way has been so since the event of its task that began it.** -/
theorem exists_begun {e : Engine} {events : List Event} {id : Nat} {k : Work}
    (h : ((ofEngine e).run events).workOf? id = some k) :
    ∃ before begins during, events = before ++ begins :: during ∧
      ((ofEngine e).run before).subject begins = id ∧
      ((ofEngine e).run before).begun? begins = some k ∧
      ∀ done, done <+: during →
        ((ofEngine e).run (before ++ begins :: done)).workOf? id = some k := by
  have hsince : Since (fun history => ((ofEngine e).run history).workOf? id = some k)
      (fun history => ∃ before begins, history = before ++ [begins] ∧
        ((ofEngine e).run before).subject begins = id ∧
        ((ofEngine e).run before).begun? begins = some k) events := by
    refine Since.of_step (fun h₀ => ?_) (fun history ev hk => ?_) h
    · rw [run_nil, workOf?_ofEngine] at h₀
      cases h₀
    · rw [run_concat] at hk
      rcases workOf?_step_cases ((numbered_ofEngine e).run history) hk with hk | ⟨hs, hb⟩
      · exact .inl hk
      · exact .inr ⟨history, ev, rfl, hs, hb⟩
  obtain ⟨upTo, during, hs, ⟨before, begins, rfl, hid, hb⟩, hd⟩ := hsince
  refine ⟨before, begins, during, by simpa using hs, hid, hb, fun done hdone => ?_⟩
  have hk := hd done hdone
  rwa [List.append_assoc, List.singleton_append] at hk

/-! ## Tasks that have ended -/

theorem Grows.task?_eq_none {w w' : Session} (h : w.Grows w') {id : Nat} (hid : id < w.nextTask)
    (hn : w.task? id = none) : w'.task? id = none := by
  have key {ts : List Task} {n : Nat} (hs : Spawned w.tasks w.nextTask ts n) :
      ts.find? (·.id == id) = none := by
    induction hs with
    | refl => exact hn
    | @spawn ts n errand hs ih =>
      have hne : n ≠ id := Nat.ne_of_gt (Nat.lt_of_lt_of_le hid hs.le)
      simp [List.find?_append, ih, hne]
  exact key h

section Gone

variable {w : Session} {j : Nat} (h : w.task? j = none)

include h

theorem task?_setTask_of_none (id : Nat) (errand : Errand) (stage : Stage) :
    (w.setTask id errand stage).task? j = none := by
  rw [task?_setTask, h]
  split <;> rfl

theorem task?_endTask_of_none (id : Nat) : (w.endTask id).task? j = none := by
  rw [task?_endTask, h]
  split <;> rfl

theorem task?_restAfter_of_none (id : Nat) (r : Routine) (s : Shift) (o : Outcome) :
    (w.restAfter id r s o).task? j = none := by
  have rests (ms : UInt64) (errand : Errand) : (w.rest id errand ms).task? j = none :=
    task?_setTask_of_none h id errand _
  unfold restAfter
  cases r with
  | poll next => exact task?_setTask_of_none h id _ _
  | keepalive reason =>
    dsimp only
    split
    · exact rests _ _
    · unfold planKeepalive
      split
      · exact task?_endTask_of_none h id
      · exact rests _ _
  | _ => exact rests _ _

theorem task?_conclude_of_none (id : Nat) (errand : Errand) (p : Progress Work Outcome) :
    (w.conclude id errand p).task? j = none := by
  cases p with
  | waiting k => exact task?_setTask_of_none h id errand _
  | done o =>
    cases errand with
    | loop r s => exact task?_restAfter_of_none h id r s o
    | _ => exact task?_endTask_of_none h id

theorem task?_afterWatch_of_none (id : Nat) (errand : Errand) :
    (w.afterWatch id errand).task? j = none := by
  unfold afterWatch
  split
  · rename_i r s
    split
    · exact task?_endTask_of_none h id
    · have hcrew :
          (w.setCrew s.crew { w.crew s.crew with startupChecked := true }).task? j = none := by
        cases s.crew <;> exact h
      dsimp only
      split
      · exact task?_endTask_of_none hcrew id
      · exact task?_setTask_of_none (w := { w.setCrew s.crew _ with random := _ }) hcrew id _ _
  · exact task?_endTask_of_none h id

theorem task?_watch_of_none (id : Nat) (errand : Errand) : (w.watch id errand).task? j = none := by
  unfold watch
  split
  · exact task?_endTask_of_none h id
  split
  · exact task?_afterWatch_of_none h id errand
  · exact task?_setTask_of_none h id errand _

end Gone

/-- **A task that has ended does not come back.** -/
theorem task?_step_of_none {w : Session} {id : Nat} (hid : id < w.nextTask)
    (h : w.task? id = none) (ev : Event) : (w.step ev).task? id = none := by
  by_cases hact : ∃ a, ev = .act a
  · obtain ⟨a, rfl⟩ := hact
    exact (grows_act w a).task?_eq_none hid h
  cases hadv : w.advance? ev with
  | some r =>
    obtain ⟨w', p⟩ := r
    obtain ⟨errand, hstep⟩ := step_of_advance hadv
    rw [hstep]
    exact task?_conclude_of_none ((grows_of_advance hadv).1.task?_eq_none hid h) _ _ _
  | none =>
    generalize hs : w.step ev = w'
    cases hs ▸ lull_of_quiet hadv fun a he => hact ⟨a, he⟩ with
    | same => exact h
    | pass ms => exact h
    | await hnext =>
      exact task?_watch_of_none ((Directs.spawn w .request).grows.task?_eq_none hid h) _ _
    | stand errand hstage hid' => exact task?_setTask_of_none h _ _ _
    | rest r s hid' => exact task?_restAfter_of_none h _ _ _ _
    | watch errand hid' => exact task?_watch_of_none h _ _
    | arrive errand hid' => exact task?_afterWatch_of_none h _ _
    | quit hid' => exact task?_endTask_of_none h _

theorem task?_run_of_none {w : Session} {id : Nat} (hid : id < w.nextTask)
    (h : w.task? id = none) (events : List Event) : (w.run events).task? id = none := by
  induction events generalizing w with
  | nil => exact h
  | cons ev events ih =>
    exact ih (Nat.lt_of_lt_of_le hid (nextTask_le_step w ev)) (task?_step_of_none hid h ev)

/-- Nothing that the backend replies to it matters any more. -/
theorem step_reply_of_none {w : Session} {id : Nat} (h : w.task? id = none) (c : Call)
    (r : Reply c) : w.step (.reply id c r) = w := by
  simp only [step, h]

end Session

end Switchboard
