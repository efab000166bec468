import Switchboard.Proofs.Errands
import Switchboard.Proofs.ModelWrites

/-!
# Calls of a loop that was called off

Once its scope is cancelled a loop should make no call any more. It makes one all the same where it does
not look: the hook watch makes its first run at once, a rest that is over may end by its time rather
than by the cancellation, and two runs go on to a second call without asking.

* `Session.LateCall` — these four ways.
* `Session.opens_of_loop` — a loop begins a run on the first turn of the hook watch, or after a rest.
* `Session.goesOn_of_cancelled` — a run that was called off goes on to the action after a switch, or
  from an installation to the version.
* `Session.lateCall_of_cancelled` — so there is no fifth way, and in the last two the call before was
  made in time.
* `Session.first_run_of_cancelled_watch` — the hook watch calls although it never was to.
-/

set_option autoImplicit false

namespace Switchboard

namespace Session

/-- The work waits for the reply to a call that the task made when the scope was not cancelled yet. -/
def CalledInTime (e : Engine) (events : List Event) (id : Nat) (scope : Scope) (k : Work) : Prop :=
  ∃ earlier begins between, events = earlier ++ begins :: between ∧
    ((ofEngine e).run earlier).subject begins = id ∧
    ((ofEngine e).run earlier).isCancelled scope = false ∧
    ((ofEngine e).run earlier).begun? begins = some k ∧
    ∀ done, done <+: between → ((ofEngine e).run (earlier ++ begins :: done)).workOf? id = some k

/-- How a loop, a task with this id, begins a call although its scope is cancelled. -/
inductive LateCall (e : Engine) (events : List Event) (id : Nat) (r : Routine) (s : Shift) :
    Event → Work → Prop where
  /-- The hook watch has its first turn, and makes its first run at once. -/
  | firstRun (hr : r = .hookWatch)
      (ht : ((ofEngine e).run events).task? id = some ⟨id, .loop r s, .fresh⟩) :
    LateCall e events id r s (.turn id) (.hookWatch s .checking)
  /-- The time of a rest is over, so that the rest ends by its time or by the cancellation. -/
  | rested (due : Nat) (hdue : due ≤ ((ofEngine e).run events).uptime)
      (ht : ((ofEngine e).run events).task? id = some ⟨id, .loop r s, .resting due⟩) :
    LateCall e events id r s (.wake id) (r.job.opening ((ofEngine e).run events).engine s)
  /-- The action after a switch has found the hook. -/
  | found (x : Switched)
      (ht : CalledInTime e events id s.scope (.autoSwitch s (.acting x .checking))) :
    LateCall e events id r s (.reply id .isHookInstalled (.ok true))
      (.autoSwitch s (.acting x (.acting .hook)))
  /-- The hook watch has installed the hook. -/
  | installed (previous current message : String)
      (ht : CalledInTime e events id s.scope (.hookWatch s (.installing previous current))) :
    LateCall e events id r s (.reply id .installHook (.ok message))
      (.hookWatch s (.rereading previous current message))

variable {w : Session} {ev : Event} {id : Nat} {r : Routine} {s : Shift}

/-- A call that a loop makes belongs to a run of its duty, under its scope. -/
theorem kind_of_loop (hw : w.Numbered) (hon : w.OnErrand) {stage : Stage}
    (ht : w.task? id = some ⟨id, .loop r s, stage⟩) (hid : w.subject ev = id) {k : Work}
    (hb : w.begun? ev = some k) : k.kind = .run s r.job.duty := by
  subst hid
  obtain ⟨x, hx, hwait⟩ := Option.bind_eq_some_iff.1 hb
  obtain ⟨errand, htaken, -⟩ := taken_of_advance hx
  cases htaken with
  | @resume _ _ k₀ reply ht₀ ha =>
    rw [ht] at ht₀
    cases ht₀
    exact (kind_resume hwait).trans (hon _ _ k₀ ht rfl)
  | start q hq =>
    subst hq
    rw [subject, hw.task?_next] at ht
    cases ht
  | job ht₀ hs hj =>
    rw [ht] at ht₀
    cases ht₀
    obtain ⟨-, -, rfl⟩ := waiting_beginJob hwait
    exact kind_opening w.engine s _
  | flush ht₀ hs =>
    rw [ht] at ht₀
    cases ht₀
  | sync ht₀ hs =>
    rw [ht] at ht₀
    cases ht₀

/-- **A loop begins a run** on the first turn of the hook watch, or after a rest. -/
theorem opens_of_loop (hw : w.Numbered) {stage : Stage}
    (ht : w.task? id = some ⟨id, .loop r s, stage⟩) (hid : w.subject ev = id)
    (ha : w.answered? ev = none) {k : Work} (hb : w.begun? ev = some k) :
    (ev = .turn id ∧ stage = .fresh ∧ r = .hookWatch ∧ k = .hookWatch s .checking) ∨
      ∃ due, ev = .wake id ∧ stage = .resting due ∧ due ≤ w.uptime ∧
        k = r.job.opening w.engine s := by
  obtain ⟨x, hx, hwait⟩ := Option.bind_eq_some_iff.1 hb
  have noNext (hnext : w.subject ev = w.nextTask) : False := by
    rw [← hid, hnext, hw.task?_next] at ht
    cases ht
  cases ev with
  | ask q => exact (noNext rfl).elim
  | act a => exact (noNext rfl).elim
  | pass ms => exact (noNext rfl).elim
  | turn id' =>
    obtain rfl : id' = id := hid
    left
    simp only [advance?, ht] at hx
    split at hx
    · rename_i heq
      cases heq
      cases hx
      obtain ⟨-, -, rfl⟩ := waiting_beginJob hwait
      exact ⟨rfl, rfl, rfl, rfl⟩
    · rename_i heq
      cases heq
    · cases hx
  | wake id' =>
    obtain rfl : id' = id := hid
    right
    simp only [advance?, ht] at hx
    split at hx
    · rename_i heq
      cases heq
      split at hx
      · rename_i hdue
        cases hx
        obtain ⟨-, -, rfl⟩ := waiting_beginJob hwait
        exact ⟨_, rfl, rfl, hdue, rfl⟩
      · cases hx
    · rename_i heq
      cases heq
    · cases hx
  | _ =>
    simp only [advance?, ha] at hx
    cases hx

/-- **A run that was called off goes on** to the action after a switch, or from an installation to the
version, and nowhere else: all other ways ask for the scope first. -/
theorem goesOn_of_cancelled {k₀ k : Work} {reply : Reply k₀.call}
    (ha : w.answered? ev = some ⟨k₀, reply⟩) (hb : w.begun? ev = some k)
    (hk : k.shift? = some s) (hc : w.isCancelled s.scope) :
    (∃ x, (⟨k₀, reply⟩ : (k : Work) × Reply k.call) =
        ⟨.autoSwitch s (.acting x .checking), .ok true⟩ ∧
        k = .autoSwitch s (.acting x (.acting .hook))) ∨
      ∃ previous current message, (⟨k₀, reply⟩ : (k : Work) × Reply k.call) =
        ⟨.hookWatch s (.installing previous current), .ok message⟩ ∧
        k = .hookWatch s (.rereading previous current message) := by
  cases runBegun_of_begun hb (by rw [hk]; rfl) with
  | opens s' j hbar hfl =>
    rw [begun?_of_answered ha] at hb
    exact absurd hb (waiting?_resume_ne_opening k₀ reply w.engine s' j)
  | @switching s' a a' r ha' hwait =>
    cases hk
    rw [ha] at ha'
    cases ha'
    cases AutoSwitch.goesOn_of_waiting hwait with
    | acts hc' hr => rw [hc] at hc'; cases hc'
    | calibrates hc' hr hn => rw [hc] at hc'; cases hc'
    | found x => exact .inl ⟨x, rfl, rfl⟩
  | @watching s' h h' r ha' hwait =>
    cases hk
    rw [ha] at ha'
    cases ha'
    cases HookWatch.goesOn_of_waiting hwait with
    | found hc' => rw [hc] at hc'; cases hc'
    | outdated hc' hv hp hne hg => rw [hc] at hc'; cases hc'
    | installed previous current message =>
      exact .inr ⟨previous, current, message, rfl, rfl⟩

variable {e : Engine} {events : List Event}

/-- The work of a run that only begins or goes on in time was begun in time. -/
theorem calledInTime_of_workOf? {k : Work}
    (hk : ((ofEngine e).run events).workOf? id = some k)
    (htime : ∀ (w : Session) (ev : Event), w.begun? ev = some k → w.isCancelled s.scope = false) :
    CalledInTime e events id s.scope k := by
  obtain ⟨earlier, begins, between, hs, hid, hb, hd⟩ := exists_begun hk
  exact ⟨earlier, begins, between, hs, hid, htime _ _ hb, hb, hd⟩

/-- **A loop that was called off makes a call in four ways only.** In every run, if the scope of a loop
is cancelled and the loop makes a call: it is the hook watch on its first turn; or a rest of the loop is
over, whose end the cancellation was to be; or the hook was found for the action after a switch, or
installed by the hook watch, with a call that was made before the cancellation. -/
theorem lateCall_of_cancelled {stage : Stage} {k : Work}
    (ht : ((ofEngine e).run events).task? id = some ⟨id, .loop r s, stage⟩)
    (hid : ((ofEngine e).run events).subject ev = id)
    (hc : ((ofEngine e).run events).isCancelled s.scope)
    (hb : ((ofEngine e).run events).begun? ev = some k) : LateCall e events id r s ev k := by
  have hw := (numbered_ofEngine e).run events
  have hkind := kind_of_loop hw (onErrand_run e events) ht hid hb
  have hshift : k.shift? = some s := by
    rw [← k.shift?_kind, hkind]
    rfl
  cases ha : ((ofEngine e).run events).answered? ev with
  | none =>
    rcases opens_of_loop hw ht hid ha hb with ⟨rfl, rfl, hr, rfl⟩ | ⟨due, rfl, rfl, hdue, rfl⟩
    · exact .firstRun hr ht
    · exact .rested due hdue ht
  | some a =>
    obtain ⟨k₀, reply⟩ := a
    have hwork := workOf?_of_answered ha
    rw [hid] at hwork
    rcases goesOn_of_cancelled ha hb hshift hc with ⟨x, heq, rfl⟩ | ⟨p, c, message, heq, rfl⟩
    · cases heq
      rw [reply_of_answered ha rfl, hid]
      refine .found x (calledInTime_of_workOf? hwork fun w ev h => ?_)
      rcases switching_of_begun h with hopen | ⟨a₀, r₀, -, hgo⟩
      · cases hopen
      · cases hgo with
        | acts hc' hr => exact hc'
    · cases heq
      rw [reply_of_answered ha rfl, hid]
      refine .installed p c message (calledInTime_of_workOf? hwork fun w ev h => ?_)
      rcases watching_of_begun h with hopen | ⟨h₀, r₀, -, hgo⟩
      · cases hopen
      · cases hgo with
        | outdated hc' hv hp hne hg => exact hc'

/-- **The hook watch calls although it never was to**: its scope is cancelled before it has its first
turn. Automatic switching, started likewise, rests first and makes no call. -/
theorem first_run_of_cancelled_watch :
    let events (d : Duty) : List Event :=
      [.act (.cancel (.manual 0)), .act (.startLoop (.manual 0) d)]
    let s : Shift := ⟨.manual, .manual 0⟩
    let w := (ofEngine Engine.blank).run (events .hookWatch)
    w.task? 0 = some ⟨0, .loop .hookWatch s, .fresh⟩ ∧ w.isCancelled s.scope ∧
      w.begun? (.turn 0) = some (.hookWatch s .checking) ∧
      LateCall Engine.blank (events .hookWatch) 0 .hookWatch s (.turn 0) (.hookWatch s .checking) ∧
      ((ofEngine Engine.blank).run (events .autoSwitch)).begun? (.turn 0) = none := by
  intro events s w
  have ht : w.task? 0 = some ⟨0, .loop .hookWatch s, .fresh⟩ := by decide +kernel
  have hc : w.isCancelled s.scope := by decide +kernel
  have hb : w.begun? (.turn 0) = some (.hookWatch s .checking) := by decide +kernel
  exact ⟨ht, hc, hb, lateCall_of_cancelled ht rfl hc hb, by decide +kernel⟩

end Session

end Switchboard
