import Switchboard.Proofs.Advance
import Switchboard.Proofs.EngineTwins

/-!
# Sessions that are the same but for their stores

Two sessions that are the same but for their stores (`Session.Twin`) stay so at every event
(`Session.Twin.step`), and the same begins in them (`Session.Twin.begun?`).
-/

set_option autoImplicit false

namespace Switchboard

universe u

namespace Session

/-- The session with another store. -/
def withStore (w : Session) (s : Store) : Session := w.onEngine (·.withStore s)

/-- The sessions are the same but for their stores. -/
def Twin (w w' : Session) : Prop := ∃ s, w' = w.withStore s

/-- The same has come of the two, and they are the same but for their stores. -/
def Twins (r r' : Session × Progress Work Outcome) : Prop := r.1.Twin r'.1 ∧ r'.2 = r.2

variable {w w' : Session} (h : w.Twin w')

include h

theorem Twin.engine : w.engine.Twin w'.engine := by
  obtain ⟨s, rfl⟩ := h
  exact ⟨s, rfl⟩

theorem Twin.congr {β : Sort u} (f : Session → β)
    (hf : ∀ (w : Session) (s : Store), f (w.withStore s) = f w) : f w' = f w := by
  obtain ⟨s, rfl⟩ := h
  exact hf w s

/-- Their engines may be replaced by engines that are the same but for their stores. -/
theorem Twin.withEngine {e e' : Engine} (he : e.Twin e') :
    { w with engine := e }.Twin { w' with engine := e' } := by
  obtain ⟨s, rfl⟩ := h
  obtain ⟨s', rfl⟩ := he
  exact ⟨s', rfl⟩

theorem Twin.setCrew (id : CrewId) (c : Crew) :
    (w.setCrew id c).Twin (w'.setCrew id c) := by
  obtain ⟨s, rfl⟩ := h
  cases id <;> exact ⟨s, rfl⟩

theorem Twin.crew (id : CrewId) : w'.crew id = w.crew id := by
  obtain ⟨s, rfl⟩ := h
  cases id <;> rfl

theorem Twin.cancel (s : Scope) : (w.cancel s).Twin (w'.cancel s) := by
  obtain ⟨st, rfl⟩ := h
  exact ⟨st, rfl⟩

theorem Twin.spawn (errand : Errand) : (w.spawn errand).Twin (w'.spawn errand) := by
  obtain ⟨st, rfl⟩ := h
  exact ⟨st, rfl⟩

theorem Twin.setTask (id : Nat) (errand : Errand) (stage : Stage) :
    (w.setTask id errand stage).Twin (w'.setTask id errand stage) := by
  obtain ⟨st, rfl⟩ := h
  exact ⟨st, rfl⟩

theorem Twin.endTask (id : Nat) : (w.endTask id).Twin (w'.endTask id) := by
  obtain ⟨st, rfl⟩ := h
  exact ⟨st, rfl⟩

theorem Twin.setFlight (id : CrewId) (d : Duty) (f : Flight) :
    (w.setFlight id d f).Twin (w'.setFlight id d f) := by
  unfold Session.setFlight
  rw [h.crew id]
  exact h.setCrew id _

theorem Twin.setBackoff (id : CrewId) (b : Backoff) :
    (w.setBackoff id b).Twin (w'.setBackoff id b) := by
  unfold Session.setBackoff
  rw [h.crew id]
  exact h.setCrew id _

theorem Twin.isCancelled (s : Scope) : w'.isCancelled s = w.isCancelled s :=
  h.congr (·.isCancelled s) fun _ _ => rfl

theorem Twin.task? (id : Nat) : w'.task? id = w.task? id :=
  h.congr (·.task? id) fun _ _ => rfl

/-! ## Runs of duties -/

theorem twins_land (crew : CrewId) (d : Duty) (p : Progress Work Outcome) :
    Twins (w.land crew d p) (w'.land crew d p) := by
  cases p with
  | waiting k => exact ⟨h, rfl⟩
  | done o => exact ⟨h.setFlight crew d ⟨false⟩, rfl⟩

theorem twins_takeOff (s : Shift) (j : Job) :
    Twins (w.takeOff s j) (w'.takeOff s j) := by
  cases j with
  | poll =>
    have hb : Poll.begin w'.engine (w'.crew s.crew).backoff =
        Poll.begin w.engine (w.crew s.crew).backoff := by
      rw [h.crew]
      exact h.engine.congr (Poll.begin · _) fun _ _ => rfl
    simp only [takeOff]
    rw [hb]
    split
    · exact ⟨h.setBackoff _ _, rfl⟩
    · exact twins_land (h.setBackoff _ _) _ _ _
  | autoSwitch | recover =>
    obtain ⟨st, rfl⟩ := h
    exact ⟨⟨st, rfl⟩, rfl⟩
  | hookWatch | keepalive => exact ⟨h, rfl⟩

theorem twins_beginJob (s : Shift) (j : Job) :
    Twins (w.beginJob s j) (w'.beginJob s j) := by
  have hb : barrier? w'.engine j = barrier? w.engine j := by
    cases j <;> exact h.engine.congr (barrier? · _) fun _ _ => rfl
  unfold beginJob
  rw [hb, h.crew]
  split
  · exact ⟨h, rfl⟩
  · split
    · exact ⟨h, rfl⟩
    · exact twins_takeOff (h.setFlight _ _ _) s j

theorem twins_carryOn {σ : Type} (s : Shift) (d : Duty) (f : σ → Work)
    {r r' : Engine × Progress σ Tick} (hr : Engine.Twins r r') :
    Twins (w.carryOn s d f r) (w'.carryOn s d f r') := by
  obtain ⟨e, p⟩ := r
  obtain ⟨e', p'⟩ := r'
  obtain ⟨he, rfl⟩ := hr
  cases p' with
  | waiting k => exact ⟨h.withEngine he, rfl⟩
  | done t => exact twins_land (h.withEngine he) _ _ _

theorem twins_finishRun (s : Shift) (d : Duty) {r r' : Engine × Tick}
    (hr : Engine.Twins r r') : Twins (w.finishRun s d r) (w'.finishRun s d r') := by
  unfold finishRun
  rw [hr.2]
  exact twins_land (h.withEngine hr.1) _ _ _

theorem twins_resumePoll (s : Shift) (p : Poll) (reply : Reply p.call) :
    Twins (w.resumePoll s p reply) (w'.resumePoll s p reply) := by
  have hf := p.twins_finish (w.crew s.crew).backoff (w.isCancelled s.scope) h.engine reply
  unfold resumePoll
  rw [h.crew, h.isCancelled]
  generalize p.finish w.engine _ _ reply = r at hf
  generalize p.finish w'.engine _ _ reply = r' at hf
  obtain ⟨he, heq⟩ := hf
  obtain ⟨e, b, o⟩ := r
  obtain ⟨e', rest⟩ := r'
  cases heq
  exact twins_land ((h.withEngine he).setBackoff _ _) _ _ _

/-! ## The runtime -/

theorem Twin.setStatus (text : String) :
    (w.onEngine (·.setStatus text)).Twin (w'.onEngine (·.setStatus text)) :=
  h.withEngine (h.engine.setStatus text)

theorem Twin.updateSettings (change : Settings → Settings) :
    (w.onEngine (·.updateSettings change)).Twin (w'.onEngine (·.updateSettings change)) :=
  h.withEngine (h.engine.updateSettings change)

theorem Twin.startAutoSwitch : w.startAutoSwitch.Twin w'.startAutoSwitch := by
  have ha : w'.autoSwitch = w.autoSwitch := h.congr (·.autoSwitch) fun _ _ => rfl
  unfold Session.startAutoSwitch
  rw [ha]
  split
  · exact h
  · obtain ⟨st, rfl⟩ := h
    exact ⟨st, rfl⟩

theorem Twin.closeAutoSwitch :
    w.closeAutoSwitch.1.Twin w'.closeAutoSwitch.1 ∧
      w'.closeAutoSwitch.2 = w.closeAutoSwitch.2 := by
  have ha : w'.autoSwitch = w.autoSwitch := h.congr (·.autoSwitch) fun _ _ => rfl
  unfold Session.closeAutoSwitch
  rw [ha]
  split
  · exact ⟨h, rfl⟩
  · obtain ⟨st, rfl⟩ := h
    exact ⟨⟨st, rfl⟩, rfl⟩

theorem Twin.startKeepalive : w.startKeepalive.Twin w'.startKeepalive := by
  have hk : w'.keepalive = w.keepalive := h.congr (·.keepalive) fun _ _ => rfl
  unfold Session.startKeepalive
  rw [hk]
  split
  · exact h
  · obtain ⟨st, rfl⟩ := h
    exact ⟨st, rfl⟩

theorem Twin.closeKeepalive : w.closeKeepalive.Twin w'.closeKeepalive := by
  have hk : w'.keepalive = w.keepalive := h.congr (·.keepalive) fun _ _ => rfl
  unfold Session.closeKeepalive
  rw [hk]
  split
  · exact h
  · obtain ⟨st, rfl⟩ := h
    exact ⟨st, rfl⟩

theorem Twin.setKeepalive (enabled : Bool) :
    (w.setKeepalive enabled).Twin (w'.setKeepalive enabled) := by
  have hs := h.updateSettings ({ · with keepalive := enabled })
  cases enabled
  · exact hs.closeKeepalive.setStatus _
  · exact hs.startKeepalive

theorem twins_setAutoSwitch (enabled : Bool) :
    Twins (w.setAutoSwitch enabled) (w'.setAutoSwitch enabled) := by
  have hs := h.updateSettings ({ · with autoSwitch := enabled })
  cases enabled with
  | true => exact ⟨hs.startAutoSwitch, rfl⟩
  | false =>
    obtain ⟨hc, hopen⟩ := hs.closeAutoSwitch
    simp only [setAutoSwitch, Bool.false_eq_true, if_false]
    generalize (w.onEngine _).closeAutoSwitch = r at hc hopen ⊢
    generalize (w'.onEngine _).closeAutoSwitch = r' at hc hopen ⊢
    obtain ⟨v, wasOpen⟩ := r
    obtain ⟨v', _⟩ := r'
    cases hopen
    cases wasOpen with
    | true => exact ⟨hc, rfl⟩
    | false => exact ⟨hc.setStatus _, rfl⟩

theorem twins_shutdown : Twins w.shutdown w'.shutdown := by
  obtain ⟨hc, hopen⟩ := h.closeAutoSwitch
  unfold shutdown
  generalize w.closeAutoSwitch = r at hc hopen ⊢
  generalize w'.closeAutoSwitch = r' at hc hopen ⊢
  obtain ⟨v, wasOpen⟩ := r
  obtain ⟨v', _⟩ := r'
  cases hopen
  cases wasOpen with
  | true => exact ⟨hc, rfl⟩
  | false => exact ⟨hc.cancel .root, rfl⟩

theorem twins_beginStartup : Twins w.beginStartup w'.beginStartup := by
  have hs : w'.engine.settings = w.engine.settings := h.congr (·.engine.settings) fun _ _ => rfl
  unfold beginStartup
  rw [hs]
  obtain ⟨st, rfl⟩ := h
  dsimp only
  cases w.engine.settings.mode <;> exact ⟨⟨st, rfl⟩, rfl⟩

theorem twins_finishStartup (settings : Settings) :
    Twins (w.finishStartup settings) (w'.finishStartup settings) := by
  unfold finishStartup
  split
  · exact ⟨h.startKeepalive, rfl⟩
  · exact ⟨h, rfl⟩

theorem Twin.startLoop (d : Duty) (s : Shift) :
    (w.startLoop d s).Twin (w'.startLoop d s) := by
  obtain ⟨st, rfl⟩ := h
  exact ⟨st, rfl⟩

theorem twins_launch (settings : Settings) :
    Twins (w.launch settings) (w'.launch settings) := by
  have hl := (h.startLoop .poll ⟨.standing, .root⟩).startLoop .hookWatch ⟨.standing, .root⟩
  unfold launch
  dsimp only
  split
  · exact twins_finishStartup hl.startAutoSwitch settings
  · exact ⟨hl, rfl⟩

theorem twins_afterLoading (settings : Settings) :
    Twins (w.afterLoading settings) (w'.afterLoading settings) := by
  have hgo {v v' : Session} (hv : v.Twin v') :
      Twins (if settings.refreshOnStartup then
          ({ v with engine := (Refresh.beginAll v.engine false).1 },
            .waiting (.startup (.refreshing settings (Refresh.beginAll v.engine false).2)))
        else v.launch settings)
      (if settings.refreshOnStartup then
          ({ v' with engine := (Refresh.beginAll v'.engine false).1 },
            .waiting (.startup (.refreshing settings (Refresh.beginAll v'.engine false).2)))
        else v'.launch settings) := by
    split
    · obtain ⟨st, rfl⟩ := hv
      exact ⟨⟨st, rfl⟩, rfl⟩
    · exact twins_launch hv settings
  unfold afterLoading
  cases settings.mode with
  | gpt => exact hgo h
  | openCode => exact hgo (h.spawn .sync)

theorem twins_resumeStartup (s : Startup) (reply : Reply s.call) :
    Twins (w.resumeStartup s reply) (w'.resumeStartup s reply) := by
  cases s with
  | loading settings l =>
    exact twins_afterLoading (h.withEngine (l.twins_finish h.engine reply).1) settings
  | refreshing settings r =>
    exact twins_launch (h.withEngine (r.twins_finish h.engine reply).1) settings
  | resetting settings => exact twins_finishStartup h settings

/-! ## Requests and replies -/

section Embedding

variable {σ ρ : Type}

theorem twins_finishWith (g : ρ → Outcome) {r r' : Engine × ρ} (hr : Engine.Twins r r') :
    Twins (w.finishWith g r) (w'.finishWith g r') :=
  ⟨h.withEngine hr.1, by rw [finishWith, finishWith, hr.2]⟩

theorem twins_embed (f : σ → Work) (g : ρ → Outcome) {r r' : Engine × Progress σ ρ}
    (hr : Engine.Twins r r') : Twins (w.embed f g r) (w'.embed f g r') := by
  obtain ⟨e, p⟩ := r
  obtain ⟨e', p'⟩ := r'
  obtain ⟨he, rfl⟩ := hr
  cases p' with
  | waiting k => exact ⟨h.withEngine he, rfl⟩
  | done o => exact ⟨h.withEngine he, rfl⟩

theorem twins_embedFlush (crew : CrewId) {r r' : OrderQueue × Engine × Progress Flush Unit}
    (hq : r'.1 = r.1) (hr : Engine.Twins r.2 r'.2) :
    Twins (w.embedFlush crew r) (w'.embedFlush crew r') := by
  unfold embedFlush
  rw [hq, h.crew]
  exact twins_embed (h.setCrew crew _) _ _ hr

end Embedding

theorem twins_beginFlush (crew : CrewId) :
    Twins (w.beginFlush crew) (w'.beginFlush crew) := by
  unfold beginFlush
  rw [h.crew]
  have hn := Flush.twins_next (w.crew crew).orders h.engine
  exact twins_embedFlush h crew hn.1 hn.2

theorem twins_start (r : Request) : Twins (w.start r) (w'.start r) := by
  cases r with
  | switch name => exact twins_embed h _ _ (Switch.twins_begin name h.engine)
  | refresh name force => exact twins_embed h _ _ (Refresh.twins_begin name force h.engine)
  | job scope j => exact twins_beginJob h _ j
  | flush => exact twins_beginFlush h _
  | startup => exact twins_beginStartup h
  | setAutoSwitch enabled => exact twins_setAutoSwitch h enabled
  | shutdown => exact twins_shutdown h
  | setMode m => 
    obtain ⟨st, rfl⟩ := h
    exact ⟨⟨_, rfl⟩, rfl⟩
  | load | refreshAll | keepaliveNow | action | bareAction | installHook | awaitDashboard =>
    obtain ⟨st, rfl⟩ := h
    exact ⟨⟨st, rfl⟩, rfl⟩

theorem twins_resumeManual (r : Progress PostSwitch TextResult) :
    Twins (w.resumeManual r) (w'.resumeManual r) := by
  cases r with
  | waiting p => exact ⟨h, rfl⟩
  | done r =>
    obtain ⟨st, rfl⟩ := h
    cases r <;> exact ⟨⟨st, rfl⟩, rfl⟩

theorem twins_resume (k : Work) (reply : Reply k.call) :
    Twins (w.resume k reply) (w'.resume k reply) := by
  cases k with
  | load l => exact twins_finishWith h _ (l.twins_finish h.engine reply)
  | refresh r => exact twins_finishWith h _ (r.twins_finish h.engine reply)
  | switch s => exact twins_embed h _ _ (s.twins_resume h.engine reply)
  | manualAction p => exact twins_resumeManual h _
  | bareAction p => exact twins_embed h _ _ ⟨h.engine, rfl⟩
  | hookInstall i => exact twins_embed h _ _ (i.twins_resume h.engine reply)
  | flush crew f =>
    have hf := f.twins_resume (w.crew crew).orders h.engine reply
    simp only [resume, h.crew]
    exact twins_embedFlush h crew hf.1 hf.2
  | poll s p => exact twins_resumePoll h s p reply
  | autoSwitch s a =>
    have ha := a.twins_resume (w.isCancelled s.scope) h.engine reply
    simp only [resume, resumeAutoSwitch, h.isCancelled]
    exact twins_carryOn h s _ _ ha
  | recover s r =>
    have hr := Recover.twins_finish (w.isCancelled s.scope) h.engine reply
    simp only [resume, h.isCancelled]
    exact twins_finishRun h s _ hr
  | hookWatch s x =>
    have hx := x.twins_resume (w.isCancelled s.scope) h.engine reply
    simp only [resume, resumeHookWatch, h.isCancelled]
    exact twins_carryOn h s _ _ hx
  | keepalive s k =>
    have hk := k.twins_finish (w.isCancelled s.scope) h.engine reply
    simp only [resume, h.isCancelled]
    exact twins_finishRun h s _ hk
  | startup s => exact twins_resumeStartup h s reply
  | turnOff => exact ⟨h.setStatus _, rfl⟩
  | stop => exact ⟨h.cancel .root, rfl⟩

/-! ## Steps -/

theorem Twin.rest (id : Nat) (errand : Errand) (ms : UInt64) :
    (w.rest id errand ms).Twin (w'.rest id errand ms) := by
  obtain ⟨st, rfl⟩ := h
  exact ⟨st, rfl⟩

theorem Twin.planKeepalive (id : Nat) (s : Shift) :
    (w.planKeepalive id s).Twin (w'.planKeepalive id s) := by
  obtain ⟨st, rfl⟩ := h
  have hplan : (Keepalive.periodicDelay (w.withStore st).engine.config).run (w.withStore st).random =
      (Keepalive.periodicDelay w.engine.config).run w.random := rfl
  unfold Session.planKeepalive
  rw [hplan]
  split <;> exact ⟨st, rfl⟩

theorem Twin.restAfter (id : Nat) (r : Routine) (s : Shift) (o : Outcome) :
    (w.restAfter id r s o).Twin (w'.restAfter id r s o) := by
  have hc : w'.engine.config = w.engine.config := h.congr (·.engine.config) fun _ _ => rfl
  cases r with
  | poll next => exact h.setTask _ _ _
  | keepalive reason =>
    simp only [Session.restAfter]
    rw [hc]
    split
    · exact h.rest _ _ _
    · exact h.planKeepalive id s
  | autoSwitch | recover | hookWatch =>
    simp only [Session.restAfter]
    rw [hc]
    exact h.rest _ _ _

theorem Twin.deliver (id : Nat) (o : Outcome) : (w.deliver id o).Twin (w'.deliver id o) := by
  obtain ⟨st, rfl⟩ := h
  exact ⟨st, rfl⟩

theorem Twin.conclude (id : Nat) (errand : Errand) (p : Progress Work Outcome) :
    (w.conclude id errand p).Twin (w'.conclude id errand p) := by
  cases p with
  | waiting k => exact h.setTask id errand _
  | done o =>
    cases errand with
    | request => exact h.deliver id o
    | loop r s => exact h.restAfter id r s o
    | sync | flush => exact h.endTask id

omit h in
/-- A task is as far as the work of both. -/
theorem Twins.conclude {r r' : Session × Progress Work Outcome} (hr : Twins r r') (id : Nat)
    (errand : Errand) : (r.1.conclude id errand r.2).Twin (r'.1.conclude id errand r'.2) := by
  rw [hr.2]
  exact hr.1.conclude id errand r.2

theorem Twin.afterWatch (id : Nat) (errand : Errand) :
    (w.afterWatch id errand).Twin (w'.afterWatch id errand) := by
  cases errand with
  | loop r s =>
    have hv := h.setCrew s.crew { w.crew s.crew with startupChecked := true }
    simp only [Session.afterWatch, h.isCancelled, h.crew]
    split
    · exact h.endTask id
    · generalize w.setCrew s.crew _ = v at hv ⊢
      generalize w'.setCrew s.crew _ = v' at hv ⊢
      have hplan (check : Bool) : (KeepaliveRun.firstPlan v'.engine check).run v'.random =
          (KeepaliveRun.firstPlan v.engine check).run v.random :=
        hv.congr (fun v => (KeepaliveRun.firstPlan v.engine check).run v.random) fun _ _ => rfl
      rw [hplan]
      obtain ⟨st, rfl⟩ := hv
      split <;> exact ⟨st, rfl⟩
  | request | sync | flush =>
    obtain ⟨st, rfl⟩ := h
    exact ⟨st, rfl⟩

theorem Twin.watch (id : Nat) (errand : Errand) :
    (w.watch id errand).Twin (w'.watch id errand) := by
  have hm : w'.engine.model = w.engine.model := h.congr (·.engine.model) fun _ _ => rfl
  have hc : w'.engine.config = w.engine.config := h.congr (·.engine.config) fun _ _ => rfl
  unfold Session.watch
  rw [hm, hc]
  split
  · exact h.endTask id
  split
  · exact h.afterWatch id errand
  · obtain ⟨st, rfl⟩ := h
    exact ⟨st, rfl⟩

theorem Twin.runLoop (id : Nat) (r : Routine) (s : Shift) :
    (w.runLoop id r s).Twin (w'.runLoop id r s) := (twins_beginJob h s r.job).conclude id _

theorem Twin.firstTurn (t : Task) : (w.firstTurn t).Twin (w'.firstTurn t) := by
  obtain ⟨id, errand, stage⟩ := t
  cases errand with
  | request => exact h
  | loop r s =>
    cases r with
    | poll next =>
      obtain ⟨st, rfl⟩ := h
      exact ⟨st, rfl⟩
    | autoSwitch => exact h.restAfter id .autoSwitch s .nothing
    | recover => exact h.restAfter id .recover s .nothing
    | hookWatch => exact h.runLoop id .hookWatch s
    | keepalive reason => exact h.watch _ _
  | sync =>
    obtain ⟨st, rfl⟩ := h
    exact ⟨st, rfl⟩
  | flush crew => exact (twins_beginFlush h crew).conclude id _

theorem Twin.wakeUp (t : Task) (due : Nat) : (w.wakeUp t due).Twin (w'.wakeUp t due) := by
  obtain ⟨id, errand, stage⟩ := t
  cases errand with
  | request | flush => exact h
  | loop r s =>
    cases r with
    | poll next =>
      have hn : nextPoint w'.engine.config due w'.uptime = nextPoint w.engine.config due w.uptime :=
        h.congr (fun w => nextPoint w.engine.config due w.uptime) fun _ _ => rfl
      simp only [Session.wakeUp, hn]
      exact h.runLoop _ _ _
    | autoSwitch => exact h.runLoop id .autoSwitch s
    | recover => exact h.runLoop id .recover s
    | hookWatch => exact h.runLoop id .hookWatch s
    | keepalive reason => exact h.runLoop id (.keepalive reason) s
  | sync =>
    obtain ⟨st, rfl⟩ := h
    exact ⟨st, rfl⟩

theorem Twin.receive (t : Task) (k : Work) (c : Call) (r : Reply c) :
    (w.receive t k c r).Twin (w'.receive t k c r) := by
  unfold Session.receive
  split
  · exact (twins_resume h k _).conclude t.id _
  · exact h

theorem Twin.takeRequest (r : Request) : (w.takeRequest r).Twin (w'.takeRequest r) := by
  have hid : w'.nextTask = w.nextTask := h.congr (·.nextTask) fun _ _ => rfl
  have hs := h.spawn .request
  cases r with
  | awaitDashboard => 
    simp only [Session.takeRequest, hid]
    exact hs.watch _ _
  | _ =>
    simp only [Session.takeRequest, hid]
    exact (twins_start hs _).conclude _ _

theorem Twin.act (a : Action) : (w.act a).Twin (w'.act a) := by
  cases a with
  | applySnapshot s preserve => exact h.withEngine (h.engine.applySnapshot s preserve)
  | applyIfChanged s => exact h.withEngine (h.engine.applyIfChanged s)
  | select name => exact h.withEngine (h.engine.select name)
  | reorder names => exact h.withEngine (h.engine.reorderDisplay names)
  | remember m name => exact h.withEngine (h.engine.remember m name)
  | putSettings | setMode | setStrategy | setRefreshOnStartup => exact h.updateSettings _
  | setKeepalive enabled => exact h.setKeepalive enabled
  | queueOrder crew names =>
    have hq := h.withEngine (h.engine.reorderDisplay names)
    simp only [Session.act, Session.queueOrder, Session.onEngine, hq.crew]
    exact (hq.setCrew crew _).spawn _
  | loseStore =>
    obtain ⟨st, rfl⟩ := h
    exact ⟨_, rfl⟩
  | _ => 
    obtain ⟨st, rfl⟩ := h
    exact ⟨st, rfl⟩

theorem Twin.step (ev : Event) : (w.step ev).Twin (w'.step ev) := by
  cases ev with
  | ask r => exact h.takeRequest r
  | act a => exact h.act a
  | turn id =>
    simp only [Session.step, h.task?]
    split
    · exact h.firstTurn _
    · exact h
  | reply id c r =>
    simp only [Session.step, h.task?]
    split
    · exact h.receive _ _ c r
    · exact h
  | expire id =>
    simp only [Session.step, h.task?]
    split
    · split
      · exact h.receive _ _ _ _
      · exact h
    · exact h
  | wake id =>
    have hu : w'.uptime = w.uptime := h.congr (·.uptime) fun _ _ => rfl
    simp only [Session.step, h.task?, hu]
    split
    · split
      · exact h.wakeUp _ _
      · exact h
    · exact h
  | quit id =>
    have hc : w'.isCancelled = w.isCancelled := funext h.isCancelled
    simp only [Session.step, h.task?, hc]
    split
    · split
      · exact h.endTask id
      · exact h
    · exact h
  | arrive id =>
    have hu : w'.uptime = w.uptime := h.congr (·.uptime) fun _ _ => rfl
    have hm : w'.engine.model = w.engine.model := h.congr (·.engine.model) fun _ _ => rfl
    simp only [Session.step, h.task?, hu, hm]
    split
    · split
      · exact h.afterWatch _ _
      · exact h
    · exact h
  | pass ms =>
    obtain ⟨st, rfl⟩ := h
    exact ⟨st, rfl⟩

/-- What goes on goes on in both. -/
theorem Twin.advance? (ev : Event) :
    (w'.advance? ev).map (·.2) = (w.advance? ev).map (·.2) := by
  have hanswered : w'.answered? ev = w.answered? ev := h.congr (·.answered? ev) fun _ _ => rfl
  have hjob (s : Shift) (j : Job) : (w'.beginJob s j).2 = (w.beginJob s j).2 :=
    (twins_beginJob h s j).2
  cases ev with
  | ask r =>
    have hr := (twins_start (h.spawn .request) r).2
    cases r <;> simp only [Session.advance?, Option.map_some, hr]
  | turn id =>
    simp only [Session.advance?, h.task?]
    split
    · rw [Option.map_some, Option.map_some, hjob]
    · rw [Option.map_some, Option.map_some, (twins_beginFlush h _).2]
    · rfl
  | wake id =>
    have hu : w'.uptime = w.uptime := h.congr (·.uptime) fun _ _ => rfl
    simp only [Session.advance?, h.task?, hu]
    split
    · split
      · rw [Option.map_some, Option.map_some, hjob]
      · rfl
    · split
      · obtain ⟨st, rfl⟩ := h
        rfl
      · rfl
    · rfl
  | _ =>
    simp only [Session.advance?, hanswered, Option.map_map]
    congr 1
    funext a
    exact (twins_resume h a.1 a.2).2

theorem Twin.begun? (ev : Event) : w'.begun? ev = w.begun? ev := by
  have hmap (v : Session) : v.begun? ev = ((v.advance? ev).map (·.2)).bind (·.waiting?) := by
    rw [Session.begun?, Option.bind_map]
    rfl
  rw [hmap, hmap, h.advance?]

end Session

end Switchboard
