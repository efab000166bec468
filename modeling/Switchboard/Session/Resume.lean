import Switchboard.Session.Duties
import Switchboard.Session.Runtime

/-!
# Requests and replies

What callers can ask for (`Request`), what they can do at once (`Action`), and how work goes on when
the backend has replied (`resume`).
-/

set_option autoImplicit false

namespace Switchboard

/-- What a caller asks for and then waits for. -/
inductive Request where
  | load (sync : Bool) (message : Option String) (limit : Option UInt64)
  | switch (name : Option String)
  | refresh (name : Option String) (force : Bool)
  | refreshAll (force : Bool)
  | keepaliveNow
  | setMode (m : Mode)
  /-- The action after a switch. -/
  | action (s : Strategy)
  /-- The action after a switch without a word on the status line. -/
  | bareAction (s : Strategy) (automatic : Bool)
  | installHook
  /-- A run of a duty by the crew that the caller leads. -/
  | job (scope : Scope) (j : Job)
  /-- The order that waits in the queue of that crew is saved. -/
  | flush
  | awaitDashboard
  | startup
  | setAutoSwitch (enabled : Bool)
  | shutdown
  deriving DecidableEq, Inhabited

/-- What a caller does at once. -/
inductive Action where
  | applySnapshot (s : Snapshot) (preserve : Bool)
  | applyIfChanged (s : Snapshot)
  | select (name : String)
  | reorder (names : List String)
  | setStatus (text : String)
  | remember (m : Mode) (name : String)
  | observeError
  | putSettings (s : Settings)
  | setMode (m : Mode)
  | setStrategy (s : Strategy)
  | setRefreshOnStartup (enabled : Bool)
  | setKeepalive (enabled : Bool)
  | enterBusy
  | leaveBusy
  | block (message : String)
  | unblock
  | cancel (s : Scope)
  | queueOrder (crew : CrewId) (names : List String)
  | startLoop (scope : Scope) (d : Duty)
  /-- The clock goes on as if it had read so at the start. -/
  | setClock (ms : Int64)
  | advanceClock (ms : Int64)
  /-- The data directory is deleted behind the program's back. -/
  | loseStore
  deriving DecidableEq, Inhabited

namespace Session

/-- Queues an order, which shows at once, and a task that saves it. -/
def queueOrder (w : Session) (crew : CrewId) (names : List String) : Session :=
  let w := w.onEngine (·.reorderDisplay names)
  let c := w.crew crew
  (w.setCrew crew { c with orders := c.orders.put names }).spawn (.flush crew)

/-- What a caller does at once. -/
def act (w : Session) : Action → Session
  | .applySnapshot s preserve => w.onEngine (·.applySnapshot s preserve)
  | .applyIfChanged s => w.onEngine (·.applyIfChanged s)
  | .select name => w.onEngine (·.select name)
  | .reorder names => w.onEngine (·.reorderDisplay names)
  | .setStatus text => w.onEngine (·.setStatus text)
  | .remember m name => w.onEngine (·.remember m name)
  | .observeError => w.onEngine (·.observeError)
  | .putSettings s => w.onEngine (·.updateSettings fun _ => s)
  | .setMode m => w.onEngine (·.setMode m)
  | .setStrategy s => w.onEngine (·.updateSettings ({ · with strategy := s }))
  | .setRefreshOnStartup b => w.onEngine (·.updateSettings ({ · with refreshOnStartup := b }))
  | .setKeepalive b => w.setKeepalive b
  | .enterBusy => w.onEngine (·.enterBusy)
  | .leaveBusy => w.onEngine (·.leaveBusy)
  | .block message => w.onEngine (·.block message)
  | .unblock => w.onEngine (·.unblock)
  | .cancel s => w.cancel s
  | .queueOrder crew names => w.queueOrder crew names
  | .startLoop scope d => w.startLoop d ⟨.manual, scope⟩
  | .setClock ms => w.onEngine ({ · with now := ms + Int64.ofNat w.uptime })
  | .advanceClock ms => w.onEngine fun e => { e with now := e.now + ms }
  | .loseStore => w.onEngine fun e => { e with store := e.store.removeDirectory }

/-! ## Embedding of commands -/

/-- A command that waits from the start. -/
def ask {σ : Type} (w : Session) (f : σ → Work) (r : Engine × σ) :
    Session × Progress Work Outcome :=
  ({ w with engine := r.1 }, .waiting (f r.2))

/-- A command that is done. -/
def finishWith {ρ : Type} (w : Session) (g : ρ → Outcome) (r : Engine × ρ) :
    Session × Progress Work Outcome :=
  ({ w with engine := r.1 }, .done (g r.2))

/-- A command that waits or is done. -/
def embed {σ ρ : Type} (w : Session) (f : σ → Work) (g : ρ → Outcome)
    (r : Engine × Progress σ ρ) : Session × Progress Work Outcome :=
  match r with
  | (e, .waiting k) => w.ask f (e, k)
  | (e, .done o) => w.finishWith g (e, o)

/-- A save, whose queue belongs to a crew. -/
def embedFlush (w : Session) (crew : CrewId) (r : OrderQueue × Engine × Progress Flush Unit) :
    Session × Progress Work Outcome :=
  let w := w.setCrew crew { w.crew crew with orders := r.1 }
  w.embed (.flush crew) (fun _ => .nothing) r.2

/-- Begins to save the order that waits. -/
def beginFlush (w : Session) (crew : CrewId) : Session × Progress Work Outcome :=
  w.embedFlush crew (Flush.next (w.crew crew).orders w.engine)

/-- Begins what a caller asks for. A caller who waits for the dashboard is dealt with apart. -/
def start (w : Session) : Request → Session × Progress Work Outcome
  | .load sync message limit => w.ask .load (Load.begin w.engine sync message limit)
  | .switch name => w.embed .switch .model (Switch.begin w.engine name)
  | .refresh name force => w.embed .refresh .model (Refresh.begin w.engine name force)
  | .refreshAll force => w.ask .refresh (Refresh.beginAll w.engine force)
  | .keepaliveNow => w.ask .refresh (Refresh.beginTokens w.engine)
  | .setMode m =>
    w.ask .load
      (Load.begin (w.engine.setMode m) false (some ("已切换到 " ++ m.label ++ " 模式")) none)
  | .action s => w.ask .manualAction (Manual.begin w.engine s)
  | .bareAction s automatic => (w, .waiting (.bareAction (.begin s automatic)))
  | .installHook => w.ask .hookInstall (HookInstall.begin w.engine)
  | .job scope j => w.beginJob ⟨.manual, scope⟩ j
  | .flush => w.beginFlush .manual
  | .awaitDashboard => (w, .done (.names (w.engine.model.map (·.snapshot.names))))
  | .startup => w.beginStartup
  | .setAutoSwitch enabled => w.setAutoSwitch enabled
  | .shutdown => w.shutdown

/-- Goes on with an action of a user. -/
def resumeManual (w : Session) (r : Progress PostSwitch TextResult) :
    Session × Progress Work Outcome :=
  match r with
  | .waiting p => (w, .waiting (.manualAction p))
  | .done r => (w.onEngine (Manual.finish · r), .done (.text r))

/-- Goes on with work whose reply has come. -/
def resume (w : Session) : (k : Work) → Reply k.call → Session × Progress Work Outcome
  | .load l, reply => w.finishWith .model (l.finish w.engine reply)
  | .refresh r, reply => w.finishWith .model (r.finish w.engine reply)
  | .switch s, reply => w.embed .switch .model (s.resume w.engine reply)
  | .manualAction p, reply => w.resumeManual (p.resume reply)
  | .bareAction p, reply => w.embed .bareAction .text (w.engine, p.resume reply)
  | .hookInstall h, reply => w.embed .hookInstall .text (h.resume w.engine reply)
  | .flush crew f, reply => w.embedFlush crew (f.resume (w.crew crew).orders w.engine reply)
  | .poll s p, reply => w.resumePoll s p reply
  | .autoSwitch s a, reply => w.resumeAutoSwitch s a reply
  | .recover s _, reply =>
    w.finishRun s .recover (Recover.finish w.engine (w.isCancelled s.scope) reply)
  | .hookWatch s h, reply => w.resumeHookWatch s h reply
  | .keepalive s k, reply =>
    w.finishRun s .keepalive (k.finish w.engine (w.isCancelled s.scope) reply)
  | .startup s, reply => w.resumeStartup s reply
  | .turnOff, _ => (w.showOff, .done .nothing)
  | .stop, _ => (w.cancel .root, .done .nothing)

end Session

end Switchboard
