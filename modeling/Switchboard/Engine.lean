import Switchboard.Banner
import Switchboard.Config
import Switchboard.Gate
import Switchboard.IdentityError
import Switchboard.Reconcile
import Switchboard.Store

/-!
# The engine

The state that all commands and background duties share: the model on the screen, the status line,
the settings with the store behind them, the error banner and the two gates. The operations here
are single steps; none of them waits for anything.

Writes to the store that fail are passed over: the settings in memory count, and every operation
but `recordSwitch` and `updateSettings` leaves the store alone.
-/

set_option autoImplicit false

namespace Switchboard

/-- The state that everything else works on. -/
structure Engine where
  store : Store
  config : Config
  settings : Settings
  banner : Banner
  /-- The reading of the clock, in milliseconds. -/
  now : Int64
  busy : BusyGate := {}
  blocking : BlockingGate := {}
  model : Option Model := none
  status : String := ""
  /-- How often watchers of the model have been notified. -/
  modelNotices : Nat := 0
  /-- How often watchers of the status have been notified. -/
  statusNotices : Nat := 0
  /-- How many switches have been recorded, or would have been. -/
  switches : Nat := 0
  deriving DecidableEq

namespace Engine

/-- An engine at the start of the program. -/
def start (store : Store) (config : Config) (now : Int64) : Except Store.Fault Engine := do
  let store ← store.init
  let settings ← store.load
  let config := config.normalized
  return {
    store := store, config := config, settings := settings, now := now
    banner := .ofDelay config.bannerDelay }

/-! ## Settings -/

/-- The current mode. -/
def mode (e : Engine) : Mode := e.settings.mode

/-- The profile used last in a mode. -/
def remembered (e : Engine) (m : Mode) : Option String := e.settings.remembered.get m

/-- Changes the settings, and writes them to the store if that can be done. -/
def updateSettings (e : Engine) (change : Settings → Settings) : Engine :=
  let settings := change e.settings
  { e with settings := settings, store := e.store.orKeep (e.store.save settings) }

/-- Changes the mode. -/
def setMode (e : Engine) (m : Mode) : Engine := e.updateSettings ({ · with mode := m })

/-- Changes the version that the hook was last seen with. -/
def setHookVersion (e : Engine) (version : String) : Engine :=
  e.updateSettings ({ · with hookVersion := some version })

/-- Notes a profile as the one used last in a mode; a blank name changes nothing. -/
def remember (e : Engine) (m : Mode) (name : String) : Engine :=
  match Text.filled name with
  | none => e
  | some name =>
    e.updateSettings fun s => { s with remembered := s.remembered.set m (some name) }

/-! ## The status line and the gates -/

/-- Replaces the status line and notifies its watchers, also when the text is the same. -/
def setStatus (e : Engine) (text : String) : Engine :=
  { e with status := text, statusNotices := e.statusNotices + 1 }

/-- Holds the busy gate once more. -/
def enterBusy (e : Engine) : Engine := { e with busy := e.busy.enter }

/-- Gives one hold of the busy gate back. -/
def leaveBusy (e : Engine) : Engine := { e with busy := e.busy.leave }

/-- Covers the screen with a message. -/
def block (e : Engine) (message : String) : Engine :=
  { e with blocking := e.blocking.enter message }

/-- Uncovers the screen. -/
def unblock (e : Engine) : Engine := { e with blocking := e.blocking.leave }

/-- One of the gates is closed. -/
def isGated (e : Engine) : Bool := e.busy.isBusy || e.blocking.isBlocking

/-! ## The model -/

/-- The error of the live identity that belongs on the screen. -/
def identityError (e : Engine) : Option String :=
  e.model.bind fun m => IdentityError.shown m.snapshot e.mode

/-- Shows the banner the error. -/
def observeError (e : Engine) : Engine :=
  { e with banner := e.banner.observe e.identityError e.now }

/-- The light in which the engine looks at a snapshot. -/
def viewpoint (e : Engine) (preserve : Bool) : Viewpoint :=
  ⟨e.mode, e.settings.rememberedNow, preserve⟩

/-- Replaces the model and notifies its watchers. -/
def replaceModel (e : Engine) (m : Model) : Engine :=
  { e with model := some m, modelNotices := e.modelNotices + 1 }

/-- The model that a snapshot would make. -/
def reconciled (e : Engine) (s : Snapshot) (preserve : Bool) : Model :=
  reconcile s e.model (e.viewpoint preserve)

/-- Makes a snapshot the model. -/
def applySnapshot (e : Engine) (s : Snapshot) (preserve : Bool) : Engine :=
  (e.replaceModel (e.reconciled s preserve)).observeError

/-- A snapshot would make a model with another signature than the present one. -/
def differs (e : Engine) (s : Snapshot) : Bool :=
  e.model.all (·.signature != (e.reconciled s true).signature)

/-- Makes a snapshot of a silent poll the model, if it differs. -/
def applyIfChanged (e : Engine) (s : Snapshot) : Engine :=
  if e.differs s then e.applySnapshot s true else e.observeError

/-- Shows the profiles in the order of these names. -/
def reorderDisplay (e : Engine) (names : List String) : Engine :=
  match e.model with
  | some m => e.replaceModel (m.withDisplayOrder names)
  | none => e

/-- Selects a profile of the model. -/
def select (e : Engine) (name : String) : Engine :=
  match e.model.bind (·.select? name) with
  | some m => e.replaceModel m
  | none => e

/-- The selected profile. -/
def selected (e : Engine) : Option String := e.model.bind (·.selected)

/-- The text by which a profile is called: its place on the screen and its workspace, or its name
where there is none. -/
def label (e : Engine) (name : String) : String :=
  match e.model.bind fun m => IdentityError.placeOf? m.display name with
  | none => name
  | some (i, p) =>
    let title := if Text.isBlankText p.displayWorkspace then name else p.displayWorkspace
    "#" ++ Nat.repr (i + 1) ++ " " ++ title

/-! ## The history -/

/-- Records a switch, if the store can be written. -/
def recordSwitch (e : Engine) (s : SwitchEvent) : Engine :=
  { e with
    store := e.store.orKeep (e.store.add (.ofEvent e.switches s))
    switches := e.switches + 1 }

@[simp] theorem leaveBusy_enterBusy (e : Engine) : e.enterBusy.leaveBusy = e := rfl

theorem applyIfChanged_of_not_differs {e : Engine} {s : Snapshot} (h : e.differs s = false) :
    e.applyIfChanged s = e.observeError := by
  simp [applyIfChanged, h]

end Engine

end Switchboard
