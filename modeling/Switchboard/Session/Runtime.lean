import Switchboard.Session.State

/-!
# The runtime

The runtime loads the dashboard, starts the loops, and turns automatic switching and keepalive on
and off. Turning off cancels the open scope; automatic switching is then reset in the backend, too.
-/

set_option autoImplicit false

namespace Switchboard.Session

/-- Starts a loop of a duty. -/
def startLoop (w : Session) (d : Duty) (s : Shift) : Session :=
  w.spawn (.loop (.ofDuty d w.uptime) s)

/-- Opens a scope of automatic switching with its two loops, unless one is open. -/
def startAutoSwitch (w : Session) : Session :=
  match w.autoSwitch with
  | some _ => w
  | none =>
    let s : Shift := ⟨.standing, .autoSwitch w.scopes⟩
    (({ w with autoSwitch := some w.scopes, scopes := w.scopes + 1 }.startLoop .autoSwitch s).startLoop
      .recover s).onEngine (·.setStatus "无感换号已开启（实时监控中）。")

/-- Closes the open scope of automatic switching; tells whether there was one. -/
def closeAutoSwitch (w : Session) : Session × Bool :=
  match w.autoSwitch with
  | none => (w, false)
  | some n => ({ w with autoSwitch := none }.cancel (.autoSwitch n), true)

/-- Opens a scope of keepalive with its loop, unless one is open. -/
def startKeepalive (w : Session) : Session :=
  match w.keepalive with
  | some _ => w
  | none =>
    { w with keepalive := some w.scopes, scopes := w.scopes + 1 }.startLoop .keepalive
      ⟨.standing, .keepalive w.scopes⟩

/-- Closes the open scope of keepalive. -/
def closeKeepalive (w : Session) : Session :=
  match w.keepalive with
  | none => w
  | some n => { w with keepalive := none }.cancel (.keepalive n)

/-- Turns keepalive on or off. -/
def setKeepalive (w : Session) (enabled : Bool) : Session :=
  let w := w.onEngine (·.updateSettings ({ · with keepalive := enabled }))
  if enabled then w.startKeepalive
  else w.closeKeepalive.onEngine (·.setStatus "自动保活已关闭。")

/-- The status line once automatic switching is off. -/
def showOff (w : Session) : Session := w.onEngine (·.setStatus "无感换号已关闭。")

/-- Turns automatic switching on or off. -/
def setAutoSwitch (w : Session) (enabled : Bool) : Session × Progress Work Outcome :=
  let w := w.onEngine (·.updateSettings ({ · with autoSwitch := enabled }))
  if enabled then (w.startAutoSwitch, .done .nothing)
  else
    match w.closeAutoSwitch with
    | (w, true) => (w, .waiting .turnOff)
    | (w, false) => (w.showOff, .done .nothing)

/-- Stops the runtime. -/
def shutdown (w : Session) : Session × Progress Work Outcome :=
  match w.closeAutoSwitch with
  | (w, true) => (w, .waiting .stop)
  | (w, false) => (w.cancel .root, .done .nothing)

/-! ## The start -/

/-- Begins the start: the dashboard is loaded, in OpenCode mode for some time at most. -/
def beginStartup (w : Session) : Session × Progress Work Outcome :=
  let settings := w.engine.settings
  let (e, l) := match settings.mode with
    | .gpt => Load.begin w.engine true (some "已加载") none
    | .openCode => Load.begin w.engine false (some "已加载") (some w.engine.config.startupTimeout)
  ({ w with engine := e }, .waiting (.startup (.loading settings l)))

/-- Ends the start. -/
def finishStartup (w : Session) (settings : Settings) : Session × Progress Work Outcome :=
  (if settings.keepalive then w.startKeepalive else w, .done .nothing)

/-- Starts the loops. Where automatic switching is turned off, the backend is told so. -/
def launch (w : Session) (settings : Settings) : Session × Progress Work Outcome :=
  let w := (w.startLoop .poll ⟨.standing, .root⟩).startLoop .hookWatch ⟨.standing, .root⟩
  if settings.autoSwitch then w.startAutoSwitch.finishStartup settings
  else (w, .waiting (.startup (.resetting settings)))

/-- Goes on once the dashboard is loaded, or could not be. -/
def afterLoading (w : Session) (settings : Settings) : Session × Progress Work Outcome :=
  let w := match settings.mode with
    | .gpt => w
    | .openCode => w.spawn .sync
  if settings.refreshOnStartup then
    let (e, r) := Refresh.beginAll w.engine false
    ({ w with engine := e }, .waiting (.startup (.refreshing settings r)))
  else w.launch settings

/-- Goes on with the start. -/
def resumeStartup (w : Session) :
    (s : Startup) → Reply s.call → Session × Progress Work Outcome
  | .loading settings l, reply => (w.onEngine fun e => (l.finish e reply).1).afterLoading settings
  | .refreshing settings r, reply => (w.onEngine fun e => (r.finish e reply).1).launch settings
  | .resetting settings, _ => w.finishStartup settings

end Switchboard.Session
