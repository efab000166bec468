import Switchboard.Json.Decode

/-!
# Configuration

The periods, thresholds and limits of all loops, durations in milliseconds. A configuration is
`normalized` before it is used: every duration that must not be too short or too long is brought
back into its bounds. `Config.load` reads the configuration file.
-/

set_option autoImplicit false

namespace Switchboard

open Json

/-- The limits, periods and delays that the program goes by. -/
structure Config where
  livePoll : UInt64 := 500
  liveFetchMin : UInt64 := 500
  liveErrorRetry : UInt64 := 250
  liveErrorRetryMax : UInt64 := 900
  burstWindow : UInt64 := 3000
  burstThreshold : UInt64 := 6
  burstCooldown : UInt64 := 900
  keepaliveBase : UInt64 := 172800000
  keepaliveJitter : UInt64 := 1800000
  startupKeepaliveThreshold : UInt64 := 86400000
  staggerMin : UInt64 := 60000
  staggerMax : UInt64 := 480000
  busyRetry : UInt64 := 30000
  autoSwitchTick : UInt64 := 500
  recoverTick : UInt64 := 2000
  hookPoll : UInt64 := 3000
  waitStep : UInt64 := 250
  waitSteps : UInt32 := 40
  startupTimeout : UInt64 := 8000
  backgroundSyncDelay : UInt64 := 120
  bannerDelay : UInt64 := 1200
  deriving DecidableEq, Inhabited

namespace Config

/-- One minute. -/
def minute : UInt64 := 60000

/-- The configuration with every value in its bounds. -/
def normalized (c : Config) : Config :=
  let errorRetry := max c.liveErrorRetry 1
  let base := max c.keepaliveBase minute
  { c with
    livePoll := min (max c.livePoll 100) 60000
    liveFetchMin := min c.liveFetchMin 60000
    liveErrorRetry := errorRetry
    liveErrorRetryMax := max c.liveErrorRetryMax errorRetry
    burstWindow := max c.burstWindow 1
    burstThreshold := max c.burstThreshold 1
    keepaliveBase := base
    keepaliveJitter := min c.keepaliveJitter (base / 2)
    staggerMax := max c.staggerMax c.staggerMin
    busyRetry := max c.busyRetry 100
    autoSwitchTick := max c.autoSwitchTick 100
    recoverTick := max c.recoverTick 100
    hookPoll := max c.hookPoll 100
    waitStep := max c.waitStep 10 }

/-- All fields, under the names they have in a file. -/
def toJson (c : Config) : Json :=
  .object
    [("live_poll_ms", uint64 c.livePoll), ("live_fetch_min_ms", uint64 c.liveFetchMin),
      ("live_error_retry_ms", uint64 c.liveErrorRetry),
      ("live_error_retry_max_ms", uint64 c.liveErrorRetryMax),
      ("live_burst_window_ms", uint64 c.burstWindow),
      ("live_burst_threshold", uint64 c.burstThreshold),
      ("live_burst_cooldown_ms", uint64 c.burstCooldown),
      ("keepalive_base_ms", uint64 c.keepaliveBase),
      ("keepalive_jitter_ms", uint64 c.keepaliveJitter),
      ("startup_keepalive_threshold_ms", uint64 c.startupKeepaliveThreshold),
      ("startup_stagger_min_ms", uint64 c.staggerMin),
      ("startup_stagger_max_ms", uint64 c.staggerMax), ("busy_retry_ms", uint64 c.busyRetry),
      ("auto_switch_tick_ms", uint64 c.autoSwitchTick),
      ("thread_recover_tick_ms", uint64 c.recoverTick),
      ("hook_version_poll_ms", uint64 c.hookPoll), ("dashboard_wait_step_ms", uint64 c.waitStep),
      ("dashboard_wait_max_steps", .int c.waitSteps.toNat),
      ("startup_load_timeout_ms", uint64 c.startupTimeout),
      ("startup_background_sync_delay_ms", uint64 c.backgroundSyncDelay),
      ("current_error_banner_delay_ms", uint64 c.bannerDelay)]

/-- The fields of a configuration. -/
def slots : List Slot :=
  (["live_poll_ms", "live_fetch_min_ms", "live_error_retry_ms", "live_error_retry_max_ms",
    "live_burst_window_ms", "live_burst_threshold", "live_burst_cooldown_ms",
    "keepalive_base_ms", "keepalive_jitter_ms", "startup_keepalive_threshold_ms",
    "startup_stagger_min_ms", "startup_stagger_max_ms", "busy_retry_ms", "auto_switch_tick_ms",
    "thread_recover_tick_ms", "hook_version_poll_ms", "dashboard_wait_step_ms"].map
      fun key => slot key Decoder.uint64) ++
  [slot "dashboard_wait_max_steps" Decoder.uint32] ++
  (["startup_load_timeout_ms", "startup_background_sync_delay_ms",
    "current_error_banner_delay_ms"].map fun key => slot key Decoder.uint64)

/-- A field that is not there keeps its default. -/
def ofDoc : Decoder Config :=
  record slots fun r => do
    let d : Config := {}
    let duration (key : String) (absent : UInt64) := r.withDefault key Decoder.uint64 absent
    return {
      livePoll := ← duration "live_poll_ms" d.livePoll
      liveFetchMin := ← duration "live_fetch_min_ms" d.liveFetchMin
      liveErrorRetry := ← duration "live_error_retry_ms" d.liveErrorRetry
      liveErrorRetryMax := ← duration "live_error_retry_max_ms" d.liveErrorRetryMax
      burstWindow := ← duration "live_burst_window_ms" d.burstWindow
      burstThreshold := ← duration "live_burst_threshold" d.burstThreshold
      burstCooldown := ← duration "live_burst_cooldown_ms" d.burstCooldown
      keepaliveBase := ← duration "keepalive_base_ms" d.keepaliveBase
      keepaliveJitter := ← duration "keepalive_jitter_ms" d.keepaliveJitter
      startupKeepaliveThreshold :=
        ← duration "startup_keepalive_threshold_ms" d.startupKeepaliveThreshold
      staggerMin := ← duration "startup_stagger_min_ms" d.staggerMin
      staggerMax := ← duration "startup_stagger_max_ms" d.staggerMax
      busyRetry := ← duration "busy_retry_ms" d.busyRetry
      autoSwitchTick := ← duration "auto_switch_tick_ms" d.autoSwitchTick
      recoverTick := ← duration "thread_recover_tick_ms" d.recoverTick
      hookPoll := ← duration "hook_version_poll_ms" d.hookPoll
      waitStep := ← duration "dashboard_wait_step_ms" d.waitStep
      waitSteps := ← r.withDefault "dashboard_wait_max_steps" Decoder.uint32 d.waitSteps
      startupTimeout := ← duration "startup_load_timeout_ms" d.startupTimeout
      backgroundSyncDelay := ← duration "startup_background_sync_delay_ms" d.backgroundSyncDelay
      bannerDelay := ← duration "current_error_banner_delay_ms" d.bannerDelay }

/-- What stands at the path of the configuration file. -/
inductive File where
  | absent
  | directory
  | bytes (content : List UInt8)

/-- Why a configuration file was refused. -/
inductive LoadError where
  | unreadable (path : String)
  | wrongFormat (path : String)
  deriving DecidableEq

/-- The text that is shown. -/
def LoadError.message : LoadError → String
  | unreadable path => "读取运行配置失败: " ++ path
  | wrongFormat path => "运行配置格式不正确: " ++ path

/-- The configuration in a file, in its bounds; without a file, the default one. -/
def load (path : String) : File → Except LoadError Config
  | .absent => .ok {}
  | .directory => .error (.unreadable path)
  | .bytes content =>
    match String.fromUTF8? (ByteArray.mk content.toArray) with
    | none => .error (.unreadable path)
    | some text =>
      match decodeText ofDoc text with
      | .ok c => .ok c.normalized
      | .error _ => .error (.wrongFormat path)

/-- The default values are in their bounds. -/
theorem normalized_default : ({} : Config).normalized = {} := by decide

end Config

end Switchboard
