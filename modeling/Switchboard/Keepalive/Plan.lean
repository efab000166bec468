import Switchboard.Config
import Switchboard.Keepalive.Sampling
import Switchboard.Number.Double

/-!
# When to keep the accounts alive

Keepalive runs come one period apart, give or take a jitter. The first run after a start is planned
from the time of the last one, which the backend gives in seconds: an overdue run is put off by a
stagger, and at the start of the program a stale account gets a run of its own.

Times are reckoned in signed words. Where a word has no room for a result, there is no plan.
-/

set_option autoImplicit false

namespace Switchboard.Keepalive

/-- Why a run is made. -/
inductive Reason where
  | startup
  | periodic
  deriving DecidableEq, Repr, Inhabited

/-- The delay before a run, in milliseconds, and the reason for the run. -/
structure Plan where
  delay : UInt64
  reason : Reason
  deriving DecidableEq, Inhabited

/-- The word for what is reckoned, if there is room for it. -/
def reckon (n : Int) : Draw Int64 := fun s =>
  let word := Int64.ofInt n
  if word.toInt = n then some (word, s) else none

variable (c : Config)

/-- How far a run is moved from its time. -/
def jitter : Draw Int64 := do
  let most := c.keepaliveJitter.toInt64
  let least ← reckon (-most.toInt)
  Draw.int64 least most

/-- The delay from one run to the next. -/
def periodicDelay : Draw UInt64 := do
  let j ← jitter c
  let delay ← reckon (c.keepaliveBase.toInt64.toInt + j.toInt)
  return (max delay 0).toUInt64

/-- The delay of a run that is due at once. -/
def staggerDelay : Draw UInt64 := Draw.uint64 c.staggerMin c.staggerMax

/-- The second of the last run, if there was one. -/
def lastRun? (last : Option Int64) : Option Int64 := last.filter (0 < ·)

/-- The milliseconds since a run at this second. -/
def elapsed (t now : Int64) : Draw Int64 := do
  let ms ← reckon (t.toInt * 1000)
  reckon (now.toInt - ms.toInt)

/-- What is left of a period after so many milliseconds, moved by a jitter. -/
def remainder (gone : Int64) : Draw UInt64 := do
  let rest ← reckon (c.keepaliveBase.toInt64.toInt - gone.toInt)
  let j ← jitter c
  let delay ← reckon (rest.toInt + j.toInt)
  return (max delay c.staggerMin.toInt64).toUInt64

/-- The delay before the next periodic run, counted from the last one. -/
def delayFromLast (last : Option Int64) (now : Int64) : Draw UInt64 :=
  match lastRun? last with
  | none => periodicDelay c
  | some t => do
    let gone ← elapsed t now
    if c.keepaliveBase.toInt64 ≤ gone then staggerDelay c else remainder c gone

/-- The accounts have gone without a run for too long. -/
def isStale (last : Option Int64) (now : Int64) : Draw Bool :=
  match lastRun? last with
  | none => pure true
  | some t => do return c.startupKeepaliveThreshold.toInt64 ≤ (← elapsed t now)

/-- The first run is one for the start of the program; only the first plan of the program asks. -/
def isForStartup (last : Option Int64) (now : Int64) (checkStartup : Bool) : Draw Bool :=
  if checkStartup then isStale c last now else pure false

/-- The first run. -/
def firstPlan (last : Option Int64) (now : Int64) (checkStartup : Bool) : Draw Plan := do
  if ← isForStartup c last now checkStartup then return ⟨← staggerDelay c, .startup⟩
  else return ⟨← delayFromLast c last now, .periodic⟩

/-- One hour. -/
def hour : UInt64 := 3600000

/-- A delay in whole minutes, rounded, and one at least; reckoned in doubles, which matters for
delays beyond 53 bits. -/
def minutes (delay : UInt64) : Nat :=
  max ((Double.nearest delay.toNat 1).divide 60000).halfUp 1

/-- The status text once the first run is planned. -/
def Plan.announcement (p : Plan) : String :=
  match p.reason with
  | .startup =>
    "满足启动保活条件（>=" ++ Nat.repr (c.startupKeepaliveThreshold / hour).toNat ++
      "h），已错峰排队，约 " ++ Nat.repr (minutes p.delay) ++ " 分钟后执行。"
  | .periodic =>
    "自动保活已开启（按上次保活时间判断，运行中每" ++
      Nat.repr (c.keepaliveBase / hour).toNat ++ "h错峰）。"

/-- The status text after a run. -/
def successText : Reason → String
  | .startup =>
    "启动保活完成（" ++ Nat.repr (c.startupKeepaliveThreshold / hour).toNat ++ "h + 错峰）"
  | .periodic => "自动保活完成（" ++ Nat.repr (c.keepaliveBase / hour).toNat ++ "h + 错峰）"

/-- What starts the status text after a run that failed. -/
def failureText : Reason → String
  | .startup => "启动保活失败"
  | .periodic => "自动保活失败"

end Switchboard.Keepalive
