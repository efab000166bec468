import Switchboard.Config

/-!
# When to poll again

The poller remembers its failures in two ways: the streak of failures since the last success, which
stretches the delay before the next try, and the times of all errors in a sliding window. Too many
errors in the window are a burst; it puts polling off for a while and empties the window.
-/

set_option autoImplicit false

namespace Switchboard

/-- What the poller remembers of its errors, and when it may fetch again. -/
structure Backoff where
  /-- Failures since the last success. -/
  streak : UInt32 := 0
  /-- The times of the errors in the window, oldest first. -/
  recentErrors : List Int64 := []
  /-- Before this time nothing is fetched. -/
  nextFetchAt : Int64 := 0
  deriving DecidableEq, Inhabited

namespace Backoff

variable (c : Config)

/-- The times of the errors in the window, once an error has come at this time. -/
def withError (b : Backoff) (now : Int64) : List Int64 :=
  (b.recentErrors ++ [now]).dropWhile fun t => c.burstWindow.toInt64 < now - t

/-- So many errors are a burst. -/
def isBurst (errors : List Int64) : Bool := c.burstThreshold.toNat ≤ errors.length

/-- The delay before the next try after this many failures in a row: it doubles with every failure,
up to a limit. -/
def retryDelay (streak : UInt32) : UInt64 :=
  let factor : Nat := Nat.pow 2 (min (streak.toNat - 1) 20)
  min (UInt64.ofNat (min (c.liveErrorRetry.toNat * factor) (UInt64.size - 1))) c.liveErrorRetryMax

/-- The count of failures goes no further than this. -/
def maxStreak : UInt32 := 4294967295

/-- A success; one that brings an identity error still counts as an error for the window. -/
def recordSuccess (b : Backoff) (hasError : Bool) (now : Int64) : Backoff :=
  let errors := b.withError c now
  if !hasError then { b with streak := 0, recentErrors := [] }
  else if isBurst c errors then
    { streak := 0, recentErrors := [], nextFetchAt := now + c.burstCooldown.toInt64 }
  else { b with streak := 0, recentErrors := errors }

/-- A failure, and the delay before the next try. A burst that puts nothing off leaves the window
as it is. -/
def recordFailure (b : Backoff) (now : Int64) : Backoff × UInt64 :=
  let streak := if b.streak = maxStreak then b.streak else b.streak + 1
  let errors := b.withError c now
  let cooldown := if isBurst c errors then c.burstCooldown else 0
  let delay := max (retryDelay c streak) cooldown
  ({ streak := streak
     recentErrors := if 0 < cooldown then [] else errors
     nextFetchAt := now + delay.toInt64 },
    delay)

end Backoff

end Switchboard
