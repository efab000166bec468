import Mathlib.Order.Nat
import Switchboard.Config

/-!
# The bounds of a configuration

What it means that a configuration is in its bounds, apart from the function that brings it there. A
bound may be another value, which has bounds of its own: the longest delay of a retry is bounded by the
shortest, a jitter by its period. The values are bounded one after another, so that it has to be shown
that none of them breaks a bound that was kept before.

* `Config.InBounds` — every value is in its bounds.
* `Config.inBounds_normalized` — so it is once the configuration is normalized.
* `Config.normalized_eq_self_iff` — a configuration is left as it is exactly if it is in its bounds.
-/

set_option autoImplicit false

namespace Switchboard

/-! ## Bounding a word -/

theorem word_le_max (a b : UInt64) : b ≤ max a b := by
  rw [UInt64.le_iff_toNat_le, UInt64.toNat_max]
  exact Nat.le_max_right _ _

theorem word_min_le (a b : UInt64) : min a b ≤ b := by
  rw [UInt64.le_iff_toNat_le, UInt64.toNat_min]
  exact Nat.min_le_right _ _

theorem word_le_min {a b c : UInt64} (ha : c ≤ a) (hb : c ≤ b) : c ≤ min a b := by
  rw [UInt64.le_iff_toNat_le] at *
  rw [UInt64.toNat_min]
  exact Nat.le_min.2 ⟨ha, hb⟩

theorem word_max_eq {a b : UInt64} (h : b ≤ a) : max a b = a := by
  rw [← UInt64.toNat_inj, UInt64.toNat_max]
  exact Nat.max_eq_left (UInt64.le_iff_toNat_le.1 h)

theorem word_min_eq {a b : UInt64} (h : a ≤ b) : min a b = a := by
  rw [← UInt64.toNat_inj, UInt64.toNat_min]
  exact Nat.min_eq_left (UInt64.le_iff_toNat_le.1 h)

/-! ## Bounding a configuration -/

namespace Config

/-- Every value is in its bounds. The values that are not named here have none. -/
structure InBounds (c : Config) : Prop where
  livePoll : 100 ≤ c.livePoll ∧ c.livePoll ≤ 60000
  liveFetchMin : c.liveFetchMin ≤ 60000
  liveErrorRetry : 1 ≤ c.liveErrorRetry
  liveErrorRetryMax : c.liveErrorRetry ≤ c.liveErrorRetryMax
  burstWindow : 1 ≤ c.burstWindow
  burstThreshold : 1 ≤ c.burstThreshold
  keepaliveBase : 60000 ≤ c.keepaliveBase
  keepaliveJitter : c.keepaliveJitter ≤ c.keepaliveBase / 2
  stagger : c.staggerMin ≤ c.staggerMax
  busyRetry : 100 ≤ c.busyRetry
  autoSwitchTick : 100 ≤ c.autoSwitchTick
  recoverTick : 100 ≤ c.recoverTick
  hookPoll : 100 ≤ c.hookPoll
  waitStep : 10 ≤ c.waitStep

/-- **Normalizing brings every value into its bounds.** A bound that is another value is that value as
it is in the end. -/
theorem inBounds_normalized (c : Config) : c.normalized.InBounds where
  livePoll :=
    ⟨word_le_min (word_le_max _ _) (by decide), word_min_le _ _⟩
  liveFetchMin := word_min_le _ _
  liveErrorRetry := word_le_max _ _
  liveErrorRetryMax := word_le_max _ _
  burstWindow := word_le_max _ _
  burstThreshold := word_le_max _ _
  keepaliveBase := word_le_max _ _
  keepaliveJitter := word_min_le _ _
  stagger := word_le_max _ _
  busyRetry := word_le_max _ _
  autoSwitchTick := word_le_max _ _
  recoverTick := word_le_max _ _
  hookPoll := word_le_max _ _
  waitStep := word_le_max _ _

variable {c : Config}

theorem InBounds.normalized_eq (h : c.InBounds) : c.normalized = c := by
  obtain ⟨⟨hlow, hhigh⟩, hfetch, hretry, hretryMax, hwindow, hthreshold, hbase, hjitter, hstagger,
    hbusy, hswitch, hrecover, hhook, hstep⟩ := h
  have hminute : max c.keepaliveBase minute = c.keepaliveBase := word_max_eq hbase
  simp only [normalized, hminute, word_max_eq hlow, word_min_eq hhigh,
    word_min_eq hfetch, word_max_eq hretry, word_max_eq hretryMax,
    word_max_eq hwindow, word_max_eq hthreshold, word_min_eq hjitter,
    word_max_eq hstagger, word_max_eq hbusy, word_max_eq hswitch,
    word_max_eq hrecover, word_max_eq hhook, word_max_eq hstep]

/-- **What is in its bounds is left as it is**, and nothing else is. -/
theorem normalized_eq_self_iff : c.normalized = c ↔ c.InBounds :=
  ⟨fun h => h ▸ inBounds_normalized c, InBounds.normalized_eq⟩

instance (c : Config) : Decidable c.InBounds := decidable_of_iff _ normalized_eq_self_iff

/-- Without bounds the poller would have no period, and the stagger no delay to draw. -/
example : ¬ ({ livePoll := 0, staggerMin := 10000, staggerMax := 10 } : Config).InBounds := by decide

end Config

end Switchboard
