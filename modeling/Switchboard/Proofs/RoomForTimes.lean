import Mathlib.Tactic.MkIffOfInductiveProp
import Switchboard.Proofs.KeepaliveDelays
import Switchboard.Proofs.PollFindings
import Switchboard.Session.Step

/-!
# Room for all times

Durations are unsigned words, times are signed ones, and a duration that is added to a time is turned
into a signed word first. The bounds of a configuration hold some durations down, but not all of them.
Here everything that is reckoned with times is recorded, and the configurations for which it is exact
while the clock stands between zero and 2^53 are found.

* `Backoff.recordedSuccess`, `Backoff.recordedFailure`, `Poll.recordedBegin`, `Banner.recordedObserve` —
  what the poller and the banner do, together with the figures that it is reckoned with.
* `Config.IsRecorded` — without the figures it is what the program does.
* `Config.RoomForTimes` — the durations that are in no bounds are not too long.
* `Config.exactTimes_iff` — then every figure is exact, and only then.
* `Config.DelaysLess` — one configuration delays less than another.
* `Config.normalized_times_exact_iff` — all of it for the configurations in their bounds.
-/

set_option autoImplicit false

namespace Switchboard

/-- A time that the clock may show. -/
def IsClock (t : Int64) : Prop := 0 ≤ t.toInt ∧ t.toInt ≤ 2 ^ 53

instance (t : Int64) : Decidable (IsClock t) := inferInstanceAs (Decidable (_ ∧ _))

namespace Figure

/-- The time that is a duration away. -/
def after (now : Int64) (d : UInt64) : Figure := .ofWord now + .ofDuration d

/-- How long ago a time is. -/
def since (now t : Int64) : Figure := .ofWord now - .ofWord t

variable {now t : Int64} {d : UInt64}

/-- A duration whose word is exact does not take up the top bit. -/
theorem room_of_exact (h : (ofDuration d).IsExact) : d.toNat < 2 ^ 63 := by
  have hlt : (d.toNat : Int) < 2 ^ 63 := h.fits.2
  exact_mod_cast hlt

theorem exact_after (hnow : IsClock now) (h : 2 ^ 53 + d.toNat < 2 ^ 63) :
    (ofDuration d).IsExact ∧ (after now d).IsExact := by
  obtain ⟨hlow, hhigh⟩ := hnow
  have hd : (ofDuration d).IsExact := isExact_ofDuration_iff.2 ⟨by omega, by omega⟩
  refine ⟨hd, ((isExact_ofWord now).add_iff hd).2 ?_⟩
  show FitsWord (now.toInt + d.toNat)
  exact ⟨by omega, by omega⟩

theorem toInt_after (hnow : IsClock now) (h : 2 ^ 53 + d.toNat < 2 ^ 63) :
    (now + d.toInt64).toInt = now.toInt + d.toNat := (exact_after hnow h).2

theorem exact_since (hnow : IsClock now) (ht : IsClock t) : (since now t).IsExact := by
  obtain ⟨hlow, hhigh⟩ := hnow
  obtain ⟨hlow', hhigh'⟩ := ht
  refine ((isExact_ofWord now).sub_iff (isExact_ofWord t)).2 ?_
  show FitsWord (now.toInt - t.toInt)
  exact ⟨by omega, by omega⟩

end Figure

/-! ## The poller -/

namespace Poll

/-- The beginning of a poll, with its figures. -/
def recordedBegin (e : Engine) (b : Backoff) : (Backoff × Progress Poll Outcome) × List Figure :=
  if e.now < b.nextFetchAt then ((b, .done (.skipped .notDue)), [])
  else
    let next := Figure.after e.now e.config.liveFetchMin
    (({ b with nextFetchAt := next.word }, .waiting ⟨e.mode⟩),
      [.ofDuration e.config.liveFetchMin, next])

theorem recordedBegin_fst (e : Engine) (b : Backoff) : (recordedBegin e b).1 = begin e b := by
  unfold recordedBegin begin
  split <;> rfl

theorem exact_recordedBegin {c : Config} {e : Engine} (b : Backoff) (hc : e.config = c.normalized)
    (hnow : IsClock e.now) : ∀ f ∈ (recordedBegin e b).2, f.IsExact := by
  have hle : e.config.liveFetchMin.toNat ≤ 60000 := hc ▸ Backoff.normalized_liveFetchMin_le c
  obtain ⟨hd, hnext⟩ := Figure.exact_after hnow (d := e.config.liveFetchMin) (by omega)
  unfold recordedBegin
  split
  · exact List.forall_mem_nil _
  · simp only [List.forall_mem_cons]
    exact ⟨hd, hnext, List.forall_mem_nil _⟩

end Poll

namespace Backoff

variable (c : Config) (b : Backoff) (now : Int64)

/-- The times of the errors in the window, once an error has come, with the figures of their ages. -/
def recordedErrors : List Int64 × List Figure :=
  let window := Figure.ofDuration c.burstWindow
  let errors := b.recentErrors ++ [now]
  (errors.dropWhile fun t => window.word < (Figure.since now t).word,
    window :: errors.map (Figure.since now))

/-- What becomes of the poller after a success, with its figures. -/
def recordedSuccess (hasError : Bool) : Backoff × List Figure :=
  let (errors, ages) := b.recordedErrors c now
  if !hasError then ({ b with streak := 0, recentErrors := [] }, [])
  else if isBurst c errors then
    let next := Figure.after now c.burstCooldown
    ({ streak := 0, recentErrors := [], nextFetchAt := next.word },
      ages ++ [.ofDuration c.burstCooldown, next])
  else ({ b with streak := 0, recentErrors := errors }, ages)

/-- What becomes of the poller after a failure, with its figures. -/
def recordedFailure : (Backoff × UInt64) × List Figure :=
  let streak := if b.streak = maxStreak then b.streak else b.streak + 1
  let (errors, ages) := b.recordedErrors c now
  let cooldown := if isBurst c errors then c.burstCooldown else 0
  let delay := max (retryDelay c streak) cooldown
  let next := Figure.after now delay
  (({ streak := streak
      recentErrors := if 0 < cooldown then [] else errors
      nextFetchAt := next.word },
    delay), ages ++ [.ofDuration delay, next])

theorem recordedSuccess_fst (hasError : Bool) :
    (b.recordedSuccess c now hasError).1 = b.recordSuccess c hasError now := by
  have herrors : (b.recordedErrors c now).1 = b.withError c now := rfl
  simp only [recordedSuccess, recordSuccess, herrors, apply_ite Prod.fst]
  rfl

theorem recordedFailure_fst : (b.recordedFailure c now).1 = b.recordFailure c now := rfl

variable {c b now}

theorem setback_le (streak : Nat) (burst : Bool) :
    setback c streak burst ≤ max (min (c.liveErrorRetry.toNat * 2 ^ 20) c.liveErrorRetryMax.toNat)
      c.burstCooldown.toNat := by
  have hpow : 2 ^ min (streak - 1) 20 ≤ 2 ^ 20 := Nat.pow_le_pow_right (by decide) (min_le_right _ _)
  have hmul := Nat.mul_le_mul_left c.liveErrorRetry.toNat hpow
  unfold setback
  split <;> omega

theorem exact_recordedErrors (hwindow : c.burstWindow.toNat < 2 ^ 63) (hnow : IsClock now)
    (hb : ∀ t ∈ b.recentErrors, IsClock t) : ∀ f ∈ (b.recordedErrors c now).2, f.IsExact := by
  have hages : ∀ t ∈ b.recentErrors ++ [now], (Figure.since now t).IsExact := by
    simp only [List.forall_mem_append, List.forall_mem_singleton]
    exact ⟨fun t ht => Figure.exact_since hnow (hb t ht), Figure.exact_since hnow hnow⟩
  refine List.forall_mem_cons.2 ⟨Figure.isExact_ofDuration_iff.2 ⟨by omega, by omega⟩, ?_⟩
  simpa only [List.forall_mem_map] using hages

end Backoff

/-! ## The banner -/

namespace Banner

/-- The candidate goes on the screen once it is as old as the delay, with the figures. -/
def recordedSettle (delay : UInt64) (b : Banner) (now : Int64) : Banner × List Figure :=
  let limit := Figure.ofDuration delay
  let age := Figure.since now b.since
  (if limit.word ≤ age.word then { b with displayed := b.candidate } else b, [limit, age])

/-- One look at the error, with its figures. -/
def recordedObserve (delay : UInt64) (b : Banner) (error : Option String) (now : Int64) :
    Banner × List Figure :=
  match error with
  | none => ({ delay := b.delay }, [])
  | some text => recordedSettle delay (b.notice text now) now

theorem recordedObserve_fst {delay : UInt64} {b : Banner} (h : b.delay = (ofDelay delay).delay)
    (error : Option String) (now : Int64) :
    (recordedObserve delay b error now).1 = b.observe error now := by
  cases error with
  | none => rfl
  | some text =>
    have hdelay : (b.notice text now).delay = delay.toInt64 := (delay_notice b text now).trans h
    simp only [recordedObserve, recordedSettle, observe, settle, hdelay]
    rfl

theorem exact_recordedObserve {delay : UInt64} {b : Banner} {now : Int64}
    (hdelay : delay.toNat < 2 ^ 63) (hb : IsClock b.since) (hnow : IsClock now)
    (error : Option String) : ∀ f ∈ (recordedObserve delay b error now).2, f.IsExact := by
  cases error with
  | none => exact List.forall_mem_nil _
  | some text =>
    have hsince : IsClock (b.notice text now).since := by
      rw [since_notice]
      split
      · exact hb
      · exact hnow
    simp only [recordedObserve, recordedSettle, List.forall_mem_cons]
    exact ⟨Figure.isExact_ofDuration_iff.2 ⟨by omega, by omega⟩, Figure.exact_since hnow hsince,
      List.forall_mem_nil _⟩

end Banner

/-! ## Room -/

namespace Config

/-- The durations that the bounds of a configuration do not hold down leave room for the times that
are reckoned with them. The last run of keepalive may be at the last full second before 2^53. -/
@[mk_iff]
structure RoomForTimes (c : Config) : Prop where
  window : c.burstWindow.toNat < 2 ^ 63
  cooldown : 2 ^ 53 + c.burstCooldown.toNat < 2 ^ 63
  retry : 2 ^ 53 + min (c.liveErrorRetry.toNat * 2 ^ 20) c.liveErrorRetryMax.toNat < 2 ^ 63
  banner : c.bannerDelay.toNat < 2 ^ 63
  threshold : c.startupKeepaliveThreshold.toNat < 2 ^ 63
  stagger : c.staggerMin.toNat < 2 ^ 63
  period : c.keepaliveBase.toNat + 9007199254740000 + c.keepaliveJitter.toNat < 2 ^ 63
  patience : c.waitStep.toNat * c.waitSteps.toNat < 2 ^ 64

instance (c : Config) : Decidable c.RoomForTimes := decidable_of_iff _ (roomForTimes_iff c).symm

/-- Everything that is reckoned with times is exact, for every time of the clock up to 2^53. -/
structure ExactTimes (c : Config) : Prop where
  fetch : ∀ e b, e.config = c → IsClock e.now → ∀ f ∈ (Poll.recordedBegin e b).2, f.IsExact
  success : ∀ (b : Backoff) now hasError, IsClock now → (∀ t ∈ b.recentErrors, IsClock t) →
    ∀ f ∈ (b.recordedSuccess c now hasError).2, f.IsExact
  failure : ∀ (b : Backoff) now, IsClock now → (∀ t ∈ b.recentErrors, IsClock t) →
    ∀ f ∈ (b.recordedFailure c now).2, f.IsExact
  banner : ∀ b error now, IsClock b.since → IsClock now →
    ∀ f ∈ (Banner.recordedObserve c.bannerDelay b error now).2, f.IsExact
  plan : ∀ last now check s, IsClock now → (∀ t ∈ last, t.toInt * 1000 ≤ 2 ^ 53) →
    (Keepalive.recordedPlan c last now check).Ends s Keepalive.AllExact
  patience : ∃ ms, Session.patience? c = some ms ∧ ms.toNat = c.waitStep.toNat * c.waitSteps.toNat

/-- What is recorded is what the program does: the figures are all that is added to it. -/
structure IsRecorded (c : Config) : Prop where
  fetch : ∀ e b, (Poll.recordedBegin e b).1 = Poll.begin e b
  success : ∀ (b : Backoff) now hasError,
    (b.recordedSuccess c now hasError).1 = b.recordSuccess c hasError now
  failure : ∀ (b : Backoff) now, (b.recordedFailure c now).1 = b.recordFailure c now
  banner : ∀ (b : Banner) error now, b.delay = (Banner.ofDelay c.bannerDelay).delay →
    (Banner.recordedObserve c.bannerDelay b error now).1 = b.observe error now
  plan : ∀ last now check,
    Prod.fst <$> Keepalive.recordedPlan c last now check = Keepalive.firstPlan c last now check

variable {c d : Config}

theorem isRecorded (c : Config) : c.IsRecorded where
  fetch := Poll.recordedBegin_fst
  success b := b.recordedSuccess_fst c
  failure b := b.recordedFailure_fst c
  banner _ error now h := Banner.recordedObserve_fst h error now
  plan := Keepalive.recordedPlan_fst c

theorem patience_iff :
    (∃ ms, Session.patience? c = some ms ∧ ms.toNat = c.waitStep.toNat * c.waitSteps.toNat) ↔
      c.waitStep.toNat * c.waitSteps.toNat < 2 ^ 64 := by
  simp only [Session.patience?]
  split
  · rename_i hlt
    exact iff_of_true ⟨_, rfl, UInt64.toNat_ofNat_of_lt' hlt⟩ hlt
  · rename_i hnot
    exact iff_of_false (fun ⟨ms, hms, _⟩ => nomatch hms) hnot

namespace RoomForTimes

variable (h : c.RoomForTimes)
include h

theorem delay (streak : UInt32) (burst : Bool) :
    2 ^ 53 + (max (Backoff.retryDelay c streak) (if burst then c.burstCooldown else 0)).toNat <
      2 ^ 63 := by
  have hle := Backoff.setback_le (c := c) streak.toNat burst
  have hcooldown := h.cooldown
  have hretry := h.retry
  rw [Backoff.toNat_setback]
  omega

theorem success {b : Backoff} {now : Int64} (hnow : IsClock now)
    (hb : ∀ t ∈ b.recentErrors, IsClock t) (hasError : Bool) :
    ∀ f ∈ (b.recordedSuccess c now hasError).2, f.IsExact := by
  have hages := Backoff.exact_recordedErrors h.window hnow hb
  obtain ⟨hd, hnext⟩ := Figure.exact_after hnow h.cooldown
  simp only [Backoff.recordedSuccess]
  split
  · exact List.forall_mem_nil _
  · split
    · simp only [List.forall_mem_append, List.forall_mem_cons]
      exact ⟨hages, hd, hnext, List.forall_mem_nil _⟩
    · exact hages

theorem failure {b : Backoff} {now : Int64} (hnow : IsClock now)
    (hb : ∀ t ∈ b.recentErrors, IsClock t) : ∀ f ∈ (b.recordedFailure c now).2, f.IsExact := by
  obtain ⟨hd, hnext⟩ := Figure.exact_after hnow (h.delay
    (if b.streak = Backoff.maxStreak then b.streak else b.streak + 1)
    (Backoff.isBurst c (b.recordedErrors c now).1))
  simp only [Backoff.recordedFailure, List.forall_mem_append, List.forall_mem_cons]
  exact ⟨Backoff.exact_recordedErrors h.window hnow hb, hd, hnext, List.forall_mem_nil _⟩

theorem figures {last : Option Int64} {now : Int64} (hnow : IsClock now)
    (hlast : ∀ t ∈ last, t.toInt * 1000 ≤ 2 ^ 53) (check : Bool) {j : Int}
    (hj : Keepalive.IsJitter c j) : ∀ x ∈ Keepalive.figures c last now check j, FitsWord x := by
  obtain ⟨hlow, hhigh⟩ := hnow
  have hperiod := h.period
  refine Keepalive.fits_of_bounds hj (by omega) h.threshold h.stagger fun t ht hpos => ?_
  have hms := hlast t ht
  exact ⟨by omega, ⟨by omega, by omega⟩, by omega⟩

end RoomForTimes

/-- **Where there is room, everything is exact.** -/
theorem exactTimes_of_room (h : c.normalized.RoomForTimes) : c.normalized.ExactTimes where
  fetch _ b hc hnow := Poll.exact_recordedBegin b hc hnow
  success _ _ hasError hnow hb := h.success hnow hb hasError
  failure _ _ hnow hb := h.failure hnow hb
  banner _ error _ hb hnow := Banner.exact_recordedObserve h.banner hb hnow error
  plan _ _ check s hnow hlast := by
    obtain ⟨j, s', hj, -, hmem⟩ := Keepalive.jitter_mem c s
    exact Keepalive.exact_of_fits hj (h.figures hnow hlast check hmem)
  patience := patience_iff.2 h.patience

/-! ## No room -/

namespace ExactTimes

variable (h : c.normalized.ExactTimes)
include h

theorem window : c.normalized.burstWindow.toNat < 2 ^ 63 := by
  have hfigs := h.failure {} 0 (by decide) (List.forall_mem_nil _)
  simp only [Backoff.recordedFailure, Backoff.recordedErrors, List.forall_mem_append,
    List.forall_mem_cons] at hfigs
  exact Figure.room_of_exact hfigs.1.1

/-- The errors of one moment are all in the window. -/
theorem length_errors (now : Int64) (k : Nat) (hnow : IsClock now) :
    (({ recentErrors := List.replicate k now } : Backoff).recordedErrors c.normalized now).1.length =
      k + 1 := by
  have hwindow : (Figure.ofDuration c.normalized.burstWindow).IsExact :=
    Figure.isExact_ofDuration_iff.2 ⟨by omega, by exact_mod_cast h.window⟩
  have hage : (Figure.since now now).IsExact := Figure.exact_since hnow hnow
  have hyoung : ¬ (Figure.ofDuration c.normalized.burstWindow).word < (Figure.since now now).word := by
    rw [Int64.lt_iff_toInt_lt, hwindow, hage]
    show ¬ (c.normalized.burstWindow.toNat : Int) < now.toInt - now.toInt
    omega
  simp only [Backoff.recordedErrors, ← List.replicate_succ', List.dropWhile_replicate, hyoung,
    decide_false, Bool.false_eq_true, if_false, List.length_replicate]

/-- A burst at the end of time, with a streak that stretches the delay as far as it goes. -/
theorem setback : 2 ^ 53 + Backoff.setback c.normalized 21 true < 2 ^ 63 := by
  let now : Int64 := 9007199254740992
  let k := c.normalized.burstThreshold.toNat
  let b : Backoff := { streak := 20, recentErrors := List.replicate k now }
  have hnow : IsClock now := by decide
  have hburst : Backoff.isBurst c.normalized (b.recordedErrors c.normalized now).1 := by
    rw [Backoff.isBurst, decide_eq_true_eq]
    exact (Nat.le_succ k).trans_eq (h.length_errors now k hnow).symm
  have hfigs := h.failure b now hnow fun t ht => List.eq_of_mem_replicate ht ▸ hnow
  simp only [Backoff.recordedFailure, hburst, List.forall_mem_append, List.forall_mem_cons] at hfigs
  have hlt : now.toInt + ((max (Backoff.retryDelay c.normalized 21)
      (if true then c.normalized.burstCooldown else 0)).toNat : Int) < 2 ^ 63 := hfigs.2.2.1.fits.2
  have hdelay : (21 : UInt32).toNat = 21 := by decide
  have hlast : now.toInt = 2 ^ 53 := by decide
  rw [Backoff.toNat_setback, hdelay, hlast] at hlt
  exact_mod_cast hlt

theorem banner_lt : c.normalized.bannerDelay.toNat < 2 ^ 63 := by
  have hfigs := h.banner { delay := 0 } (some "") 0 (by decide) (by decide)
  simp only [Banner.recordedObserve, Banner.recordedSettle, List.forall_mem_cons] at hfigs
  exact Figure.room_of_exact hfigs.1

theorem figures {last : Option Int64} {now : Int64} (hnow : IsClock now)
    (hlast : ∀ t ∈ last, t.toInt * 1000 ≤ 2 ^ 53) (check : Bool) {j : Int64} {s s' : Source}
    (hj : (Keepalive.jitter c.normalized).run s = some (j, s')) :
    ∀ x ∈ Keepalive.figures c.normalized last now check j.toInt, FitsWord x :=
  Keepalive.fits_of_ends hj ((h.plan last now check s hnow hlast).mono fun _ _ => (·.durationsFit))

theorem threshold : c.normalized.startupKeepaliveThreshold.toNat < 2 ^ 63 := by
  obtain ⟨j, s', hj, -, -⟩ := Keepalive.jitter_mem c {}
  have hearly : ∀ t ∈ some (1 : Int64), t.toInt * 1000 ≤ 2 ^ 53 := by
    rintro t ⟨⟩
    decide
  have hfits := h.figures (by decide : IsClock 0) hearly true hj
  have hlast : (some (1 : Int64)).filter (0 < ·) = some 1 := by decide
  simp only [Keepalive.figures, hlast, if_true, List.forall_mem_append, List.forall_mem_cons] at hfits
  have hlt := hfits.1.2.1.2
  exact_mod_cast hlt

/-- The last run was at the last full second, and the clock stands at zero. -/
theorem period : c.normalized.staggerMin.toNat < 2 ^ 63 ∧
    c.normalized.keepaliveBase.toNat + 9007199254740000 + c.normalized.keepaliveJitter.toNat <
      2 ^ 63 := by
  obtain ⟨j, s, s', hj, hlongest⟩ := Keepalive.exists_longest_jitter c
  have hms : (9007199254740 : Int64).toInt * 1000 = 9007199254740000 := by decide
  have hearly : ∀ t ∈ some (9007199254740 : Int64), t.toInt * 1000 ≤ 2 ^ 53 := by
    rintro t ⟨⟩
    rw [hms]
    decide
  have hfits := h.figures (by decide : IsClock 0) hearly false hj
  have hlast : (some (9007199254740 : Int64)).filter (0 < ·) = some 9007199254740 := by decide
  have hyoung : ¬ (c.normalized.keepaliveBase.toNat : Int) ≤ 0 - 9007199254740000 := by omega
  simp only [Keepalive.figures, hlast, hms, hlongest, Int64.toInt_zero, Bool.false_eq_true, if_false,
    false_and, hyoung, List.forall_mem_append, List.forall_mem_cons] at hfits
  obtain ⟨-, -, -, ⟨-, hsum⟩, ⟨-, hstagger⟩, -⟩ := hfits
  exact ⟨by omega, by omega⟩

end ExactTimes

theorem exactTimes_iff : c.normalized.ExactTimes ↔ c.normalized.RoomForTimes := by
  refine ⟨fun h => ?_, exactTimes_of_room⟩
  have hsetback := h.setback
  rw [Backoff.setback, if_pos rfl] at hsetback
  exact {
    window := h.window
    cooldown := by omega
    retry := by simp only [Nat.reduceSub, min_self] at hsetback; omega
    banner := h.banner_lt
    threshold := h.threshold
    stagger := h.period.1
    period := h.period.2
    patience := patience_iff.1 h.patience }

/-! ## Longer delays -/

/-- No delay of the poller is longer under the one configuration than under the other, and they agree
on what a burst is. -/
structure DelaysLess (c d : Config) : Prop where
  fetchMin : c.liveFetchMin ≤ d.liveFetchMin
  errorRetry : c.liveErrorRetry ≤ d.liveErrorRetry
  errorRetryMax : c.liveErrorRetryMax ≤ d.liveErrorRetryMax
  cooldown : c.burstCooldown ≤ d.burstCooldown
  window : c.burstWindow = d.burstWindow
  threshold : c.burstThreshold = d.burstThreshold

namespace DelaysLess

variable (h : c.DelaysLess d)
include h

theorem normalized : c.normalized.DelaysLess d.normalized := by
  obtain ⟨hfetch, hretry, hmax, hcooldown, hwindow, hthreshold⟩ := h
  rw [UInt64.le_iff_toNat_le] at hfetch hretry hmax
  refine ⟨?_, ?_, ?_, hcooldown, congrArg (max · 1) hwindow, congrArg (max · 1) hthreshold⟩ <;>
    simp only [Config.normalized, UInt64.le_iff_toNat_le, UInt64.toNat_min, UInt64.toNat_max] <;>
    omega

theorem setback_le (streak : Nat) (burst : Bool) :
    Backoff.setback c streak burst ≤ Backoff.setback d streak burst := by
  have hretry := Nat.mul_le_mul_right (2 ^ min (streak - 1) 20)
    (UInt64.le_iff_toNat_le.1 h.errorRetry)
  have hmax := UInt64.le_iff_toNat_le.1 h.errorRetryMax
  have hcooldown := UInt64.le_iff_toNat_le.1 h.cooldown
  unfold Backoff.setback
  cases burst <;> simp only [Bool.false_eq_true, if_false, if_true] <;> omega

theorem withError_eq (b : Backoff) (now : Int64) : b.withError c now = b.withError d now := by
  simp only [Backoff.withError, h.window]

theorem isBurst_eq (errors : List Int64) : Backoff.isBurst c errors = Backoff.isBurst d errors := by
  simp only [Backoff.isBurst, h.threshold]

/-- After a fetch has begun. -/
theorem begin_le {e e' : Engine} {b : Backoff} (hnow : IsClock e.now) (he : e'.now = e.now)
    (hc : e.config = c.normalized) (hd : e'.config = d.normalized) :
    (Poll.begin e b).1.nextFetchAt ≤ (Poll.begin e' b).1.nextFetchAt := by
  unfold Poll.begin
  rw [he]
  split
  · exact Int64.le_refl _
  · have hle : e.config.liveFetchMin ≤ e'.config.liveFetchMin := by
      rw [hc, hd]
      exact h.normalized.fetchMin
    have hmost : e'.config.liveFetchMin.toNat ≤ 60000 := hd ▸ Backoff.normalized_liveFetchMin_le d
    rw [UInt64.le_iff_toNat_le] at hle
    rw [Int64.le_iff_toInt_le, Figure.toInt_after hnow (by omega), Figure.toInt_after hnow (by omega)]
    omega

/-- After a dashboard has come. -/
theorem recordSuccess_le (hc : c.RoomForTimes) (hd : d.RoomForTimes) (b : Backoff)
    (hasError : Bool) {now : Int64} (hnow : IsClock now) :
    (b.recordSuccess c hasError now).nextFetchAt ≤ (b.recordSuccess d hasError now).nextFetchAt := by
  simp only [Backoff.recordSuccess, h.withError_eq, h.isBurst_eq]
  split
  · exact Int64.le_refl _
  · split
    · rw [Int64.le_iff_toInt_le, Figure.toInt_after hnow hc.cooldown,
        Figure.toInt_after hnow hd.cooldown]
      have hcooldown := UInt64.le_iff_toNat_le.1 h.cooldown
      omega
    · exact Int64.le_refl _

/-- After a failure. -/
theorem recordFailure_le (hc : c.RoomForTimes) (hd : d.RoomForTimes) (b : Backoff) {now : Int64}
    (hnow : IsClock now) :
    (b.recordFailure c now).1.nextFetchAt ≤ (b.recordFailure d now).1.nextFetchAt := by
  simp only [Backoff.recordFailure, h.withError_eq, h.isBurst_eq]
  rw [Int64.le_iff_toInt_le, Figure.toInt_after hnow (hc.delay _ _),
    Figure.toInt_after hnow (hd.delay _ _), Backoff.toNat_setback, Backoff.toNat_setback]
  have hle := h.setback_le (if b.streak = Backoff.maxStreak then b.streak else b.streak + 1).toNat
    (Backoff.isBurst d (b.withError d now))
  omega

end DelaysLess

/-- **What a configuration in its bounds is good for.** What is recorded is what the program does. The
shortest time between two fetches and the jitter always fit, and the delay of a streak is never cut
off by its type. Everything else that is reckoned with times, in the poller, the banner, the plan of
keepalive and the wait for the dashboard, is exact at every time up to 2^53 if and only if there is
room for it. And where there is, no delay that is configured longer makes the time of the next fetch
an earlier one. -/
theorem normalized_times_exact_iff (c : Config) :
    c.normalized.IsRecorded ∧
    (∀ e b, e.config = c.normalized → IsClock e.now →
      ∀ f ∈ (Poll.recordedBegin e b).2, f.IsExact) ∧
    (∀ f ∈ Keepalive.jitterFigures c.normalized, f.IsExact) ∧
    (∀ streak, (Backoff.retryDelay c.normalized streak).toNat =
      min (c.normalized.liveErrorRetry.toNat * 2 ^ min (streak.toNat - 1) 20)
        c.normalized.liveErrorRetryMax.toNat) ∧
    (c.normalized.ExactTimes ↔ c.normalized.RoomForTimes) ∧
    ∀ d : Config, c.DelaysLess d → c.normalized.RoomForTimes → d.normalized.RoomForTimes →
      (∀ (e : Engine) b, IsClock e.now →
        (Poll.begin { e with config := c.normalized } b).1.nextFetchAt ≤
          (Poll.begin { e with config := d.normalized } b).1.nextFetchAt) ∧
      ∀ (b : Backoff) now, IsClock now →
        (∀ hasError, (b.recordSuccess c.normalized hasError now).nextFetchAt ≤
          (b.recordSuccess d.normalized hasError now).nextFetchAt) ∧
        (b.recordFailure c.normalized now).1.nextFetchAt ≤
          (b.recordFailure d.normalized now).1.nextFetchAt := by
  refine ⟨isRecorded _, fun e b hc hnow => Poll.exact_recordedBegin b hc hnow,
    Keepalive.exact_jitterFigures c, Backoff.toNat_retryDelay c.normalized, exactTimes_iff,
    fun d h hc hd => ⟨?_, ?_⟩⟩
  · exact fun e b hnow => h.begin_le hnow rfl rfl rfl
  · exact fun b now hnow => ⟨fun hasError => h.normalized.recordSuccess_le hc hd b hasError hnow,
      h.normalized.recordFailure_le hc hd b hnow⟩

/-- There is room for the default delays and for somewhat longer ones. There is none for a cooldown of
2^63 milliseconds: a failure puts the next fetch at a time long past, where the shorter cooldown puts
it off. -/
theorem longest_cooldown_wraps :
    let c : Config := { burstThreshold := 1 }
    let d : Config := { c with liveErrorRetry := 300, burstCooldown := 2000 }
    let wraps : Config := { c with burstCooldown := 9223372036854775808 }
    let b : Backoff := {}
    let now : Int64 := 1700000000000
    c.normalized.ExactTimes ∧ c.DelaysLess d ∧ d.normalized.RoomForTimes ∧ IsClock now ∧
      (b.recordFailure c.normalized now).1.nextFetchAt ≤
        (b.recordFailure d.normalized now).1.nextFetchAt ∧
      ¬ wraps.normalized.ExactTimes ∧ c.DelaysLess wraps ∧
      (b.recordFailure wraps.normalized now).1.nextFetchAt <
        (b.recordFailure c.normalized now).1.nextFetchAt := by
  intro c d wraps b now
  obtain ⟨-, -, -, -, hexact, hlonger⟩ := normalized_times_exact_iff c
  have hroom : c.normalized.RoomForTimes := by decide
  have hless : c.DelaysLess d :=
    ⟨by decide, by decide, by decide, by decide, by decide, by decide⟩
  have hroom' : d.normalized.RoomForTimes := by decide
  have hnow : IsClock now := by decide
  have hwraps : ¬ wraps.normalized.RoomForTimes := by decide
  exact ⟨hexact.2 hroom, hless, hroom', hnow, ((hlonger d hless hroom hroom').2 b now hnow).2,
    fun h => hwraps (exactTimes_iff.1 h),
    ⟨by decide, by decide, by decide, by decide, by decide, by decide⟩, by decide⟩

end Config

end Switchboard
