import Mathlib.Data.Int.ConditionallyCompleteOrder
import Mathlib.Order.ConditionallyCompleteLattice.Basic
import Mathlib.Order.Interval.Set.Defs
import Mathlib.Order.Nat
import Switchboard.Keepalive.Plan
import Switchboard.Proofs.Bounds
import Switchboard.Proofs.ExactArithmetic

/-!
# The first plan of keepalive

The first run is planned with 64-bit words and a choice from a range. Here the plan is compared with
exact numbers: wherever the words have room for them, there is a plan, its reason is the one that the
age of the last run gives, and its delay is one of the range around it.

* `Source.firstAccepted_eq` — the search for a number that is fair comes to an end.
* `Draw.uint64_mem`, `Draw.int64_mem` — a choice from a range that is not empty is in that range.
* `run_reckon_eq_some_iff`, `run_reckon_eq_none_iff` — what is reckoned is exact, or there is no plan.
* `jitter_mem`, `staggerDelay_mem` — the ranges of a normalized configuration are not empty.
* `periodicDelay_cases` — the delay from one run to the next, and when there is none.
* `firstPlan_within` — the reason and the delay of the first plan.
-/

set_option autoImplicit false

namespace Switchboard

/-! ## Drawing -/

namespace Source

/-- Of the numbers of the source some have been taken, at least one and at most one beyond the given
ones. -/
def Drops (s s' : Source) : Prop :=
  ∃ k, 0 < k ∧ k ≤ s.given.length + 1 ∧ s' = ⟨s.given.drop k, s.drawn + k⟩

/-- **The search ends** at the first number that is accepted, no later than with the first zero behind
the given ones. -/
theorem firstAccepted_eq {accepts : UInt64 → Bool} (hzero : accepts 0) (given : List UInt64)
    (drawn : Nat) :
    ∃ k ≤ given.length, accepts (given.getD k 0) ∧ (∀ i < k, ¬ accepts (given.getD i 0)) ∧
      firstAccepted accepts given drawn = (given.getD k 0, ⟨given.drop (k + 1), drawn + (k + 1)⟩) := by
  induction given generalizing drawn with
  | nil => exact ⟨0, le_rfl, hzero, by simp, rfl⟩
  | cons v rest ih =>
    by_cases hv : accepts v
    · exact ⟨0, Nat.zero_le _, hv, by simp, by simp [firstAccepted, hv]⟩
    · obtain ⟨k, hk, hacc, hrej, heq⟩ := ih (drawn + 1)
      refine ⟨k + 1, Nat.succ_le_succ hk, by simpa using hacc, ?_, ?_⟩
      · intro i hi
        cases i with
        | zero => simpa using hv
        | succ i => simpa using hrej i (by omega)
      · simp only [firstAccepted, hv, Bool.false_eq_true, if_false, heq, List.getD_cons_succ,
          List.drop_succ_cons, Prod.mk.injEq, mk.injEq, true_and]
        omega

/-- Zero is fair for every size, so that the search needs no number of its own. -/
theorem isFair_zero (size : Nat) : isFair size 0 := by
  simp [isFair]

theorem next_drops (s : Source) : s.Drops s.next.2 := by
  obtain ⟨given, drawn⟩ := s
  cases given with
  | nil => exact ⟨1, Nat.one_pos, le_rfl, rfl⟩
  | cons v rest => exact ⟨1, Nat.one_pos, by simp, rfl⟩

theorem offset_drops (last : UInt64) (s : Source) : s.Drops (s.offset last).2 := by
  rw [offset]
  by_cases hsize : last.toNat + 1 = UInt64.size
  · rw [if_pos hsize]
    exact s.next_drops
  · rw [if_neg hsize]
    dsimp only
    obtain ⟨k, hk, -, -, heq⟩ := firstAccepted_eq (isFair_zero (last.toNat + 1)) s.given s.drawn
    exact ⟨k + 1, Nat.succ_pos k, Nat.succ_le_succ hk, congrArg Prod.snd heq⟩

/-- The high half of the product of a word and a size is less than the size. -/
theorem offset_le (last : UInt64) (s : Source) : (s.offset last).1.toNat ≤ last.toNat := by
  rw [offset]
  by_cases hsize : last.toNat + 1 = UInt64.size
  · rw [if_pos hsize]
    have hlt : s.next.1.toNat < UInt64.size := s.next.1.toNat_lt_size
    omega
  · rw [if_neg hsize]
    generalize firstAccepted (isFair (last.toNat + 1)) s.given s.drawn = found
    obtain ⟨v, s'⟩ := found
    have hv : v.toNat < UInt64.size := v.toNat_lt_size
    have hdiv : v.toNat * (last.toNat + 1) / UInt64.size < last.toNat + 1 :=
      Nat.div_lt_of_lt_mul (Nat.mul_lt_mul_of_pos_right hv (Nat.succ_pos _))
    show (UInt64.ofNat _).toNat ≤ last.toNat
    rw [UInt64.toNat_ofNat_of_lt' (hdiv.trans_le last.toNat_lt_size)]
    exact Nat.le_of_lt_succ hdiv

theorem le_zone {low size : Nat} (h : low < size) : low ≤ zone size := by
  have hpos : 0 < 2 ^ (63 - size.log2) := Nat.two_pow_pos _
  have hle : size * 1 ≤ size * 2 ^ (63 - size.log2) := Nat.mul_le_mul_left size hpos
  show low ≤ size * 2 ^ (63 - size.log2) - 1
  omega

/-- **Every number of a range can be drawn**: the least word whose product with the size has it as its
high half has a low half less than the size, which is fair. -/
theorem exists_offset {last d : UInt64} (h : d ≤ last) : ∃ s : Source, (s.offset last).1 = d := by
  have hd : d.toNat ≤ last.toNat := UInt64.le_iff_toNat_le.1 h
  have hlast := last.toNat_lt
  have hsize : UInt64.size = 2 ^ 64 := rfl
  by_cases hfull : last.toNat + 1 = UInt64.size
  · exact ⟨{ given := [d] }, by rw [offset, if_pos hfull]; rfl⟩
  generalize hn : last.toNat + 1 = n at hfull
  obtain ⟨q, hlow, hhigh⟩ : ∃ q, d.toNat * 2 ^ 64 ≤ q * n ∧ q * n < d.toNat * 2 ^ 64 + n := by
    have hdiv := Nat.div_add_mod (d.toNat * 2 ^ 64 + last.toNat) n
    have hmod := Nat.mod_lt (d.toNat * 2 ^ 64 + last.toNat) (show 0 < n by omega)
    rw [Nat.mul_comm] at hdiv
    exact ⟨(d.toNat * 2 ^ 64 + last.toNat) / n, by omega, by omega⟩
  have hq : q < 2 ^ 64 := by
    by_contra hge
    have hmul : 2 ^ 64 * n ≤ q * n := Nat.mul_le_mul_right n (by omega)
    omega
  have hfair : isFair n (UInt64.ofNat q) := by
    rw [isFair, UInt64.toNat_ofNat_of_lt' (by omega), decide_eq_true_eq, hsize]
    exact le_zone (by omega)
  refine ⟨{ given := [UInt64.ofNat q] }, ?_⟩
  rw [offset, hn, if_neg hfull]
  simp only [firstAccepted, hfair, if_true, UInt64.toNat_ofNat_of_lt' (show q < UInt64.size by omega)]
  refine UInt64.toNat_inj.1 ?_
  rw [UInt64.toNat_ofNat_of_lt' (by rw [hsize]; omega), hsize]
  omega

end Source

namespace Draw

theorem run_bind {α β : Type} {draw : Draw α} {s s' : Source} {v : α}
    (h : draw.run s = some (v, s')) (f : α → Draw β) : (draw >>= f).run s = (f v).run s' := by
  rw [StateT.run_bind, h]
  rfl

theorem run_bind_of_none {α β : Type} {draw : Draw α} {s : Source} (h : draw.run s = none)
    (f : α → Draw β) : (draw >>= f).run s = none := by
  rw [StateT.run_bind, h]
  rfl

theorem run_bind_pure {α β : Type} {draw : Draw α} {s s' : Source} {v : α}
    (h : draw.run s = some (v, s')) (f : α → β) :
    (draw >>= fun v => pure (f v)).run s = some (f v, s') := run_bind h _

/-- **A choice from a range** that is not empty gives a number of that range. -/
theorem uint64_mem {low high : UInt64} (h : low ≤ high) (s : Source) :
    ∃ v s', (uint64 low high).run s = some (v, s') ∧ s.Drops s' ∧
      v.toNat ∈ Set.Icc low.toNat high.toNat := by
  obtain ⟨hd, hdrops⟩ := And.intro (s.offset_le (high - low)) (s.offset_drops (high - low))
  have hrun : (uint64 low high).run s =
      some (low + (s.offset (high - low)).1, (s.offset (high - low)).2) := if_neg (UInt64.not_lt.2 h)
  generalize s.offset (high - low) = found at hd hdrops hrun
  rw [UInt64.toNat_sub_of_le _ _ h] at hd
  have hle : low.toNat ≤ high.toNat := UInt64.le_iff_toNat_le.1 h
  have hhigh := high.toNat_lt
  refine ⟨_, _, hrun, hdrops, ?_⟩
  rw [UInt64.toNat_add, Nat.mod_eq_of_lt (by omega)]
  exact ⟨by omega, by omega⟩

/-- The distance between two signed words fits into an unsigned one. -/
theorem toNat_toUInt64_sub {low high : Int64} (h : low ≤ high) :
    ((high - low).toUInt64.toNat : Int) = high.toInt - low.toInt := by
  have hword : (high - low).toInt = ((high - low).toUInt64.toNat : Int).bmod (2 ^ 64) :=
    BitVec.toInt_eq_toNat_bmod _
  rw [Int64.toInt_sub] at hword
  have hlt := (high - low).toUInt64.toNat_lt
  have hle := Int64.le_iff_toInt_le.1 h
  have hlow := low.le_toInt
  have hhigh := high.toInt_lt
  simp only [Int.bmod_def] at hword
  omega

/-- The signed choice adds an unsigned offset to the least number. The offset taken as a signed word
may be negative, and then the sum wraps around, back into the range. -/
theorem int64_mem {low high : Int64} (h : low ≤ high) (s : Source) :
    ∃ v s', (int64 low high).run s = some (v, s') ∧ s.Drops s' ∧
      v.toInt ∈ Set.Icc low.toInt high.toInt := by
  obtain ⟨hd, hdrops⟩ := And.intro (s.offset_le (high - low).toUInt64)
    (s.offset_drops (high - low).toUInt64)
  have hrun : (int64 low high).run s = some
      (low + (s.offset (high - low).toUInt64).1.toInt64, (s.offset (high - low).toUInt64).2) :=
    if_neg (by simpa using h)
  generalize s.offset (high - low).toUInt64 = found at hd hdrops hrun
  obtain ⟨d, s'⟩ := found
  have hsub := toNat_toUInt64_sub h
  have hoffset : (d.toNat : Int) ≤ high.toInt - low.toInt := hsub ▸ Int.ofNat_le.2 hd
  have hword : d.toInt64.toInt = (d.toNat : Int).bmod (2 ^ 64) := BitVec.toInt_eq_toNat_bmod _
  have hsum : (low + d.toInt64).toInt = low.toInt + d.toNat := by
    rw [Int64.toInt_add, hword, Int.add_bmod_bmod]
    exact FitsWord.bmod ((FitsWord.toInt low).between (FitsWord.toInt high) (by omega) (by omega))
  refine ⟨_, _, hrun, hdrops, ?_⟩
  rw [hsum]
  exact ⟨by omega, by omega⟩

theorem exists_int64 {low high x : Int64} (hlow : low ≤ x) (hhigh : x ≤ high) :
    ∃ s s', (int64 low high).run s = some (x, s') := by
  have hle : low ≤ high := Int64.le_trans hlow hhigh
  have hoffset : (x - low).toUInt64 ≤ (high - low).toUInt64 := by
    have hx := toNat_toUInt64_sub hlow
    have htop := toNat_toUInt64_sub hle
    have hx' := Int64.le_iff_toInt_le.1 hhigh
    exact UInt64.le_iff_toNat_le.2 (by omega)
  obtain ⟨s, hs⟩ := Source.exists_offset hoffset
  refine ⟨s, (s.offset (high - low).toUInt64).2, ?_⟩
  have hrun : (int64 low high).run s = some
      (low + (s.offset (high - low).toUInt64).1.toInt64, (s.offset (high - low).toUInt64).2) :=
    if_neg (by simpa using hle)
  have hsum : low + (x - low) = x := by
    rw [Int64.add_comm, Int64.sub_add_cancel]
  rw [hrun, hs, Int64.toInt64_toUInt64, hsum]

end Draw

/-! ## The ranges of a normalized configuration -/

namespace Config

theorem normalized_jitter_le (c : Config) :
    c.normalized.keepaliveJitter.toNat ≤ c.normalized.keepaliveBase.toNat / 2 := by
  have hle := UInt64.le_iff_toNat_le.1 c.inBounds_normalized.keepaliveJitter
  rw [UInt64.toNat_div] at hle
  exact hle

theorem normalized_stagger_le (c : Config) : c.normalized.staggerMin ≤ c.normalized.staggerMax :=
  c.inBounds_normalized.stagger

end Config

namespace Keepalive

/-! ## Reckoning -/

section Reckoning

variable {n : Int} {word : Int64} {s s' : Source}

/-- **What is reckoned is exact.** -/
theorem run_reckon_eq_some_iff :
    (reckon n).run s = some (word, s') ↔ word.toInt = n ∧ s' = s := by
  have hrun : (reckon n).run s =
      if (Int64.ofInt n).toInt = n then some (Int64.ofInt n, s) else none := rfl
  rw [hrun, Option.ite_none_right_eq_some, Option.some.injEq, Prod.mk.injEq]
  constructor
  · rintro ⟨hn, rfl, rfl⟩
    exact ⟨hn, rfl⟩
  · rintro ⟨rfl, rfl⟩
    rw [Int64.ofInt_toInt]
    exact ⟨rfl, rfl, rfl⟩

theorem run_reckon (h : FitsWord n) :
    ∃ word : Int64, word.toInt = n ∧ ∀ s, (reckon n).run s = some (word, s) := by
  have hn : (Int64.ofInt n).toInt = n := Int64.toInt_ofInt.trans h.bmod
  exact ⟨_, hn, fun s => run_reckon_eq_some_iff.2 ⟨hn, rfl⟩⟩

/-- There is no plan exactly if a word has no room. -/
theorem run_reckon_eq_none_iff : (reckon n).run s = none ↔ ¬ FitsWord n := by
  constructor
  · intro hnone h
    obtain ⟨word, -, hsome⟩ := run_reckon h
    cases hnone.symm.trans (hsome s)
  · refine fun h => Option.eq_none_iff_forall_ne_some.2 fun ⟨word, s'⟩ hrun => h ?_
    rw [← (run_reckon_eq_some_iff.1 hrun).1]
    exact FitsWord.toInt word

end Reckoning

variable (c : Config)

/-! ## Delays -/

/-- The delays of runs that are due at once. -/
def staggerWindow : Set Int := Set.Icc c.staggerMin.toNat c.staggerMax.toNat

/-- The delays from one run to the next. -/
def periodicWindow : Set Int :=
  Set.Icc (c.keepaliveBase.toNat - c.keepaliveJitter.toNat)
    (c.keepaliveBase.toNat + c.keepaliveJitter.toNat)

/-- The delays of a run after one of that age. -/
def remainderWindow (age : Int) : Set Int :=
  Set.Icc (max c.staggerMin.toNat (c.keepaliveBase.toNat - age - c.keepaliveJitter.toNat))
    (max c.staggerMin.toNat (c.keepaliveBase.toNat - age + c.keepaliveJitter.toNat))

/-- So far can a run be moved from its time. -/
def IsJitter (j : Int) : Prop := -(c.keepaliveJitter.toNat : Int) ≤ j ∧ j ≤ c.keepaliveJitter.toNat

theorem staggerDelay_mem (s : Source) :
    ∃ d s', (staggerDelay c.normalized).run s = some (d, s') ∧ s.Drops s' ∧
      (d.toNat : Int) ∈ staggerWindow c.normalized := by
  obtain ⟨d, s', hrun, hdrops, hlow, hhigh⟩ := Draw.uint64_mem c.normalized_stagger_le s
  exact ⟨d, s', hrun, hdrops, Int.ofNat_le.2 hlow, Int.ofNat_le.2 hhigh⟩

/-- The jitter is at most half of the period, so that a signed word has room for it and for its
opposite, however long the period is. -/
theorem toInt_jitter :
    c.normalized.keepaliveJitter.toInt64.toInt = c.normalized.keepaliveJitter.toNat ∧
      FitsWord (-c.normalized.keepaliveJitter.toNat) := by
  have hle := c.normalized_jitter_le
  have hbase := c.normalized.keepaliveBase.toNat_lt
  exact ⟨FitsWord.toInt64 ⟨by omega, by omega⟩, ⟨by omega, by omega⟩⟩

/-- The jitter is drawn from a range that is not empty. -/
theorem run_jitter :
    ∃ least : Int64, least.toInt = -c.normalized.keepaliveJitter.toNat ∧
      least ≤ c.normalized.keepaliveJitter.toInt64 ∧
      ∀ s, (jitter c.normalized).run s =
        (Draw.int64 least c.normalized.keepaliveJitter.toInt64).run s := by
  obtain ⟨hmost, hfits⟩ := toInt_jitter c
  rw [← hmost] at hfits
  obtain ⟨least, hleast, hrun⟩ := run_reckon hfits
  rw [hmost] at hleast
  exact ⟨least, hleast, Int64.le_iff_toInt_le.2 (by omega), fun s => Draw.run_bind (hrun s) _⟩

theorem jitter_mem (s : Source) :
    ∃ j s', (jitter c.normalized).run s = some (j, s') ∧ s.Drops s' ∧
      IsJitter c.normalized j.toInt := by
  obtain ⟨least, hleast, hle, hrun⟩ := run_jitter c
  obtain ⟨j, s', hj, hdrops, hlow, hhigh⟩ := Draw.int64_mem hle s
  rw [(toInt_jitter c).1] at hhigh
  exact ⟨j, s', (hrun s).trans hj, hdrops, hleast ▸ hlow, hhigh⟩

/-- A run can come as late as the jitter allows. -/
theorem exists_longest_jitter :
    ∃ j s s', (jitter c.normalized).run s = some (j, s') ∧
      j.toInt = c.normalized.keepaliveJitter.toNat := by
  obtain ⟨least, -, hle, hrun⟩ := run_jitter c
  obtain ⟨s, s', hj⟩ := Draw.exists_int64 hle (Int64.le_refl _)
  exact ⟨_, s, s', (hrun s).trans hj, (toInt_jitter c).1⟩

/-- **From one run to the next**: the word of the period is moved by the jitter, and there is no next
run if that takes it out of the range of words. -/
theorem periodicDelay_cases (s : Source) :
    ∃ j s', (jitter c.normalized).run s = some (j, s') ∧ s.Drops s' ∧
      IsJitter c.normalized j.toInt ∧
      (FitsWord (c.normalized.keepaliveBase.toInt64.toInt + j.toInt) →
        ∃ d : UInt64, (periodicDelay c.normalized).run s = some (d, s') ∧
          (d.toNat : Int) = max (c.normalized.keepaliveBase.toInt64.toInt + j.toInt) 0) ∧
      (¬ FitsWord (c.normalized.keepaliveBase.toInt64.toInt + j.toInt) →
        (periodicDelay c.normalized).run s = none) := by
  obtain ⟨j, s', hj, hdrops, hjitter⟩ := jitter_mem c s
  have hrun := Draw.run_bind hj fun j => do
    let delay ← reckon (c.normalized.keepaliveBase.toInt64.toInt + j.toInt)
    return (max delay 0).toUInt64
  refine ⟨j, s', hj, hdrops, hjitter, fun hfits => ?_, fun hnot => ?_⟩
  · obtain ⟨delay, hdelay, hsum⟩ := run_reckon hfits
    refine ⟨(max delay 0).toUInt64, hrun.trans (Draw.run_bind_pure (hsum s') _), ?_⟩
    have hmax : (max delay 0).toInt = max delay.toInt 0 := toInt_max delay 0
    rw [toNat_toUInt64 (by omega), hmax, hdelay]
  · exact hrun.trans (Draw.run_bind_of_none (run_reckon_eq_none_iff.2 hnot) _)

theorem periodicDelay_mem (s : Source) :
    ∃ j s', (jitter c.normalized).run s = some (j, s') ∧
      (FitsWord c.normalized.keepaliveBase.toNat →
        FitsWord (c.normalized.keepaliveBase.toNat + j.toInt) →
        ∃ d, (periodicDelay c.normalized).run s = some (d, s') ∧ s.Drops s' ∧
          (d.toNat : Int) ∈ periodicWindow c.normalized) := by
  obtain ⟨j, s', hj, hdrops, ⟨hlow, hhigh⟩, hsome, -⟩ := periodicDelay_cases c s
  refine ⟨j, s', hj, fun hbase hsum => ?_⟩
  rw [hbase.toInt64] at hsome
  obtain ⟨d, hrun, hd⟩ := hsome hsum
  have hle := c.normalized_jitter_le
  exact ⟨d, hrun, hdrops, by omega, by omega⟩

/-- The delay is the period, moved by a jitter. If the period is no signed word, the delay is too
short. -/
def IsPeriodic (delay : Nat) : Prop :=
  ∃ j, IsJitter c j ∧
    (FitsWord c.keepaliveBase.toNat → (delay : Int) = c.keepaliveBase.toNat + j) ∧
      (¬ FitsWord c.keepaliveBase.toNat →
        (delay : Int) < c.keepaliveBase.toNat - c.keepaliveJitter.toNat)

/-- A signed word has room for every period, however it is moved. -/
def HasPeriods : Prop := FitsWord (c.keepaliveBase.toNat + c.keepaliveJitter.toNat)

/-- **There is a next run after a period**, unless a word has no room for the longest one. -/
theorem isPeriodic_periodicDelay (s : Source) :
    (∃ d s', (periodicDelay c.normalized).run s = some (d, s') ∧
      IsPeriodic c.normalized d.toNat) ∨
    (periodicDelay c.normalized).run s = none ∧ ¬ HasPeriods c.normalized := by
  obtain ⟨j, s', -, -, hjitter, hsome, hnone⟩ := periodicDelay_cases c s
  obtain ⟨hlow, hhigh⟩ := hjitter
  have hle := c.normalized_jitter_le
  have hlt := c.normalized.keepaliveBase.toNat_lt
  have hword : c.normalized.keepaliveBase.toInt64.toInt =
      (c.normalized.keepaliveBase.toNat : Int).bmod (2 ^ 64) := BitVec.toInt_eq_toNat_bmod _
  by_cases hfits : FitsWord (c.normalized.keepaliveBase.toInt64.toInt + j.toInt)
  · obtain ⟨d, hrun, hd⟩ := hsome hfits
    refine .inl ⟨d, s', hrun, j.toInt, ⟨hlow, hhigh⟩, fun hbase => ?_, fun hbase => ?_⟩
    · rw [hd, hbase.toInt64]
      omega
    · -- The word of the period is negative, and the jitter is no more than half of the period.
      have hbeyond : 2 ^ 63 ≤ (c.normalized.keepaliveBase.toNat : Int) := by
        by_contra hsmall
        exact hbase ⟨by omega, by omega⟩
      rw [hd, hword, Int.bmod_def]
      omega
  · refine .inr ⟨hnone hfits, fun hroom => hfits ?_⟩
    obtain ⟨-, hmost⟩ := hroom
    have hbase : FitsWord c.normalized.keepaliveBase.toNat := ⟨by omega, by omega⟩
    rw [hbase.toInt64]
    exact ⟨by omega, by omega⟩

/-! ## The first plan -/

/-- How long ago the last run was, in milliseconds, if there was one. -/
def age? (last : Option Int64) (now : Int64) : Option Int :=
  (last.filter (0 < ·)).map fun t => now.toInt - t.toInt * 1000

/-- All numbers that the first plan is reckoned with, for this choice of the jitter. -/
def figures (last : Option Int64) (now : Int64) (check : Bool) (j : Int) : List Int :=
  let base : Int := c.keepaliveBase.toNat
  let threshold : Int := c.startupKeepaliveThreshold.toNat
  match last.filter (0 < ·) with
  | none => if check then [] else [base, base + j]
  | some t =>
    let age := now.toInt - t.toInt * 1000
    [t.toInt * 1000, age] ++ (if check then [threshold] else []) ++
      if check ∧ threshold ≤ age then []
      else if base ≤ age then [base]
      else [base, base - age, base - age + j, c.staggerMin.toNat]

/-- The run at the start of the program is called for: there was no run, or too long ago. -/
def CallsForStartup (last : Option Int64) (now : Int64) (check : Bool) : Prop :=
  check ∧ ∀ age ∈ age? last now, (c.startupKeepaliveThreshold.toNat : Int) ≤ age

instance (last : Option Int64) (now : Int64) (check : Bool) :
    Decidable (CallsForStartup c last now check) := inferInstanceAs (Decidable (_ ∧ _))

theorem run_elapsed {t now : Int64} (hms : FitsWord (t.toInt * 1000))
    (hage : FitsWord (now.toInt - t.toInt * 1000)) :
    ∃ gone : Int64, gone.toInt = now.toInt - t.toInt * 1000 ∧
      ∀ s, (elapsed t now).run s = some (gone, s) := by
  obtain ⟨ms, hms, hrun⟩ := run_reckon hms
  rw [← hms] at hage
  obtain ⟨gone, hgone, hrun'⟩ := run_reckon hage
  exact ⟨gone, hms ▸ hgone, fun s => (Draw.run_bind (hrun s) _).trans (hrun' s)⟩

/-- The words of an age and of a limit compare as the numbers do. -/
theorem le_gone_iff {limit : UInt64} {gone : Int64} (hlimit : FitsWord limit.toNat) :
    limit.toInt64 ≤ gone ↔ (limit.toNat : Int) ≤ gone.toInt := by
  rw [Int64.le_iff_toInt_le, hlimit.toInt64]

theorem run_isForStartup {last : Option Int64} {now : Int64} {check : Bool} {j : Int}
    (hfits : ∀ x ∈ figures c last now check j, FitsWord x) (s : Source) :
    (isForStartup c last now check).run s =
      some (decide (CallsForStartup c last now check), s) := by
  cases check with
  | false => simp [CallsForStartup, isForStartup]
  | true =>
    cases hlast : last.filter (0 < ·) with
    | none => simp [CallsForStartup, age?, isForStartup, isStale, lastRun?, hlast]
    | some t =>
      simp only [figures, hlast, List.forall_mem_append, List.forall_mem_cons] at hfits
      obtain ⟨gone, hgone, hrun⟩ := run_elapsed hfits.1.1.1 hfits.1.1.2.1
      have hiff : c.startupKeepaliveThreshold.toInt64 ≤ gone ↔ CallsForStartup c last now true := by
        simp only [le_gone_iff (by simpa using hfits.1.2), CallsForStartup, age?, hlast,
          Option.map_some, Option.mem_some_iff, forall_eq', true_and, hgone]
      simp only [isForStartup, if_true, isStale, lastRun?, hlast]
      rw [Draw.run_bind_pure (hrun s), decide_eq_decide.2 hiff]

/-- What is left of the period, for a run of that age that is not overdue. -/
theorem remainder_mem (gone : Int64) (s : Source) (hbase : FitsWord c.normalized.keepaliveBase.toNat)
    (hrest : FitsWord (c.normalized.keepaliveBase.toNat - gone.toInt))
    (hmin : FitsWord c.normalized.staggerMin.toNat) :
    ∃ j s', (jitter c.normalized).run s = some (j, s') ∧
      (FitsWord (c.normalized.keepaliveBase.toNat - gone.toInt + j.toInt) →
        ∃ d, (remainder c.normalized gone).run s = some (d, s') ∧ s.Drops s' ∧
          (d.toNat : Int) ∈ remainderWindow c.normalized gone.toInt) := by
  obtain ⟨j, s', hj, hdrops, hlow, hhigh⟩ := jitter_mem c s
  refine ⟨j, s', hj, fun hsum => ?_⟩
  rw [← hbase.toInt64] at hrest hsum
  obtain ⟨rest, hrest, hrun⟩ := run_reckon hrest
  rw [← hrest] at hsum
  obtain ⟨delay, hdelay, hrun'⟩ := run_reckon hsum
  refine ⟨(max delay c.normalized.staggerMin.toInt64).toUInt64, ?_, hdrops, ?_⟩
  · exact (Draw.run_bind (hrun s) _).trans
      ((Draw.run_bind hj _).trans (Draw.run_bind_pure (hrun' s') _))
  · rw [hbase.toInt64] at hrest
    rw [toNat_toUInt64, toInt_max, hmin.toInt64]
    · exact ⟨by omega, by omega⟩
    · rw [toInt_max, hmin.toInt64]
      omega

/-- The delays of the first periodic run: the period if no run is known of, a stagger if one is
overdue, and else what is left of the period. -/
def FirstWindow (last : Option Int64) (now : Int64) (delay : Int) : Prop :=
  (age? last now = none → delay ∈ periodicWindow c) ∧
    ∀ age ∈ age? last now,
      (c.keepaliveBase.toNat ≤ age → delay ∈ staggerWindow c) ∧
      (age < c.keepaliveBase.toNat → delay ∈ remainderWindow c age)

theorem delayFromLast_mem (last : Option Int64) (now : Int64) (s : Source)
    (hfits : ∀ j s', (jitter c.normalized).run s = some (j, s') →
      ∀ x ∈ figures c.normalized last now false j.toInt, FitsWord x) :
    ∃ d s', (delayFromLast c.normalized last now).run s = some (d, s') ∧ s.Drops s' ∧
      FirstWindow c.normalized last now d.toNat := by
  cases hlast : last.filter (0 < ·) with
  | none =>
    obtain ⟨j, s', hj, hd⟩ := periodicDelay_mem c s
    have hx := hfits j s' hj
    simp only [figures, hlast, List.forall_mem_cons, Bool.false_eq_true, if_false] at hx
    obtain ⟨d, hrun, hdrops, hmem⟩ := hd hx.1 hx.2.1
    have hplain : delayFromLast c.normalized last now = periodicDelay c.normalized := by
      simp only [delayFromLast, lastRun?, hlast]
    rw [hplain]
    exact ⟨d, s', hrun, hdrops, fun _ => hmem, by simp [age?, hlast]⟩
  | some t =>
    obtain ⟨j, s', hj, -, -⟩ := jitter_mem c s
    have hx := hfits j s' hj
    simp only [figures, hlast, List.forall_mem_append, List.forall_mem_cons, Bool.false_eq_true,
      false_and, if_false] at hx
    obtain ⟨⟨⟨hms, hage, -⟩, -⟩, hx⟩ := hx
    obtain ⟨gone, hgone, hrun⟩ := run_elapsed hms hage
    have hdelay : (delayFromLast c.normalized last now).run s =
        (if c.normalized.keepaliveBase.toInt64 ≤ gone then staggerDelay c.normalized
          else remainder c.normalized gone).run s := by
      simp only [delayFromLast, lastRun?, hlast]
      exact Draw.run_bind (hrun s) _
    simp only [FirstWindow, age?, hlast, Option.map_some, reduceCtorEq, false_implies, true_and,
      Option.mem_some_iff, forall_eq', hdelay, ← hgone] at hx ⊢
    by_cases hdue : (c.normalized.keepaliveBase.toNat : Int) ≤ gone.toInt
    · rw [if_pos hdue, List.forall_mem_cons] at hx
      rw [if_pos ((le_gone_iff hx.1).2 hdue)]
      obtain ⟨d, s', hrun, hdrops, hd⟩ := staggerDelay_mem c s
      exact ⟨d, s', hrun, hdrops, fun _ => hd, fun hlt => absurd hdue (by omega)⟩
    · simp only [if_neg hdue, List.forall_mem_cons] at hx
      obtain ⟨hbase, hrest, hsum, hmin, -⟩ := hx
      rw [if_neg (mt (le_gone_iff hbase).1 hdue)]
      obtain ⟨j', s'', hj', hd⟩ := remainder_mem c gone s hbase hrest hmin
      cases hj'.symm.trans hj
      obtain ⟨d, hrun, hdrops, hmem⟩ := hd hsum
      exact ⟨d, s', hrun, hdrops, fun hle => absurd hle hdue, fun _ => hmem⟩

/-- The figures of a plan that leaves the start of the program aside are among those of one that
heeds it. -/
theorem mem_figures {last : Option Int64} {now : Int64} {check : Bool} {j x : Int}
    (hnot : ¬ CallsForStartup c last now check) (h : x ∈ figures c last now false j) :
    x ∈ figures c last now check j := by
  cases check with
  | false => exact h
  | true =>
    cases hlast : last.filter (0 < ·) with
    | none => simp [CallsForStartup, age?, hlast] at hnot
    | some t =>
      have hfresh : ¬ (c.startupKeepaliveThreshold.toNat : Int) ≤ now.toInt - t.toInt * 1000 := by
        simpa [CallsForStartup, age?, hlast] using hnot
      simp only [figures, hlast, Bool.false_eq_true, if_false, List.append_nil,
        List.mem_append, hfresh, and_false, if_true] at h ⊢
      exact h.imp .inl id

/-- **The plan keeps its windows.** For every configuration in its bounds, every time of the last run,
every time now and every source of numbers: wherever the numbers that the plan is reckoned with fit
into 64 bits, there is a plan. If the run at the start of the program is called for, it comes after a
stagger; else the run is periodic, and its delay is the period, a stagger or what is left of the
period. -/
theorem firstPlan_within (last : Option Int64) (now : Int64) (check : Bool) (s : Source)
    (hfits : ∀ j s', (jitter c.normalized).run s = some (j, s') →
      ∀ x ∈ figures c.normalized last now check j.toInt, FitsWord x) :
    ∃ p s', (firstPlan c.normalized last now check).run s = some (p, s') ∧ s.Drops s' ∧
      (CallsForStartup c.normalized last now check →
        p.reason = .startup ∧ (p.delay.toNat : Int) ∈ staggerWindow c.normalized) ∧
      (¬ CallsForStartup c.normalized last now check →
        p.reason = .periodic ∧ FirstWindow c.normalized last now p.delay.toNat) := by
  obtain ⟨j, sj, hj, -, -⟩ := jitter_mem c s
  have hrun := Draw.run_bind (run_isForStartup c.normalized (hfits j sj hj) s)
    fun startup => (if startup then return ⟨← staggerDelay c.normalized, .startup⟩
      else return ⟨← delayFromLast c.normalized last now, .periodic⟩ : Draw Plan)
  by_cases hstart : CallsForStartup c.normalized last now check
  · obtain ⟨d, s', hd, hdrops, hmem⟩ := staggerDelay_mem c s
    rw [decide_eq_true hstart] at hrun
    exact ⟨_, s', hrun.trans (Draw.run_bind_pure hd _), hdrops, fun _ => ⟨rfl, hmem⟩,
      absurd hstart⟩
  · obtain ⟨d, s', hd, hdrops, hmem⟩ := delayFromLast_mem c last now s
      fun j s' hj x hx => hfits j s' hj x (mem_figures _ hstart hx)
    rw [decide_eq_false hstart] at hrun
    exact ⟨_, s', hrun.trans (Draw.run_bind_pure hd _), hdrops, fun h => absurd h hstart,
      fun _ => ⟨rfl, hmem⟩⟩

/-- The last run was 100 seconds ago. The first number is not fair for a jitter of half an hour and is
passed over; the zero behind it gives the earliest time there is. -/
theorem firstPlan_after_a_recent_run :
    let c : Config := {}
    let s : Source := { given := [4722220910000] }
    let last : Option Int64 := some 1700000000
    let now : Int64 := 1700000100000
    (∀ j s', (jitter c.normalized).run s = some (j, s') →
      ∀ x ∈ figures c.normalized last now true j.toInt, FitsWord x) ∧
    ¬ CallsForStartup c.normalized last now true ∧ age? last now = some 100000 ∧
    (firstPlan c.normalized last now true).run s = some (⟨170900000, .periodic⟩, ⟨[], 2⟩) ∧
    (170900000 : Int) ∈ remainderWindow c.normalized 100000 := by
  intro c s last now
  have hjitter : (jitter c.normalized).run s = some (-1800000, ⟨[], 2⟩) := by decide +kernel
  have hfits : ∀ x ∈ figures c.normalized last now true (-1800000 : Int64).toInt, FitsWord x := by
    decide +kernel
  have hage : age? last now = some 100000 := by decide +kernel
  have hrun : (firstPlan c.normalized last now true).run s =
      some (⟨170900000, .periodic⟩, ⟨[], 2⟩) := by decide +kernel
  have hnot : ¬ CallsForStartup c.normalized last now true := by
    rintro ⟨-, hstale⟩
    exact absurd (hstale 100000 hage) (by decide +kernel)
  have hall : ∀ j s', (jitter c.normalized).run s = some (j, s') →
      ∀ x ∈ figures c.normalized last now true j.toInt, FitsWord x := by
    intro j s' hj
    cases hjitter.symm.trans hj
    exact hfits
  obtain ⟨p, s', hp, -, -, hperiodic⟩ := firstPlan_within c last now true s hall
  cases hrun.symm.trans hp
  exact ⟨hall, hnot, hage, hrun,
    ((hperiodic hnot).2.2 100000 hage).2 (by decide +kernel)⟩

end Keepalive

end Switchboard
