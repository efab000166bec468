import Switchboard.Proofs.KeepalivePlan

/-!
# The delay before the next run of keepalive

How long the next periodic run is put off, counted from the last one, and whether the words that this
is reckoned with hold what they are to hold. The time of the last run comes from the backend and may be
anything, also a time that is still to come.

* `delayFromLast_bounded` — the delay is no longer than a stagger or a period with its jitter, reckoned
  from the last run; it is no shorter than the least stagger.
* `delay_beyond_a_period` — a last run in the future, and a period that is shorter than the least stagger.
* `recordedPlan` — the plan together with all figures that it is reckoned with; `recordedPlan_fst`: it
  is the plan that the program makes.
* `exact_of_fits`, `fits_of_ends` — there is a plan of exact figures where words have room for the
  numbers of the plan, and there is none at all where they have not.
* `default_plan_iff_room` — for which times of the last run there is a plan, under the default
  configuration.
-/

set_option autoImplicit false

namespace Switchboard

namespace Keepalive

variable (c : Config)

/-! ## Bounds -/

/-- How far ahead of the clock the last run is; zero unless it lies in the future. -/
def lead (last : Option Int64) (now : Int64) : Int := max 0 (-((age? last now).getD 0))

variable {c} {last : Option Int64} {now : Int64} {delay : Int}

theorem FirstWindow.le (h : FirstWindow c last now delay) (hc : c.staggerMin ≤ c.staggerMax) :
    delay ≤ max (c.staggerMax.toNat : Int)
      (c.keepaliveBase.toNat + c.keepaliveJitter.toNat + lead last now) := by
  have hmin : c.staggerMin.toNat ≤ c.staggerMax.toNat := UInt64.le_iff_toNat_le.1 hc
  cases hage : age? last now with
  | none =>
    obtain ⟨-, hle⟩ := h.1 hage
    simp only [lead, hage, Option.getD_none]
    omega
  | some age =>
    obtain ⟨hdue, hrest⟩ := h.2 age hage
    simp only [lead, hage, Option.getD_some]
    by_cases hle : (c.keepaliveBase.toNat : Int) ≤ age
    · obtain ⟨-, hd⟩ := hdue hle
      omega
    · obtain ⟨-, hd⟩ := hrest (by omega)
      omega

theorem FirstWindow.ge (h : FirstWindow c last now delay)
    (hk : age? last now = none →
      (c.staggerMin.toNat : Int) ≤ c.keepaliveBase.toNat - c.keepaliveJitter.toNat) :
    (c.staggerMin.toNat : Int) ≤ delay := by
  cases hage : age? last now with
  | none =>
    obtain ⟨hle, -⟩ := h.1 hage
    exact (hk hage).trans hle
  | some age =>
    obtain ⟨hdue, hrest⟩ := h.2 age hage
    by_cases hle : (c.keepaliveBase.toNat : Int) ≤ age
    · exact (hdue hle).1
    · exact (le_max_left _ _).trans (hrest (by omega)).1

variable (c last now)

/-- **The delay is bounded.** For every configuration in its bounds, every time of the last run, every
time now and every source of numbers: wherever the numbers that the delay is reckoned with fit into 64
bits, there is a delay. It is no longer than the longest stagger, or than a period with its jitter
after the last run, or from now on if there was none or it is past. It is no shorter than the shortest
stagger if there was a last run, or if the shortest period is no shorter than that. -/
theorem delayFromLast_bounded (s : Source)
    (hfits : ∀ j s', (jitter c.normalized).run s = some (j, s') →
      ∀ x ∈ figures c.normalized last now false j.toInt, FitsWord x) :
    ∃ d s', (delayFromLast c.normalized last now).run s = some (d, s') ∧ s.Drops s' ∧
      (d.toNat : Int) ≤ max (c.normalized.staggerMax.toNat : Int)
        (c.normalized.keepaliveBase.toNat + c.normalized.keepaliveJitter.toNat + lead last now) ∧
      ((age? last now).isSome ∨ (c.normalized.staggerMin.toNat : Int) ≤
          c.normalized.keepaliveBase.toNat - c.normalized.keepaliveJitter.toNat →
        c.normalized.staggerMin.toNat ≤ d.toNat) := by
  obtain ⟨d, s', hrun, hdrops, hwindow⟩ := delayFromLast_mem c last now s hfits
  refine ⟨d, s', hrun, hdrops, hwindow.le c.normalized_stagger_le, fun h => ?_⟩
  have hle : (c.normalized.staggerMin.toNat : Int) ≤ d.toNat :=
    hwindow.ge fun hnone => h.resolve_left (by simp [hnone])
  exact_mod_cast hle

/-- The period is shorter than the shortest stagger, and the last run lies ten seconds ahead. The
earliest time after a period would come too soon, and the shortest stagger is waited for. -/
theorem delayFromLast_of_short_period :
    let c : Config :=
      { keepaliveBase := 60000, keepaliveJitter := 30000, staggerMin := 120000, staggerMax := 130000 }
    let last : Option Int64 := some 1700000010
    let now : Int64 := 1700000000000
    (∀ j s', (jitter c.normalized).run {} = some (j, s') →
      ∀ x ∈ figures c.normalized last now false j.toInt, FitsWord x) ∧
    (age? last now).isSome ∧ lead last now = 10000 ∧
    (delayFromLast c.normalized last now).run {} = some (120000, ⟨[], 1⟩) ∧
    ((120000 : UInt64).toNat : Int) ≤ max (c.normalized.staggerMax.toNat : Int)
      (c.normalized.keepaliveBase.toNat + c.normalized.keepaliveJitter.toNat + lead last now) ∧
    c.normalized.staggerMin.toNat ≤ (120000 : UInt64).toNat := by
  intro c last now
  have hjitter : (jitter c.normalized).run {} = some (-30000, ⟨[], 1⟩) := by decide +kernel
  have hfigures : ∀ x ∈ figures c.normalized last now false (-30000 : Int64).toInt, FitsWord x := by
    decide +kernel
  have hfits : ∀ j s', (jitter c.normalized).run {} = some (j, s') →
      ∀ x ∈ figures c.normalized last now false j.toInt, FitsWord x := by
    intro j s' hj
    cases hjitter.symm.trans hj
    exact hfigures
  have hknown : (age? last now).isSome := by decide +kernel
  have hrun : (delayFromLast c.normalized last now).run {} = some (120000, ⟨[], 1⟩) := by
    decide +kernel
  obtain ⟨d, s', hd, -, hle, hge⟩ := delayFromLast_bounded c last now {} hfits
  cases hrun.symm.trans hd
  exact ⟨hfits, hknown, by decide +kernel, hrun, hle, hge (.inl hknown)⟩

/-- **Out of the bounds of a period.** The clock of the backend is two days ahead: the next run is put
off by two periods, less the jitter. And without a last run, a period that is shorter than the shortest
stagger is not drawn out to it. No word wraps around in either case. -/
theorem delay_beyond_a_period :
    (let c : Config := {}
      let last : Option Int64 := some 1700172800
      let now : Int64 := 1700000000000
      (∀ j s', (jitter c.normalized).run {} = some (j, s') →
        ∀ x ∈ figures c.normalized last now false j.toInt, FitsWord x) ∧
      ∃ d s', (delayFromLast c.normalized last now).run {} = some (d, s') ∧
        max c.normalized.staggerMax.toNat
          (c.normalized.keepaliveBase.toNat + c.normalized.keepaliveJitter.toNat) < d.toNat) ∧
    (let c : Config :=
        { keepaliveBase := 60000, keepaliveJitter := 0, staggerMin := 120000, staggerMax := 120000 }
      let now : Int64 := 1700000000000
      (∀ j s', (jitter c.normalized).run {} = some (j, s') →
        ∀ x ∈ figures c.normalized none now false j.toInt, FitsWord x) ∧
      ∃ d s', (delayFromLast c.normalized none now).run {} = some (d, s') ∧
        d.toNat < c.normalized.staggerMin.toNat) := by
  refine ⟨?_, ?_⟩
  · intro c last now
    have hjitter : (jitter c.normalized).run {} = some (-1800000, ⟨[], 1⟩) := by decide +kernel
    refine ⟨fun j s' hj => ?_, 343800000, ⟨[], 1⟩, by decide +kernel, by decide +kernel⟩
    cases hjitter.symm.trans hj
    decide +kernel
  · intro c now
    have hjitter : (jitter c.normalized).run {} = some (0, ⟨[], 1⟩) := by decide +kernel
    refine ⟨fun j s' hj => ?_, 60000, ⟨[], 1⟩, by decide +kernel, by decide +kernel⟩
    cases hjitter.symm.trans hj
    decide +kernel

/-! ## The figures of a plan -/

end Keepalive

namespace Draw

variable {α β : Type} {draw : Draw α} {s s' : Source} {a : α}

/-- The draw comes to something, and that is as it should be. -/
def Ends (draw : Draw α) (s : Source) (P : α → Source → Prop) : Prop :=
  ∃ a s', draw.run s = some (a, s') ∧ P a s'

theorem ends_of_run (h : draw.run s = some (a, s')) {P : α → Source → Prop} :
    draw.Ends s P ↔ P a s' := by
  constructor
  · rintro ⟨b, t, hb, hp⟩
    cases h.symm.trans hb
    exact hp
  · exact fun hp => ⟨a, s', h, hp⟩

theorem ends_pure {P : α → Source → Prop} : (pure a : Draw α).Ends s P ↔ P a s := ends_of_run rfl

theorem ends_bind {f : α → Draw β} {P : β → Source → Prop} :
    (draw >>= f).Ends s P ↔ draw.Ends s fun a s' => (f a).Ends s' P := by
  cases h : draw.run s with
  | none => simp [Ends, run_bind_of_none h, h]
  | some r =>
    obtain ⟨a, s'⟩ := r
    rw [ends_of_run h, Ends, run_bind h, Ends]

theorem ends_map {f : α → β} {P : β → Source → Prop} :
    (f <$> draw).Ends s P ↔ draw.Ends s fun a s' => P (f a) s' := by
  rw [map_eq_pure_bind, ends_bind]
  simp only [ends_pure]

theorem Ends.mono {P Q : α → Source → Prop} (h : draw.Ends s P) (hpq : ∀ a s', P a s' → Q a s') :
    draw.Ends s Q := by
  obtain ⟨a, s', hrun, hp⟩ := h
  exact ⟨a, s', hrun, hpq a s' hp⟩

theorem ends_reckon {n : Int} {P : Int64 → Source → Prop} :
    (Keepalive.reckon n).Ends s P ↔ FitsWord n ∧ P (Int64.ofInt n) s := by
  by_cases h : FitsWord n
  · have hrun := Keepalive.run_reckon_eq_some_iff.2 ⟨Int64.toInt_ofInt.trans h.bmod, Eq.refl s⟩
    rw [ends_of_run hrun, and_iff_right h]
  · simp [Ends, Keepalive.run_reckon_eq_none_iff.2 h, h]

end Draw

namespace Figure

/-- The figure of a number that a word has room for. -/
def ofNumber (n : Int) : Figure := ⟨Int64.ofInt n, n⟩

theorem isExact_ofNumber {n : Int} (h : FitsWord n) : (ofNumber n).IsExact :=
  Int64.toInt_ofInt.trans h.bmod

/-- What an operation makes of two figures, if there is room for it. -/
def reckon (op : Int → Int → Int) (a b : Figure) : Draw Figure :=
  (Figure.mk · (op a.number b.number)) <$> Keepalive.reckon (op a.word.toInt b.word.toInt)

variable {op : Int → Int → Int} {a b : Figure} {s : Source} {P : Figure → Source → Prop}

/-- What is reckoned from exact figures is exact, or there is no room for it. -/
theorem ends_reckon (ha : a.IsExact) (hb : b.IsExact) :
    (reckon op a b).Ends s P ↔
      FitsWord (op a.number b.number) ∧ P (ofNumber (op a.number b.number)) s := by
  rw [reckon, Draw.ends_map, ha, hb, Draw.ends_reckon]
  rfl

theorem exists_of_ends_reckon (h : (reckon op a b).Ends s P) : ∃ f, P f s := by
  rw [reckon, Draw.ends_map, Draw.ends_reckon] at h
  exact ⟨_, h.2⟩

end Figure

namespace Keepalive

section Recorded

variable (c : Config) (last : Option Int64) (t now : Int64) (check : Bool)

/-- The ends of the range of the jitter. -/
def jitterFigures : List Figure := [.ofDuration c.keepaliveJitter, -.ofDuration c.keepaliveJitter]

/-- How long ago the last run was, with the figures of that. -/
def recordedElapsed : Draw (Figure × List Figure) := do
  let ms ← Figure.reckon (· * ·) (.ofWord t) (.ofWord 1000)
  let gone ← Figure.reckon (· - ·) (.ofWord now) ms
  return (gone, [ms, gone])

/-- A period that is moved by a jitter, with its figures. -/
def recordedPeriod : Draw (UInt64 × List Figure) := do
  let base := Figure.ofDuration c.keepaliveBase
  let j ← jitter c
  let delay ← Figure.reckon (· + ·) base (.ofWord j)
  return ((max delay.word 0).toUInt64, jitterFigures c ++ [base, delay])

/-- What is left of a period, moved by a jitter, with its figures. -/
def recordedRemainder (gone : Figure) : Draw (UInt64 × List Figure) := do
  let rest ← Figure.reckon (· - ·) (.ofDuration c.keepaliveBase) gone
  let j ← jitter c
  let delay ← Figure.reckon (· + ·) rest (.ofWord j)
  let least := Figure.ofDuration c.staggerMin
  return ((max delay.word least.word).toUInt64, rest :: jitterFigures c ++ [delay, least])

/-- The delay from the last run, with all figures that it is reckoned with. -/
def recordedDelay : Draw (UInt64 × List Figure) :=
  match lastRun? last with
  | none => recordedPeriod c
  | some t => do
    let (gone, figs) ← recordedElapsed t now
    let base := Figure.ofDuration c.keepaliveBase
    if base.word ≤ gone.word then return (← staggerDelay c, figs ++ [base])
    else
      let (d, more) ← recordedRemainder c gone
      return (d, figs ++ base :: more)

/-- Whether the first run is one for the start of the program, with the figures of that. -/
def recordedStart : Draw (Bool × List Figure) :=
  match check, lastRun? last with
  | false, _ => pure (false, [])
  | true, none => pure (true, [])
  | true, some t => do
    let (gone, figs) ← recordedElapsed t now
    let threshold := Figure.ofDuration c.startupKeepaliveThreshold
    return (threshold.word ≤ gone.word, figs ++ [threshold])

/-- The first plan, with all figures that it is reckoned with. -/
def recordedPlan : Draw (Plan × List Figure) := do
  let (startup, figs) ← recordedStart c last now check
  if startup then return (⟨← staggerDelay c, .startup⟩, figs)
  else
    let (d, more) ← recordedDelay c last now
    return (⟨d, .periodic⟩, figs ++ more)

theorem recordedElapsed_fst : (fun r => r.1.word) <$> recordedElapsed t now = elapsed t now := by
  simp only [recordedElapsed, elapsed, Figure.reckon, map_bind, bind_map_left, map_pure, bind_pure]
  rfl

theorem recordedPeriod_fst : Prod.fst <$> recordedPeriod c = periodicDelay c := by
  simp only [recordedPeriod, periodicDelay, Figure.reckon, map_bind, bind_map_left, map_pure]
  rfl

theorem recordedRemainder_fst (gone : Figure) :
    Prod.fst <$> recordedRemainder c gone = remainder c gone.word := by
  simp only [recordedRemainder, remainder, Figure.reckon, map_bind, bind_map_left, map_pure]
  rfl

theorem recordedDelay_fst : Prod.fst <$> recordedDelay c last now = delayFromLast c last now := by
  unfold recordedDelay delayFromLast
  cases lastRun? last with
  | none => exact recordedPeriod_fst c
  | some t =>
    simp only [← recordedElapsed_fst, map_bind, bind_map_left]
    refine bind_congr fun r => ?_
    show _ = if (Figure.ofDuration c.keepaliveBase).word ≤ r.1.word then staggerDelay c
      else remainder c r.1.word
    split
    · simp only [map_bind, map_pure, bind_pure]
    · simp only [← recordedRemainder_fst, map_bind, map_pure]
      exact bind_pure_comp _ _

theorem recordedStart_fst :
    Prod.fst <$> recordedStart c last now check = isForStartup c last now check := by
  unfold recordedStart isForStartup isStale
  cases check with
  | false => rfl
  | true =>
    cases lastRun? last with
    | none => rfl
    | some t =>
      simp only [← recordedElapsed_fst, map_bind, bind_map_left]
      rfl

/-- **Nothing but the record is added**: without the figures it is the plan of the program. -/
theorem recordedPlan_fst :
    Prod.fst <$> recordedPlan c last now check = firstPlan c last now check := by
  unfold recordedPlan firstPlan
  simp only [← recordedStart_fst, map_bind, bind_map_left]
  refine bind_congr fun ⟨startup, figs⟩ => ?_
  rw [apply_ite (Functor.map Prod.fst), ← recordedDelay_fst]
  simp only [map_bind, map_pure, bind_map_left]

end Recorded

/-! ## Room for the figures -/

/-- All figures of a record are exact. -/
def AllExact {α : Type} (r : α × List Figure) (_ : Source) : Prop := ∀ f ∈ r.2, f.IsExact

/-- Signed words have room for the durations that a plan is reckoned with, as far as they are among
the figures of a record. -/
def DurationsFit {α : Type} (c : Config) (r : α × List Figure) (_ : Source) : Prop :=
  ∀ v ∈ [c.keepaliveBase, c.startupKeepaliveThreshold, c.staggerMin],
    .ofDuration v ∈ r.2 → FitsWord v.toNat

/-- The numbers of a plan fit if the durations do, and those of the last run and of the longest period
after it. -/
theorem fits_of_bounds {c : Config} {last : Option Int64} {now : Int64} {check : Bool} {j : Int}
    (hj : IsJitter c j) (hperiod : c.keepaliveBase.toNat + c.keepaliveJitter.toNat < 2 ^ 63)
    (hthreshold : c.startupKeepaliveThreshold.toNat < 2 ^ 63) (hmin : c.staggerMin.toNat < 2 ^ 63)
    (hlast : ∀ t ∈ last, 0 < t.toInt → t.toInt * 1000 < 2 ^ 63 ∧
      FitsWord (now.toInt - t.toInt * 1000) ∧
      c.keepaliveBase.toNat - (now.toInt - t.toInt * 1000) + c.keepaliveJitter.toNat < 2 ^ 63) :
    ∀ x ∈ figures c last now check j, FitsWord x := by
  obtain ⟨hlow, hhigh⟩ := hj
  have hbase : FitsWord c.keepaliveBase.toNat := ⟨by omega, by omega⟩
  cases hsome : last.filter (0 < ·) with
  | none =>
    have hsum : FitsWord (c.keepaliveBase.toNat + j) := ⟨by omega, by omega⟩
    cases check <;> simp [figures, hsome, hbase, hsum]
  | some t =>
    obtain ⟨hmem, hpos⟩ := Option.filter_eq_some_iff.1 hsome
    have hpos : 0 < t.toInt := Int64.lt_iff_toInt_lt.1 (of_decide_eq_true hpos)
    obtain ⟨hms, hage, hsum⟩ := hlast t hmem hpos
    simp only [figures, hsome, List.forall_mem_append, List.forall_mem_cons]
    refine ⟨⟨⟨⟨by omega, hms⟩, hage, List.forall_mem_nil _⟩, ?_⟩, ?_⟩
    · split
      · exact List.forall_mem_singleton.2 ⟨by omega, by omega⟩
      · exact List.forall_mem_nil _
    · split
      · exact List.forall_mem_nil _
      split
      · exact List.forall_mem_singleton.2 hbase
      · simp only [List.forall_mem_cons]
        exact ⟨hbase, ⟨by omega, by omega⟩, ⟨by omega, by omega⟩, ⟨by omega, by omega⟩,
          List.forall_mem_nil _⟩

section Exact

variable {c : Config} {last : Option Int64} {now t j : Int64} {check : Bool} {s s' : Source}

theorem exact_jitterFigures (c : Config) : ∀ f ∈ jitterFigures c.normalized, f.IsExact := by
  have hle := c.normalized_jitter_le
  have hbase := c.normalized.keepaliveBase.toNat_lt
  have hjitter : (Figure.ofDuration c.normalized.keepaliveJitter).IsExact :=
    Figure.isExact_ofDuration_iff.2 ⟨by omega, by omega⟩
  have hneg : (-Figure.ofDuration c.normalized.keepaliveJitter).IsExact := by
    refine hjitter.neg_iff.2 ?_
    show FitsWord (-(c.normalized.keepaliveJitter.toNat : Int))
    exact ⟨by omega, by omega⟩
  simp [jitterFigures, hjitter, hneg]

theorem ends_recordedElapsed {P : Figure × List Figure → Source → Prop} :
    (recordedElapsed t now).Ends s P ↔
      FitsWord (t.toInt * 1000) ∧ FitsWord (now.toInt - t.toInt * 1000) ∧
        P (.ofNumber (now.toInt - t.toInt * 1000),
          [.ofNumber (t.toInt * 1000), .ofNumber (now.toInt - t.toInt * 1000)]) s := by
  rw [recordedElapsed, Draw.ends_bind,
    Figure.ends_reckon (Figure.isExact_ofWord t) (Figure.isExact_ofWord 1000)]
  refine and_congr_right fun hms => ?_
  rw [Draw.ends_bind,
    Figure.ends_reckon (Figure.isExact_ofWord now) (Figure.isExact_ofNumber hms), Draw.ends_pure]
  rfl

/-- The words of a duration and of an age compare as the numbers do. -/
theorem le_ofNumber_iff {v : UInt64} {n : Int} (hv : FitsWord v.toNat) (hn : FitsWord n) :
    (Figure.ofDuration v).word ≤ (Figure.ofNumber n).word ↔ (v.toNat : Int) ≤ n := by
  rw [Int64.le_iff_toInt_le, Figure.isExact_ofDuration_iff.2 hv, Figure.isExact_ofNumber hn]
  rfl

theorem recordedPlan_false (c : Config) (last : Option Int64) (now : Int64) :
    recordedPlan c last now false =
      (fun r => (⟨r.1, .periodic⟩, r.2)) <$> recordedDelay c last now := by
  simp only [recordedPlan, recordedStart, pure_bind, Bool.false_eq_true, if_false, List.nil_append]
  exact bind_pure_comp _ _

theorem AllExact.durationsFit {α : Type} {r : α × List Figure} (h : AllExact r s) :
    DurationsFit c r s := fun _ _ hmem => Figure.isExact_ofDuration_iff.1 (h _ hmem)

variable (hj : (jitter c.normalized).run s = some (j, s'))
include hj

theorem ends_recordedPeriod (hbase : FitsWord c.normalized.keepaliveBase.toNat)
    {P : UInt64 × List Figure → Source → Prop} :
    (recordedPeriod c.normalized).Ends s P ↔
      FitsWord (c.normalized.keepaliveBase.toNat + j.toInt) ∧
        P ((max (Figure.ofNumber (c.normalized.keepaliveBase.toNat + j.toInt)).word 0).toUInt64,
          jitterFigures c.normalized ++ [.ofDuration c.normalized.keepaliveBase,
            .ofNumber (c.normalized.keepaliveBase.toNat + j.toInt)]) s' := by
  rw [recordedPeriod, Draw.ends_bind, Draw.ends_of_run hj, Draw.ends_bind,
    Figure.ends_reckon (Figure.isExact_ofDuration_iff.2 hbase) (Figure.isExact_ofWord j),
    Draw.ends_pure]
  rfl

theorem fitsBase_of_recordedPeriod
    (h : (recordedPeriod c.normalized).Ends s (DurationsFit c.normalized)) :
    FitsWord c.normalized.keepaliveBase.toNat := by
  rw [recordedPeriod, Draw.ends_bind, Draw.ends_of_run hj, Draw.ends_bind] at h
  obtain ⟨delay, hd⟩ := Figure.exists_of_ends_reckon h
  exact Draw.ends_pure.1 hd c.normalized.keepaliveBase (by simp) (by simp)

theorem ends_recordedRemainder (hbase : FitsWord c.normalized.keepaliveBase.toNat) {gone : Figure}
    (hgone : gone.IsExact) {P : UInt64 × List Figure → Source → Prop} :
    (recordedRemainder c.normalized gone).Ends s P ↔
      let rest := c.normalized.keepaliveBase.toNat - gone.number
      FitsWord rest ∧ FitsWord (rest + j.toInt) ∧
        P ((max (Figure.ofNumber (rest + j.toInt)).word
            (Figure.ofDuration c.normalized.staggerMin).word).toUInt64,
          .ofNumber rest :: jitterFigures c.normalized ++
            [.ofNumber (rest + j.toInt), .ofDuration c.normalized.staggerMin]) s' := by
  rw [recordedRemainder, Draw.ends_bind,
    Figure.ends_reckon (Figure.isExact_ofDuration_iff.2 hbase) hgone]
  refine and_congr_right fun hrest => ?_
  rw [Draw.ends_bind, Draw.ends_of_run hj, Draw.ends_bind,
    Figure.ends_reckon (Figure.isExact_ofNumber hrest) (Figure.isExact_ofWord j), Draw.ends_pure]
  rfl

theorem fits_of_recordedDelay
    (h : (recordedDelay c.normalized last now).Ends s (DurationsFit c.normalized)) :
    ∀ x ∈ figures c.normalized last now false j.toInt, FitsWord x := by
  cases hlast : last.filter (0 < ·) with
  | none =>
    simp only [recordedDelay, lastRun?, hlast] at h
    have hbase := fitsBase_of_recordedPeriod hj h
    have hsum := ((ends_recordedPeriod hj hbase).1 h).1
    simp only [figures, hlast, Bool.false_eq_true, if_false, List.forall_mem_cons]
    exact ⟨hbase, hsum, List.forall_mem_nil _⟩
  | some t =>
    simp only [recordedDelay, lastRun?, hlast, Draw.ends_bind, ends_recordedElapsed] at h
    obtain ⟨hms, hage, h⟩ := h
    simp only [figures, hlast, Bool.false_eq_true, if_false, false_and, List.append_nil,
      List.forall_mem_append, List.forall_mem_cons]
    refine ⟨⟨hms, hage, List.forall_mem_nil _⟩, ?_⟩
    split at h
    · rename_i hdue
      obtain ⟨d, s₁, -, hd⟩ := Draw.ends_bind.1 h
      have hbase := Draw.ends_pure.1 hd c.normalized.keepaliveBase (by simp) (by simp)
      rw [if_pos ((le_ofNumber_iff hbase hage).1 hdue), List.forall_mem_singleton]
      exact hbase
    · rename_i hdue
      have hbase : FitsWord c.normalized.keepaliveBase.toNat := by
        obtain ⟨r, s₁, -, hr⟩ := Draw.ends_bind.1 h
        exact Draw.ends_pure.1 hr c.normalized.keepaliveBase (by simp) (by simp)
      rw [Draw.ends_bind, ends_recordedRemainder hj hbase (Figure.isExact_ofNumber hage)] at h
      obtain ⟨hrest, hsum, hmin⟩ := h
      have hleast := Draw.ends_pure.1 hmin c.normalized.staggerMin (by simp) (by simp)
      rw [if_neg (mt (le_ofNumber_iff hbase hage).2 hdue)]
      simp only [List.forall_mem_cons]
      exact ⟨hbase, hrest, hsum, hleast, List.forall_mem_nil _⟩

theorem exact_recordedDelay (h : ∀ x ∈ figures c.normalized last now false j.toInt, FitsWord x) :
    (recordedDelay c.normalized last now).Ends s AllExact := by
  cases hlast : last.filter (0 < ·) with
  | none =>
    simp only [figures, hlast, Bool.false_eq_true, if_false, List.forall_mem_cons] at h
    obtain ⟨hbase, hsum, -⟩ := h
    simp only [recordedDelay, lastRun?, hlast, ends_recordedPeriod hj hbase, AllExact,
      List.forall_mem_append, List.forall_mem_cons]
    exact ⟨hsum, exact_jitterFigures c, Figure.isExact_ofDuration_iff.2 hbase,
      Figure.isExact_ofNumber hsum, List.forall_mem_nil _⟩
  | some t =>
    simp only [figures, hlast, Bool.false_eq_true, if_false, false_and, List.append_nil,
      List.forall_mem_append, List.forall_mem_cons] at h
    obtain ⟨⟨hms, hage, -⟩, h⟩ := h
    have hold := And.intro (Figure.isExact_ofNumber hms) (Figure.isExact_ofNumber hage)
    simp only [recordedDelay, lastRun?, hlast, Draw.ends_bind, ends_recordedElapsed]
    refine ⟨hms, hage, ?_⟩
    by_cases hdue : (c.normalized.keepaliveBase.toNat : Int) ≤ now.toInt - t.toInt * 1000
    · rw [if_pos hdue, List.forall_mem_singleton] at h
      obtain ⟨d, s₁, hd, -, -⟩ := staggerDelay_mem c s
      rw [if_pos ((le_ofNumber_iff h hage).2 hdue), Draw.ends_bind, Draw.ends_of_run hd,
        Draw.ends_pure]
      simpa [AllExact, hold] using Figure.isExact_ofDuration_iff.2 h
    · simp only [if_neg hdue, List.forall_mem_cons] at h
      obtain ⟨hbase, hrest, hsum, hmin, -⟩ := h
      rw [if_neg (mt (le_ofNumber_iff hbase hage).1 hdue), Draw.ends_bind,
        ends_recordedRemainder hj hbase hold.2]
      refine ⟨hrest, hsum, Draw.ends_pure.2 ?_⟩
      simp only [AllExact, List.forall_mem_append, List.forall_mem_cons, List.cons_append,
        List.nil_append]
      exact ⟨hold.1, hold.2, Figure.isExact_ofDuration_iff.2 hbase, Figure.isExact_ofNumber hrest,
        exact_jitterFigures c, Figure.isExact_ofNumber hsum, Figure.isExact_ofDuration_iff.2 hmin,
        List.forall_mem_nil _⟩

/-- **Where there is a plan, words have room** for the numbers that it is reckoned with, provided that
they have room for its durations. -/
theorem fits_of_ends
    (h : (recordedPlan c.normalized last now check).Ends s (DurationsFit c.normalized)) :
    ∀ x ∈ figures c.normalized last now check j.toInt, FitsWord x := by
  cases check with
  | false =>
    rw [recordedPlan_false, Draw.ends_map] at h
    exact fits_of_recordedDelay hj h
  | true =>
    cases hlast : last.filter (0 < ·) with
    | none => simp [figures, hlast]
    | some t =>
      simp only [recordedPlan, recordedStart, lastRun?, hlast, bind_assoc, pure_bind,
        Draw.ends_bind, ends_recordedElapsed] at h
      obtain ⟨hms, hage, h⟩ := h
      have hthreshold : FitsWord c.normalized.startupKeepaliveThreshold.toNat := by
        split at h <;> obtain ⟨r, s₁, -, hr⟩ := Draw.ends_bind.1 h <;>
          exact Draw.ends_pure.1 hr c.normalized.startupKeepaliveThreshold (by simp) (by simp)
      simp only [decide_eq_true_eq, le_ofNumber_iff hthreshold hage] at h
      simp only [figures, hlast, if_true, true_and, List.forall_mem_append, List.forall_mem_cons]
      refine ⟨⟨⟨hms, hage, List.forall_mem_nil _⟩, hthreshold, List.forall_mem_nil _⟩, ?_⟩
      split at h
      · rename_i hold
        rw [if_pos hold]
        exact List.forall_mem_nil _
      · rename_i hold
        rw [if_neg hold]
        have hdelay : (recordedDelay c.normalized last now).Ends s (DurationsFit c.normalized) := by
          refine (Draw.ends_bind.1 h).mono fun r s₁ hr v hv hmem => Draw.ends_pure.1 hr v hv ?_
          exact List.mem_append_right _ hmem
        have hlater := fits_of_recordedDelay hj hdelay
        simp only [figures, hlast, Bool.false_eq_true, if_false, false_and, List.append_nil,
          List.forall_mem_append] at hlater
        exact hlater.2

/-- **Where words have room, there is a plan of exact figures.** -/
theorem exact_of_fits (h : ∀ x ∈ figures c.normalized last now check j.toInt, FitsWord x) :
    (recordedPlan c.normalized last now check).Ends s AllExact := by
  cases check with
  | false =>
    rw [recordedPlan_false, Draw.ends_map]
    exact exact_recordedDelay hj h
  | true =>
    obtain ⟨d, s₁, hd, -, -⟩ := staggerDelay_mem c s
    cases hlast : last.filter (0 < ·) with
    | none =>
      simp only [recordedPlan, recordedStart, lastRun?, hlast, pure_bind, if_true]
      rw [Draw.ends_bind, Draw.ends_of_run hd, Draw.ends_pure]
      exact List.forall_mem_nil _
    | some t =>
      simp only [figures, hlast, if_true, true_and, List.forall_mem_append, List.forall_mem_cons] at h
      obtain ⟨⟨⟨hms, hage, -⟩, hthreshold, -⟩, hlater⟩ := h
      have hstart : ∀ f ∈ [Figure.ofNumber (t.toInt * 1000),
          Figure.ofNumber (now.toInt - t.toInt * 1000)] ++
            [Figure.ofDuration c.normalized.startupKeepaliveThreshold], f.IsExact := by
        simp only [List.forall_mem_append, List.forall_mem_cons]
        exact ⟨⟨Figure.isExact_ofNumber hms, Figure.isExact_ofNumber hage, List.forall_mem_nil _⟩,
          Figure.isExact_ofDuration_iff.2 hthreshold, List.forall_mem_nil _⟩
      simp only [recordedPlan, recordedStart, lastRun?, hlast, bind_assoc, pure_bind,
        Draw.ends_bind, ends_recordedElapsed, decide_eq_true_eq, le_ofNumber_iff hthreshold hage]
      refine ⟨hms, hage, ?_⟩
      split
      · rw [Draw.ends_bind, Draw.ends_of_run hd, Draw.ends_pure]
        exact hstart
      · rename_i hold
        rw [if_neg hold] at hlater
        have hdelay : (recordedDelay c.normalized last now).Ends s AllExact := by
          refine exact_recordedDelay hj ?_
          simp only [figures, hlast, Bool.false_eq_true, if_false, false_and, List.append_nil,
            List.forall_mem_append, List.forall_mem_cons]
          exact ⟨⟨hms, hage, List.forall_mem_nil _⟩, hlater⟩
        refine Draw.ends_bind.2 (hdelay.mono fun r s₁ hr => Draw.ends_pure.2 ?_)
        exact List.forall_mem_append.2 ⟨hstart, hr⟩

end Exact

/-! ## The default configuration -/

section Default

variable {last : Option Int64} {now : Int64} {check : Bool} {s s' s₁ : Source} {j : Int64}

theorem durationsFit_default {α : Type} (r : α × List Figure) (s : Source) :
    DurationsFit {} r s := fun v hv _ => by
  simp only [List.mem_cons, List.not_mem_nil, or_false] at hv
  obtain rfl | rfl | rfl := hv <;> decide

theorem jitter_default (s : Source) :
    ∃ j s', (jitter {}).run s = some (j, s') ∧ IsJitter {} j.toInt := by
  obtain ⟨j, s', hj, -, hmem⟩ := jitter_mem {} s
  rw [Config.normalized_default] at hj hmem
  exact ⟨j, s', hj, hmem⟩

theorem fits_of_default_plan (hj : (jitter {}).run s = some (j, s'))
    (h : (firstPlan {} last now check).Ends s fun _ _ => True) :
    ∀ x ∈ figures {} last now check j.toInt, FitsWord x := by
  rw [← recordedPlan_fst, Draw.ends_map] at h
  rw [← Config.normalized_default] at hj h ⊢
  refine fits_of_ends hj (h.mono fun r s' _ => ?_)
  rw [Config.normalized_default]
  exact durationsFit_default r s'

theorem exact_of_default_fits (hj : (jitter {}).run s = some (j, s'))
    (h : ∀ x ∈ figures {} last now check j.toInt, FitsWord x) :
    (recordedPlan {} last now check).Ends s AllExact := by
  rw [← Config.normalized_default] at hj h ⊢
  exact exact_of_fits hj h

/-- Under the default configuration, every plan that there is has exact figures. -/
theorem exact_default_plan {p : Plan} (hp : (firstPlan {} last now check).run s = some (p, s')) :
    ∃ figs, (recordedPlan {} last now check).run s = some ((p, figs), s') ∧
      ∀ f ∈ figs, f.IsExact := by
  obtain ⟨j, sj, hj, -⟩ := jitter_default s
  obtain ⟨⟨q, figs⟩, s₁, hrun, hexact⟩ :=
    exact_of_default_fits hj (fits_of_default_plan hj ⟨p, s', hp, trivial⟩)
  have hplan : (Prod.fst <$> recordedPlan {} last now check).run s = some (q, s₁) :=
    Draw.run_bind_pure hrun _
  rw [recordedPlan_fst] at hplan
  cases hplan.symm.trans hp
  exact ⟨figs, hrun, hexact⟩

/-- Where the start of the program is left aside, the plan is the delay from the last run. -/
theorem run_firstPlan_false (c : Config) (last : Option Int64) (now : Int64) (s : Source) :
    (firstPlan c last now false).run s =
      ((delayFromLast c last now).run s).map fun r => (⟨r.1, .periodic⟩, r.2) := by
  have hmap : firstPlan c last now false =
      (fun d => ⟨d, .periodic⟩) <$> delayFromLast c last now := rfl
  rw [hmap, StateT.run_map]
  rfl

/-- The default configuration has room for the period after a last run at this second, in
milliseconds and with the longest jitter. -/
def DefaultRoom (last : Option Int64) (now : Int64) : Prop :=
  let c : Config := {}
  ∀ t ∈ last, t.toInt * 1000 < 2 ^ 63 ∧
    t.toInt * 1000 + (c.keepaliveBase.toNat + c.keepaliveJitter.toNat) < 2 ^ 63 + now.toInt

theorem default_fits_of_room (hnow : 0 ≤ now.toInt) (hclock : now.toInt ≤ 2 ^ 53)
    (h : DefaultRoom last now) {j : Int} (hj : IsJitter {} j) :
    ∀ x ∈ figures {} last now check j, FitsWord x := by
  refine fits_of_bounds hj (by decide) (by decide) (by decide) fun t ht hpos => ?_
  obtain ⟨hms, hsum⟩ := h t ht
  simp only [UInt64.reduceToNat] at hsum ⊢
  exact ⟨hms, ⟨by omega, by omega⟩, by omega⟩

theorem default_room_of_fits (hnow : 0 ≤ now.toInt)
    (h : ∀ x ∈ figures {} last now check 1800000, FitsWord x) : DefaultRoom last now := by
  intro t ht
  simp only [UInt64.reduceToNat]
  by_cases hpos : 0 < t.toInt
  · have hlast : last.filter (0 < ·) = some t :=
      Option.filter_eq_some_iff.2 ⟨ht, decide_eq_true (Int64.lt_iff_toInt_lt.2 hpos)⟩
    simp only [figures, hlast, UInt64.reduceToNat, List.forall_mem_append, List.forall_mem_cons] at h
    obtain ⟨⟨⟨⟨-, hms⟩, -, -⟩, -⟩, hrest⟩ := h
    refine ⟨hms, ?_⟩
    split at hrest
    · omega
    split at hrest
    · omega
    · simp only [List.forall_mem_cons] at hrest
      obtain ⟨-, -, ⟨-, hsum⟩, -⟩ := hrest
      omega
  · omega

/-- **For which last runs there is a plan.** Under the default configuration, by a clock from zero to
2^53, whatever the time of the last run is and whatever numbers are drawn: no plan is ever made with a
figure that is not exact. If the last run, in milliseconds, is a signed word, and the period after it
with the longest jitter does not come more than the greatest signed word from now, there is a plan, and
a delay from the last run. If not, there are numbers to be drawn with which there is neither. -/
theorem default_plan_iff_room (hnow : 0 ≤ now.toInt) (hclock : now.toInt ≤ 2 ^ 53)
    (last : Option Int64) :
    let c : Config := {}
    (∀ check s p s', (firstPlan c last now check).run s = some (p, s') →
      ∃ figs, (recordedPlan c last now check).run s = some ((p, figs), s') ∧
        ∀ f ∈ figs, f.IsExact) ∧
    (DefaultRoom last now → ∀ s,
      (∀ check, ∃ p s', (firstPlan c last now check).run s = some (p, s')) ∧
        ∃ d s', (delayFromLast c last now).run s = some (d, s')) ∧
    (¬ DefaultRoom last now → ∃ s,
      (∀ check, (firstPlan c last now check).run s = none) ∧
        (delayFromLast c last now).run s = none) := by
  intro c
  refine ⟨fun check s p s' => exact_default_plan, fun hroom s => ?_, fun hroom => ?_⟩
  · obtain ⟨j, sj, hj, hmem⟩ := jitter_default s
    have hplan (check : Bool) : (firstPlan {} last now check).Ends s fun _ _ => True := by
      rw [← recordedPlan_fst, Draw.ends_map]
      exact (exact_of_default_fits hj (default_fits_of_room hnow hclock hroom hmem)).mono
        fun _ _ _ => trivial
    refine ⟨fun check => ?_, ?_⟩
    · obtain ⟨p, s', hp, -⟩ := hplan check
      exact ⟨p, s', hp⟩
    · obtain ⟨p, s', hp, -⟩ := hplan false
      rw [run_firstPlan_false] at hp
      obtain ⟨⟨d, s₁⟩, hd, -⟩ := Option.map_eq_some_iff.1 hp
      exact ⟨d, s₁, hd⟩
  · obtain ⟨j, s, s', hj, hlongest⟩ := exists_longest_jitter {}
    rw [Config.normalized_default] at hj hlongest
    have hnone (check : Bool) : (firstPlan {} last now check).run s = none := by
      refine Option.eq_none_iff_forall_ne_some.2 fun ⟨p, s₁⟩ hp => hroom ?_
      have hfits := fits_of_default_plan hj ⟨p, s₁, hp, trivial⟩
      rw [hlongest] at hfits
      exact default_room_of_fits hnow hfits
    exact ⟨s, hnone, Option.map_eq_none_iff.1 ((run_firstPlan_false c last now s).symm.trans
      (hnone false))⟩

/-- A last run 292 million years ahead, whose milliseconds are one too many for a word: there is no
plan, whatever is drawn. There is one after a last run of this century. -/
theorem no_default_plan_after_the_last_word :
    let c : Config := {}
    let far : Option Int64 := some 9223372036854776
    let recent : Option Int64 := some 1700000000
    let now : Int64 := 1700000100000
    (0 ≤ (1000 : Int64).toInt ∧ (1000 : Int64).toInt ≤ 2 ^ 53) ∧
    (0 ≤ now.toInt ∧ now.toInt ≤ 2 ^ 53) ∧
    ¬ DefaultRoom far 1000 ∧
    (∃ s, (firstPlan c far 1000 true).run s = none ∧ (delayFromLast c far 1000).run s = none) ∧
    (firstPlan c far 1000 true).run {} = none ∧
    DefaultRoom recent now ∧
    ∀ check s, ∃ p figs s', (recordedPlan c recent now check).run s = some ((p, figs), s') ∧
      ∀ f ∈ figs, f.IsExact := by
  intro c far recent now
  have hfar : 0 ≤ (1000 : Int64).toInt ∧ (1000 : Int64).toInt ≤ 2 ^ 53 := by decide
  have hrecent : 0 ≤ now.toInt ∧ now.toInt ≤ 2 ^ 53 := by decide
  have hnone : ¬ DefaultRoom far 1000 := fun h => absurd (h 9223372036854776 rfl).1 (by decide)
  have hroom : DefaultRoom recent now := fun t ht => by
    obtain rfl : 1700000000 = t := Option.some.inj ht
    decide
  obtain ⟨s, hplan, hdelay⟩ := (default_plan_iff_room hfar.1 hfar.2 far).2.2 hnone
  refine ⟨hfar, hrecent, hnone, ⟨s, hplan true, hdelay⟩, by decide +kernel, hroom,
    fun check s => ?_⟩
  obtain ⟨hexact, hsome, -⟩ := default_plan_iff_room hrecent.1 hrecent.2 recent
  obtain ⟨p, s', hp⟩ := (hsome hroom s).1 check
  obtain ⟨figs, hrun, hfigs⟩ := hexact check s p s' hp
  exact ⟨p, figs, s', hrun, hfigs⟩

end Default

end Keepalive

end Switchboard
