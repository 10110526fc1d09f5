import Headroom.Proofs.Config.Rules
import Headroom.Proofs.Num.Ratio

/-!
# Seconds as intervals

An option holds seconds as a double, and its accessor gives a duration whatever double that is.
`Duration.bounded` rounds what is not negative to whole nanoseconds, infinity included, and keeps
the count within a nanosecond and a year (`Duration.bounded_nonneg`). Everything else is the
shortest duration. So the conversion keeps the order of numbers, and where validation accepts the
seconds, they are only rounded (`Duration.converts`).
-/

namespace Headroom

/-! ## Statements -/

/-- A number of seconds comes to a number of nanoseconds when it is rounded, a tie going to the even
count. -/
def Duration.IsNearest (x : Binary64) (d : Duration) : Prop :=
  ∃ q, x.value? = some q ∧ RoundsTo (q * second) d

/-- A number of seconds comes to a duration from a nanosecond to a year by rounding alone. -/
structure Duration.Fits (x : Binary64) (d : Duration) : Prop where
  nearest : IsNearest x d
  low : 1 ≤ d
  high : d ≤ year

/-- A number of seconds, as it is validated and as it is converted. -/
structure Duration.Converts (x : Binary64) : Prop where
  low : 1 ≤ bounded x
  high : bounded x ≤ year
  accepted : ∀ option, Fault.interval option x = none ↔ ∃ d, Fits x d
  exact : ∀ d, Fits x d → bounded x = d
  /-- What is negative or zero, or no more than half a nanosecond, is too short. -/
  short : ∀ q, x.value? = some q → q * second ≤ 1 / 2 → bounded x = 1
  long : ∀ q, x.value? = some q → year + 1 / 2 < q * second → bounded x = year

/-- The intervals of the pool, with the seconds that they come from. -/
def PoolConfig.intervals (c : PoolConfig) : List (Binary64 × Duration) :=
  [(c.maybeRunSecs, c.maybeRunInterval), (c.autoscaleSecs, c.autoscaleInterval)] ++
    c.loggingInterval?.toList.map (c.loggingSecs, ·)

/-- The intervals of the snapshotter, with the seconds that they come from. -/
def SnapshotterConfig.intervals (c : SnapshotterConfig) : List (Binary64 × Duration) :=
  [(c.eventLoopSecs, c.eventLoopInterval), (c.memorySecs, c.memoryInterval),
   (c.cpuSecs, c.cpuInterval), (c.clientSecs, c.clientInterval), (c.historySecs, c.history)]

/-- The intervals of a configuration, with the seconds that they come from. -/
def Config.intervals (c : Config) : List (Binary64 × Duration) :=
  c.pool.intervals ++ c.snapshotter.intervals ++
    [(c.status.currentHistorySecs, c.status.currentHistory)]

/-- No interval of a configuration is cut off or lengthened. -/
structure Config.Unclamped (c : Config) : Prop where
  intervals : ∀ i ∈ c.intervals, Duration.Fits i.1 i.2
  /-- There is no interval of reports just if zero is written for it. -/
  logging : c.pool.loggingInterval? = none ↔ c.pool.loggingSecs.value? = some 0

namespace Duration

/-! ## Conversion -/

/-- Positive doubles are those without a sign that are not zero. -/
lemma zero_lt_real (negative : Bool) (m : Magnitude) :
    Binary64.zero.lt (.real negative m) = (!negative && m.rank != 0) := by
  have zero : Binary64.zero.place? = some 0 := rfl
  rw [Binary64.lt, zero, Binary64.place?, Bool.eq_iff_iff]
  cases negative with
  | true => simp
  | false => simp [Nat.pos_iff_ne_zero]

/-- The rounded nanosecond count of a magnitude. -/
def rounded (m : Magnitude) : Nat := Rounding.halfEven (m.steps * second) stepsPerOne

/-- No time is no nanoseconds. -/
lemma rounded_zero {m : Magnitude} (zero : m.rank = 0) : rounded m = 0 := by
  have none := Rounding.halfEven_mul 0 stepsPerOne_pos
  rw [Nat.zero_mul] at none
  rw [rounded, Magnitude.steps_eq_zero.mpr zero, Nat.zero_mul, none]

/-- Longer times round to no fewer nanoseconds. -/
lemma rounded_mono {m n : Magnitude} (le : m.rank ≤ n.rank) : rounded m ≤ rounded n :=
  Rounding.halfEven_le_of_le stepsPerOne_pos
    (Nat.mul_le_mul_right second (Magnitude.steps_le_iff.mpr le))

/-- A number with a minus sign is too short. -/
lemma bounded_negative (m : Magnitude) : bounded (.real true m) = 1 := by
  rw [bounded, ofSeconds?, ← rounded, zero_lt_real, Bool.true_and]
  cases below : m.isInfinite || m.rank != 0 with
  | true => rfl
  | false =>
    have zero : m.rank = 0 := by simpa using (Bool.or_eq_false_iff.mp below).2
    rw [rounded_zero zero]
    rfl

-- The count is a variable. The checker would otherwise compute it to compare it.
/-- A finite number of seconds is converted if its nanoseconds fit. -/
lemma ofSeconds?_finite {m : Magnitude} {d : Nat} (finite : m.isInfinite = false)
    (e : rounded m = d) :
    ofSeconds? (.real false m) = if d < Nat.pow 2 64 * second then some d else none := by
  rw [ofSeconds?, finite, ← rounded, e]
  rfl

/-- A number without a minus sign is rounded and then kept within the bounds. -/
lemma bounded_nonneg (m : Magnitude) : bounded (.real false m) = max 1 (min (rounded m) year) := by
  cases infinite : m.isInfinite with
  | true =>
    obtain rfl := m.eq_top infinite
    decide +kernel
  | false =>
    generalize e : rounded m = d
    rw [bounded, zero_lt_real, ofSeconds?_finite infinite e]
    cases Nat.lt_or_ge d (Nat.pow 2 64 * second) with
    | inl fits => rw [if_pos fits]
    | inr large =>
      have long : year ≤ d := Nat.le_trans (by decide) large
      have some : m.rank ≠ 0 := by
        intro zero
        rw [← e, rounded_zero zero] at long
        exact absurd long (by decide)
      rw [if_neg (Nat.not_lt.mpr large), min_eq_right long, bne_iff_ne.mpr some]
      rfl

/-- The conversion keeps the order of numbers. -/
lemma bounded_mono {a b : Binary64} (le : a.le b = true) : bounded a ≤ bounded b := by
  cases a with
  | nan => cases le
  | real s m =>
    cases b with
    | nan => cases le
    | real t n =>
      have places := of_decide_eq_true le
      cases s with
      | true =>
        rw [bounded_negative]
        cases t with
        | true => rw [bounded_negative]
        | false =>
          rw [bounded_nonneg]
          exact le_max_left _ _
      | false =>
        rw [bounded_nonneg]
        cases t with
        | true =>
          have zero : m.rank = 0 := by simp at places; omega
          rw [bounded_negative, rounded_zero zero]
          decide
        | false =>
          rw [bounded_nonneg]
          have ranks : m.rank ≤ n.rank := by simpa using places
          exact max_le_max_left 1 (min_le_min_right year (rounded_mono ranks))

/-- Every interval is within a nanosecond and a year. -/
lemma bounded_range (x : Binary64) : 1 ≤ bounded x ∧ bounded x ≤ year := by
  cases x with
  | nan => decide
  | real negative m =>
    cases negative with
    | true =>
      rw [bounded_negative]
      decide
    | false =>
      rw [bounded_nonneg]
      exact ⟨le_max_left _ _, max_le (by decide) (min_le_right _ _)⟩

/-! ## Exact values -/

/-- A finite number is too short or is rounded by its value. -/
lemma value?_cases {x : Binary64} {q : ℚ} (value : x.value? = some q) :
    (q ≤ 0 ∧ bounded x = 1) ∨
      ∃ n, (∀ d, n = d ↔ RoundsTo (q * second) d) ∧ bounded x = max 1 (min n year) := by
  obtain ⟨negative, m, rfl, _, rfl⟩ := Binary64.value?_eq_some value
  have pos : (0 : ℚ) < stepsPerOne := Nat.cast_pos.mpr stepsPerOne_pos
  cases negative with
  | true =>
    refine .inl ⟨?_, bounded_negative m⟩
    rw [Binary64.signedSteps_true, div_le_iff₀ pos, zero_mul]
    simp
  | false =>
    refine .inr ⟨rounded m, fun d => ?_, bounded_nonneg m⟩
    have nanoseconds : (Binary64.signedSteps false m / stepsPerOne * second : ℚ) =
        (m.steps * second : Nat) / stepsPerOne := by
      rw [Binary64.signedSteps_false]
      push_cast
      ring
    rw [nanoseconds]
    exact Rounding.halfEven_eq_iff stepsPerOne_pos

/-- A second is positive. -/
lemma second_pos : (0 : ℚ) < second := Nat.cast_pos.mpr (by decide)

/-- The nearest duration is kept within a nanosecond and a year. -/
lemma bounded_of_isNearest {x : Binary64} {d : Duration} (h : IsNearest x d) :
    bounded x = max 1 (min d year) := by
  obtain ⟨q, value, rounds⟩ := h
  obtain ⟨nonpos, e⟩ | ⟨n, iff, e⟩ := value?_cases value
  · have below := rounds.above.trans (mul_nonpos_of_nonpos_of_nonneg nonpos second_pos.le)
    have zero : d < 1 := by
      rw [← Nat.cast_lt (α := ℚ)]
      push_cast
      linarith
    rw [e, Nat.lt_one_iff.mp zero]
    rfl
  · rw [e, (iff d).mpr rounds]

/-- Half a nanosecond and less is one nanosecond. -/
lemma bounded_short {x : Binary64} {q : ℚ} (value : x.value? = some q)
    (short : q * second ≤ 1 / 2) : bounded x = 1 := by
  obtain ⟨_, e⟩ | ⟨n, iff, e⟩ := value?_cases value
  · exact e
  · have le : n ≤ 1 := by
      have above := ((iff n).mp rfl).above
      rw [← Nat.cast_le (α := ℚ)]
      push_cast
      linarith
    rw [e, max_eq_left ((min_le_left n year).trans le)]

/-- More than a year is one year. -/
lemma bounded_long {x : Binary64} {q : ℚ} (value : x.value? = some q)
    (long : year + 1 / 2 < q * second) : bounded x = year := by
  obtain ⟨nonpos, _⟩ | ⟨n, iff, e⟩ := value?_cases value
  · have below := mul_nonpos_of_nonpos_of_nonneg nonpos second_pos.le
    have pos : (0 : ℚ) ≤ year := Nat.cast_nonneg year
    linarith
  · have le : year ≤ n := by
      have below := ((iff n).mp rfl).below
      rw [← Nat.cast_le (α := ℚ)]
      linarith
    rw [e, min_eq_right le]
    rfl

/-- A duration that fits is the one that the seconds are converted to. -/
lemma Fits.bounded_eq {x : Binary64} {d : Duration} (fits : Fits x d) : bounded x = d := by
  rw [bounded_of_isNearest fits.nearest, min_eq_left fits.high, max_eq_right fits.low]

/-- The rule for an interval asks for a duration that fits. -/
lemma isInterval_iff_fits {x : Binary64} : Rule.IsInterval x ↔ ∃ d, Fits x d := by
  refine ⟨?_, ?_⟩
  · rintro ⟨q, d, value, _, rounds, low, high⟩
    exact ⟨d, ⟨q, value, rounds⟩, low, high⟩
  · rintro ⟨d, ⟨q, value, rounds⟩, low, high⟩
    have nonneg : 0 ≤ q := by
      have above := rounds.above
      have one : (1 : ℚ) ≤ d := Nat.one_le_cast.mpr low
      exact nonneg_of_mul_nonneg_left (by linarith) second_pos
    exact ⟨q, d, value, nonneg, rounds, low, high⟩

/-- Seconds that are accepted as an interval fit. -/
lemma bounded_fits {x : Binary64} (h : Rule.IsInterval x) : Fits x (bounded x) := by
  obtain ⟨d, fits⟩ := isInterval_iff_fits.mp h
  rw [fits.bounded_eq]
  exact fits

/-- The conversion does as it is said for every double. -/
lemma bounded_converts (x : Binary64) : Converts x where
  low := (bounded_range x).1
  high := (bounded_range x).2
  accepted option := (Judged.interval option x).none_iff.trans <| by
    rw [List.forall_mem_singleton, ← isInterval_iff_fits]
    rfl
  exact _ := Fits.bounded_eq
  short _ := bounded_short
  long _ := bounded_long

end Duration

/-! ## Accessors -/

/-- The intervals of an accepted pool fit. -/
lemma PoolConfig.intervals_fit {c : PoolConfig} (valid : c.fault? = none) :
    ∀ i ∈ c.intervals, Duration.Fits i.1 i.2 := by
  have holds := c.rules_judged.none_iff.mp valid
  rw [rules] at holds
  simp only [List.forall_mem_cons] at holds
  obtain ⟨_, _, _, _, _, _, run, autoscale, logging, _⟩ := holds
  rw [intervals, List.forall_mem_append, List.forall_mem_cons, List.forall_mem_singleton]
  refine ⟨⟨Duration.bounded_fits run, Duration.bounded_fits autoscale⟩, ?_⟩
  rw [loggingInterval?]
  split
  · exact nofun
  · next other =>
    rw [Option.toList_some, List.map_singleton, List.forall_mem_singleton]
    refine Duration.bounded_fits (logging fun zero => other ?_)
    exact Binary64.same_zero_iff.mpr zero

/-- The intervals of an accepted snapshotter fit. -/
lemma SnapshotterConfig.intervals_fit {c : SnapshotterConfig} (valid : c.fault? = none) :
    ∀ i ∈ c.intervals, Duration.Fits i.1 i.2 := by
  have holds := c.rules_judged.none_iff.mp valid
  rw [rules] at holds
  simp only [List.forall_mem_cons] at holds
  obtain ⟨eventLoop, memory, cpu, client, history, _⟩ := holds
  rw [intervals]
  simp only [List.forall_mem_cons]
  exact ⟨Duration.bounded_fits eventLoop, Duration.bounded_fits memory, Duration.bounded_fits cpu,
    Duration.bounded_fits client, Duration.bounded_fits history, nofun⟩

/-- The interval of an accepted status fits. -/
lemma StatusConfig.interval_fits {c : StatusConfig} (valid : c.fault? = none) :
    Duration.Fits c.currentHistorySecs c.currentHistory :=
  Duration.bounded_fits (c.rules_judged.none_iff.mp valid _ List.mem_cons_self)

/-- Reports are off just if their interval is zero. -/
lemma PoolConfig.loggingInterval?_eq_none {c : PoolConfig} :
    c.loggingInterval? = none ↔ c.loggingSecs.value? = some 0 := by
  rw [← Binary64.same_zero_iff, loggingInterval?]
  split
  · next zero => exact ⟨fun _ => zero, fun _ => rfl⟩
  · next other => exact ⟨nofun, fun zero => absurd zero other⟩

/-- No interval of an accepted configuration is clamped. -/
lemma Config.unclamped {c : Config} (valid : c.fault? = none) : c.Unclamped where
  intervals := by
    obtain ⟨valid, status⟩ := Option.or_eq_none_iff.mp valid
    obtain ⟨pool, snapshotter⟩ := Option.or_eq_none_iff.mp valid
    rw [Config.intervals, List.forall_mem_append, List.forall_mem_append,
      List.forall_mem_singleton]
    exact ⟨⟨PoolConfig.intervals_fit pool, SnapshotterConfig.intervals_fit snapshotter⟩,
      StatusConfig.interval_fits status⟩
  logging := PoolConfig.loggingInterval?_eq_none

/-- Whatever double is given for seconds, it becomes a duration from a nanosecond to a year, a
greater number never a shorter one. Validation accepts just the numbers that come to such a duration
by rounding alone, so the intervals of an accepted configuration are those that are written. -/
theorem Duration.converts :
    (∀ x, Converts x) ∧ (∀ a b, a.le b = true → bounded a ≤ bounded b) ∧
      bounded .infinity = year ∧ bounded .negInfinity = 1 ∧ bounded .nan = 1 ∧
      ∀ c : Config, c.fault? = none → c.Unclamped :=
  ⟨bounded_converts, fun _ _ => bounded_mono, by decide, by decide, by decide,
    fun _ => Config.unclamped⟩

/-- Of two ties one goes down and one up, to the even count. The last double below half a nanosecond
and the first one above a year are refused, and their neighbours are accepted. The default
configuration is as written. -/
theorem Duration.converts_at_edges :
    bounded 0.0009765625 = 976562 ∧ bounded 0.0029296875 = 2929688 ∧
      [4.999999999999999e-10, 5e-10, 31535999.999999996, 31536000, 31536000.000000004].map
          (fun x => (isInterval x, bounded x)) =
        [(false, 1), (true, 1), (true, year - 4), (true, year), (false, year)] ∧
      ({} : Config).fault? = none ∧ ({} : Config).Unclamped := by
  have valid : ({} : Config).fault? = none := by decide +kernel
  exact ⟨by decide +kernel, by decide +kernel, by decide +kernel, valid,
    converts.2.2.2.2.2 {} valid⟩

end Headroom
