import Headroom.Proofs.Num.Part
import Headroom.Proofs.Pool.Bounds

/-!
# Where scaling leads

A scaling decision moves the desired concurrency by one step at most, within the bounds, leaves all
else alone and tells of a change just if there is one (`autoscale_lowers`, `autoscale_raises`). A
pool with as many tasks in flight as are desired is filled, for every ratio in `(0, 1]`
(`isFilled_of_le`), and from the lower half of the counts a step up gives a count (`raised_lt`).

Ticks that all come to one verdict lead to one of the bounds: an overload to the floor, and an idle
system, while as many tasks are in flight as are desired, to the ceiling. `gap` is how far the
desired concurrency is from there. Every tick makes it smaller as long as there is any
(`autoscale_approach`). Whatever else goes on between the ticks leaves it alone, so it is closed
after as many ticks as it was wide (`approach_all`).
-/

namespace Headroom

/-! ## Steps -/

/-- A step within the lower half of the counts stays there. -/
lemma scaleStep_le {ratio : Binary64} (range : ratio.isPositiveRatio = true) {desired : Nat}
    (low : desired ≤ Nat.pow 2 63) : scaleStep ratio desired ≤ Nat.pow 2 63 := by
  obtain ⟨part, e, le⟩ := Binary64.ofNat_mul_rank_le desired range
  rw [scaleStep, Binary64.mul_comm, e]
  refine Nat.max_le.mpr ⟨?_, by decide⟩
  have half : (Binary64.ofNat (Nat.pow 2 63)).roundToCount = Nat.pow 2 63 := by decide +kernel
  rw [← half]
  exact Binary64.roundToCount_mono (le.trans (Binary64.ofNat_rank_mono low))

/-- A step is at least one. -/
lemma one_le_scaleStep (ratio : Binary64) (desired : Nat) : 1 ≤ scaleStep ratio desired :=
  Nat.le_max_right _ _

namespace PoolState

/-- From the lower half of the counts, raising the desired concurrency gives a count. -/
lemma raised_lt {s : PoolState} {c : PoolConfig} (range : c.scaleUpStepRatio.isPositiveRatio = true)
    (low : s.desired < Nat.pow 2 63) : s.raised c < Nat.pow 2 64 := by
  have step := scaleStep_le range low.le
  have double : Nat.pow 2 64 = Nat.pow 2 63 + Nat.pow 2 63 := by decide
  rw [raised, double]
  exact Nat.add_lt_add_of_lt_of_le low step

/-- A pool with as many tasks in flight as desired is filled. -/
lemma isFilled_of_le {s : PoolState} {c : PoolConfig}
    (range : c.desiredConcurrencyRatio.isPositiveRatio = true) (full : s.desired ≤ s.current) :
    s.isFilled c = true := by
  obtain ⟨part, e, le⟩ := Binary64.ofNat_mul_rank_le s.desired range
  rw [isFilled, e, Binary64.ofNat, Binary64.le]
  simp only [Binary64.place?, decide_eq_true_eq]
  exact Int.ofNat_le.mpr (le.trans (Binary64.ofNat_rank_mono full))

end PoolState

/-! ## One decision -/

/-- What is told of the desired concurrency before and after a decision. -/
inductive ScaleChange.Tells : Nat → Nat → Option ScaleChange → Prop where
  | same {n} : Tells n n none
  | raised {old new} : old < new → Tells old new (some (.up old new))
  | lowered {old new} : new < old → Tells old new (some (.down old new))

namespace PoolState

/-- A decision leaves all but the desired concurrency alone, and tells what becomes of that. -/
structure Rescales (s : PoolState) (change : Option ScaleChange) (t : PoolState) : Prop where
  frame : t = { s with desired := t.desired }
  told : ScaleChange.Tells s.desired t.desired change

/-- The desired concurrency goes down by a step at most, and not below the floor. -/
structure Lowers (c : PoolConfig) (s : PoolState) (change : Option ScaleChange) (t : PoolState) :
    Prop extends Rescales s change t where
  le : t.desired ≤ s.desired
  step : s.desired ≤ t.desired + scaleStep c.scaleDownStepRatio s.desired
  floor : s.minConcurrency ≤ t.desired

/-- The desired concurrency goes up by a step at most, and not above the ceiling. -/
structure Raises (c : PoolConfig) (s : PoolState) (change : Option ScaleChange) (t : PoolState) :
    Prop extends Rescales s change t where
  le : s.desired ≤ t.desired
  step : t.desired ≤ s.desired + scaleStep c.scaleUpStepRatio s.desired
  ceiling : t.desired ≤ s.maxConcurrency

/-- Lowering the desired concurrency moves nothing else. -/
lemma rescale_down {s : PoolState} {target : Nat} (le : target ≤ s.desired) :
    Rescales s (s.rescale .down target).1 (s.rescale .down target).2 := by
  refine ⟨rfl, ?_⟩
  rw [rescale]
  dsimp only
  split
  · next e =>
    rw [e]
    exact .same
  · next ne => exact .lowered (Nat.lt_of_le_of_ne le ne)

/-- Raising the desired concurrency moves nothing else. -/
lemma rescale_up {s : PoolState} {target : Nat} (le : s.desired ≤ target) :
    Rescales s (s.rescale .up target).1 (s.rescale .up target).2 := by
  refine ⟨rfl, ?_⟩
  rw [rescale]
  dsimp only
  split
  · next e =>
    rw [e]
    exact .same
  · next ne => exact .raised (Nat.lt_of_le_of_ne le (Ne.symm ne))

/-- A decision may change nothing. -/
lemma Rescales.still (s : PoolState) : Rescales s none s := ⟨rfl, .same⟩

/-- An overload lowers the desired concurrency. -/
lemma autoscale_lowers {s : PoolState} (c : PoolConfig) (bd : s.Bounded) :
    ∃ change t, s.autoscale false c = .ok (change, t) ∧ Lowers c s change t := by
  have floor := bd.floor_le
  have le : s.scaledDown c ≤ s.desired := Nat.max_le.mpr ⟨Nat.sub_le _ _, floor⟩
  refine ⟨_, _, rfl, rescale_down le, le, ?_, Nat.le_max_right _ _⟩
  show s.desired ≤ s.scaledDown c + scaleStep c.scaleDownStepRatio s.desired
  rw [scaledDown]
  omega

/-- An idle system raises the desired concurrency or leaves it, if the sum is a count. -/
lemma autoscale_raises {s : PoolState} {c : PoolConfig} (bd : s.Bounded)
    (fits : s.raised c < Nat.pow 2 64) :
    ∃ change t, s.autoscale true c = .ok (change, t) ∧ Raises c s change t := by
  have ceiling := bd.le_ceiling
  rw [autoscale, if_pos rfl]
  by_cases filled : s.isFilled c = true
  · rw [if_pos filled, if_pos fits]
    have le : s.desired ≤ min (s.raised c) s.maxConcurrency :=
      Nat.le_min.mpr ⟨Nat.le_add_right _ _, ceiling⟩
    exact ⟨_, _, rfl, rescale_up le, le, Nat.min_le_left _ _, Nat.min_le_right _ _⟩
  · rw [if_neg filled]
    exact ⟨_, _, rfl, .still s, le_rfl, Nat.le_add_right _ _, ceiling⟩

/-! ## Distance to a bound -/

/-- How far the desired concurrency is from where the ticks of a verdict lead it: an idle system to
the ceiling, an overload to the floor. -/
def gap (s : PoolState) (idle : Bool) : Nat :=
  if idle then s.maxConcurrency - s.desired else s.desired - s.minConcurrency

/-- In ordered bookkeeping the bounds are as before, and the gap has been closed by `n` or for good.
-/
structure Approach (idle : Bool) (n : Nat) (s t : PoolState) : Prop where
  bounded : t.Bounded
  floor : t.minConcurrency = s.minConcurrency
  ceiling : t.maxConcurrency = s.maxConcurrency
  gap_le : t.gap idle ≤ s.gap idle - n

/-- Two approaches one after the other. -/
lemma Approach.trans {idle : Bool} {m n : Nat} {s t u : PoolState} (h : Approach idle m s t)
    (h1 : Approach idle n t u) : Approach idle (n + m) s u := by
  refine ⟨h1.bounded, h1.floor.trans h.floor, h1.ceiling.trans h.ceiling, ?_⟩
  have first := h.gap_le
  have second := h1.gap_le
  omega

/-- A gap that is no wider than what has been closed is gone. -/
lemma Approach.floor_reached {n : Nat} {s t : PoolState} (h : Approach false n s t)
    (wide : s.desired - s.minConcurrency ≤ n) : t.desired = s.minConcurrency := by
  have closed : t.desired - t.minConcurrency ≤ s.desired - s.minConcurrency - n := h.gap_le
  have low := h.bounded.floor_le
  rw [h.floor] at closed low
  omega

/-- As many steps as the gap is wide reach the ceiling. -/
lemma Approach.ceiling_reached {n : Nat} {s t : PoolState} (h : Approach true n s t)
    (wide : s.maxConcurrency - s.desired ≤ n) : t.desired = s.maxConcurrency := by
  have closed : t.maxConcurrency - t.desired ≤ s.maxConcurrency - s.desired - n := h.gap_le
  have high := h.bounded.le_ceiling
  rw [h.ceiling] at closed high
  omega

/-- A tick lowers what is above the floor. -/
lemma Approach.lowers {s t : PoolState} (h : Approach false 1 s t) :
    (s.minConcurrency < s.desired → t.desired < s.desired) ∧
      (s.desired = s.minConcurrency → t.desired = s.minConcurrency) := by
  have closed : t.desired - t.minConcurrency ≤ s.desired - s.minConcurrency - 1 := h.gap_le
  have low := h.bounded.floor_le
  rw [h.floor] at closed low
  omega

/-- A tick raises what is below the ceiling. -/
lemma Approach.raises {s t : PoolState} (h : Approach true 1 s t) :
    (s.desired < s.maxConcurrency → s.desired < t.desired) ∧
      (s.desired = s.maxConcurrency → t.desired = s.maxConcurrency) := by
  have closed : t.maxConcurrency - t.desired ≤ s.maxConcurrency - s.desired - 1 := h.gap_le
  have high := h.bounded.le_ceiling
  rw [h.ceiling] at closed high
  omega

/-- An idle tick moves the desired concurrency for sure: as many tasks are in flight as are desired,
and the ceiling is in the lower half of the counts. -/
structure Driven (s : PoolState) : Prop where
  full : s.desired ≤ s.current
  low : s.maxConcurrency < Nat.pow 2 63

/-- One tick closes the gap by one at least. -/
lemma autoscale_approach {s : PoolState} {c : PoolConfig} {idle : Bool}
    (fill : c.desiredConcurrencyRatio.isPositiveRatio = true)
    (up : c.scaleUpStepRatio.isPositiveRatio = true) (bd : s.Bounded)
    (driven : idle = true → s.Driven) :
    ∃ change t, s.autoscale idle c = .ok (change, t) ∧ Approach idle 1 s t := by
  cases idle with
  | false =>
    refine ⟨_, _, rfl, bd.scaledDown c, rfl, rfl, ?_⟩
    have step := one_le_scaleStep c.scaleDownStepRatio s.desired
    have floor := bd.floor_le
    show s.scaledDown c - s.minConcurrency ≤ s.desired - s.minConcurrency - 1
    rw [scaledDown]
    omega
  | true =>
    obtain ⟨full, low⟩ := driven rfl
    have fits := raised_lt up (Nat.lt_of_le_of_lt bd.le_ceiling low)
    rw [autoscale, if_pos rfl, if_pos (isFilled_of_le fill full), if_pos fits]
    refine ⟨_, _, rfl, bd.scaledUp c, rfl, rfl, ?_⟩
    have step := one_le_scaleStep c.scaleUpStepRatio s.desired
    show s.maxConcurrency - min (s.raised c) s.maxConcurrency ≤ s.maxConcurrency - s.desired - 1
    rw [raised]
    omega

/-! ## Ticks of one verdict -/

/-- It is a scaling decision. -/
def Op.isTick : Op → Bool
  | .autoscale _ => true
  | _ => false

/-- No setter, and no tick of the other verdict. Tasks may start and settle, the phase may change.
-/
def Op.isSteady (idle : Bool) : Op → Bool
  | .autoscale verdict => verdict == idle
  | .setMin _ | .setMax _ | .setDesired _ => false
  | _ => true

/-- Whenever a tick comes, as many tasks are in flight as are desired. -/
def fullAtTicks (c : PoolConfig) (s : PoolState) : List Op → Bool
  | [] => true
  | op :: ops =>
    (!op.isTick || s.desired ≤ s.current) && (s.apply c op).toOption.all (fullAtTicks c · ops)

/-- Between the ticks neither the bounds nor the desired concurrency change. -/
lemma Approach.between {idle : Bool} {s t : PoolState} (bd : s.Bounded)
    (e1 : t.minConcurrency = s.minConcurrency) (e2 : t.maxConcurrency = s.maxConcurrency)
    (e3 : t.desired = s.desired) : Approach idle 0 s t := by
  refine ⟨bd.congr e1 e2 e3, e1, e2, ?_⟩
  rw [gap, gap, e1, e2, e3]
  exact le_rfl

/-- One operation closes the gap by one if it is a tick. -/
lemma apply_approach {s : PoolState} {c : PoolConfig} {idle : Bool} {op : Op}
    (fill : c.desiredConcurrencyRatio.isPositiveRatio = true)
    (up : c.scaleUpStepRatio.isPositiveRatio = true) (bd : s.Bounded)
    (steady : op.isSteady idle = true) (driven : op.isTick = true → idle = true → s.Driven) :
    ∃ t, s.apply c op = .ok t ∧ Approach idle (if op.isTick then 1 else 0) s t := by
  cases op with
  | setPhase phase => exact ⟨_, rfl, .between bd rfl rfl rfl⟩
  | startAllowed now cap =>
    cases cap with
    | none => exact ⟨_, rfl, .between bd rfl rfl rfl⟩
    | some limit => exact ⟨_, rfl, .between bd rfl rfl rfl⟩
  | recordStart now cap => exact ⟨_, rfl, .between bd rfl rfl rfl⟩
  | recordSettled => exact ⟨_, rfl, .between bd rfl rfl rfl⟩
  | autoscale verdict =>
    obtain rfl : verdict = idle := beq_iff_eq.mp steady
    obtain ⟨change, t, e, approach⟩ := autoscale_approach fill up bd (driven rfl)
    refine ⟨t, ?_, approach⟩
    rw [apply, e]
    rfl
  | setMin value => cases steady
  | setMax value => cases steady
  | setDesired value => cases steady

/-- Operations close the gap by one for each tick among them. -/
lemma approach_all {s : PoolState} {c : PoolConfig} {idle : Bool} {ops : List Op}
    (fill : c.desiredConcurrencyRatio.isPositiveRatio = true)
    (up : c.scaleUpStepRatio.isPositiveRatio = true) (bd : s.Bounded)
    (steady : ops.all (Op.isSteady idle) = true)
    (driven : idle = true → s.maxConcurrency < Nat.pow 2 63 ∧ s.fullAtTicks c ops = true) :
    ∃ t, s.applyAll c ops = .ok t ∧ Approach idle (ops.countP Op.isTick) s t := by
  induction ops generalizing s with
  | nil => exact ⟨s, rfl, .between bd rfl rfl rfl⟩
  | cons op ops ih =>
    rw [List.all_cons, Bool.and_eq_true] at steady
    obtain ⟨t, e, first⟩ := apply_approach (c := c) fill up bd steady.1 (by
      intro tick active
      obtain ⟨low, full⟩ := driven active
      rw [fullAtTicks, Bool.and_eq_true, tick] at full
      exact ⟨of_decide_eq_true full.1, low⟩)
    obtain ⟨u, e1, rest⟩ := ih first.bounded steady.2 (by
      intro active
      obtain ⟨low, full⟩ := driven active
      rw [fullAtTicks, Bool.and_eq_true, e] at full
      exact ⟨first.ceiling ▸ low, full.2⟩)
    refine ⟨u, ?_, ?_⟩
    · rw [applyAll, e]
      exact e1
    · rw [List.countP_cons]
      exact first.trans rest

/-- A scaling decision on ordered bookkeeping lowers or raises the desired concurrency by a step at
most, within the bounds. Ticks during an overload lower it one after the other until it is at the
floor, which takes no more ticks than it was above the floor, and there it stays. Ticks of an idle
system that find as many tasks in flight as are desired raise it in the same way to the ceiling. -/
theorem autoscale_converges {c : PoolConfig}
    (fill : c.desiredConcurrencyRatio.isPositiveRatio = true)
    (up : c.scaleUpStepRatio.isPositiveRatio = true) {s : PoolState} (bd : s.Bounded) :
    (∃ change t, s.autoscale false c = .ok (change, t) ∧ Lowers c s change t) ∧
      (s.desired + scaleStep c.scaleUpStepRatio s.desired < Nat.pow 2 64 →
        ∃ change t, s.autoscale true c = .ok (change, t) ∧ Raises c s change t) ∧
      (∀ ops : List Op, ops.all (Op.isSteady false) = true →
        ∃ t, s.applyAll c ops = .ok t ∧
          t.minConcurrency = s.minConcurrency ∧ t.maxConcurrency = s.maxConcurrency ∧
          (s.desired - s.minConcurrency ≤ ops.countP Op.isTick →
            t.desired = s.minConcurrency) ∧
          ∃ change u, t.autoscale false c = .ok (change, u) ∧
            (s.minConcurrency < t.desired → u.desired < t.desired) ∧
            (t.desired = s.minConcurrency → u.desired = s.minConcurrency)) ∧
      (s.maxConcurrency < Nat.pow 2 63 → ∀ ops : List Op, ops.all (Op.isSteady true) = true →
        s.fullAtTicks c ops = true →
        ∃ t, s.applyAll c ops = .ok t ∧
          t.minConcurrency = s.minConcurrency ∧ t.maxConcurrency = s.maxConcurrency ∧
          (s.maxConcurrency - s.desired ≤ ops.countP Op.isTick →
            t.desired = s.maxConcurrency) ∧
          (t.desired ≤ t.current →
            ∃ change u, t.autoscale true c = .ok (change, u) ∧
              (t.desired < s.maxConcurrency → t.desired < u.desired) ∧
              (t.desired = s.maxConcurrency → u.desired = s.maxConcurrency))) := by
  refine ⟨autoscale_lowers c bd, autoscale_raises bd, ?_, ?_⟩
  · intro ops steady
    obtain ⟨t, e, h⟩ := approach_all fill up bd steady nofun
    obtain ⟨change, u, e1, next⟩ :
        ∃ change u, t.autoscale false c = .ok (change, u) ∧ Approach false 1 t u :=
      autoscale_approach fill up h.bounded nofun
    have lowers := next.lowers
    rw [h.floor] at lowers
    exact ⟨t, e, h.floor, h.ceiling, h.floor_reached, change, u, e1, lowers⟩
  · intro low ops steady full
    obtain ⟨t, e, h⟩ := approach_all fill up bd steady fun _ => ⟨low, full⟩
    refine ⟨t, e, h.floor, h.ceiling, h.ceiling_reached, ?_⟩
    intro full1
    obtain ⟨change, u, e1, next⟩ :
        ∃ change u, t.autoscale true c = .ok (change, u) ∧ Approach true 1 t u :=
      autoscale_approach fill up h.bounded fun _ => ⟨full1, h.ceiling ▸ low⟩
    have raises := next.raises
    rw [h.ceiling] at raises
    exact ⟨change, u, e1, raises⟩

/-- From the middle of its bounds a pool that is full gets to either end in two ticks, while a task
settles or starts in between. -/
theorem autoscale_converges_from_middle :
    ∃ t u, applyAll {} ⟨.running, 2, 6, 4, 4, []⟩
        [.autoscale false, .recordSettled, .autoscale false] = .ok t ∧ t.desired = 2 ∧
      applyAll {} ⟨.running, 2, 6, 4, 4, []⟩
        [.autoscale true, .recordStart 0 none, .autoscale true] = .ok u ∧ u.desired = 6 := by
  obtain ⟨_, _, falls, climbs⟩ :=
    autoscale_converges (c := {}) (s := ⟨.running, 2, 6, 4, 4, []⟩) (by decide +kernel)
      (by decide +kernel) ⟨by decide, by decide, by decide⟩
  obtain ⟨t, e, _, _, floor, _⟩ :=
    falls [.autoscale false, .recordSettled, .autoscale false] (by decide)
  obtain ⟨u, e1, _, _, ceiling, _⟩ :=
    climbs (by decide) [.autoscale true, .recordStart 0 none, .autoscale true] (by decide)
      (by decide +kernel)
  exact ⟨t, u, e, floor (by decide), e1, ceiling (by decide)⟩

end PoolState

end Headroom
