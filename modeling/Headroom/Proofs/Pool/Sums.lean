import Headroom.Proofs.Pool.Scaling

/-!
# Sums that exceed a count

An idle tick adds a step to the desired concurrency before it applies the ceiling, and nothing keeps
the ceiling away from the largest count. So the sum of an accepted configuration can exceed a 64-bit
count (`scaling_sum_overflows`).

It takes a desired concurrency of at least `2 ^ 63`, hence a ceiling as high. Where every bound is
set below (`Op.boundsBelow`), bookkeeping stays `Low`, every operation on it comes out
(`Low.apply`), and whole runs go through with sums that fit (`scaling_sums_fit`).
-/

namespace Headroom

/-- The ratio of steps up lies in range in a configuration without a fault. -/
lemma PoolConfig.scaleUp_range {c : PoolConfig} (valid : c.fault? = none) :
    c.scaleUpStepRatio.isPositiveRatio = true := by
  have rules := c.rules_judged.none_iff.mp valid
  exact Binary64.isPositiveRatio_iff.mpr
    (rules (.ratio "scale_up_step_ratio" c.scaleUpStepRatio) (by simp [PoolConfig.rules]))

namespace PoolState

/-! ## Low bounds -/

/-- No bound is set at `limit` or above. -/
def Op.boundsBelow (limit : Nat) : Op → Bool
  | .setMin value | .setMax value => value < limit
  | _ => true

/-- Bounded, with the ceiling in the lower half of the counts. -/
structure Low (s : PoolState) : Prop extends Bounded s where
  ceiling : s.maxConcurrency < Nat.pow 2 63

/-- In a low state the sum of a tick fits. -/
lemma Low.raised_lt {s : PoolState} {c : PoolConfig} (low : s.Low)
    (up : c.scaleUpStepRatio.isPositiveRatio = true) : s.raised c < Nat.pow 2 64 :=
  PoolState.raised_lt up (Nat.lt_of_le_of_lt low.le_ceiling low.ceiling)

/-- A decision does not move the ceiling. -/
lemma Rescales.ceiling {s t : PoolState} {change : Option ScaleChange}
    (h : Rescales s change t) : t.maxConcurrency = s.maxConcurrency := by
  rw [h.frame]

/-- On low bookkeeping every decision comes out, and leaves it low. -/
lemma Low.autoscale {s : PoolState} {c : PoolConfig} (low : s.Low)
    (up : c.scaleUpStepRatio.isPositiveRatio = true) (idle : Bool) :
    ∃ change t, s.autoscale idle c = .ok (change, t) ∧ t.Low := by
  cases idle with
  | false =>
    obtain ⟨change, t, e, lowers⟩ := autoscale_lowers c low.toBounded
    exact ⟨change, t, e, low.toBounded.autoscale e, lowers.ceiling ▸ low.ceiling⟩
  | true =>
    obtain ⟨change, t, e, raises⟩ := autoscale_raises low.toBounded (low.raised_lt up)
    exact ⟨change, t, e, low.toBounded.autoscale e, raises.toRescales.ceiling ▸ low.ceiling⟩

/-- Every operation that sets no high bound comes out, and leaves low bookkeeping low. -/
lemma Low.apply {s : PoolState} {c : PoolConfig} {op : Op} (low : s.Low)
    (up : c.scaleUpStepRatio.isPositiveRatio = true)
    (below : op.boundsBelow (Nat.pow 2 63) = true) : ∃ t, s.apply c op = .ok t ∧ t.Low := by
  have one : 1 < Nat.pow 2 63 := by decide
  cases op with
  | setPhase phase => exact ⟨_, rfl, low.congr rfl rfl rfl, low.ceiling⟩
  | startAllowed now cap =>
    refine ⟨_, rfl, low.startAllowed now cap, ?_⟩
    cases cap with
    | none => exact low.ceiling
    | some limit => exact low.ceiling
  | recordStart now cap => exact ⟨_, rfl, low.congr rfl rfl rfl, low.ceiling⟩
  | recordSettled => exact ⟨_, rfl, low.congr rfl rfl rfl, low.ceiling⟩
  | autoscale idle =>
    obtain ⟨change, t, e, low1⟩ := low.autoscale up idle
    refine ⟨t, ?_, low1⟩
    rw [PoolState.apply, e]
    rfl
  | setMin value =>
    have floor := Nat.max_lt.mpr ⟨of_decide_eq_true below, one⟩
    exact ⟨_, rfl, setMin_bounded s value, Nat.max_lt.mpr ⟨low.ceiling, floor⟩⟩
  | setMax value =>
    have ceiling := Nat.max_lt.mpr ⟨of_decide_eq_true below, one⟩
    exact ⟨_, rfl, setMax_bounded low.one_le_floor value, ceiling⟩
  | setDesired value =>
    obtain ⟨t, e, bd⟩ := low.setDesired value
    obtain ⟨t1, e1, _, ceiling, _⟩ :=
      setDesired_nearest (Nat.le_trans low.floor_le low.le_ceiling) value
    rw [e1] at e
    cases e
    exact ⟨t, e1, bd, ceiling ▸ low.ceiling⟩

/-- With low bounds, operations come out and stay low. -/
lemma Low.applyAll {s : PoolState} {c : PoolConfig} {ops : List Op} (low : s.Low)
    (up : c.scaleUpStepRatio.isPositiveRatio = true)
    (below : ops.all (Op.boundsBelow (Nat.pow 2 63)) = true) :
    ∃ t, s.applyAll c ops = .ok t ∧ t.Low := by
  induction ops generalizing s with
  | nil => exact ⟨s, rfl, low⟩
  | cons op ops ih =>
    rw [List.all_cons, Bool.and_eq_true] at below
    obtain ⟨t, e, low1⟩ := low.apply up below.1
    obtain ⟨u, e1, low2⟩ := ih low1 below.2
    refine ⟨u, ?_, low2⟩
    rw [PoolState.applyAll, e]
    exact e1

/-! ## High bounds -/

/-- The one fault of a decision is a sum that is no count, of a pool that is filled. -/
lemma autoscale_error_iff {s : PoolState} {c : PoolConfig} {fault : StateFault} :
    s.autoscale true c = .error fault ↔
      fault = .countOverflow ∧ s.isFilled c = true ∧ Nat.pow 2 64 ≤ s.raised c := by
  rw [autoscale, if_pos rfl]
  refine ⟨?_, ?_⟩
  · intro e
    split at e
    · next filled =>
      split at e
      · cases e
      · next high => exact ⟨(Except.error.inj e).symm, filled, Nat.not_lt.mp high⟩
    · cases e
  · rintro ⟨rfl, filled, high⟩
    rw [if_pos filled, if_neg (Nat.not_lt.mpr high)]

/-- From a configuration without a fault whose ceiling is below `2 ^ 63`, operations that set no
bound as high go through, and the sum of an idle tick is a 64-bit count wherever they lead, so that
the tick comes out and does not lower the desired concurrency. In every state that operations with
any values lead to, the tick fails just if the pool is filled and the sum is no count, which takes a
desired concurrency of at least `2 ^ 63`. -/
theorem scaling_sums_fit {c : PoolConfig} (valid : c.fault? = none) :
    (c.maxConcurrency < Nat.pow 2 63 → ∀ ops : List Op,
      ops.all (Op.boundsBelow (Nat.pow 2 63)) = true →
      ∃ s, (new c).applyAll c ops = .ok s ∧ s.raised c ≤ Nat.pow 2 64 - 1 ∧
        ∃ change t, s.autoscale true c = .ok (change, t) ∧ s.desired ≤ t.desired) ∧
      ∀ ops s, (new c).applyAll c ops = .ok s →
        (∀ fault, s.autoscale true c = .error fault ↔
          fault = .countOverflow ∧ s.isFilled c = true ∧ Nat.pow 2 64 ≤ s.raised c) ∧
        (Nat.pow 2 64 ≤ s.raised c → Nat.pow 2 63 ≤ s.desired) := by
  have up := c.scaleUp_range valid
  refine ⟨?_, ?_⟩
  · intro ceiling ops below
    obtain ⟨s, e, low⟩ := Low.applyAll ⟨new_bounded valid, ceiling⟩ up below
    have fits := low.raised_lt up
    obtain ⟨change, t, e1, raises⟩ := autoscale_raises low.toBounded fits
    exact ⟨s, e, Nat.le_pred_of_lt fits, change, t, e1, raises.le⟩
  · intro ops s _
    refine ⟨fun _ => autoscale_error_iff, ?_⟩
    intro high
    by_contra h
    exact absurd (PoolState.raised_lt up (Nat.not_le.mp h)) (Nat.not_lt.mpr high)

/-- A pool that starts at its ceiling and, once it has a task in flight, is to double. -/
def doubling (ceiling : Nat) : PoolConfig where
  maxConcurrency := ceiling
  desiredConcurrency := some ceiling
  desiredConcurrencyRatio := 1e-20
  scaleUpStepRatio := 1

/-- At the last ceiling below `2 ^ 63` the sum is the largest count, and the tick comes out. -/
theorem scaling_sums_fit_below_half :
    ∃ s, (new (doubling (Nat.pow 2 63 - 1))).applyAll (doubling (Nat.pow 2 63 - 1))
        [.setPhase .running, .recordStart 0 none] = .ok s ∧
      s.isFilled (doubling (Nat.pow 2 63 - 1)) = true ∧
      s.raised (doubling (Nat.pow 2 63 - 1)) = Nat.pow 2 64 - 1 ∧
      ∃ change t, s.autoscale true (doubling (Nat.pow 2 63 - 1)) = .ok (change, t) := by
  obtain ⟨through, _⟩ :=
    scaling_sums_fit (c := doubling (Nat.pow 2 63 - 1)) (by decide +kernel)
  obtain ⟨s, e, _, change, t, e1, _⟩ :=
    through (by decide +kernel) [.setPhase .running, .recordStart 0 none] (by decide +kernel)
  refine ⟨s, e, ?_, ?_, change, t, e1⟩
  · obtain rfl := Except.ok.inj e
    decide +kernel
  · obtain rfl := Except.ok.inj e
    decide +kernel

/-- At a ceiling of `2 ^ 63` the sum exceeds the largest count. -/
theorem scaling_sum_overflows :
    (doubling (Nat.pow 2 63)).fault? = none ∧
      ∃ s, (new (doubling (Nat.pow 2 63))).applyAll (doubling (Nat.pow 2 63))
          [.setPhase .running, .recordStart 0 none] = .ok s ∧
        s.isFilled (doubling (Nat.pow 2 63)) = true ∧
        Nat.pow 2 64 - 1 < s.raised (doubling (Nat.pow 2 63)) ∧
        s.autoscale true (doubling (Nat.pow 2 63)) = .error .countOverflow :=
  ⟨by decide +kernel, _, rfl, by decide +kernel, by decide +kernel, by decide +kernel⟩

end PoolState

end Headroom
