import Mathlib.Tactic.Lemma
import Headroom.Config.Validation
import Headroom.Pool.State

/-!
# Bounds of the desired concurrency

`PoolState.Bounded` says that the floor is at least one and that the desired concurrency lies
between the floor and the ceiling. A configuration without a fault starts out bounded
(`new_bounded`), and every operation on the bookkeeping keeps it so: setting a bound re-establishes
the order whatever it was (`setMin_bounded`, `setMax_bounded`), while a scaling decision applies one
bound only and owes the other one to the order that held before (`Bounded.autoscale`).

The headline `applyAll_bounded` is the statement over any sequence of operations. Its only premise
is `sumsFit`: no sum on the way exceeds a 64-bit count.
-/

namespace Headroom

/-- A requirement that raises no fault holds. -/
lemma Fault.holds_of_require {holds : Bool} {option flaw}
    (e : Fault.require holds option flaw = none) : holds = true := by
  cases holds with
  | true => rfl
  | false => cases e

/-- The concurrency options of a configuration without a fault are in order. -/
lemma PoolConfig.ordered {c : PoolConfig} (e : c.fault? = none) :
    1 ≤ c.minConcurrency ∧ c.minConcurrency ≤ c.initialDesired ∧
      c.initialDesired ≤ c.maxConcurrency := by
  simp only [PoolConfig.fault?, List.findSome?_eq_none_iff, List.forall_mem_cons, id_eq] at e
  obtain ⟨e1, e2, e3, _⟩ := e
  have h1 := of_decide_eq_true (Fault.holds_of_require e1)
  have h2 := of_decide_eq_true (Fault.holds_of_require e2)
  refine ⟨h1, ?_⟩
  cases e0 : c.desiredConcurrency with
  | none =>
    rw [PoolConfig.initialDesired, e0]
    exact ⟨Nat.le_refl _, h2⟩
  | some d =>
    rw [e0] at e3
    have h3 := Fault.holds_of_require e3
    rw [Bool.and_eq_true, decide_eq_true_eq, decide_eq_true_eq] at h3
    rw [PoolConfig.initialDesired, e0]
    exact h3

/-- `x` is the value between `low` and `high` that is closest to `target`. -/
def IsNearest (low high target x : Nat) : Prop :=
  low ≤ x ∧ x ≤ high ∧
    ∀ y, low ≤ y → y ≤ high → y ≠ x →
      ((x : Int) - target).natAbs < ((y : Int) - target).natAbs

namespace PoolState

/-! ## The order of the bounds -/

/-- The floor is at least one, and the desired concurrency lies between floor and ceiling. -/
structure Bounded (s : PoolState) : Prop where
  one_le_floor : 1 ≤ s.minConcurrency
  floor_le : s.minConcurrency ≤ s.desired
  le_ceiling : s.desired ≤ s.maxConcurrency

/-- Bookkeeping with the bounds and the desired concurrency of bounded one is bounded. -/
lemma Bounded.congr {s t : PoolState} (bd : s.Bounded)
    (e1 : t.minConcurrency = s.minConcurrency) (e2 : t.maxConcurrency = s.maxConcurrency)
    (e3 : t.desired = s.desired) : t.Bounded := by
  obtain ⟨h1, h2, h3⟩ := bd
  constructor
  · rw [e1]; exact h1
  · rw [e1, e3]; exact h2
  · rw [e2, e3]; exact h3

/-- An accepted configuration starts out bounded. -/
lemma new_bounded {c : PoolConfig} (e : c.fault? = none) : (new c).Bounded := by
  obtain ⟨h1, h2, h3⟩ := PoolConfig.ordered e
  exact ⟨h1, h2, h3⟩

/-! ## Setting bounds -/

/-- Bringing the desired concurrency into ordered bounds moves it to the closest value. -/
lemma clampDesired_nearest {s : PoolState} (h : s.minConcurrency ≤ s.maxConcurrency) :
    IsNearest s.minConcurrency s.maxConcurrency s.desired s.clampDesired.desired := by
  simp only [clampDesired]
  refine ⟨by omega, by omega, ?_⟩
  intro y h1 h2 ne
  omega

/-- Clamping into bounds that are in order gives a bounded state. -/
lemma clampDesired_bounded {s : PoolState} (h1 : 1 ≤ s.minConcurrency)
    (h2 : s.minConcurrency ≤ s.maxConcurrency) : s.clampDesired.Bounded := by
  obtain ⟨low, high, _⟩ := clampDesired_nearest h2
  exact ⟨h1, low, high⟩

/-- The bounds are in order once the floor is set, whatever they were. -/
lemma setMin_bounded (s : PoolState) (value : Nat) : (s.setMin value).Bounded := by
  apply clampDesired_bounded
  · exact Nat.le_max_right _ _
  · exact Nat.le_max_right _ _

/-- Setting the floor moves the desired concurrency as little as the new bounds allow. -/
lemma setMin_nearest (s : PoolState) (value : Nat) :
    IsNearest (s.setMin value).minConcurrency (s.setMin value).maxConcurrency s.desired
      (s.setMin value).desired :=
  clampDesired_nearest
    (s := { s with
      minConcurrency := max value 1, maxConcurrency := max s.maxConcurrency (max value 1) })
    (Nat.le_max_right _ _)

/-- The bounds are in order once the ceiling is set, if the floor was at least one. -/
lemma setMax_bounded {s : PoolState} (h : 1 ≤ s.minConcurrency) (value : Nat) :
    (s.setMax value).Bounded := by
  apply clampDesired_bounded
  · exact Nat.le_min.mpr ⟨h, Nat.le_max_right _ _⟩
  · exact Nat.min_le_right _ _

/-- Setting the ceiling moves the desired concurrency as little as the new bounds allow. -/
lemma setMax_nearest (s : PoolState) (value : Nat) :
    IsNearest (s.setMax value).minConcurrency (s.setMax value).maxConcurrency s.desired
      (s.setMax value).desired :=
  clampDesired_nearest
    (s := { s with
      maxConcurrency := max value 1, minConcurrency := min s.minConcurrency (max value 1) })
    (Nat.min_le_right _ _)

/-- Within bounds in order, setting the desired concurrency succeeds: the bounds stay, and the
desired concurrency is the allowed value closest to the one asked for. -/
lemma setDesired_nearest {s : PoolState} (h : s.minConcurrency ≤ s.maxConcurrency) (value : Nat) :
    ∃ t, s.setDesired value = .ok t ∧ t.minConcurrency = s.minConcurrency ∧
      t.maxConcurrency = s.maxConcurrency ∧
      IsNearest s.minConcurrency s.maxConcurrency value t.desired := by
  refine ⟨{ s with desired := value }.clampDesired, ?_, rfl, rfl, ?_⟩
  · rw [setDesired, if_pos h]
  · exact clampDesired_nearest (s := { s with desired := value }) h

/-- Setting the desired concurrency succeeds, and keeps the order. -/
lemma Bounded.setDesired {s : PoolState} (bd : s.Bounded) (value : Nat) :
    ∃ t, s.setDesired value = .ok t ∧ t.Bounded := by
  obtain ⟨t, e, e1, e2, low, high, _⟩ :=
    setDesired_nearest (Nat.le_trans bd.floor_le bd.le_ceiling) value
  refine ⟨t, e, ?_, ?_, ?_⟩
  · rw [e1]; exact bd.one_le_floor
  · rw [e1]; exact low
  · rw [e2]; exact high

/-! ## Scaling -/

/-- Scaling down applies the floor; the ceiling holds because the desired concurrency does not grow.
-/
lemma Bounded.scaledDown {s : PoolState} (bd : s.Bounded) (c : PoolConfig) :
    { s with desired := s.scaledDown c }.Bounded := by
  obtain ⟨h1, h2, h3⟩ := bd
  refine ⟨h1, Nat.le_max_right _ _, ?_⟩
  have h4 : s.scaledDown c ≤ s.desired := Nat.max_le.mpr ⟨Nat.sub_le _ _, h2⟩
  exact Nat.le_trans h4 h3

/-- Scaling up applies the ceiling; the floor holds because the desired concurrency does not shrink.
-/
lemma Bounded.scaledUp {s : PoolState} (bd : s.Bounded) (c : PoolConfig) :
    { s with desired := min (s.raised c) s.maxConcurrency }.Bounded := by
  obtain ⟨h1, h2, h3⟩ := bd
  refine ⟨h1, ?_, Nat.min_le_right _ _⟩
  have h4 : s.desired ≤ s.raised c := Nat.le_add_right _ _
  have h5 : s.desired ≤ min (s.raised c) s.maxConcurrency := Nat.le_min.mpr ⟨h4, h3⟩
  exact Nat.le_trans h2 h5

/-- A scaling decision that comes out keeps bounded bookkeeping bounded. -/
lemma Bounded.autoscale {s t : PoolState} {idle : Bool} {c : PoolConfig} {change}
    (bd : s.Bounded) (e : s.autoscale idle c = .ok (change, t)) : t.Bounded := by
  unfold PoolState.autoscale at e
  split at e
  · split at e
    · split at e
      · cases e; exact bd.scaledUp c
      · cases e
    · cases e; exact bd
  · cases e; exact bd.scaledDown c

/-! ## Sequences of operations -/

/-- An operation on the bookkeeping of a pool. -/
inductive Op where
  | setPhase (phase : Phase)
  | startAllowed (now : Instant) (cap : Option Nat)
  | recordStart (now : Instant) (cap : Option Nat)
  | recordSettled
  | autoscale (idle : Bool)
  | setMin (value : Nat)
  | setMax (value : Nat)
  | setDesired (value : Nat)

/-- Carries out an operation. -/
def apply (c : PoolConfig) (s : PoolState) : Op → Except StateFault PoolState
  | .setPhase phase => .ok { s with phase := phase }
  | .startAllowed now cap => .ok (s.startAllowed now cap).2
  | .recordStart now cap => .ok (s.recordStart now cap)
  | .recordSettled => .ok s.recordSettled.2
  | .autoscale idle => (s.autoscale idle c).map (·.2)
  | .setMin value => .ok (s.setMin value)
  | .setMax value => .ok (s.setMax value)
  | .setDesired value => s.setDesired value

/-- Carries out operations one after the other, up to the first that is impossible. -/
def applyAll (c : PoolConfig) (s : PoolState) : List Op → Except StateFault PoolState
  | [] => .ok s
  | op :: ops => (s.apply c op).bind (applyAll c · ops)

/-- The sum that an operation computes to scale up, if it does, is a 64-bit count. -/
def sumFits (c : PoolConfig) (s : PoolState) : Op → Bool
  | .autoscale true => !s.isFilled c || s.raised c < Nat.pow 2 64
  | _ => true

/-- Every sum that is computed to scale up along the operations is a 64-bit count. -/
def sumsFit (c : PoolConfig) (s : PoolState) : List Op → Bool
  | [] => true
  | op :: ops => s.sumFits c op && (s.apply c op).toOption.all (sumsFit c · ops)

/-- Forgetting starts leaves the bounds and the desired concurrency alone. -/
lemma Bounded.startAllowed {s : PoolState} (bd : s.Bounded) (now : Instant) (cap : Option Nat) :
    (s.startAllowed now cap).2.Bounded := by
  cases cap with
  | none => exact bd
  | some limit => exact bd.congr rfl rfl rfl

/-- A tick whose sum fits comes out. -/
lemma autoscale_ok {s : PoolState} {c : PoolConfig} {idle : Bool}
    (fit : s.sumFits c (.autoscale idle) = true) : ∃ r, s.autoscale idle c = .ok r := by
  cases idle with
  | false => exact ⟨_, rfl⟩
  | true =>
    simp only [sumFits, Bool.or_eq_true, Bool.not_eq_true', decide_eq_true_eq] at fit
    simp only [PoolState.autoscale, if_true]
    split
    · next filled =>
      have fit1 : s.raised c < Nat.pow 2 64 := fit.resolve_left (ne_false_of_eq_true filled)
      rw [if_pos fit1]
      exact ⟨_, rfl⟩
    · exact ⟨_, rfl⟩

/-- One operation whose sum fits succeeds on bounded bookkeeping and keeps it bounded. -/
lemma Bounded.apply {s : PoolState} {c : PoolConfig} {op : Op} (bd : s.Bounded)
    (fit : s.sumFits c op = true) : ∃ t, s.apply c op = .ok t ∧ t.Bounded := by
  cases op with
  | setPhase phase => exact ⟨_, rfl, bd.congr rfl rfl rfl⟩
  | startAllowed now cap => exact ⟨_, rfl, bd.startAllowed now cap⟩
  | recordStart now cap => exact ⟨_, rfl, bd.congr rfl rfl rfl⟩
  | recordSettled => exact ⟨_, rfl, bd.congr rfl rfl rfl⟩
  | autoscale idle =>
    obtain ⟨⟨change, t⟩, e⟩ := autoscale_ok fit
    refine ⟨t, ?_, bd.autoscale e⟩
    rw [PoolState.apply, e]
    rfl
  | setMin value => exact ⟨_, rfl, setMin_bounded s value⟩
  | setMax value => exact ⟨_, rfl, setMax_bounded bd.one_le_floor value⟩
  | setDesired value => exact bd.setDesired value

/-- Operations whose sums fit succeed on bounded bookkeeping and keep it bounded. -/
lemma Bounded.applyAll {s : PoolState} {c : PoolConfig} {ops : List Op} (bd : s.Bounded)
    (fit : s.sumsFit c ops = true) : ∃ t, s.applyAll c ops = .ok t ∧ t.Bounded := by
  induction ops generalizing s with
  | nil => exact ⟨s, rfl, bd⟩
  | cons op ops ih =>
    rw [sumsFit, Bool.and_eq_true] at fit
    obtain ⟨t, e, bd1⟩ := bd.apply fit.1
    have fit2 := fit.2
    rw [e] at fit2
    obtain ⟨u, e1, bd2⟩ := ih bd1 fit2
    refine ⟨u, ?_, bd2⟩
    rw [PoolState.applyAll, e]
    exact e1

/-- From a configuration without a fault, operations whose sums fit reach bounded bookkeeping, and
there each setter moves its own bound as told, the opposite bound only as far as the order demands,
and the desired concurrency to the closest value between the two. -/
theorem applyAll_bounded {c : PoolConfig} (e : c.fault? = none) (ops : List Op)
    (fit : (new c).sumsFit c ops = true) :
    ∃ s, (new c).applyAll c ops = .ok s ∧ s.Bounded ∧
      (∀ value, (s.setMin value).minConcurrency = max value 1 ∧
        (s.setMin value).maxConcurrency = max s.maxConcurrency (max value 1) ∧
        IsNearest (s.setMin value).minConcurrency (s.setMin value).maxConcurrency s.desired
          (s.setMin value).desired) ∧
      (∀ value, (s.setMax value).maxConcurrency = max value 1 ∧
        (s.setMax value).minConcurrency = min s.minConcurrency (max value 1) ∧
        IsNearest (s.setMax value).minConcurrency (s.setMax value).maxConcurrency s.desired
          (s.setMax value).desired) ∧
      (∀ value, ∃ t, s.setDesired value = .ok t ∧ t.minConcurrency = s.minConcurrency ∧
        t.maxConcurrency = s.maxConcurrency ∧
        IsNearest s.minConcurrency s.maxConcurrency value t.desired) := by
  obtain ⟨s, e1, bd⟩ := (new_bounded e).applyAll fit
  refine ⟨s, e1, bd, ?_, ?_, ?_⟩
  · intro value
    exact ⟨rfl, rfl, setMin_nearest s value⟩
  · intro value
    exact ⟨rfl, rfl, setMax_nearest s value⟩
  · intro value
    exact setDesired_nearest (Nat.le_trans bd.floor_le bd.le_ceiling) value

/-- A filled pool scales up, its ceiling is pushed below its floor, its floor above its ceiling, and
an overload scales it down again. -/
theorem applyAll_bounded_of_crossing :
    ∃ s, (new { minConcurrency := 2, maxConcurrency := 5 }).applyAll
        { minConcurrency := 2, maxConcurrency := 5 }
        [.recordStart 0 none, .recordStart 0 none, .autoscale true, .setMax 1, .setMin 7,
          .setMax 9, .setDesired 12, .autoscale false] = .ok s ∧
      s.Bounded ∧ (s.setMax 3).maxConcurrency = 3 ∧ ∃ t, s.setDesired 20 = .ok t := by
  obtain ⟨s, e, bd, _, ceiling, desired⟩ :=
    applyAll_bounded (c := { minConcurrency := 2, maxConcurrency := 5 }) (by decide +kernel)
      [.recordStart 0 none, .recordStart 0 none, .autoscale true, .setMax 1, .setMin 7, .setMax 9,
        .setDesired 12, .autoscale false] (by decide +kernel)
  obtain ⟨t, e1, _⟩ := desired 20
  exact ⟨s, e, bd, (ceiling 3).1, t, e1⟩

end PoolState

end Headroom
