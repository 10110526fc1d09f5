import Headroom.Proofs.Pool.Bounds

/-!
# Setting both bounds

Where the bounds would cross, setting one pushes the other along, and the desired concurrency
follows at once. So two settings one after the other go through a range that depends on which of
them comes first. `PoolState.withBounds_withBounds` says when such a range leaves no trace, and for
bounds that end up in order neither of the two does (`PoolState.setters_commute`).
-/

namespace Headroom.PoolState

/-- The bookkeeping under other bounds, with the desired concurrency brought between them. -/
def withBounds (s : PoolState) (floor ceiling : Nat) : PoolState :=
  { s with
    minConcurrency := floor
    maxConcurrency := ceiling
    desired := max floor (min s.desired ceiling) }

/-! ## One setting -/

/-- Setting the floor raises the ceiling with it where they would cross. -/
lemma setMin_eq (s : PoolState) (value : Nat) :
    s.setMin value = s.withBounds (max value 1) (max s.maxConcurrency (max value 1)) := rfl

/-- Setting the ceiling lowers the floor with it where they would cross. -/
lemma setMax_eq (s : PoolState) (value : Nat) :
    s.setMax value = s.withBounds (min s.minConcurrency (max value 1)) (max value 1) := rfl

/-- Setting the desired concurrency keeps it within the bounds. -/
lemma setDesired_eq {s t : PoolState} {value : Nat} (e : s.setDesired value = .ok t) :
    s.minConcurrency ≤ s.maxConcurrency ∧
      t = { s with desired := value }.withBounds s.minConcurrency s.maxConcurrency := by
  rw [setDesired] at e
  split at e
  · next ordered =>
    cases e
    exact ⟨ordered, rfl⟩
  · cases e

/-! ## Two settings -/

/-- A range that is passed through leaves no trace if it moves the desired concurrency no further
than the last one does. -/
lemma withBounds_withBounds (s : PoolState) {floor ceiling floor1 ceiling1 : Nat}
    (low : floor ≤ max floor1 s.desired) (high : min s.desired ceiling1 ≤ ceiling) :
    (s.withBounds floor ceiling).withBounds floor1 ceiling1 = s.withBounds floor1 ceiling1 := by
  have same : max floor1 (min (max floor (min s.desired ceiling)) ceiling1) =
      max floor1 (min s.desired ceiling1) := by
    omega
  simp only [withBounds, same]

/-- Setting the same bounds again changes nothing. -/
lemma withBounds_self (s : PoolState) {floor ceiling : Nat} (ordered : floor ≤ ceiling) :
    (s.withBounds floor ceiling).withBounds floor ceiling = s.withBounds floor ceiling := by
  have same : max floor (min (max floor (min s.desired ceiling)) ceiling) =
      max floor (min s.desired ceiling) := by
    omega
  simp only [withBounds, same]

/-- The floor first: it pushes the ceiling at most to where that is going to be. -/
lemma setMin_setMax {s : PoolState} (bd : s.Bounded) {low high : Nat}
    (ordered : max low 1 ≤ max high 1) :
    (s.setMin low).setMax high = s.withBounds (max low 1) (max high 1) := by
  have floor : min (s.setMin low).minConcurrency (max high 1) = max low 1 :=
    Nat.min_eq_left ordered
  have ceiling := bd.le_ceiling
  rw [setMax_eq, floor, setMin_eq]
  exact s.withBounds_withBounds (Nat.le_max_left _ _) (by omega)

/-- The ceiling first: it pushes the floor at most to where that is going to be. -/
lemma setMax_setMin {s : PoolState} (bd : s.Bounded) {low high : Nat}
    (ordered : max low 1 ≤ max high 1) :
    (s.setMax high).setMin low = s.withBounds (max low 1) (max high 1) := by
  have ceiling : max (s.setMax high).maxConcurrency (max low 1) = max high 1 :=
    Nat.max_eq_left ordered
  have floor := bd.floor_le
  rw [setMin_eq, ceiling, setMax_eq]
  exact s.withBounds_withBounds (by omega) (Nat.min_le_right _ _)

/-- Setting the same floor again changes nothing. -/
lemma setMin_setMin (s : PoolState) (value : Nat) :
    (s.setMin value).setMin value = s.setMin value := by
  have ceiling : max (s.setMin value).maxConcurrency (max value 1) =
      max s.maxConcurrency (max value 1) :=
    Nat.max_eq_left (Nat.le_max_right _ _)
  rw [setMin_eq (s.setMin value), ceiling, setMin_eq]
  exact s.withBounds_self (Nat.le_max_right _ _)

/-- Setting the same ceiling again changes nothing. -/
lemma setMax_setMax (s : PoolState) (value : Nat) :
    (s.setMax value).setMax value = s.setMax value := by
  have floor : min (s.setMax value).minConcurrency (max value 1) =
      min s.minConcurrency (max value 1) :=
    Nat.min_eq_left (Nat.min_le_right _ _)
  rw [setMax_eq (s.setMax value), floor, setMax_eq]
  exact s.withBounds_self (Nat.min_le_right _ _)

/-- Setting the same desired concurrency again changes nothing. -/
lemma setDesired_setDesired {s t : PoolState} {value : Nat} (e : s.setDesired value = .ok t) :
    t.setDesired value = .ok t := by
  obtain ⟨ordered, rfl⟩ := setDesired_eq e
  exact if_pos ordered

/-- In ordered bookkeeping, setting the floor and the ceiling to counts in order comes to the same
either way round: the bounds are as told, the desired concurrency is the one between them that is
closest to what it was, and all else is left alone. A setting that is repeated changes nothing. -/
theorem setters_commute {s : PoolState} (bd : s.Bounded) {low high : Nat}
    (ordered : max low 1 ≤ max high 1) :
    (s.setMin low).setMax high = s.withBounds (max low 1) (max high 1) ∧
      (s.setMax high).setMin low = s.withBounds (max low 1) (max high 1) ∧
      IsNearest (max low 1) (max high 1) s.desired
        (s.withBounds (max low 1) (max high 1)).desired ∧
      (∀ value, (s.setMin value).setMin value = s.setMin value) ∧
      (∀ value, (s.setMax value).setMax value = s.setMax value) ∧
      (∀ value, ∃ t, s.setDesired value = .ok t ∧ t.setDesired value = .ok t) := by
  refine ⟨setMin_setMax bd ordered, setMax_setMin bd ordered, ?_, s.setMin_setMin,
    s.setMax_setMax, ?_⟩
  · exact clampDesired_nearest
      (s := { s with minConcurrency := max low 1, maxConcurrency := max high 1 }) ordered
  · intro value
    obtain ⟨t, e, _⟩ := bd.setDesired value
    exact ⟨t, e, setDesired_setDesired e⟩

/-- Both new bounds lie below the old floor. The floor first lets the desired concurrency stay where
it is for a while, and the ceiling first takes floor and desired concurrency down at once. -/
theorem setters_commute_below :
    ∃ s : PoolState, s.Bounded ∧ (s.setMin 2).desired = 7 ∧ (s.setMax 3).desired = 3 ∧
      (s.setMax 3).minConcurrency = 3 ∧
      (s.setMin 2).setMax 3 = s.withBounds 2 3 ∧ (s.setMax 3).setMin 2 = s.withBounds 2 3 ∧
      (s.withBounds 2 3).desired = 3 := by
  have bd : Bounded ⟨.running, 5, 10, 7, 4, [1, 2]⟩ := ⟨by decide, by decide, by decide⟩
  have ordered : max 2 1 ≤ max 3 1 := by decide
  obtain ⟨e1, e2, _⟩ := setters_commute bd ordered
  exact ⟨_, bd, rfl, rfl, rfl, e1, e2, rfl⟩

end Headroom.PoolState
