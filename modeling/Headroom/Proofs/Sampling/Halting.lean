import Mathlib.Data.List.Induction
import Headroom.Proofs.Pool.Tenancy
import Headroom.Proofs.Sampling.Recording

/-!
# What halts sampling

Whoever starts, stops, takes a lease or returns one acts on the same switch.
`Snapshotter.switched` says where the switch stands after any calls, those that pools make among
them (`Snapshotter.foldl_serve`). A stop halts sampling whatever leases are out. So does the return
of the last lease, even if sampling was started without one (`Snapshotter.started_halts`).
-/

namespace Headroom

/-! ## Calls -/

namespace SamplingCall

/-- The call is an explicit stop. -/
@[simp]
def isStop : SamplingCall → Bool
  | stop => true
  | _ => false

/-- The call takes a lease. -/
@[simp]
def isLease : SamplingCall → Bool
  | lease => true
  | _ => false

/-- The call returns a lease. -/
@[simp]
def isRelease : SamplingCall → Bool
  | release => true
  | _ => false

/-- The call makes sampling run. -/
@[simp]
def starts : SamplingCall → Bool
  | start | lease => true
  | _ => false

/-- The call stops sampling where so many leases are out. -/
@[simp]
def halts (leases : Nat) : SamplingCall → Bool
  | stop => true
  | release => leases ≤ 1
  | _ => false

/-- The leases that are out after the call, of so many before. -/
@[simp]
def leasesAfter (leases : Nat) : SamplingCall → Nat
  | lease => leases + 1
  | release => leases - 1
  | _ => leases

end SamplingCall

/-- The leases taken and not returned. -/
def leasesOut (calls : List SamplingCall) : Nat :=
  calls.countP (·.isLease) - calls.countP (·.isRelease)

/-- Every lease that is returned was taken before. -/
def Balanced (calls : List SamplingCall) : Prop :=
  ∀ before after, calls = before ++ .release :: after → 0 < leasesOut before

/-- The last lease was returned within a stretch of calls, and nothing started sampling again. -/
def LastReturned (before stretch : List SamplingCall) : Prop :=
  ∃ between after, stretch = between ++ .release :: after ∧ leasesOut (before ++ between) = 1 ∧
    ∀ call ∈ after, call.starts = false

/-- The calls that an effect of a pool makes on its snapshotter. -/
def PoolEffect.calls : PoolEffect → List SamplingCall
  | .takeLease => [.lease]
  | .dropLease => [.release]
  | _ => []

namespace Snapshotter

/-- Where the switch stands after some calls. -/
structure Switched (calls : List SamplingCall) (s : Snapshotter) : Prop where
  leases : s.leases = leasesOut calls
  /-- Nothing is sampled before the first start or lease. -/
  fresh : (∀ call ∈ calls, call.starts = false) → s.running = false
  /-- After a start or a lease that no stop follows, sampling goes on unless the last lease has been
  returned since. -/
  started : ∀ before call after, calls = before ++ call :: after → call.starts = true →
    (∀ call ∈ after, call.isStop = false) →
    (s.running = false ↔ LastReturned (before ++ [call]) after)
  /-- A stop halts sampling until the next start or lease, whatever leases are out. -/
  stopped : ∀ before after, calls = before ++ .stop :: after →
    (∀ call ∈ after, call.starts = false) → s.running = false

/-- An effect of a pool acts on the snapshotter by its calls alone. -/
theorem foldl_serve (s : Snapshotter) (effects : List PoolEffect) :
    effects.foldl serve s = s.obeyAll (effects.flatMap (·.calls)) := by
  induction effects generalizing s with
  | nil => rfl
  | cons fx effects ih =>
    rw [List.foldl_cons, ih, List.flatMap_cons, obeyAll, obeyAll, List.foldl_append]
    cases fx <;> rfl

/-! ## One call -/

/-- A call moves the switch and the leases by what it is, and nothing else. -/
lemma obey_switch (s : Snapshotter) (call : SamplingCall) :
    (s.obey call).switch =
      (call.starts || s.running && !call.halts s.leases, call.leasesAfter s.leases, s.config) := by
  cases call with
  | observe o =>
    rw [obey, observe_switch]
    exact congrArg (·, s.leases, s.config) (Bool.and_true s.running).symm
  | start =>
    rw [obey, start]
    split
    · next running => rw [switch, running]; rfl
    · rfl
  | stop =>
    rw [obey, stop, SamplingCall.halts, Bool.not_true, Bool.and_false]
    split
    · rfl
    · next rests => rw [switch, eq_false_of_ne_true rests]; rfl
  | lease => exact s.lease_switch
  | release =>
    rw [obey, release_switch, SamplingCall.halts, ← decide_not]
    have some : 0 < s.leases - 1 ↔ ¬ s.leases ≤ 1 := by omega
    rw [decide_eq_decide.mpr some]
    rfl

/-- After a call sampling runs if the call starts it, or if it ran and the call does not halt it. -/
lemma obey_running (s : Snapshotter) (call : SamplingCall) :
    (s.obey call).running = (call.starts || s.running && !call.halts s.leases) :=
  congrArg Prod.fst (s.obey_switch call)

/-- After a call as many leases are out as the call leaves. -/
@[simp]
lemma obey_leases (s : Snapshotter) (call : SamplingCall) :
    (s.obey call).leases = call.leasesAfter s.leases :=
  congrArg (·.2.1) (s.obey_switch call)

/-- The last of some calls comes after all others. -/
@[simp]
lemma obeyAll_concat (s : Snapshotter) (calls : List SamplingCall) (call : SamplingCall) :
    s.obeyAll (calls ++ [call]) = (s.obeyAll calls).obey call := by
  rw [obeyAll, List.foldl_append]
  rfl

end Snapshotter

/-! ## Leases -/

/-- It is enough to look at the places of the calls. -/
lemma balanced_iff {calls : List SamplingCall} :
    Balanced calls ↔ ∀ n < calls.length, calls[n]?.any (·.isRelease) = true →
      0 < leasesOut (calls.take n) := by
  refine ⟨?_, ?_⟩
  · intro balanced n lt release
    rw [List.getElem?_eq_getElem lt, Option.any_some] at release
    have e := List.take_append_drop n calls
    rw [List.drop_eq_getElem_cons lt] at e
    cases e1 : calls[n] with
    | release =>
      rw [e1] at e
      exact balanced _ _ e.symm
    | _ => rw [e1] at release; cases release
  · intro places before after e
    have here : calls[before.length]? = some .release := by
      rw [e, List.getElem?_append_right (Nat.le_refl _), Nat.sub_self]
      rfl
    have first := places before.length (List.getElem?_eq_some_iff.mp here).1 (by rw [here]; rfl)
    rw [e, List.take_left] at first
    exact first

instance (calls : List SamplingCall) : Decidable (Balanced calls) :=
  decidable_of_iff _ balanced_iff.symm

/-- Calls with balanced leases have balanced leases as far as they have come. -/
lemma Balanced.left {calls more : List SamplingCall} (balanced : Balanced (calls ++ more)) :
    Balanced calls := by
  intro before after e
  refine balanced before (after ++ more) ?_
  rw [e, List.append_assoc]
  rfl

/-- No more leases are returned than were taken. -/
lemma Balanced.returned_le {calls : List SamplingCall} (balanced : Balanced calls) :
    calls.countP (·.isRelease) ≤ calls.countP (·.isLease) := by
  induction calls using List.reverseRecOn with
  | nil => exact Nat.le_refl _
  | append_singleton calls call ih =>
    have le := ih balanced.left
    rw [List.countP_append, List.countP_append]
    cases call with
    | release =>
      have out := balanced calls [] rfl
      exact Nat.add_one_le_iff.mpr (Nat.lt_of_sub_pos out)
    | lease => exact Nat.le_add_right_of_le le
    | _ => exact le

/-- One more call changes the leases that are out by what it is. -/
lemma leasesOut_concat {calls : List SamplingCall} {call : SamplingCall}
    (balanced : Balanced (calls ++ [call])) :
    leasesOut (calls ++ [call]) = call.leasesAfter (leasesOut calls) := by
  rw [leasesOut, List.countP_append, List.countP_append]
  cases call with
  | release => exact Nat.sub_add_eq _ _ _
  | lease => exact Nat.sub_add_comm balanced.left.returned_le
  | _ => rfl

/-- A stretch with one more call. -/
lemma lastReturned_concat {before stretch : List SamplingCall} {call : SamplingCall} :
    LastReturned before (stretch ++ [call]) ↔
      (call.isRelease = true ∧ leasesOut (before ++ stretch) = 1) ∨
        (LastReturned before stretch ∧ call.starts = false) := by
  refine ⟨?_, ?_⟩
  · rintro ⟨between, after, e, last, rests⟩
    cases List.eq_nil_or_concat after with
    | inl none =>
      subst none
      obtain ⟨e1, e2⟩ := List.append_inj' e rfl
      cases e2
      subst e1
      exact .inl ⟨rfl, last⟩
    | inr some =>
      obtain ⟨after, final, e1⟩ := some
      subst e1
      rw [List.concat_eq_append] at e rests
      have e2 : stretch ++ [call] = (between ++ .release :: after) ++ [final] := by
        rw [e, List.append_assoc]
        rfl
      obtain ⟨e3, e4⟩ := List.append_inj' e2 rfl
      cases e4
      obtain ⟨rests1, rest⟩ := List.forall_mem_append.mp rests
      exact .inr ⟨⟨between, after, e3, last, rests1⟩, rest call List.mem_cons_self⟩
  · intro h
    cases h with
    | inl ends =>
      obtain ⟨release, last⟩ := ends
      cases call with
      | release => exact ⟨stretch, [], rfl, last, nofun⟩
      | _ => cases release
    | inr goes =>
      obtain ⟨⟨between, after, e, last, rests⟩, rest⟩ := goes
      refine ⟨between, after ++ [call], ?_, last, ?_⟩
      · rw [e, List.append_assoc]
        rfl
      · exact List.forall_mem_append.mpr ⟨rests, List.forall_mem_singleton.mpr rest⟩

/-! ## Along calls -/

namespace Snapshotter

variable {s : Snapshotter}

/-- The snapshotter counts the leases that are out. -/
lemma obeyAll_leases {calls : List SamplingCall} (balanced : Balanced calls)
    (none : s.leases = 0) : (s.obeyAll calls).leases = leasesOut calls := by
  induction calls using List.reverseRecOn with
  | nil => exact none
  | append_singleton calls call ih =>
    rw [obeyAll_concat, obey_leases, ih balanced.left, leasesOut_concat balanced]

/-- Nothing but a start or a lease makes sampling run. -/
lemma obeyAll_rests {calls : List SamplingCall} (rests : s.running = false)
    (calm : ∀ call ∈ calls, call.starts = false) : (s.obeyAll calls).running = false := by
  induction calls generalizing s with
  | nil => exact rests
  | cons call calls ih =>
    obtain ⟨calm1, calm2⟩ := List.forall_mem_cons.mp calm
    refine ih ?_ calm2
    rw [obey_running, calm1, rests]
    rfl

/-- Sampling that a start or a lease has set going goes on unless the last lease is returned. -/
lemma obeyAll_started {before : List SamplingCall} {call : SamplingCall}
    {stretch : List SamplingCall} (balanced : Balanced (before ++ [call] ++ stretch))
    (none : s.leases = 0) (starts : call.starts = true)
    (unstopped : ∀ call ∈ stretch, call.isStop = false) :
    (s.obeyAll (before ++ [call] ++ stretch)).running = false ↔
      LastReturned (before ++ [call]) stretch := by
  -- Along the stretch: a release halts just if the calls before it leave one lease out.
  induction stretch using List.reverseRecOn with
  | nil =>
    rw [List.append_nil, obeyAll_concat, obey_running, starts, Bool.true_or]
    refine ⟨nofun, ?_⟩
    rintro ⟨between, after, e, _⟩
    exact absurd e.symm (List.append_ne_nil_of_right_ne_nil _ nofun)
  | append_singleton stretch last ih =>
    rw [← List.append_assoc] at balanced ⊢
    obtain ⟨unstopped1, unstopped2⟩ := List.forall_mem_append.mp unstopped
    rw [obeyAll_concat, obey_running, obeyAll_leases balanced.left none, lastReturned_concat,
      ← ih balanced.left unstopped1]
    generalize (s.obeyAll (before ++ [call] ++ stretch)).running = running
    cases last with
    | release =>
      have some := balanced _ [] rfl
      generalize leasesOut (before ++ [call] ++ stretch) = out at some ⊢
      have one : out ≤ 1 ↔ out = 1 := by omega
      cases running <;> simp [one]
    | stop => cases unstopped2 _ List.mem_cons_self
    | _ => simp

/-- Sampling goes on from a start or a lease until a stop, or until the last lease is returned. -/
theorem switched (config : SnapshotterConfig) (pushed : Bool) {calls : List SamplingCall}
    (balanced : Balanced calls) : Switched calls ((new config pushed).obeyAll calls) where
  leases := obeyAll_leases balanced rfl
  fresh calm := obeyAll_rests rfl calm
  started before call after e starts unstopped := by
    have e1 : calls = before ++ [call] ++ after := by
      rw [e, List.append_assoc]
      rfl
    subst e1
    exact obeyAll_started balanced rfl starts unstopped
  stopped before after e calm := by
    subst e
    rw [obeyAll, List.foldl_append, List.foldl_cons]
    refine obeyAll_rests ?_ calm
    rw [obey_running]
    exact Bool.and_false _

/-- A stop comes while a lease is out, a second lease starts sampling again, and after an explicit
start both are returned. -/
theorem switched_of_returns :
    ∃ before after : List SamplingCall, Balanced (before ++ .start :: after) ∧
      Switched (before ++ .start :: after) ((new {} false).obeyAll (before ++ .start :: after)) ∧
      ((new {} false).obeyAll before).switch = (true, 2, {}) ∧
      ((new {} false).obeyAll (before ++ .start :: after)).switch = (false, 0, {}) := by
  let before : List SamplingCall := [.lease, .stop, .lease]
  let after : List SamplingCall := [.release, .release]
  have balanced : Balanced (before ++ .start :: after) := by decide
  exact ⟨before, after, balanced, switched {} false balanced, rfl, rfl⟩

/-- Sampling that was started without a lease ends with the lease of somebody else. -/
theorem started_halts :
    ¬ ∀ calls before after, Balanced calls → calls = before ++ .start :: after →
      (∀ call ∈ after, call.isStop = false) →
      ((new {} false).obeyAll calls).running = true := by
  intro runs
  have balanced : Balanced [.start, .lease, .release] := by decide
  cases runs _ [] _ balanced rfl (by decide)

end Snapshotter

end Headroom
