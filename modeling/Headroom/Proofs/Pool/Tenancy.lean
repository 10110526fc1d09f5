import Headroom.Proofs.Pool.Fitting
import Headroom.Proofs.Sampling.Switching
import Headroom.Scenario.World

/-!
# Pools that share a snapshotter

A `Tenancy` is a snapshotter with the pools that take their leases from it. Pools join at any time,
the events of their runs interleave in any order, and samples are recorded in between. What a pool
holds is counted from its effects alone.

`Tenancy.Reached.orderly` shows that each pool holds one lease and its timers just while its run is
open and equipped, and that sampling runs just while some pool holds a lease.
-/

namespace Headroom

open Pool

/-! ## Tenants -/

/-- What a pool holds by its effects: the leases it took and did not return, and armed timers. -/
structure Holdings where
  leases : Int := 0
  timers : List PoolTimer := []
  deriving DecidableEq, Repr

/-- Carries out one effect on what a pool holds. -/
def Holdings.perform (x : Holdings) : PoolEffect → Holdings
  | .takeLease => { x with leases := x.leases + 1 }
  | .dropLease => { x with leases := x.leases - 1 }
  | .armTimer timer => { x with timers := x.timers ++ [timer] }
  | .cancelTimers => { x with timers := [] }
  | _ => x

/-- What a pool holds by its own record. -/
def Pool.holdings (p : Pool) : Holdings := ⟨p.leased.toNat, p.timers⟩

/-- Carries out one effect of a pool on the snapshotter. -/
def Snapshotter.serve (s : Snapshotter) : PoolEffect → Snapshotter
  | .takeLease => s.lease.1
  | .dropLease => s.release.1
  | _ => s

/-- A pool with its run so far and what it holds. -/
structure Tenant where
  past : List Moment := []
  present : Situation
  holdings : Holdings := {}

namespace Tenant

/-- The pool after an event. -/
def next (t : Tenant) (e : Event) : Tenant where
  past := ⟨t.present, e⟩ :: t.past
  present := t.present.next e
  holdings := (t.present.pool.respond e).effects.foldl .perform t.holdings

/-- The phase of the pool. -/
def phase (t : Tenant) : Phase := t.present.pool.phase

/-- The pool holds a lease. -/
def holds (t : Tenant) : Bool := decide (0 < t.holdings.leases)

end Tenant

/-- A snapshotter with the pools that share it. -/
structure Tenancy where
  snapshotter : Snapshotter
  tenants : List Tenant := []

namespace Tenancy

/-- An event of one pool. -/
def next (h : Tenancy) (i : Nat) (t : Tenant) (e : Event) : Tenancy where
  snapshotter := (t.present.pool.respond e).effects.foldl .serve h.snapshotter
  tenants := h.tenants.set i (t.next e)

/-- What pools on a new snapshotter can come to. Only pools take leases, and nobody starts or stops
sampling otherwise. -/
inductive Reached : Tenancy → Prop where
  | start {c pushed} : Reached { snapshotter := .new c pushed }
  | join {h c status p} :
    Reached h →
    Pool.new c h.snapshotter.config status = .ok p →
    Reached { h with tenants := h.tenants ++ [{ present := { pool := p } }] }
  | step {h i t e} :
    Reached h →
    h.tenants[i]? = some t →
    t.present.Enabled e →
    Reached (h.next i t e)
  | observe {h o} :
    Reached h →
    Reached { h with snapshotter := h.snapshotter.observe o }

/-- Who holds what. -/
structure Orderly (h : Tenancy) : Prop where
  /-- While its run is open and was equipped, a pool holds one lease and the timers it needs. -/
  active : ∀ t ∈ h.tenants, t.phase.isActive = true → equipped t.past = true →
    t.holdings = ⟨1, timersFor t.present.pool.config⟩
  /-- An idle pool holds nothing, nor does one that has ended. -/
  inactive : ∀ t ∈ h.tenants, t.phase = .idle ∨ t.phase.isTerminal = true → t.holdings = {}
  /-- A pool that was not equipped holds nothing. -/
  unequipped : ∀ t ∈ h.tenants, equipped t.past = false → t.holdings = {}
  /-- Pools keep track of what they hold. -/
  recorded : ∀ t ∈ h.tenants, t.holdings = t.present.pool.holdings
  /-- The snapshotter counts the pools that hold a lease. -/
  counted : h.snapshotter.leases = h.tenants.countP (·.holds)
  /-- Sampling runs just while a lease is out. -/
  sampling : h.snapshotter.running = true ↔ 0 < h.snapshotter.leases
  /-- An event of one pool leaves all others as they are, and does not stop sampling under any. -/
  undisturbed : ∀ (i j : Nat) t u e, h.tenants[i]? = some t → t.present.Enabled e →
    i ≠ j → h.tenants[j]? = some u → (h.next i t e).tenants[j]? = some u ∧
      (u.holds = true → (h.next i t e).snapshotter.running = true)
  /-- Once no run is open, nothing is sampled. -/
  quiet : (∀ t ∈ h.tenants, t.phase.isActive = false) →
    h.snapshotter.running = false ∧ h.snapshotter.leases = 0
  /-- While its run is open, a pool looks for ready tasks again and again, unless the call to run is
  still to arm its timers. -/
  armed : ∀ t ∈ h.tenants, t.phase.isActive = true → .begun ∉ t.present.runs →
    .maybeRun ∈ t.holdings.timers

end Tenancy

/-! ## One event -/

/-- What only the effects on timers and lease act upon is left alone by all others. -/
lemma foldl_fitting {α : Type} {f : α → PoolEffect → α}
    (h : ∀ x fx, fx.isFitting = false → f x fx = x) (effects : List PoolEffect) (x : α) :
    effects.foldl f x = (fittingEffects effects).foldl f x := by
  induction effects generalizing x with
  | nil => rfl
  | cons fx effects ih =>
    rw [List.foldl_cons, ih]
    cases fits : fx.isFitting with
    | true => rw [fittingEffects, fittingEffects, List.filter_cons_of_pos fits, List.foldl_cons]
    | false =>
      rw [h x fx fits, fittingEffects, fittingEffects,
        List.filter_cons_of_neg (ne_true_of_eq_false fits)]

/-- Other effects leave the holdings alone. -/
lemma Holdings.perform_other (x : Holdings) (fx : PoolEffect) (h : fx.isFitting = false) :
    x.perform fx = x := by
  cases fx with
  | takeLease | dropLease | armTimer | cancelTimers => cases h
  | _ => rfl

/-- Other effects leave the snapshotter alone. -/
lemma Snapshotter.serve_other (s : Snapshotter) (fx : PoolEffect) (h : fx.isFitting = false) :
    s.serve fx = s := by
  cases fx with
  | takeLease | dropLease | armTimer | cancelTimers => cases h
  | _ => rfl

/-- Armed timers are added to the holdings. -/
lemma Holdings.foldl_armTimer (timers : List PoolTimer) (x : Holdings) :
    (timers.map .armTimer).foldl perform x = { x with timers := x.timers ++ timers } := by
  induction timers generalizing x with
  | nil => rw [List.append_nil]; rfl
  | cons timer timers ih =>
    rw [List.map_cons, List.foldl_cons, ih, perform, List.append_assoc]
    rfl

/-- Arming timers leaves the snapshotter alone. -/
@[simp]
lemma Snapshotter.foldl_armTimer (timers : List PoolTimer) (s : Snapshotter) :
    (timers.map .armTimer).foldl serve s = s := by
  induction timers with
  | nil => rfl
  | cons timer timers ih => exact ih

namespace World

/-- Steps that leave the snapshotter alone do so along a list. -/
lemma foldl_snapshotter {α : Type} {f : World → α → World}
    (h : ∀ w x, (f w x).snapshotter = w.snapshotter) (xs : List α) (w : World) :
    (xs.foldl f w).snapshotter = w.snapshotter := by
  induction xs generalizing w with
  | nil => rfl
  | cons x xs ih => exact (ih (f w x)).trans (h w x)

/-- What the snapshotter asks of its surroundings does not change it. -/
@[simp]
lemma performSampling_snapshotter (w : World) (fx : SamplingEffect) :
    (w.performSampling fx).snapshotter = w.snapshotter := by
  cases fx with
  | spawnSamplers =>
    refine foldl_snapshotter ?_ _ _
    exact fun _ _ => rfl
  | cancelSamplers => rfl
  | notice => rfl

/-- An effect of a pool acts on the snapshotter as it is said to. -/
@[simp]
lemma performOne_snapshotter (w : World) (i : Nat) (fx : PoolEffect) :
    (w.performOne i fx).snapshotter = w.snapshotter.serve fx := by
  cases fx with
  | takeLease | dropLease => exact foldl_snapshotter performSampling_snapshotter _ _
  | wakeDrained =>
    refine foldl_snapshotter ?_ _ _
    exact fun _ _ => rfl
  | resolveRun outcome =>
    rw [performOne]
    split <;> rfl
  | _ => rfl

/-- A scenario carries out the effects of a pool on the snapshotter as `serve` does. -/
theorem perform_snapshotter (w : World) (i : Nat) (effects : List PoolEffect) :
    (w.perform i effects).snapshotter = effects.foldl .serve w.snapshotter := by
  induction effects generalizing w with
  | nil => rfl
  | cons fx effects ih =>
    rw [List.foldl_cons, ← w.performOne_snapshotter i fx]
    exact ih _

end World

namespace Pool

variable {p : Pool} {e : Event} {r : CheckStep}

/-- What a pool holds is read off its fittings. -/
lemma holdings_of_fits {c : PoolConfig} {closed leased : Bool} {timers : List PoolTimer}
    (h : p.fittings = (c, closed, timers, leased)) : p.holdings = ⟨leased.toNat, timers⟩ :=
  congrArg (fun fits => (⟨fits.2.2.2.toNat, fits.2.2.1⟩ : Holdings)) h

/-- A pool keeps track of what it holds, if it is equipped with empty hands. -/
lemma Refit.holdings (refit : Refit p e r)
    (h : e.equips = true → p.timers = [] ∧ p.leased = false) :
    r.effects.foldl .perform p.holdings = r.pool.holdings := by
  rw [foldl_fitting Holdings.perform_other]
  cases refit with
  | stays _ _ same calm =>
    rw [calm]
    exact (holdings_of_fits same).symm
  | equips equips _ _ fitted arms =>
    -- The timers are added to those that are armed already, so there must be none.
    obtain ⟨timers, leased⟩ := h equips
    rw [arms, List.foldl_cons, Holdings.foldl_armTimer, holdings_of_fits fitted, Pool.holdings,
      timers, leased]
    rfl
  | strips _ bare effects =>
    rw [effects, List.foldl_cons, holdings_of_fits bare, Pool.holdings]
    cases p.leased with
    | true => rfl
    | false => rfl

/-- The snapshotter lends out as many leases as before, but for the one that a pool takes or
returns. -/
lemma Refit.lends {s : Snapshotter} {n : Nat} (refit : Refit p e r)
    (h : e.equips = true → p.timers = [] ∧ p.leased = false)
    (lends : s.Lends (n + p.leased.toNat)) :
    (r.effects.foldl .serve s).Lends (n + r.pool.leased.toNat) := by
  rw [foldl_fitting Snapshotter.serve_other]
  cases refit with
  | stays _ _ same calm =>
    have leased : r.pool.leased = p.leased := congrArg (·.2.2.2) same
    rw [calm, leased]
    exact lends
  | equips equips _ _ fitted arms =>
    have leased : r.pool.leased = true := congrArg (·.2.2.2) fitted
    rw [(h equips).2] at lends
    rw [arms, List.foldl_cons, Snapshotter.foldl_armTimer, leased]
    exact lends.lease
  | strips _ bare effects =>
    have leased : r.pool.leased = false := congrArg (·.2.2.2) bare
    rw [effects, List.foldl_cons, leased]
    cases held : p.leased with
    | true =>
      rw [held] at lends
      exact lends.release
    | false =>
      rw [held] at lends
      exact lends

/-- A run is equipped with empty hands. -/
lemma Run.bare_of_equips {ms s e} (run : Run ms s) (enabled : s.Enabled e)
    (h : e.equips = true) : s.pool.timers = [] ∧ s.pool.leased = false := by
  have fits := run.fitted
  rw [(run.equips_first enabled h).2] at fits
  exact ⟨congrArg (·.2.2.1) fits, congrArg (·.2.2.2) fits⟩

/-- What a pool holds along its run. -/
lemma Run.holdings_eq {ms s} (run : Run ms s) :
    s.pool.holdings =
      if equipped ms && s.pool.phase.isActive then ⟨1, timersFor s.pool.config⟩ else {} := by
  have fits := run.fitted
  rw [run.standing.unresolved] at fits
  rw [holdings_of_fits fits]
  cases equipped ms && s.pool.phase.isActive with
  | true => rfl
  | false => rfl

end Pool

/-! ## All pools -/

namespace Tenancy

/-- Every pool keeps track of what it holds, and the snapshotter of what it lends. -/
structure Kept (h : Tenancy) : Prop where
  runs : ∀ t ∈ h.tenants, Run t.past t.present ∧ t.holdings = t.present.pool.holdings
  lends : h.snapshotter.Lends (h.tenants.countP (·.present.pool.leased))

/-- An event of one pool keeps all in order. -/
lemma Kept.next {h : Tenancy} {i : Nat} {t : Tenant} {e : Event} (k : h.Kept)
    (at1 : h.tenants[i]? = some t) (enabled : t.present.Enabled e) : (h.next i t e).Kept := by
  obtain ⟨run, holdings⟩ := k.runs t (List.mem_of_getElem? at1)
  have refit := respond_refit t.present.pool e
  have first := run.bare_of_equips enabled
  refine ⟨?_, ?_⟩
  · intro u mem
    cases List.mem_or_eq_of_mem_set mem with
    | inl mem1 => exact k.runs u mem1
    | inr same =>
      subst same
      refine ⟨run.step enabled, ?_⟩
      rw [Tenant.next, holdings]
      exact refit.holdings first
  · -- What is lent to the others stays, so the count moves with the lease of this pool alone.
    obtain ⟨others, before, after⟩ := countP_replace (·.present.pool.leased) (t.next e) at1
    have lends := k.lends
    rw [before] at lends
    rw [Tenancy.next, after]
    exact refit.lends first lends

/-- Whatever happens, what the tenants hold is kept track of. -/
lemma Reached.kept {h} (reached : Reached h) : h.Kept := by
  induction reached with
  | start => exact ⟨fun _ mem => absurd mem List.not_mem_nil, ⟨rfl, rfl⟩⟩
  | @join h c status p _ e ih =>
    obtain ⟨_, e1⟩ := new_inv e
    refine ⟨?_, ?_⟩
    · intro t mem
      cases List.mem_append.mp mem with
      | inl mem1 => exact ih.runs t mem1
      | inr mem1 =>
        cases List.mem_singleton.mp mem1
        refine ⟨.start e, ?_⟩
        subst e1
        rfl
    · rw [List.countP_append]
      subst e1
      exact ih.lends
  | step _ at1 enabled ih => exact ih.next at1 enabled
  | observe _ ih => exact ⟨ih.runs, ih.lends.observe _⟩

/-- A tenant whose run is open and equipped holds a lease and its timers. -/
lemma Kept.holds_all {h : Tenancy} {t : Tenant} (k : h.Kept) (mem : t ∈ h.tenants)
    (active : t.phase.isActive = true) (fitted : equipped t.past = true) :
    t.holdings = ⟨1, timersFor t.present.pool.config⟩ := by
  obtain ⟨run, holdings⟩ := k.runs t mem
  rw [holdings, run.holdings_eq, fitted, Bool.true_and]
  exact if_pos active

/-- Every other tenant holds nothing. -/
lemma Kept.holds_none {h : Tenancy} {t : Tenant} (k : h.Kept) (mem : t ∈ h.tenants)
    (bare : t.phase.isActive = false ∨ equipped t.past = false) : t.holdings = {} := by
  obtain ⟨run, holdings⟩ := k.runs t mem
  rw [holdings, run.holdings_eq]
  refine if_neg ?_
  intro full
  rw [Bool.and_eq_true] at full
  cases bare with
  | inl inactive => exact ne_true_of_eq_false inactive full.2
  | inr unfitted => exact ne_true_of_eq_false unfitted full.1

/-- The snapshotter lends to the pools that hold a lease. -/
lemma Kept.lends_holders {h : Tenancy} (k : h.Kept) :
    h.snapshotter.Lends (h.tenants.countP (·.holds)) := by
  have same : h.tenants.countP (·.present.pool.leased) = h.tenants.countP (·.holds) := by
    refine List.countP_congr ?_
    intro t mem
    have count : ∀ leased : Bool, decide (0 < (leased.toNat : Int)) = leased := by decide
    rw [Tenant.holds, (k.runs t mem).2, Pool.holdings, count]
  rw [← same]
  exact k.lends

/-- Each pool holds a lease and its timers just while its run is open and was equipped, and sampling
runs just while some pool holds a lease. -/
theorem Reached.orderly {h} (reached : Reached h) : h.Orderly where
  active t mem active fitted := reached.kept.holds_all mem active fitted
  inactive t mem rests := by
    refine reached.kept.holds_none mem (.inl ?_)
    cases rests with
    | inl idle => rw [idle]; rfl
    | inr terminal => exact inactive_of_terminal terminal
  unequipped t mem bare := reached.kept.holds_none mem (.inr bare)
  recorded t mem := (reached.kept.runs t mem).2
  counted := reached.kept.lends_holders.leases
  sampling := by
    have lends := reached.kept.lends_holders
    rw [lends.running, lends.leases, decide_eq_true_eq]
  undisturbed i j t u e at1 enabled other at2 := by
    have still : (h.next i t e).tenants[j]? = some u := by
      rw [next, List.getElem?_set_ne other]
      exact at2
    refine ⟨still, ?_⟩
    -- The pool is a holder after the event too, so that not all leases were returned.
    intro holds
    rw [(reached.step at1 enabled).kept.lends_holders.running, decide_eq_true_eq]
    exact List.countP_pos_iff.mpr ⟨u, List.mem_of_getElem? still, holds⟩
  quiet rests := by
    have lends := reached.kept.lends_holders
    have none : h.tenants.countP (·.holds) = 0 := by
      refine List.countP_eq_zero.mpr ?_
      intro t mem
      rw [Tenant.holds, reached.kept.holds_none mem (.inl (rests t mem))]
      decide
    rw [lends.running, lends.leases, none]
    exact ⟨rfl, rfl⟩
  armed t mem active settled := by
    have fitted := (reached.kept.runs t mem).1.equipped_of_active active settled
    rw [reached.kept.holds_all mem active fitted]
    exact List.mem_cons_of_mem _ List.mem_cons_self

/-- One of two pools goes on as the other is aborted before it is equipped. -/
theorem Reached.orderly_of_abort :
    ∃ h, Reached h ∧ h.Orderly ∧ h.snapshotter.leases = 1 ∧ h.snapshotter.running = true ∧
      h.tenants.map (·.phase) = [.running, .aborted] ∧
      h.tenants.map (fun t => equipped t.past) = [true, true] ∧
      h.tenants.map (·.holdings) = [⟨1, [.autoscale, .maybeRun]⟩, {}] := by
  obtain ⟨load⟩ := nonempty_systemInfo
  obtain ⟨c, new⟩ : ∃ c, Pool.new { loggingSecs := .zero } c {} = .ok _ :=
    ⟨{}, new_ok (by decide +kernel)⟩
  have h0 : Reached { snapshotter := .new c false } := .start
  have h1 := h0.join new
  have h2 := h1.join new
  have h3 := h2.step (i := 0) (e := .callRun) rfl trivial
  have h4 := h3.step (i := 0) (e := .equip 0) rfl rfl
  have h5 := h4.step (i := 1) (e := .callRun) rfl trivial
  have h6 := h5.step (i := 1) (e := .abort load) rfl trivial
  have h7 := h6.step (i := 1) (e := .equip 0) rfl rfl
  exact ⟨_, h7, h7.orderly, rfl, rfl, rfl, rfl, rfl⟩

end Tenancy

end Headroom
