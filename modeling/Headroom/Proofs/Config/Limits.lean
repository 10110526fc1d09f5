import Headroom.Config.Toml
import Headroom.Proofs.Toml.Integers

/-!
# Counts of a configuration

Counts are written as integers, which in TOML are one bit shorter than counts are. A count that was
read from a document is within the bounds of both (`Config.counts_of_ofToml`): options are set from
the integers of the document, and the defaults are small.
-/

namespace Headroom

open Toml

/-- The counts of the pool's options that are present. -/
def PoolConfig.counts (s : PoolConfig) : List Nat :=
  [s.minConcurrency, s.maxConcurrency] ++ s.desiredConcurrency.toList ++
    s.maxTasksPerMinute.toList

/-- The counts of the snapshotter's options that are present. -/
def SnapshotterConfig.counts (s : SnapshotterConfig) : List Nat :=
  [s.maxBlockedMillis, s.maxClientErrors] ++ s.maxMemoryBytes.toList

namespace Config

/-- The counts of a configuration. The status has none. -/
def counts (c : Config) : List Nat := c.pool.counts ++ c.snapshotter.counts

/-- Counts have 64 bits, and the cap on task starts has 32. -/
structure Sized (c : Config) : Prop where
  counts : ∀ n ∈ c.counts, n < Nat.pow 2 64
  cap : ∀ n, c.pool.maxTasksPerMinute = some n → n < Nat.pow 2 32

end Config

/-! ## Reading section by section -/

namespace ConfigOption

variable {σ : Type} {P : σ → Prop} {options : List (ConfigOption σ)}

/-- Setting an option to a value of a document keeps a property of its section. -/
def Keeps (P : σ → Prop) (o : ConfigOption σ) : Prop :=
  ∀ ⦃s v s'⦄, P s → v.Bounded → o.read? s v = some s' → P s'

/-- An option that is a number keeps what its setter does. -/
lemma Keeps.number {name : String} {get : σ → Binary64} {set : σ → Binary64 → σ}
    (h : ∀ s x, P s → P (set s x)) : Keeps P ⟨name, .number get set⟩ := by
  intro s v s' kept _ e
  cases v with
  | float x =>
    cases e
    exact h s x kept
  | integer i =>
    cases e
    exact h s _ kept
  | _ => cases e

/-- Only integers of a document within the bound of a count are read as one. -/
lemma inBounds_inv {i : Int} (fits : i < Nat.pow 2 63) {bound : Nat} (put : Nat → σ) {s : σ}
    (e : (if 0 ≤ i && i < bound then some (put i.toNat) else none) = some s) :
    ∃ n, (n < Nat.pow 2 63 ∧ n < bound) ∧ put n = s := by
  split at e
  · next range =>
    rw [Bool.and_eq_true, decide_eq_true_eq, decide_eq_true_eq] at range
    obtain ⟨nonneg, small⟩ := range
    exact ⟨i.toNat, ⟨(Int.toNat_lt nonneg).mpr fits, (Int.toNat_lt nonneg).mpr small⟩,
      Option.some.inj e⟩
  · cases e

/-- An option that is a count keeps what its setter does within the bounds. -/
lemma Keeps.count {name : String} {get : σ → Nat} {set : σ → Nat → σ} {bound : Nat}
    (h : ∀ s n, n < Nat.pow 2 63 ∧ n < bound → P s → P (set s n)) :
    Keeps P ⟨name, .count get set bound⟩ := by
  intro s v s' kept bounded e
  cases bounded with
  | integer fits =>
    obtain ⟨n, range, rfl⟩ := inBounds_inv fits (set s ·) e
    exact h s n range kept
  | _ => cases e

/-- An optional count keeps what its setter does within the bounds. -/
lemma Keeps.optionalCount {name : String} {get : σ → Option Nat} {set : σ → Option Nat → σ}
    {bound : Nat} (h : ∀ s n, n < Nat.pow 2 63 ∧ n < bound → P s → P (set s (some n))) :
    Keeps P ⟨name, .optionalCount get set bound⟩ := by
  intro s v s' kept bounded e
  cases bounded with
  | integer fits =>
    obtain ⟨n, range, rfl⟩ := inBounds_inv fits (set s <| some ·) e
    exact h s n range kept
  | _ => cases e

/-- What is found in a bounded table is bounded. -/
lemma lookup?_bounded {entries : List (String × Value)} (h : ∀ e ∈ entries, e.2.Bounded)
    {name : String} {v : Value} (found : lookup? entries name = some v) : v.Bounded := by
  obtain ⟨e, e1, e2⟩ := Option.map_eq_some_iff.mp found
  subst e2
  exact h e (List.mem_of_find?_eq_some e1)

/-- A section that is read by names keeps what its options keep. -/
lemma readNamed?_keeps (keeps : ∀ o ∈ options, Keeps P o) {entries : List (String × Value)}
    (h : ∀ e ∈ entries, e.2.Bounded) {s s' : σ} (kept : P s)
    (e : readNamed? entries options s = some s') : P s' := by
  induction options generalizing s with
  | nil =>
    cases e
    exact kept
  | cons o options ih =>
    obtain ⟨keeps1, keeps2⟩ := List.forall_mem_cons.mp keeps
    rw [readNamed?] at e
    split at e
    · exact ih keeps2 kept e
    · next found =>
      obtain ⟨s1, e1, e2⟩ := Option.bind_eq_some_iff.mp e
      exact ih keeps2 (keeps1 kept (lookup?_bounded h found) e1) e2

/-- A section that is read in order keeps what its options keep. -/
lemma readInOrder?_keeps (keeps : ∀ o ∈ options, Keeps P o) {items : List Value}
    (h : ∀ v ∈ items, v.Bounded) {s s' : σ} (kept : P s)
    (e : readInOrder? options items s = some s') : P s' := by
  induction options generalizing items s with
  | nil =>
    cases e
    exact kept
  | cons o options ih =>
    obtain ⟨keeps1, keeps2⟩ := List.forall_mem_cons.mp keeps
    cases items with
    | nil =>
      cases e
      exact kept
    | cons v items =>
      obtain ⟨h1, h2⟩ := List.forall_mem_cons.mp h
      obtain ⟨s1, e1, e2⟩ := Option.bind_eq_some_iff.mp e
      exact ih keeps2 h2 (keeps1 kept h1 e1) e2

/-- A section keeps what its options keep, however it is read. -/
lemma readSection?_keeps (keeps : ∀ o ∈ options, Keeps P o) {entries : List (String × Value)}
    (h : ∀ e ∈ entries, e.2.Bounded) {name : String} {s s' : σ} (kept : P s)
    (e : readSection? options s (lookup? entries name) = some s') : P s' := by
  cases found : lookup? entries name with
  | none =>
    rw [found] at e
    cases e
    exact kept
  | some v =>
    rw [found] at e
    cases lookup?_bounded h found with
    | table inside => exact readNamed?_keeps keeps inside kept e
    | array inside => exact readInOrder?_keeps keeps inside kept e
    | moment =>
      cases e
      exact kept
    | _ => cases e

end ConfigOption

/-! ## Bounds of a document's counts -/

open ConfigOption

/-- The counts of the pool's options are integers of a document. -/
structure PoolConfig.Fits (s : PoolConfig) : Prop where
  min : s.minConcurrency < Nat.pow 2 63
  max : s.maxConcurrency < Nat.pow 2 63
  desired : ∀ n, s.desiredConcurrency = some n → n < Nat.pow 2 63
  cap : ∀ n, s.maxTasksPerMinute = some n → n < Nat.pow 2 63 ∧ n < Nat.pow 2 32

/-- The counts of the snapshotter's options are integers of a document. -/
structure SnapshotterConfig.Fits (s : SnapshotterConfig) : Prop where
  millis : s.maxBlockedMillis < Nat.pow 2 63
  errors : s.maxClientErrors < Nat.pow 2 63
  bytes : ∀ n, s.maxMemoryBytes = some n → n < Nat.pow 2 63

/-- Every option of the pool keeps the counts within their bounds. -/
lemma PoolConfig.keeps : ∀ o ∈ PoolConfig.options, Keeps PoolConfig.Fits o := by
  simp only [PoolConfig.options, List.forall_mem_cons]
  refine ⟨.count ?_, .count ?_, .optionalCount ?_, .number ?_, .number ?_, .number ?_,
    .number ?_, .number ?_, .number ?_, .optionalCount ?_, nofun⟩
  · exact fun s n fits h => ⟨fits.1, h.max, h.desired, h.cap⟩
  · exact fun s n fits h => ⟨h.min, fits.1, h.desired, h.cap⟩
  · exact fun s n fits h => ⟨h.min, h.max, fun _ e => Option.some.inj e ▸ fits.1, h.cap⟩
  iterate 6 exact fun s x h => ⟨h.min, h.max, h.desired, h.cap⟩
  · exact fun s n fits h => ⟨h.min, h.max, h.desired, fun _ e => Option.some.inj e ▸ fits⟩

/-- Every option of the snapshotter keeps the counts within their bounds. -/
lemma SnapshotterConfig.keeps :
    ∀ o ∈ SnapshotterConfig.options, Keeps SnapshotterConfig.Fits o := by
  simp only [SnapshotterConfig.options, List.forall_mem_cons]
  refine ⟨.number ?_, .number ?_, .number ?_, .number ?_, .count ?_, .number ?_, .number ?_,
    .count ?_, .number ?_, .optionalCount ?_, .number ?_, nofun⟩
  iterate 4 exact fun s x h => ⟨h.millis, h.errors, h.bytes⟩
  · exact fun s n fits h => ⟨fits.1, h.errors, h.bytes⟩
  iterate 2 exact fun s x h => ⟨h.millis, h.errors, h.bytes⟩
  · exact fun s n fits h => ⟨h.millis, fits.1, h.bytes⟩
  · exact fun s x h => ⟨h.millis, h.errors, h.bytes⟩
  · exact fun s n fits h => ⟨h.millis, h.errors, fun _ e => Option.some.inj e ▸ fits.1⟩
  · exact fun s x h => ⟨h.millis, h.errors, h.bytes⟩

/-- The counts of a pool that fits are integers of TOML. -/
lemma PoolConfig.Fits.counts {s : PoolConfig} (h : s.Fits) : ∀ n ∈ s.counts, n < Nat.pow 2 63 := by
  rw [PoolConfig.counts, List.forall_mem_append, List.forall_mem_append]
  refine ⟨⟨?_, ?_⟩, ?_⟩
  · exact List.forall_mem_cons.mpr ⟨h.min, List.forall_mem_singleton.mpr h.max⟩
  · exact fun n mem => h.desired n (Option.mem_toList.mp mem)
  · exact fun n mem => (h.cap n (Option.mem_toList.mp mem)).1

/-- The counts of a snapshotter that fits are integers of TOML. -/
lemma SnapshotterConfig.Fits.counts {s : SnapshotterConfig} (h : s.Fits) :
    ∀ n ∈ s.counts, n < Nat.pow 2 63 := by
  rw [SnapshotterConfig.counts, List.forall_mem_append]
  refine ⟨?_, ?_⟩
  · exact List.forall_mem_cons.mpr ⟨h.millis, List.forall_mem_singleton.mpr h.errors⟩
  · exact fun n mem => h.bytes n (Option.mem_toList.mp mem)

namespace Config

/-- What was read from a document has counts that fit into one. -/
lemma fits_of_ofEntries? {entries : List (String × Value)} (h : ∀ e ∈ entries, e.2.Bounded)
    {c : Config} (e : ofEntries? entries = some c) : c.pool.Fits ∧ c.snapshotter.Fits := by
  obtain ⟨pool, e1, e2⟩ := Option.bind_eq_some_iff.mp e
  obtain ⟨snapshotter, e3, e4⟩ := Option.bind_eq_some_iff.mp e2
  obtain ⟨status, _, rfl⟩ := Option.map_eq_some_iff.mp e4
  have pool0 : PoolConfig.Fits {} := ⟨by decide, by decide, nofun, nofun⟩
  have snapshotter0 : SnapshotterConfig.Fits {} := ⟨by decide, by decide, nofun⟩
  exact ⟨readSection?_keeps PoolConfig.keeps h pool0 e1,
    readSection?_keeps SnapshotterConfig.keeps h snapshotter0 e3⟩

/-- A configuration that is read comes from a document, and is accepted. -/
lemma ofToml_inv {text : String} {c : Config} (h : ofToml text = .ok c) :
    ∃ entries, Document.parse text.toList = some entries ∧ ofEntries? entries = some c ∧
      c.fault? = none := by
  rw [ofToml] at h
  split at h
  · cases h
  · next read =>
    obtain ⟨entries, e1, e2⟩ := Option.bind_eq_some_iff.mp read
    split at h
    · cases h
    · next valid =>
      cases h
      exact ⟨entries, e1, e2, valid⟩

/-- The counts that come from a document are within the bounds of counts and of integers. -/
lemma counts_of_ofToml {text : String} {c : Config} (h : ofToml text = .ok c) :
    c.Sized ∧ ∀ n ∈ c.counts, n < Nat.pow 2 63 := by
  obtain ⟨entries, e1, e2, _⟩ := ofToml_inv h
  obtain ⟨pool, snapshotter⟩ := fits_of_ofEntries? (Document.parse_bounded e1) e2
  have counts : ∀ n ∈ c.counts, n < Nat.pow 2 63 :=
    List.forall_mem_append.mpr ⟨pool.counts, snapshotter.counts⟩
  have less : Nat.pow 2 63 < Nat.pow 2 64 := by decide
  exact ⟨⟨fun n mem => Nat.lt_trans (counts n mem) less, fun n e => (pool.cap n e).2⟩, counts⟩

end Config

end Headroom
