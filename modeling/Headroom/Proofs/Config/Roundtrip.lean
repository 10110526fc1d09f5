import Headroom.Proofs.Config.Limits
import Headroom.Proofs.Config.Rules
import Headroom.Proofs.Config.Sections

/-!
# Configurations written and read back

A configuration that validation accepts holds no NaN and no infinity, so its numbers have numerals
that read back and agree with themselves. A count that is too large for an integer of TOML is the
only way for writing to fail, and cannot come from a document. What is written reads back as the
same configuration (`Config.roundtrip`).
-/

namespace Headroom

open Toml

/-! ## Names -/

instance (name : String) : Decidable (Bare name) :=
  decidable_of_iff (name.toList ≠ [] ∧ name.toList.all isBareChar = true)
    ⟨fun h => ⟨h.1, List.all_eq_true.mp h.2⟩, fun h => ⟨h.some, List.all_eq_true.mpr h.bare⟩⟩

/-- The options of the pool have bare names of their own. -/
lemma PoolConfig.wellNamed : ConfigOption.WellNamed PoolConfig.options :=
  ⟨by decide +kernel, by decide +kernel⟩

/-- The options of the snapshotter have bare names of their own. -/
lemma SnapshotterConfig.wellNamed : ConfigOption.WellNamed SnapshotterConfig.options :=
  ⟨by decide +kernel, by decide +kernel⟩

/-- The options of the status have bare names of their own. -/
lemma StatusConfig.wellNamed : ConfigOption.WellNamed StatusConfig.options :=
  ⟨by decide +kernel, by decide +kernel⟩

/-! ## Copies -/

open ConfigOption

/-- The options of the pool are all of its data. -/
lemma PoolConfig.copied (s : PoolConfig) :
    PoolConfig.options.foldl (fun t o => o.copy s t) {} = s := by
  obtain ⟨min, max, desired, r1, r2, r3, i1, i2, i3, cap⟩ := s
  cases desired <;> cases cap <;> rfl

/-- The options of the snapshotter are all of its data. -/
lemma SnapshotterConfig.copied (s : SnapshotterConfig) :
    SnapshotterConfig.options.foldl (fun t o => o.copy s t) {} = s := by
  obtain ⟨i1, i2, i3, i4, millis, r1, r2, errors, i5, bytes, r3⟩ := s
  cases bytes <;> rfl

/-- The options of the status are all of its data. -/
lemma StatusConfig.copied (s : StatusConfig) :
    StatusConfig.options.foldl (fun t o => o.copy s t) {} = s := rfl

/-! ## Counts -/

/-- Counts of the pool that are below their bounds are so as options. -/
lemma PoolConfig.isSized {s : PoolConfig} (counts : ∀ n ∈ s.counts, n < Nat.pow 2 64)
    (cap : ∀ n, s.maxTasksPerMinute = some n → n < Nat.pow 2 32) :
    ∀ o ∈ PoolConfig.options, o.IsSized s := by
  rw [PoolConfig.counts, List.forall_mem_append, List.forall_mem_append] at counts
  obtain ⟨⟨both, desired⟩, _⟩ := counts
  obtain ⟨min, max⟩ := List.forall_mem_cons.mp both
  simp only [PoolConfig.options, List.forall_mem_cons]
  exact ⟨min, max _ List.mem_cons_self, fun n e => desired n (Option.mem_toList.mpr e), trivial,
    trivial, trivial, trivial, trivial, trivial, cap, List.forall_mem_nil _⟩

/-- Counts of the snapshotter that are below their bounds are so as options. -/
lemma SnapshotterConfig.isSized {s : SnapshotterConfig}
    (counts : ∀ n ∈ s.counts, n < Nat.pow 2 64) :
    ∀ o ∈ SnapshotterConfig.options, o.IsSized s := by
  rw [SnapshotterConfig.counts, List.forall_mem_append] at counts
  obtain ⟨both, bytes⟩ := counts
  obtain ⟨millis, errors⟩ := List.forall_mem_cons.mp both
  simp only [SnapshotterConfig.options, List.forall_mem_cons]
  exact ⟨trivial, trivial, trivial, trivial, millis, trivial, trivial,
    errors _ List.mem_cons_self, trivial, fun n e => bytes n (Option.mem_toList.mpr e), trivial,
    List.forall_mem_nil _⟩

/-- The status has no counts that could be too large. -/
lemma StatusConfig.isSized (s : StatusConfig) : ∀ o ∈ StatusConfig.options, o.IsSized s := by
  simp only [StatusConfig.options, List.forall_mem_cons]
  exact ⟨trivial, trivial, trivial, trivial, trivial, List.forall_mem_nil _⟩

/-- The counts among the pool's options are its counts. -/
lemma PoolConfig.heldCounts_eq (s : PoolConfig) : heldCounts PoolConfig.options s = s.counts := by
  obtain ⟨min, max, desired, r1, r2, r3, i1, i2, i3, cap⟩ := s
  cases desired <;> cases cap <;> rfl

/-- The counts among the snapshotter's options are its counts. -/
lemma SnapshotterConfig.heldCounts_eq (s : SnapshotterConfig) :
    heldCounts SnapshotterConfig.options s = s.counts := by
  obtain ⟨i1, i2, i3, i4, millis, r1, r2, errors, i5, bytes, r3⟩ := s
  cases bytes <;> rfl

/-- The status, which has no counts, can always be written. -/
lemma StatusConfig.lines?_ne_none (s : StatusConfig) : lines? StatusConfig.options s ≠ none := by
  rw [ne_eq, ConfigOption.lines?_eq_none]
  rintro ⟨n, held, _⟩
  cases held

/-! ## Finite numbers -/

/-- A number with an exact value is finite. -/
lemma Binary64.isFinite_of_value {x : Binary64} {q : ℚ} (h : x.value? = some q) :
    x.isFinite = true := by
  obtain ⟨_, _, rfl, finite, _⟩ := value?_eq_some h
  rw [isFinite, finite]
  rfl

/-- A finite value equals itself. -/
lemma OptionValue.same_self {v : OptionValue} (finite : v.isFinite = true) : v.same v = true := by
  cases v with
  | count n => exact beq_self_eq_true n
  | number x =>
    cases x with
    | nan => cases finite
    | real negative m =>
      have value := Binary64.value?_finite negative ((Bool.not_eq_true' _).mp finite)
      exact (Binary64.same_iff value value).mpr rfl

/-- A ratio that is accepted is finite. -/
lemma Rule.isFinite_of_ratio {option : String} {x : Binary64} (h : (ratio option x).Holds) :
    x.isFinite = true := by
  obtain ⟨_, value, _⟩ := h
  exact Binary64.isFinite_of_value value

/-- A fraction that is accepted is finite. -/
lemma Rule.isFinite_of_fraction {option : String} {x : Binary64}
    (h : (fraction option x).Holds) : x.isFinite = true := by
  obtain ⟨_, value, _⟩ := h
  exact Binary64.isFinite_of_value value

/-- An interval that is accepted is finite. -/
lemma Rule.isFinite_of_interval {x : Binary64} (h : IsInterval x) : x.isFinite = true := by
  obtain ⟨_, _, value, _⟩ := h
  exact Binary64.isFinite_of_value value

namespace ConfigOption

variable {σ : Type} {options : List (ConfigOption σ)} {s : σ} {name : String}

/-- Another number must be finite. -/
lemma Finite.number {get : σ → Binary64} {set : σ → Binary64 → σ}
    (h : (get s).isFinite = true) (rest : Finite options s) :
    Finite (⟨name, .number get set⟩ :: options) s := by
  refine List.forall_mem_cons.mpr ⟨?_, rest⟩
  intro v e
  cases e
  exact h

/-- Another count leaves the numbers finite. -/
lemma Finite.count {get : σ → Nat} {set : σ → Nat → σ} {bound : Nat}
    (rest : Finite options s) : Finite (⟨name, .count get set bound⟩ :: options) s := by
  refine List.forall_mem_cons.mpr ⟨?_, rest⟩
  intro v e
  cases e
  rfl

/-- Another optional count leaves the numbers finite. -/
lemma Finite.optionalCount {get : σ → Option Nat} {set : σ → Option Nat → σ} {bound : Nat}
    (rest : Finite options s) : Finite (⟨name, .optionalCount get set bound⟩ :: options) s := by
  refine List.forall_mem_cons.mpr ⟨?_, rest⟩
  intro v e
  obtain ⟨n, _, e1⟩ := Option.map_eq_some_iff.mp e
  subst e1
  rfl

/-- Finite numbers agree with themselves. -/
lemma agree_self (finite : Finite options s) : agree options s s = true := by
  refine List.all_eq_true.mpr ?_
  intro o mem
  cases e : o.value? s with
  | none => rfl
  | some v => exact OptionValue.same_self (finite o mem v e)

/-- No option is no number. -/
lemma Finite.nil : Finite [] s := fun _ mem => absurd mem List.not_mem_nil

end ConfigOption

/-- An accepted pool has finite numbers only. -/
lemma PoolConfig.finite {s : PoolConfig} (h : ∀ rule ∈ s.rules, rule.Holds) :
    Finite PoolConfig.options s := by
  simp only [PoolConfig.rules, List.forall_mem_cons] at h
  obtain ⟨_, _, _, h1, h2, h3, h4, h5, h6, _⟩ := h
  have logging : s.loggingSecs.isFinite = true := by
    by_cases zero : s.loggingSecs.value? = some 0
    · exact Binary64.isFinite_of_value zero
    · exact Rule.isFinite_of_interval (h6 zero)
  exact .count <| .count <| .optionalCount <| .number (Rule.isFinite_of_ratio h1) <|
    .number (Rule.isFinite_of_ratio h2) <| .number (Rule.isFinite_of_ratio h3) <|
    .number (Rule.isFinite_of_interval h4) <| .number logging <|
    .number (Rule.isFinite_of_interval h5) <| .optionalCount .nil

/-- An accepted snapshotter has finite numbers only. -/
lemma SnapshotterConfig.finite {s : SnapshotterConfig} (h : ∀ rule ∈ s.rules, rule.Holds) :
    Finite SnapshotterConfig.options s := by
  simp only [SnapshotterConfig.rules, List.forall_mem_cons] at h
  obtain ⟨h1, h2, h3, h4, h5, h6, h7, h8, _⟩ := h
  exact .number (Rule.isFinite_of_interval h1) <| .number (Rule.isFinite_of_interval h2) <|
    .number (Rule.isFinite_of_interval h3) <| .number (Rule.isFinite_of_interval h4) <| .count <|
    .number (Rule.isFinite_of_ratio h6) <| .number (Rule.isFinite_of_ratio h7) <| .count <|
    .number (Rule.isFinite_of_interval h5) <| .optionalCount <|
    .number (Rule.isFinite_of_ratio h8) .nil

/-- An accepted status has finite numbers only. -/
lemma StatusConfig.finite {s : StatusConfig} (h : ∀ rule ∈ s.rules, rule.Holds) :
    Finite StatusConfig.options s := by
  simp only [StatusConfig.rules, List.forall_mem_cons] at h
  obtain ⟨h1, h2, h3, h4, h5, _⟩ := h
  exact .number (Rule.isFinite_of_interval h1) <| .number (Rule.isFinite_of_fraction h2) <|
    .number (Rule.isFinite_of_fraction h3) <| .number (Rule.isFinite_of_fraction h4) <|
    .number (Rule.isFinite_of_fraction h5) .nil

/-! ## Whole documents -/

namespace Config

/-- The entries of the document that a configuration is written as. -/
def document (c : Config) : List (String × Value) :=
  [(poolName, .table (table PoolConfig.options c.pool)),
   (snapshotterName, .table (table SnapshotterConfig.options c.snapshotter)),
   (statusName, .table (table StatusConfig.options c.status))]

/-- The pool's section has a bare name. -/
lemma bare_poolName : Bare poolName := by decide +kernel
/-- The snapshotter's section has a bare name. -/
lemma bare_snapshotterName : Bare snapshotterName := by decide +kernel
/-- The status's section has a bare name. -/
lemma bare_statusName : Bare statusName := by decide +kernel

/-- All numbers of a configuration are finite. -/
structure Finite (c : Config) : Prop where
  pool : ConfigOption.Finite PoolConfig.options c.pool
  snapshotter : ConfigOption.Finite SnapshotterConfig.options c.snapshotter
  status : ConfigOption.Finite StatusConfig.options c.status

/-- What validation accepts holds no NaN and no infinity. -/
lemma finite_of_valid {c : Config} (valid : c.fault? = none) : c.Finite := by
  obtain ⟨both, status⟩ := Option.or_eq_none_iff.mp valid
  obtain ⟨pool, snapshotter⟩ := Option.or_eq_none_iff.mp both
  exact ⟨PoolConfig.finite (c.pool.rules_judged.none_iff.mp pool),
    SnapshotterConfig.finite (c.snapshotter.rules_judged.none_iff.mp snapshotter),
    StatusConfig.finite (c.status.rules_judged.none_iff.mp status)⟩

/-- A configuration of finite numbers equals itself. -/
lemma Finite.same_self {c : Config} (finite : c.Finite) : c.same c = true := by
  rw [same, agree_self finite.pool, agree_self finite.snapshotter, agree_self finite.status]
  rfl

/-- A text that is written consists of the three sections with their headers. -/
lemma toToml_inv {c : Config} {t : String} (h : c.toToml = .ok t) :
    ∃ pool snapshotter status, lines? PoolConfig.options c.pool = some pool ∧
      lines? SnapshotterConfig.options c.snapshotter = some snapshotter ∧
      lines? StatusConfig.options c.status = some status ∧
      "[" ++ poolName ++ "]\n" ++ pool ++ "\n[" ++ snapshotterName ++ "]\n" ++ snapshotter ++
        "\n[" ++ statusName ++ "]\n" ++ status = t := by
  rw [toToml] at h
  split at h
  · next text? written =>
    cases h
    obtain ⟨pool, e1, h1⟩ := Option.bind_eq_some_iff.mp written
    obtain ⟨snapshotter, e2, h2⟩ := Option.bind_eq_some_iff.mp h1
    obtain ⟨status, e3, e4⟩ := Option.map_eq_some_iff.mp h2
    exact ⟨pool, snapshotter, status, e1, e2, e3, e4⟩
  · cases h

/-- The text of a document, cut in front of its headers. -/
lemma text_toList (pool snapshotter status : String) :
    ("[" ++ poolName ++ "]\n" ++ pool ++ "\n[" ++ snapshotterName ++ "]\n" ++ snapshotter ++
      "\n[" ++ statusName ++ "]\n" ++ status).toList =
    '[' :: (poolName.toList ++ [']', '\n']) ++ pool.toList ++
      (['\n'] ++ ('[' :: (snapshotterName.toList ++ [']', '\n']) ++ snapshotter.toList)) ++
      (['\n'] ++ ('[' :: (statusName.toList ++ [']', '\n']) ++ status.toList)) := by
  simp

/-- What is written is read as the tables of the three sections. -/
lemma parse_toToml {c : Config} (finite : c.Finite) {t : String} (h : c.toToml = .ok t) :
    Document.parse t.toList = some c.document := by
  obtain ⟨pool, snapshotter, status, e1, e2, e3, rfl⟩ := toToml_inv h
  have fresh1 : poolName ∉ [] := List.not_mem_nil
  have fresh2 : snapshotterName ∉ [poolName] := by decide +kernel
  have fresh3 : statusName ∉ [poolName, snapshotterName] := by decide +kernel
  -- Each header closes the section before, and its name is not yet among those that are closed.
  have start : Document.closeTable {} = some {} := rfl
  have takes1 := takes_section PoolConfig.wellNamed finite.pool e1 bare_poolName start fresh1
  have takes2 := takes_next SnapshotterConfig.wellNamed finite.snapshotter e2
    bare_snapshotterName takes1 fresh1 fresh2
  have takes3 := takes_next StatusConfig.wellNamed finite.status e3 bare_statusName
    takes2 fresh2 fresh3
  rw [text_toList, Document.parse_of_takes ?_ takes3]
  · refine (congrArg (Option.map _) (Document.closeTable_fresh _ _ fresh3)).trans ?_
    simp only [Option.map_some, List.cons_append, List.nil_append, Entries.entryValues,
      Entries.itemValue, entryValues_entries, document]
  · intro rest e
    exact absurd (List.cons.inj e).1 (by decide)

/-- The document of a configuration is read as that configuration. -/
lemma ofEntries?_document {c : Config} (sized : c.Sized) : ofEntries? c.document = some c := by
  obtain ⟨pool, snapshotter⟩ := List.forall_mem_append.mp sized.counts
  have read1 : readSection? PoolConfig.options {} (lookup? c.document poolName) = some c.pool :=
    readSection?_table PoolConfig.wellNamed (PoolConfig.isSized pool sized.cap) c.pool.copied
  have read2 : readSection? SnapshotterConfig.options {} (lookup? c.document snapshotterName) =
      some c.snapshotter :=
    readSection?_table SnapshotterConfig.wellNamed (SnapshotterConfig.isSized snapshotter)
      c.snapshotter.copied
  have read3 : readSection? StatusConfig.options {} (lookup? c.document statusName) =
      some c.status :=
    readSection?_table StatusConfig.wellNamed c.status.isSized c.status.copied
  simp only [ofEntries?, read1, read2, read3, Option.bind_some, Option.map_some]

/-- Writing fails just if a count is too large. -/
lemma toToml_error_iff {c : Config} :
    (∃ e, c.toToml = .error e) ↔ ∃ n ∈ c.counts, Nat.pow 2 63 ≤ n := by
  have either : (∃ n ∈ c.counts, Nat.pow 2 63 ≤ n) ↔ lines? PoolConfig.options c.pool = none ∨
      lines? SnapshotterConfig.options c.snapshotter = none := by
    rw [ConfigOption.lines?_eq_none, ConfigOption.lines?_eq_none, PoolConfig.heldCounts_eq,
      SnapshotterConfig.heldCounts_eq]
    simp only [counts, List.mem_append, or_and_right, exists_or]
  rw [either, toToml]
  cases lines? PoolConfig.options c.pool with
  | none => exact ⟨fun _ => .inl rfl, fun _ => ⟨_, rfl⟩⟩
  | some pool =>
    cases lines? SnapshotterConfig.options c.snapshotter with
    | none => exact ⟨fun _ => .inr rfl, fun _ => ⟨_, rfl⟩⟩
    | some snapshotter =>
      obtain ⟨status, e⟩ := Option.ne_none_iff_exists'.mp (StatusConfig.lines?_ne_none c.status)
      rw [e]
      exact ⟨nofun, nofun⟩

/-- Written and read back it is the same configuration, also by numeric equality, and that has the
same text. -/
def RoundTrips (c : Config) : Prop :=
  ∃ t, c.toToml = .ok t ∧
    ∃ c', ofToml t = .ok c' ∧ c' = c ∧ c'.same c = true ∧ c'.toToml = .ok t

/-- An accepted configuration with counts that fit survives being written and read back. -/
lemma roundTrips_of_valid {c : Config} (valid : c.fault? = none) (sized : c.Sized)
    (fits : ∀ n ∈ c.counts, n < Nat.pow 2 63) : c.RoundTrips := by
  have finite := finite_of_valid valid
  cases e : c.toToml with
  | error e1 =>
    obtain ⟨n, mem, large⟩ := toToml_error_iff.mp ⟨e1, e⟩
    exact absurd (fits n mem) (Nat.not_lt.mpr large)
  | ok t =>
    have read : ofToml t = .ok c := by
      rw [ofToml, parse_toToml finite e, Option.bind_some, ofEntries?_document sized]
      dsimp only
      rw [valid]
    exact ⟨t, e, c, read, rfl, finite.same_self, e⟩

/-- What was read from a document can be written, and reads back as the same configuration. What
was not, and is valid, can be written just if its counts are integers of a document, and then the
same holds of it. -/
theorem roundtrip :
    (∀ text c, ofToml text = .ok c → c.RoundTrips) ∧
      ∀ c : Config, c.Sized → c.fault? = none →
        ((∃ e, c.toToml = .error e) ↔ ∃ n ∈ c.counts, Nat.pow 2 63 ≤ n) ∧
          ((∀ n ∈ c.counts, n < Nat.pow 2 63) → c.RoundTrips) := by
  refine ⟨?_, ?_⟩
  · intro text c h
    obtain ⟨_, _, _, valid⟩ := ofToml_inv h
    obtain ⟨sized, fits⟩ := counts_of_ofToml h
    exact roundTrips_of_valid valid sized fits
  · intro c sized valid
    exact ⟨toToml_error_iff, roundTrips_of_valid valid sized⟩

/-- A zero keeps its sign, and the largest integer is the limit of what can be written. -/
theorem roundtrip_at_limits :
    (ofToml "[pool]\nlogging_interval_secs = -0.0\nmax_tasks_per_minute = 7" =
      .ok { pool := { loggingSecs := .real true .zero, maxTasksPerMinute := some 7 } } ∧
      RoundTrips { pool := { loggingSecs := .real true .zero, maxTasksPerMinute := some 7 } }) ∧
    RoundTrips { snapshotter := { maxMemoryBytes := some (Nat.pow 2 63 - 1) } } ∧
    ∃ e, toToml { snapshotter := { maxMemoryBytes := some (Nat.pow 2 63) } } = .error e := by
  have read : ofToml "[pool]\nlogging_interval_secs = -0.0\nmax_tasks_per_minute = 7" =
      .ok { pool := { loggingSecs := .real true .zero, maxTasksPerMinute := some 7 } } := by
    decide +kernel
  refine ⟨⟨read, roundtrip.1 _ _ read⟩, ?_, ?_⟩
  · refine (roundtrip.2 _ ⟨?_, ?_⟩ ?_).2 ?_
    · decide +kernel
    · exact nofun
    · decide +kernel
    · decide +kernel
  · refine (roundtrip.2 _ ⟨?_, ?_⟩ ?_).1.mpr ⟨Nat.pow 2 63, ?_, Nat.le_refl _⟩
    · decide +kernel
    · exact nofun
    · decide +kernel
    · decide +kernel

end Config

end Headroom
