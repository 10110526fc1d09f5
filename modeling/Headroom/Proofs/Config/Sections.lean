import Headroom.Config.Toml
import Headroom.Proofs.Toml.Line

/-!
# Sections written and read back

A section is written option by option, and absent options leave no line. Read back, the lines fill
the open table with the options that are present (`ConfigOption.takes_lines`), and reading such a
table copies these options into the default section (`ConfigOption.readSection?_table`).
-/

namespace Headroom

open Toml

namespace OptionValue

/-- The value in a document. -/
def value : OptionValue → Value
  | number x => .float x
  | count n => .integer n

/-- It is not a NaN and not infinite. -/
def isFinite : OptionValue → Bool
  | number x => x.isFinite
  | count _ => true

/-- A number is written with its sign and a fraction. -/
lemma render_toList {m : Magnitude} (finite : m.isInfinite = false) (negative : Bool) :
    (Binary64.render .toml (.real negative m)).toList =
      signText negative ++ m.shortest.positional ['.', '0'] := by
  have suffix : ".0".toList = ['.', '0'] := by decide +kernel
  rw [Binary64.render, if_neg (ne_true_of_eq_false finite)]
  simp only [NumeralStyle.toml, Bool.or_true, if_true, String.toList_ofList, suffix]
  cases negative with
  | true => rfl
  | false => rfl

/-- What is written for a value reads as that value. -/
lemma readsAs_toml {v : OptionValue} (finite : v.isFinite = true) {text : String}
    (h : v.toml? = some text) : ReadsAs text.toList v.value := by
  cases v with
  | number x =>
    cases x with
    | nan => cases finite
    | real negative m =>
      cases h
      have some : m.isInfinite = false := (Bool.not_eq_true' _).mp finite
      rw [render_toList some]
      exact readsAs_numeral some negative
  | count n =>
    rw [toml?] at h
    split at h
    · next fits =>
      cases h
      rw [decimalText, String.toList_ofList]
      exact readsAs_count fits
    · cases h

/-- A value cannot be written just if it is a count that is too large. -/
lemma toml?_eq_none {v : OptionValue} : v.toml? = none ↔ ∃ n, v = .count n ∧ Nat.pow 2 63 ≤ n := by
  cases v with
  | number x => exact ⟨nofun, nofun⟩
  | count n =>
    rw [toml?]
    split
    · next fits =>
      refine ⟨nofun, ?_⟩
      rintro ⟨_, e, large⟩
      cases e
      exact absurd fits (Nat.not_lt.mpr large)
    · next large => exact ⟨fun _ => ⟨n, rfl, Nat.not_lt.mp large⟩, fun _ => rfl⟩

/-- The count that a value is. -/
def count? : OptionValue → Option Nat
  | number _ => none
  | count n => some n

/-- What is counted is a count. -/
lemma count?_eq_some_iff {v : OptionValue} {n : Nat} : v.count? = some n ↔ v = .count n := by
  cases v with
  | number _ => exact ⟨nofun, nofun⟩
  | count m => rw [count?, Option.some_inj, count.injEq]

end OptionValue

namespace ConfigOption

variable {σ : Type}

/-- The options of a section that are present, with their values. -/
def settings (options : List (ConfigOption σ)) (s : σ) : List (String × OptionValue) :=
  options.filterMap fun o => (o.value? s).map (o.name, ·)

/-- The entries that the settings make in a table. -/
def entries (options : List (ConfigOption σ)) (s : σ) : Entries :=
  (settings options s).map fun e => (e.1, .value e.2.value)

/-! ## Writing -/

/-- All numbers of a section are finite. -/
def Finite (options : List (ConfigOption σ)) (s : σ) : Prop :=
  ∀ o ∈ options, ∀ v, o.value? s = some v → v.isFinite = true

/-- Names that need no quotation marks, each used once. -/
structure WellNamed (options : List (ConfigOption σ)) : Prop where
  bare : ∀ o ∈ options, Bare o.name
  distinct : (options.map (·.name)).Nodup

/-- Fewer options keep names of their own. -/
lemma WellNamed.tail {o : ConfigOption σ} {options : List (ConfigOption σ)}
    (named : WellNamed (o :: options)) : WellNamed options :=
  ⟨fun o mem => named.bare o (List.mem_cons_of_mem _ mem),
    (List.nodup_cons.mp named.distinct).2⟩

/-- An option that is absent has no entry. -/
lemma entries_cons_none {o : ConfigOption σ} {options : List (ConfigOption σ)} {s : σ}
    (absent : o.value? s = none) : entries (o :: options) s = entries options s := by
  rw [entries, settings, List.filterMap_cons, absent]
  rfl

/-- An option that is present has the first entry. -/
lemma entries_cons_some {o : ConfigOption σ} {options : List (ConfigOption σ)} {s : σ}
    {v : OptionValue} (present : o.value? s = some v) :
    entries (o :: options) s = (o.name, .value v.value) :: entries options s := by
  rw [entries, settings, List.filterMap_cons, present]
  rfl

/-- The text of a line, cut at its equals sign. -/
lemma line_toList (name text : String) :
    (name ++ " = " ++ text ++ "\n").toList =
      name.toList ++ ' ' :: '=' :: ' ' :: (text.toList ++ ['\n']) := by
  simp

/-- The lines of a section put its entries behind the others. -/
lemma takes_lines {options : List (ConfigOption σ)} (named : WellNamed options) {s : σ}
    (finite : Finite options s) {text : String} (h : lines? options s = some text) {d : Document}
    (fresh : ∀ o ∈ options, o.name ∉ d.current.map Prod.fst) :
    Document.Takes text.toList d { d with current := d.current ++ entries options s } := by
  -- Along the options: a line that was read takes its own name away, which no later option has.
  induction options generalizing d text with
  | nil =>
    cases h
    have same : d.current ++ entries [] s = d.current := List.append_nil _
    rw [same]
    exact .refl d
  | cons o options ih =>
    obtain ⟨line, e1, h1⟩ := Option.bind_eq_some_iff.mp h
    obtain ⟨text', e2, e3⟩ := Option.map_eq_some_iff.mp h1
    subst e3
    obtain ⟨fresh1, fresh2⟩ := List.forall_mem_cons.mp fresh
    obtain ⟨finite1, finite2⟩ := List.forall_mem_cons.mp finite
    rw [String.toList_append]
    rw [line?] at e1
    cases e : o.value? s with
    | none =>
      rw [e] at e1
      cases e1
      rw [entries_cons_none e]
      exact ih named.tail finite2 e2 fresh2
    | some v =>
      rw [e] at e1
      obtain ⟨text1, e4, e5⟩ := Option.map_eq_some_iff.mp e1
      subst e5
      have reads := OptionValue.readsAs_toml (finite1 v e) e4
      have first := Document.takes_setting (named.bare o List.mem_cons_self) reads fresh1
      rw [line_toList, entries_cons_some e, List.append_cons d.current]
      refine first.append (ih named.tail finite2 e2 ?_)
      intro o' mem
      rw [List.map_append, List.mem_append, not_or]
      refine ⟨fresh2 o' mem, ?_⟩
      intro same
      have again : o.name ∈ options.map (·.name) :=
        List.mem_map.mpr ⟨o', mem, List.mem_singleton.mp same⟩
      exact (List.nodup_cons.mp named.distinct).1 again

/-- A header and the lines below it open a section and fill it. -/
lemma takes_section {options : List (ConfigOption σ)} (named : WellNamed options) {s : σ}
    (finite : Finite options s) {text name : String} (h : lines? options s = some text)
    (bare : Bare name) {d d' : Document} (closed : d.closeTable = some d')
    (fresh : name ∉ d'.root.map Prod.fst) :
    Document.Takes ('[' :: (name.toList ++ [']', '\n']) ++ text.toList) d
      { root := d'.root, current := entries options s, path := [name] } :=
  (Document.takes_header bare closed fresh).append
    (takes_lines named finite h fun _ _ => List.not_mem_nil)

/-- Behind an empty line, the next section closes the one that is open. -/
lemma takes_next {options : List (ConfigOption σ)} (named : WellNamed options) {s : σ}
    (finite : Finite options s) {text name : String} (h : lines? options s = some text)
    (bare : Bare name) {start : List Char} {d : Document} {root es : Entries} {prior : String}
    (before : Document.Takes start d { root := root, current := es, path := [prior] })
    (fresh : prior ∉ root.map Prod.fst)
    (fresh1 : name ∉ (root ++ [(prior, Item.table false false es)]).map Prod.fst) :
    Document.Takes
      (start ++ (['\n'] ++ ('[' :: (name.toList ++ [']', '\n']) ++ text.toList))) d
      { root := root ++ [(prior, .table false false es)], current := entries options s,
        path := [name] } :=
  before.append <| (Document.takes_blank _).append <|
    takes_section named finite h bare (Document.closeTable_fresh root es fresh) fresh1

/-- An option cannot be written just if it is a count that is too large. -/
lemma line?_eq_none {o : ConfigOption σ} {s : σ} :
    o.line? s = none ↔ ∃ n, o.value? s = some (.count n) ∧ Nat.pow 2 63 ≤ n := by
  rw [line?]
  cases e : o.value? s with
  | none => exact ⟨nofun, nofun⟩
  | some v =>
    rw [Option.map_eq_none_iff, OptionValue.toml?_eq_none]
    exact exists_congr fun n => by rw [Option.some_inj]

/-- A section cannot be written just if one of its options cannot. -/
lemma lines?_eq_none_iff {options : List (ConfigOption σ)} {s : σ} :
    lines? options s = none ↔ ∃ o ∈ options, o.line? s = none := by
  induction options with
  | nil => exact ⟨nofun, fun ⟨_, mem, _⟩ => absurd mem List.not_mem_nil⟩
  | cons o options ih =>
    rw [lines?, List.exists_mem_cons_iff, ← ih]
    cases o.line? s with
    | none => exact ⟨fun _ => .inl rfl, fun _ => rfl⟩
    | some line =>
      rw [Option.bind_some, Option.map_eq_none_iff]
      exact ⟨.inr, fun h => h.resolve_left nofun⟩

/-- The counts among the options of a section that are present. -/
def heldCounts (options : List (ConfigOption σ)) (s : σ) : List Nat :=
  options.filterMap fun o => (o.value? s).bind OptionValue.count?

/-- A section cannot be written just if one of its counts is too large. -/
lemma lines?_eq_none {options : List (ConfigOption σ)} {s : σ} :
    lines? options s = none ↔ ∃ n ∈ heldCounts options s, Nat.pow 2 63 ≤ n := by
  rw [lines?_eq_none_iff]
  refine ⟨?_, ?_⟩
  · rintro ⟨o, mem, unwritten⟩
    obtain ⟨n, e, large⟩ := line?_eq_none.mp unwritten
    refine ⟨n, List.mem_filterMap.mpr ⟨o, mem, ?_⟩, large⟩
    rw [e]
    rfl
  · rintro ⟨n, held, large⟩
    obtain ⟨o, mem, e⟩ := List.mem_filterMap.mp held
    obtain ⟨v, present, counted⟩ := Option.bind_eq_some_iff.mp e
    obtain rfl := OptionValue.count?_eq_some_iff.mp counted
    exact ⟨o, mem, line?_eq_none.mpr ⟨n, present, large⟩⟩

/-! ## Reading -/

/-- A count is below its bound. -/
def IsSized (o : ConfigOption σ) (s : σ) : Prop :=
  match o.slot with
  | .number _ _ => True
  | .count get _ bound => get s < bound
  | .optionalCount get _ bound => ∀ n, get s = some n → n < bound

/-- Sets an option to what it is in another section, if it is present there. -/
def copy (o : ConfigOption σ) (s target : σ) : σ :=
  match o.slot with
  | .number get set => set target (get s)
  | .count get set _ => set target (get s)
  | .optionalCount get set _ => (get s).elim target fun n => set target (some n)

/-- The table that a document has for a section. -/
def table (options : List (ConfigOption σ)) (s : σ) : List (String × Value) :=
  (settings options s).map fun e => (e.1, e.2.value)

/-- The values of the entries are the table. -/
lemma entryValues_entries (options : List (ConfigOption σ)) (s : σ) :
    Entries.entryValues (entries options s) = table options s := by
  rw [entries, table]
  induction settings options s with
  | nil => rfl
  | cons e es ih =>
    rw [List.map_cons, Entries.entryValues, ih, Entries.itemValue, List.map_cons]

/-- The first entry is found under its own key only. -/
lemma lookup?_cons (k : String) (v : Value) (es : List (String × Value)) (name : String) :
    lookup? ((k, v) :: es) name = if k == name then some v else lookup? es name := by
  rw [lookup?, List.find?_cons]
  cases k == name with
  | true => rfl
  | false => rfl

/-- A name that is no option's is not in the table. -/
lemma lookup?_absent {options : List (ConfigOption σ)} {name : String}
    (absent : name ∉ options.map (·.name)) (s : σ) : lookup? (table options s) name = none := by
  rw [lookup?, List.find?_eq_none.mpr, Option.map_none]
  intro e mem same
  obtain ⟨setting, mem1, e1⟩ := List.mem_map.mp mem
  obtain ⟨o, mem2, e2⟩ := List.mem_filterMap.mp mem1
  obtain ⟨v, _, e3⟩ := Option.map_eq_some_iff.mp e2
  subst e1 e3
  exact absent (List.mem_map.mpr ⟨o, mem2, beq_iff_eq.mp same⟩)

/-- An option is found in the table just if it is present. -/
lemma lookup?_table {options : List (ConfigOption σ)} (named : WellNamed options) (s : σ)
    {o : ConfigOption σ} (mem : o ∈ options) :
    lookup? (table options s) o.name = (o.value? s).map (·.value) := by
  -- The entry in front belongs to the first option, if that is present, and to no other.
  induction options with
  | nil => cases mem
  | cons o' options ih =>
    have other := (List.nodup_cons.mp named.distinct).1
    cases e : o'.value? s with
    | none =>
      have same : table (o' :: options) s = table options s := by
        rw [table, settings, List.filterMap_cons, e]
        rfl
      rw [same]
      cases mem with
      | head => rw [lookup?_absent other, e]; rfl
      | tail _ mem => exact ih named.tail mem
    | some v =>
      have first : table (o' :: options) s = (o'.name, v.value) :: table options s := by
        rw [table, settings, List.filterMap_cons, e]
        rfl
      rw [first, lookup?_cons]
      cases mem with
      | head => rw [beq_self_eq_true, if_pos rfl, e]; rfl
      | tail _ mem =>
        rw [if_neg]
        · exact ih named.tail mem
        · intro same
          exact other (List.mem_map.mpr ⟨o, mem, (beq_iff_eq.mp same).symm⟩)

/-- A count below its bound passes the check. -/
lemma inBounds {n bound : Nat} (lt : n < bound) :
    (decide (0 ≤ (n : Int)) && decide ((n : Int) < bound)) = true := by
  rw [decide_eq_true (Int.natCast_nonneg n), decide_eq_true (Int.ofNat_lt.mpr lt)]
  rfl

/-- An option reads back what it wrote. -/
lemma read?_copy {o : ConfigOption σ} {s : σ} {v : OptionValue} (present : o.value? s = some v)
    (sized : o.IsSized s) (target : σ) : o.read? target v.value = some (o.copy s target) := by
  obtain ⟨name, slot⟩ := o
  cases slot with
  | number get set =>
    cases present
    rfl
  | count get set bound =>
    cases present
    change (if _ then some (set target _) else none) = some (set target (get s))
    rw [if_pos (inBounds sized), Int.toNat_natCast]
  | optionalCount get set bound =>
    obtain ⟨n, e, e1⟩ := Option.map_eq_some_iff.mp present
    subst e1
    change (if _ then some (set target _) else none) = some ((get s).elim _ _)
    rw [if_pos (inBounds (sized n e)), Int.toNat_natCast, e]
    rfl

/-- An absent option is not copied. -/
lemma copy_absent {o : ConfigOption σ} {s : σ} (absent : o.value? s = none) (target : σ) :
    o.copy s target = target := by
  obtain ⟨name, slot⟩ := o
  cases slot with
  | number get set => cases absent
  | count get set bound => cases absent
  | optionalCount get set bound =>
    have none : get s = none := Option.map_eq_none_iff.mp absent
    rw [copy]
    change (get s).elim _ _ = _
    rw [none]
    rfl

/-- A table that holds what a section does is read as a copy of it. -/
lemma readNamed?_table {options : List (ConfigOption σ)} {s : σ} {es : List (String × Value)}
    (found : ∀ o ∈ options, lookup? es o.name = (o.value? s).map (·.value))
    (sized : ∀ o ∈ options, o.IsSized s) (target : σ) :
    readNamed? es options target = some (options.foldl (fun t o => o.copy s t) target) := by
  induction options generalizing target with
  | nil => rfl
  | cons o options ih =>
    obtain ⟨found1, found2⟩ := List.forall_mem_cons.mp found
    obtain ⟨sized1, sized2⟩ := List.forall_mem_cons.mp sized
    rw [readNamed?, found1, List.foldl_cons]
    cases e : o.value? s with
    | none =>
      rw [copy_absent e]
      exact ih found2 sized2 target
    | some v =>
      change (o.read? target v.value).bind _ = _
      rw [read?_copy e sized1, Option.bind_some]
      exact ih found2 sized2 _

/-- A section whose options are all of its data is read back whole. -/
lemma readSection?_table {options : List (ConfigOption σ)} (named : WellNamed options)
    {s default : σ} (sized : ∀ o ∈ options, o.IsSized s)
    (copied : options.foldl (fun t o => o.copy s t) default = s) :
    readSection? options default (some (.table (table options s))) = some s := by
  rw [readSection?, readNamed?_table (fun _ mem => lookup?_table named s mem) sized, copied]

end ConfigOption

end Headroom
