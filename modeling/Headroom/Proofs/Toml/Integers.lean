import Mathlib.Tactic.Lemma
import Headroom.Toml.Document

/-!
# Integers of a document

TOML's integers have 64 bits, one of them for the sign. The scanner of numbers refuses larger ones,
and nothing that is done with values, tables and documents afterwards makes an integer, so whatever
a document says, no count in it is too large (`Document.parse_bounded`).
-/

namespace Headroom.Toml

/-- No integer in a value is too large, however deep. -/
inductive Value.Bounded : Value → Prop where
  | string {text} : Bounded (.string text)
  | integer {i : Int} : i < Nat.pow 2 63 → Bounded (.integer i)
  | float {x} : Bounded (.float x)
  | boolean {b} : Bounded (.boolean b)
  | moment {text} : Bounded (.moment text)
  | array {items} : (∀ v ∈ items, Bounded v) → Bounded (.array items)
  | table {entries} : (∀ e ∈ entries, Bounded e.2) → Bounded (.table entries)

/-- All integers within an item are below 2⁶³. -/
inductive Item.Bounded : Item → Prop where
  | value {v} : v.Bounded → Bounded (.value v)
  | table {implicit dotted es} :
    (∀ e ∈ es, Bounded e.2) → Bounded (.table implicit dotted es)
  | tables {elements} : (∀ es ∈ elements, ∀ e ∈ es, Bounded e.2) → Bounded (.tables elements)

/-! ## Tables -/

namespace Entries

/-- All integers within a table are below 2⁶³. -/
def Bounded (es : Entries) : Prop := ∀ e ∈ es, e.2.Bounded

/-- An empty table holds no integer. -/
lemma bounded_nil : Bounded [] := nofun

/-- The values of entries are taken one by one. -/
lemma entryValues_eq (es : Entries) :
    entryValues es = es.map fun e => (e.1, itemValue e.2) := by
  induction es with
  | nil => rw [entryValues, List.map_nil]
  | cons e es ih => rw [entryValues, ih, List.map_cons]

/-- The values of an array's tables are taken one by one. -/
lemma tableValues_eq (elements : List Entries) :
    tableValues elements = elements.map fun es => .table (entryValues es) := by
  induction elements with
  | nil => rw [tableValues, List.map_nil]
  | cons es elements ih => rw [tableValues, ih, List.map_cons]

/-- The value of a bounded item is bounded. -/
lemma itemValue_bounded {item : Item} (h : item.Bounded) : (itemValue item).Bounded := by
  induction h with
  | value h => rwa [itemValue]
  | table _ ih =>
    rw [itemValue, entryValues_eq]
    refine .table ?_
    rw [List.forall_mem_map]
    exact ih
  | tables _ ih =>
    rw [itemValue, tableValues_eq]
    refine .array ?_
    rw [List.forall_mem_map]
    intro es mem
    rw [entryValues_eq]
    refine .table ?_
    rw [List.forall_mem_map]
    exact ih es mem

variable {es : Entries} {k : String}

/-- The values of a bounded table are bounded. -/
lemma Bounded.values (h : es.Bounded) : ∀ e ∈ entryValues es, e.2.Bounded := by
  rw [entryValues_eq, List.forall_mem_map]
  exact fun e mem => itemValue_bounded (h e mem)

/-- What is found in a bounded table is bounded. -/
lemma Bounded.get {item : Item} (h : es.Bounded) (at1 : es.get? k = some item) :
    item.Bounded := by
  induction es with
  | nil => cases at1
  | cons e es ih =>
    obtain ⟨k', item'⟩ := e
    obtain ⟨h1, h2⟩ := List.forall_mem_cons.mp h
    rw [get?] at at1
    split at at1
    · cases at1
      exact h1
    · exact ih h2 at1

/-- A bounded item may be put into a bounded table. -/
lemma Bounded.set {item : Item} (h : es.Bounded) (h1 : item.Bounded) :
    (es.set k item).Bounded := by
  induction es with
  | nil => exact List.forall_mem_singleton.mpr h1
  | cons e es ih =>
    obtain ⟨k', item'⟩ := e
    obtain ⟨h2, h3⟩ := List.forall_mem_cons.mp h
    rw [Entries.set]
    split
    · exact List.forall_mem_cons.mpr ⟨h1, h3⟩
    · exact List.forall_mem_cons.mpr ⟨h2, ih h3⟩

/-- A bounded table stays so when a key goes. -/
lemma Bounded.erase (h : es.Bounded) : (es.erase k).Bounded :=
  fun e mem => h e (List.mem_filter.mp mem).1

/-- A change at the end of a path keeps what it keeps in the table there. -/
lemma Bounded.descend {α : Type} {P : α → Prop} {byDots : Bool}
    {f : Bool → Entries → Option (α × Entries)}
    (keeps : ∀ dotted es a es', Bounded es → f dotted es = some (a, es') → P a ∧ Bounded es')
    {path : List String} {dotted : Bool} {a : α} {es' : Entries} (h : es.Bounded)
    (e : es.descend byDots f path dotted = some (a, es')) : P a ∧ es'.Bounded := by
  -- Down the path, where an array of tables is entered at its last element.
  induction path generalizing dotted es es' with
  | nil => exact keeps _ _ _ _ h e
  | cons k path ih =>
    rw [Entries.descend] at e
    split at e
    · obtain ⟨⟨a', inner⟩, e1, e2⟩ := Option.map_eq_some_iff.mp e
      cases e2
      obtain ⟨found, kept⟩ := ih bounded_nil e1
      exact ⟨found, h.set (.table kept)⟩
    · cases e
    · next at1 =>
      split at e
      · cases e
      · obtain ⟨⟨a', inner⟩, e1, e2⟩ := Option.map_eq_some_iff.mp e
        cases e2
        cases h.get at1 with
        | table inside =>
          obtain ⟨found, kept⟩ := ih inside e1
          exact ⟨found, h.set (.table kept)⟩
    · next elements at1 =>
      obtain ⟨⟨a', inner⟩, e1, e2⟩ := Option.map_eq_some_iff.mp e
      cases e2
      cases h.get at1 with
      | tables inside =>
        have last : Bounded (elements.getLast?.getD []) := by
          cases e3 : elements.getLast? with
          | none => exact bounded_nil
          | some es => exact inside es (List.mem_of_getLast? e3)
        obtain ⟨found, kept⟩ := ih last e1
        refine ⟨found, h.set (.tables ?_)⟩
        refine List.forall_mem_append.mpr ⟨?_, List.forall_mem_singleton.mpr kept⟩
        exact fun es mem => inside es ((List.dropLast_sublist _).subset mem)

/-- A bounded value may be put below a path. -/
lemma Bounded.insert {path : List String} {v : Value} {es' : Entries} (h : es.Bounded)
    (h1 : v.Bounded) (e : es.insert path k v = some es') : es'.Bounded := by
  obtain ⟨⟨_, inner⟩, e1, e2⟩ := Option.map_eq_some_iff.mp e
  cases e2
  refine (h.descend (P := fun _ => True) ?_ e1).2
  intro dotted es a es' kept e3
  split at e3
  · cases e3
  · cases e3
    exact ⟨trivial, kept.set (.value h1)⟩

end Entries

/-! ## Numbers -/

/-- Whatever a scanner finds has a property. -/
def Finds {α : Type} (scan : Scan α) (P : α → Prop) : Prop :=
  ∀ ⦃s a rest⦄, scan s = some (a, rest) → P a

/-- An integer is below 2⁶³. -/
def Number.Bounded : Number → Prop
  | integer i => i < Nat.pow 2 63
  | float _ => True

/-- An integer that passes the check of its size is bounded. -/
lemma boundedInteger_bounded {negative : Bool} {magnitude : Nat} {n : Number}
    (h : boundedInteger negative magnitude = some n) : n.Bounded := by
  have pos : 0 < Nat.pow 2 63 := Nat.pow_pos Nat.two_pos
  rw [boundedInteger] at h
  rw [Number.Bounded.eq_def]
  generalize Nat.pow 2 63 = bound at pos h ⊢
  split at h
  · next range =>
    cases h
    cases negative with
    | true => simp; omega
    | false => simpa using range
  · cases h

/-- A number with a point or an exponent is no integer. -/
lemma floatOf_bounded {negative : Bool} {whole fraction : List Char} {e : Int} {n : Number}
    (h : floatOf negative whole fraction e = some n) : n.Bounded := by
  rw [floatOf] at h
  split at h
  · cases h
  · cases h
    trivial

/-- Integers in another base are bounded. -/
lemma basedInteger_bounded (base : Nat) (isDigit : Char → Bool) :
    Finds (basedInteger base isDigit) Number.Bounded := by
  intro s n rest h
  obtain ⟨_, _, h1⟩ := Option.bind_eq_some_iff.mp h
  obtain ⟨_, h2, e⟩ := Option.map_eq_some_iff.mp h1
  cases e
  exact boundedInteger_bounded h2

/-- Decimal numbers are bounded. -/
lemma decimalNumber_bounded (negative : Bool) : Finds (decimalNumber negative) Number.Bounded := by
  intro s n rest h
  obtain ⟨⟨whole, after⟩, _, h1⟩ := Option.bind_eq_some_iff.mp h
  dsimp only at h1
  split at h1
  · obtain ⟨_, _, h2⟩ := Option.bind_eq_some_iff.mp h1
    obtain ⟨_, _, h3⟩ := Option.bind_eq_some_iff.mp h2
    obtain ⟨_, h4, e⟩ := Option.map_eq_some_iff.mp h3
    cases e
    exact floatOf_bounded h4
  · split at h1
    · obtain ⟨_, _, h2⟩ := Option.bind_eq_some_iff.mp h1
      obtain ⟨_, h3, e⟩ := Option.map_eq_some_iff.mp h2
      cases e
      exact floatOf_bounded h3
    · obtain ⟨_, h2, e⟩ := Option.map_eq_some_iff.mp h1
      cases e
      exact boundedInteger_bounded h2
  · obtain ⟨_, h2, e⟩ := Option.map_eq_some_iff.mp h1
    cases e
    exact boundedInteger_bounded h2

/-- All numbers that the scanner accepts are bounded. -/
lemma number_bounded : Finds number Number.Bounded := by
  intro s n rest h
  unfold number at h
  split at h
  · next negative signed after _ =>
    split at h
    · cases h
      trivial
    · cases h
      trivial
    · split at h
      · cases h
      · exact basedInteger_bounded _ _ h
    · split at h
      · cases h
      · exact basedInteger_bounded _ _ h
    · split at h
      · cases h
      · exact basedInteger_bounded _ _ h
    · exact decimalNumber_bounded _ h

/-! ## Values -/

/-- All scalars are bounded. -/
lemma scalar_bounded : Finds scalar Value.Bounded := by
  intro s v rest h
  unfold scalar at h
  split at h
  · cases h
    exact .moment
  · obtain ⟨⟨n, _⟩, h1, e⟩ := Option.map_eq_some_iff.mp h
    cases n with
    | integer i =>
      cases e
      exact .integer (number_bounded h1)
    | float x =>
      cases e
      exact .float

/-- The items of an array are bounded if its scanner finds bounded ones only. -/
lemma arrayItems_bounded {item : Scan Value} (h : Finds item Value.Bounded) (fuel : Nat) :
    Finds (arrayItems item fuel) fun vs => ∀ v ∈ vs, v.Bounded := by
  induction fuel with
  | zero => exact nofun
  | succ fuel ih =>
    intro s vs rest h1
    rw [arrayItems] at h1
    obtain ⟨⟨v, after⟩, h2, h3⟩ := Option.bind_eq_some_iff.mp h1
    have first := h h2
    dsimp only at h3
    split at h3
    · cases h3
      exact List.forall_mem_singleton.mpr first
    · split at h3
      · cases h3
        exact List.forall_mem_singleton.mpr first
      · obtain ⟨⟨vs', _⟩, h4, e⟩ := Option.map_eq_some_iff.mp h3
        cases e
        exact List.forall_mem_cons.mpr ⟨first, ih h4⟩
    · cases h3

/-- What stands between the brackets of an array is bounded likewise. -/
lemma arrayBody_bounded {item : Scan Value} (h : Finds item Value.Bounded) :
    Finds (arrayBody item) fun vs => ∀ v ∈ vs, v.Bounded := by
  intro s vs rest h1
  unfold arrayBody at h1
  split at h1
  · cases h1
    exact nofun
  · exact arrayItems_bounded h _ h1

/-- The value behind a key is bounded. -/
lemma keyValue_bounded {item : Scan Value} (h : Finds item Value.Bounded) :
    Finds (keyValue item) fun x => x.2.Bounded := by
  intro s x rest h1
  obtain ⟨⟨ks, after⟩, _, h2⟩ := Option.bind_eq_some_iff.mp h1
  dsimp only at h2
  split at h2
  · obtain ⟨⟨v, _⟩, h3, e⟩ := Option.map_eq_some_iff.mp h2
    cases e
    exact h h3
  · cases h2

/-- Further pairs of an inline table keep it bounded. -/
lemma inlineItems_bounded {item : Scan Value} (h : Finds item Value.Bounded) {fuel : Nat}
    {es : Entries} (kept : es.Bounded) : Finds (inlineItems item fuel es) Entries.Bounded := by
  induction fuel generalizing es with
  | zero => exact nofun
  | succ fuel ih =>
    intro s es' rest h1
    rw [inlineItems] at h1
    obtain ⟨⟨⟨ks, v⟩, after⟩, h2, h3⟩ := Option.bind_eq_some_iff.mp h1
    obtain ⟨es1, h4, h5⟩ := Option.bind_eq_some_iff.mp h3
    have kept1 := kept.insert (keyValue_bounded h h2) h4
    split at h5
    · cases h5
      exact kept1
    · exact ih kept1 h5
    · cases h5

/-- An inline table is bounded. -/
lemma inlineBody_bounded {item : Scan Value} (h : Finds item Value.Bounded) :
    Finds (inlineBody item) Entries.Bounded := by
  intro s es rest h1
  unfold inlineBody at h1
  split at h1
  · cases h1
    exact Entries.bounded_nil
  · exact inlineItems_bounded h Entries.bounded_nil h1

/-- A value is bounded if those in its containers are. -/
lemma value_step {depth : Nat} (inner : ∀ d, depth = d + 1 → Finds (value d) Value.Bounded) :
    Finds (value depth) Value.Bounded := by
  intro s v rest h
  unfold value at h
  split at h
  · obtain ⟨_, _, e⟩ := Option.map_eq_some_iff.mp h
    cases e
    exact .string
  · obtain ⟨_, _, e⟩ := Option.map_eq_some_iff.mp h
    cases e
    exact .string
  · cases h
    exact .boolean
  · cases h
    exact .boolean
  · cases depth with
    | zero => cases h
    | succ depth =>
      obtain ⟨_, h1, e⟩ := Option.map_eq_some_iff.mp h
      cases e
      exact .array (arrayBody_bounded (inner depth rfl) h1)
  · cases depth with
    | zero => cases h
    | succ depth =>
      obtain ⟨_, h1, e⟩ := Option.map_eq_some_iff.mp h
      cases e
      exact .table (inlineBody_bounded (inner depth rfl) h1).values
  · exact scalar_bounded h

/-- All values are bounded, however deep they are nested. -/
lemma value_bounded (depth : Nat) : Finds (value depth) Value.Bounded := by
  induction depth with
  | zero => exact value_step nofun
  | succ depth ih =>
    refine value_step ?_
    intro d e
    cases e
    exact ih

/-! ## Documents -/

namespace Document

/-- All integers that a document has collected are below 2⁶³. -/
structure Bounded (d : Document) : Prop where
  root : d.root.Bounded
  current : d.current.Bounded

variable {d d' : Document}

/-- Closing a table keeps the document bounded. -/
lemma Bounded.closeTable (h : d.Bounded) (e : d.closeTable = some d') : d'.Bounded := by
  rw [Document.closeTable] at e
  split at e
  · cases e
    exact ⟨h.current, Entries.bounded_nil⟩
  · obtain ⟨⟨_, root⟩, e1, e2⟩ := Option.map_eq_some_iff.mp e
    cases e2
    refine ⟨(h.root.descend (P := fun _ => True) ?_ e1).2, Entries.bounded_nil⟩
    intro dotted es a es' kept e3
    refine ⟨trivial, ?_⟩
    split at e3
    · cases e3
      refine kept.set ?_
      split
      · exact .tables (List.forall_mem_singleton.mpr h.current)
      · exact .table h.current
    · next elements at1 =>
      split at e3
      · cases e3
        cases kept.get at1 with
        | tables inside =>
          exact kept.set (.tables
            (List.forall_mem_append.mpr ⟨inside, List.forall_mem_singleton.mpr h.current⟩))
      · cases e3
    · cases e3

/-- Opening a table keeps the document bounded. -/
lemma Bounded.openTable {ks : List String} (h : d.Bounded) (e : d.openTable ks = some d') :
    d'.Bounded := by
  obtain ⟨⟨inner, root⟩, e1, e2⟩ := Option.map_eq_some_iff.mp e
  cases e2
  refine And.elim (fun found kept => ⟨kept, found⟩)
    (h.root.descend (P := Entries.Bounded) ?_ e1)
  intro dotted es a es' kept e3
  split at e3
  · cases e3
    exact ⟨Entries.bounded_nil, kept⟩
  · next at1 =>
    cases e3
    cases kept.get at1 with
    | table inside => exact ⟨inside, kept.erase⟩
  · cases e3

/-- Opening an element of an array of tables keeps the document bounded. -/
lemma Bounded.openElement {ks : List String} (h : d.Bounded) (e : d.openElement ks = some d') :
    d'.Bounded := by
  obtain ⟨⟨_, root⟩, e1, e2⟩ := Option.map_eq_some_iff.mp e
  cases e2
  refine ⟨(h.root.descend (P := fun _ => True) ?_ e1).2, Entries.bounded_nil⟩
  intro dotted es a es' kept e3
  refine ⟨trivial, ?_⟩
  split at e3
  · cases e3
    exact kept
  · cases e3
    exact kept
  · cases e3

/-- Adding a bounded value keeps the document bounded. -/
lemma Bounded.addValue {ks : List String} {v : Value} (h : d.Bounded) (h1 : v.Bounded)
    (e : d.addValue ks v = some d') : d'.Bounded := by
  obtain ⟨es, e1, e2⟩ := Option.map_eq_some_iff.mp e
  cases e2
  exact ⟨h.root, h.current.insert h1 e1⟩

/-- A header keeps the document bounded. -/
lemma Bounded.header {s rest : List Char} (h : d.Bounded)
    (e : d.header s = some (d', rest)) : d'.Bounded := by
  unfold Document.header at e
  split at e
  · obtain ⟨_, _, e1⟩ := Option.bind_eq_some_iff.mp e
    dsimp only at e1
    split at e1
    · obtain ⟨_, _, e2⟩ := Option.bind_eq_some_iff.mp e1
      obtain ⟨_, e3, e4⟩ := Option.map_eq_some_iff.mp e2
      cases e4
      obtain ⟨closed, e5, e6⟩ := Option.bind_eq_some_iff.mp e3
      exact (h.closeTable e5).openElement e6
    · cases e1
  · obtain ⟨_, _, e1⟩ := Option.bind_eq_some_iff.mp e
    dsimp only at e1
    split at e1
    · obtain ⟨_, _, e2⟩ := Option.bind_eq_some_iff.mp e1
      obtain ⟨_, e3, e4⟩ := Option.map_eq_some_iff.mp e2
      cases e4
      obtain ⟨closed, e5, e6⟩ := Option.bind_eq_some_iff.mp e3
      exact (h.closeTable e5).openTable e6
    · cases e1

/-- A line keeps the document bounded. -/
lemma Bounded.line {s rest : List Char} (h : d.Bounded) (e : d.line s = some (d', rest)) :
    d'.Bounded := by
  unfold Document.line at e
  split at e
  · obtain ⟨_, _, e1⟩ := Option.map_eq_some_iff.mp e
    cases e1
    exact h
  · exact h.header e
  · split at e
    · cases e
      exact h
    · obtain ⟨⟨⟨ks, v⟩, _⟩, e1, e2⟩ := Option.bind_eq_some_iff.mp e
      obtain ⟨_, _, e3⟩ := Option.bind_eq_some_iff.mp e2
      obtain ⟨_, e4, e5⟩ := Option.map_eq_some_iff.mp e3
      cases e5
      exact h.addValue (keyValue_bounded (value_bounded _) e1) e4

/-- All lines of a text keep the document bounded. -/
lemma Bounded.lines {fuel : Nat} {s : List Char} (h : d.Bounded)
    (e : lines fuel d s = some d') : d'.Bounded := by
  induction fuel generalizing d s with
  | zero => cases e
  | succ fuel ih =>
    rw [Document.lines] at e
    split at e
    · cases e
      exact h
    · obtain ⟨⟨_, _⟩, e1, e2⟩ := Option.bind_eq_some_iff.mp e
      exact ih (h.line e1) e2

/-- No integer in a document is too large. -/
lemma parse_bounded {s : List Char} {entries : List (String × Value)}
    (h : parse s = some entries) : ∀ e ∈ entries, e.2.Bounded := by
  obtain ⟨d, e1, e2⟩ := Option.map_eq_some_iff.mp h
  obtain ⟨_, e3, e4⟩ := Option.bind_eq_some_iff.mp e1
  have empty : Bounded {} := ⟨Entries.bounded_nil, Entries.bounded_nil⟩
  rw [← e2]
  exact ((empty.lines e3).closeTable e4).root.values

end Document

end Headroom.Toml
