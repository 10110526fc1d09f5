import Headroom.Proofs.Toml.Number
import Headroom.Toml.Document

/-!
# Lines read back

A line that consists of a bare name, an equals sign and a number sets the name in the open table
(`Document.line_setting`), and a name in brackets opens its table (`Document.line_header`).
-/

namespace Headroom.Toml

/-! ## No dates -/

/-- Where a mark follows the first characters of a text, they are not all digits. -/
def Undated (mark : Char) (s : List Char) : Prop :=
  ∀ ds rest, s = ds ++ mark :: rest → ds ≠ [] → ∃ c ∈ ds, isDigit c = false

/-- A fixed count of digits is read off the front. -/
lemma fixedDigits_inv {count : Nat} {s ds rest : List Char}
    (h : fixedDigits count s = some (ds, rest)) :
    s = ds ++ rest ∧ ds.length = count ∧ ∀ c ∈ ds, isDigit c = true := by
  induction count generalizing s ds with
  | zero =>
    rw [fixedDigits] at h
    cases h
    exact ⟨rfl, rfl, nofun⟩
  | succ count ih =>
    cases s with
    | nil => cases h
    | cons c s =>
      rw [fixedDigits] at h
      split at h
      · next digit =>
        obtain ⟨⟨ds', rest'⟩, h1, e⟩ := Option.map_eq_some_iff.mp h
        cases e
        obtain ⟨e1, e2, digits⟩ := ih h1
        subst e1
        exact ⟨rfl, congrArg (· + 1) e2, List.forall_mem_cons.mpr ⟨digit, digits⟩⟩
      · cases h

/-- The digits that are read off an undated text are not followed by the mark. -/
lemma fixedNumber_undated {mark : Char} {s rest : List Char} {count low high n : Nat}
    (undated : Undated mark s) (h : fixedNumber (count + 1) low high s = some (n, rest)) :
    exactly mark rest = none := by
  obtain ⟨⟨ds, rest'⟩, h1, h2⟩ := Option.bind_eq_some_iff.mp h
  obtain ⟨e, length, digits⟩ := fixedDigits_inv h1
  obtain rfl : rest' = rest := by
    dsimp only at h2
    split at h2
    · cases h2
      rfl
    · cases h2
  cases rest' with
  | nil => rfl
  | cons d rest' =>
    rw [exactly, if_neg]
    rintro rfl
    obtain ⟨c, mem, other⟩ := undated ds rest' e (List.ne_nil_of_length_eq_add_one length)
    cases other.symm.trans (digits c mem)

/-- What goes on neither like a date nor like a time of day is none. -/
lemma moment_none {s : List Char} (days : Undated '-' s) (hours : Undated ':' s) :
    moment s = none := by
  have date : date? s = none := by
    rw [date?]
    cases h : fixedNumber 4 0 9999 s with
    | none => rfl
    | some found => simp [fixedNumber_undated days h]
  have time : time? s = none := by
    rw [time?]
    cases h : fixedNumber 2 0 23 s with
    | none => rfl
    | some found => simp [fixedNumber_undated hours h]
  rw [moment, date, time]
  rfl

/-- Digits in front of another character than the mark are undated. -/
lemma undated_digits {mark c : Char} {ds : List Char} (digits : ∀ c ∈ ds, c.isDigit = true)
    (marked : isDigit mark = false) (stops : isDigit c = false) (other : c ≠ mark)
    (rest : List Char) : Undated mark (ds ++ c :: rest) := by
  intro front back e nonempty
  clear nonempty
  -- Along the digits: the mark stands behind all of them, and behind the one that stops them.
  induction ds generalizing front with
  | nil =>
    cases front with
    | nil => exact absurd (List.cons.inj e).1 other
    | cons d front =>
      obtain ⟨rfl, _⟩ := List.cons.inj e
      exact ⟨c, List.mem_cons_self, stops⟩
  | cons d ds ih =>
    obtain ⟨digit, digits⟩ := List.forall_mem_cons.mp digits
    cases front with
    | nil =>
      obtain ⟨rfl, _⟩ := List.cons.inj e
      cases marked.symm.trans digit
    | cons d' front =>
      obtain ⟨rfl, e1⟩ := List.cons.inj e
      obtain ⟨x, mem, h⟩ := ih digits front e1
      exact ⟨x, List.mem_cons_of_mem _ mem, h⟩

/-- A sign does not make a date. -/
lemma Undated.signText {mark : Char} {s : List Char} (undated : Undated mark s)
    (negative : Bool) : Undated mark (signText negative ++ s) := by
  cases negative with
  | false => exact undated
  | true =>
    intro front back e nonempty
    cases front with
    | nil => exact absurd rfl nonempty
    | cons d front =>
      obtain ⟨rfl, _⟩ := List.cons.inj e
      exact ⟨'-', List.mem_cons_self, rfl⟩

/-! ## Values -/

/-- A text starts with a digit or a minus sign. -/
def StartsNumber (s : List Char) : Prop := ∃ c tail, s = c :: tail ∧ (isDigit c = true ∨ c = '-')

/-- A value that starts like a number is a scalar. -/
lemma value_scalar {s : List Char} (starts : StartsNumber s) (depth : Nat) :
    value depth s = scalar s := by
  obtain ⟨c, tail, rfl, start⟩ := starts
  have other (d : Char) (no : ¬ (isDigit d = true ∨ d = '-')) : c ≠ d := by
    rintro rfl
    exact no start
  unfold value
  split
  · next e => exact absurd (List.cons.inj e).1 (other _ (by decide))
  · next e => exact absurd (List.cons.inj e).1 (other _ (by decide))
  · next e => exact absurd (List.cons.inj e).1 (other _ (by decide))
  · next e => exact absurd (List.cons.inj e).1 (other _ (by decide))
  · next e => exact absurd (List.cons.inj e).1 (other _ (by decide))
  · next e => exact absurd (List.cons.inj e).1 (other _ (by decide))
  · rfl

/-- Nothing is skipped in front of a number. -/
lemma skipBlanks_number {s : List Char} (starts : StartsNumber s) : skipBlanks s = s := by
  obtain ⟨c, tail, rfl, start⟩ := starts
  refine List.dropWhile_cons_of_neg ?_
  rw [isBlank, Bool.or_eq_true, beq_iff_eq, beq_iff_eq]
  rintro (rfl | rfl)
  · exact absurd start (by decide)
  · exact absurd start (by decide)

/-- Digits that end are no date, whatever sign stands before them. -/
lemma moment_digits {c : Char} {ds : List Char} (digits : ∀ c ∈ ds, c.isDigit = true)
    (stops : isDigit c = false) (plain : c ≠ '-' ∧ c ≠ ':') (negative : Bool) (rest : List Char) :
    moment (signText negative ++ (ds ++ c :: rest)) = none :=
  moment_none ((undated_digits digits rfl stops plain.1 rest).signText negative)
    ((undated_digits digits rfl stops plain.2 rest).signText negative)

/-- A signed whole number starts like a number. -/
lemma startsNumber_whole {ds : List Char} (w : IsWhole ds) (negative : Bool) (rest : List Char) :
    StartsNumber (signText negative ++ (ds ++ rest)) := by
  cases negative with
  | true => exact ⟨_, _, rfl, .inr rfl⟩
  | false =>
    obtain ⟨c, cs, rfl⟩ := w.exists_cons
    exact ⟨_, _, rfl, .inl (w.digits c List.mem_cons_self)⟩

/-- A number as a value. -/
def Number.toValue : Number → Value
  | integer i => .integer i
  | float x => .float x

/-- A text reads as a value up to the end of its line, after any blanks. -/
def ReadsAs (text : List Char) (v : Value) : Prop :=
  ∀ depth rest, value depth (skipBlanks (' ' :: (text ++ '\n' :: rest))) = some (v, '\n' :: rest)

/-- A text that scans as a number and is no date reads as that number. -/
lemma readsAs_number {text : List Char} {n : Number}
    (starts : ∀ rest, StartsNumber (text ++ rest))
    (undated : ∀ rest, moment (text ++ '\n' :: rest) = none)
    (scans : ∀ rest, number (text ++ '\n' :: rest) = some (n, '\n' :: rest)) :
    ReadsAs text n.toValue := by
  intro depth rest
  have blank : skipBlanks (' ' :: (text ++ '\n' :: rest)) = skipBlanks (text ++ '\n' :: rest) := rfl
  rw [blank, skipBlanks_number (starts _), value_scalar (starts _), scalar, undated, scans]
  cases n <;> rfl

/-- The digits of a count read as an integer. -/
lemma readsAs_count {n : Nat} (fits : n < Nat.pow 2 63) :
    ReadsAs (Headroom.decimalDigits n) (.integer n) := by
  have w := isWhole_decimalDigits n
  refine readsAs_number (n := .integer n) ?_ ?_ ?_
  · exact fun rest => startsNumber_whole w false rest
  · exact fun rest => moment_digits w.digits rfl (by decide) false rest
  · exact fun rest => number_count fits rest

/-- The numeral of a finite double reads as that double. -/
lemma readsAs_numeral {m : Magnitude} (finite : m.isInfinite = false) (negative : Bool) :
    ReadsAs (signText negative ++ m.shortest.positional ['.', '0'])
      (.float (.real negative m)) := by
  refine readsAs_number (n := .float (.real negative m)) ?_ ?_ ?_
  · intro rest
    obtain ⟨whole, fraction, e, w⟩ := Decimal.positional_written m.shortest_canonical
    rw [e, List.append_assoc, List.append_assoc]
    exact startsNumber_whole w.isWhole negative _
  · intro rest
    obtain ⟨whole, fraction, e, w⟩ := Decimal.positional_written m.shortest_canonical
    rw [e, List.append_assoc, List.append_assoc]
    exact moment_digits w.isWhole.digits rfl (by decide) negative _
  · intro rest
    rw [List.append_assoc]
    exact number_numeral finite negative rest

/-! ## Keys -/

/-- A name that needs no quotation marks. -/
structure Bare (name : String) : Prop where
  some : name.toList ≠ []
  bare : ∀ c ∈ name.toList, isBareChar c = true

/-- A bare name has a first character. -/
lemma Bare.exists_cons {name : String} (bare : Bare name) :
    ∃ c cs, name.toList = c :: cs ∧ isBareChar c = true := by
  obtain ⟨c, cs, e⟩ := List.exists_cons_of_ne_nil bare.some
  exact ⟨c, cs, e, bare.bare c (e ▸ List.mem_cons_self)⟩

/-- A text with a bare name in front starts with no other character. -/
lemma Bare.ne_cons {name : String} (bare : Bare name) {c : Char} (other : isBareChar c = false)
    {rest tail : List Char} : name.toList ++ rest ≠ c :: tail := by
  obtain ⟨d, cs, e, first⟩ := bare.exists_cons
  rw [e]
  intro same
  obtain ⟨rfl, _⟩ := List.cons.inj same
  cases other.symm.trans first

/-- A bare name is read as a key. -/
lemma key_bare {name : String} (bare : Bare name) {c : Char} (stops : isBareChar c = false)
    (rest : List Char) : key (name.toList ++ c :: rest) = some (name, c :: rest) := by
  have stop := ne_true_of_eq_false stops
  have taken : (name.toList ++ c :: rest).takeWhile isBareChar = name.toList := by
    rw [List.takeWhile_append_of_pos bare.bare, List.takeWhile_cons_of_neg stop, List.append_nil]
  have left : (name.toList ++ c :: rest).dropWhile isBareChar = c :: rest := by
    rw [List.dropWhile_append_of_pos bare.bare, List.dropWhile_cons_of_neg stop]
  unfold key
  split
  · next e => exact absurd e (bare.ne_cons rfl)
  · next e => exact absurd e (bare.ne_cons rfl)
  · split
    · next none => exact absurd (taken.symm.trans none) bare.some
    · rw [taken, left, String.ofList_toList]

/-- Nothing is skipped in front of a bare name. -/
lemma Bare.skipBlanks {name : String} (bare : Bare name) (rest : List Char) :
    skipBlanks (name.toList ++ rest) = name.toList ++ rest := by
  obtain ⟨d, cs, e, first⟩ := bare.exists_cons
  rw [e]
  refine List.dropWhile_cons_of_neg ?_
  rw [isBlank, Bool.or_eq_true, beq_iff_eq, beq_iff_eq]
  rintro (rfl | rfl)
  · cases first
  · cases first

/-- A bare name with no point behind it is a key of one part. -/
lemma dottedKey_bare {name : String} (bare : Bare name) {c : Char} (stops : isBareChar c = false)
    {rest left : List Char} (skipped : skipBlanks (c :: rest) = left)
    (undotted : ∀ tail, left ≠ '.' :: tail) :
    dottedKey (name.toList ++ c :: rest) = some ([name], left) := by
  rw [dottedKey, nestingLimit, keys, bare.skipBlanks, key_bare bare stops, Option.bind_some]
  dsimp only
  rw [skipped]
  split
  · exact absurd rfl (undotted _)
  · rfl

namespace Entries

variable {es : Entries} {k : String}

/-- A key is absent just if it is none of the keys. -/
lemma get?_eq_none : es.get? k = none ↔ k ∉ es.map Prod.fst := by
  induction es with
  | nil => exact ⟨fun _ => List.not_mem_nil, fun _ => rfl⟩
  | cons e es ih =>
    obtain ⟨k', item⟩ := e
    rw [get?, List.map_cons, List.mem_cons, not_or, ← ih]
    split
    · next same => exact ⟨nofun, fun h => absurd same.symm h.1⟩
    · next other => exact ⟨fun h => ⟨fun e => other e.symm, h⟩, fun h => h.2⟩

/-- A fresh key goes to the end. -/
lemma set_eq_append (fresh : k ∉ es.map Prod.fst) (item : Item) :
    es.set k item = es ++ [(k, item)] := by
  induction es with
  | nil => rfl
  | cons e es ih =>
    obtain ⟨k', item'⟩ := e
    rw [List.map_cons, List.mem_cons, not_or] at fresh
    rw [Entries.set, if_neg (fun e => fresh.1 e.symm), ih fresh.2]
    rfl

/-- A value under a fresh key goes to the end. -/
lemma insert_fresh (fresh : k ∉ es.map Prod.fst) (v : Value) :
    es.insert [] k v = some (es ++ [(k, .value v)]) := by
  rw [Entries.insert, Entries.descend, get?_eq_none.mpr fresh, set_eq_append fresh]
  rfl

end Entries

namespace Document

/-! ## Lines -/

/-- A bare name does not begin with a line's end. -/
lemma newline?_bare {name : String} (bare : Bare name) (rest : List Char) :
    newline? (name.toList ++ rest) = none := by
  unfold newline?
  split
  · next e => exact absurd e (bare.ne_cons rfl)
  · next e => exact absurd e (bare.ne_cons rfl)
  · rfl

/-- A line with a name and a value sets the name in the open table. -/
lemma line_setting {name : String} (bare : Bare name) {text : List Char} {v : Value}
    (reads : ReadsAs text v) {d : Document} (fresh : name ∉ d.current.map Prod.fst)
    (rest : List Char) :
    d.line (name.toList ++ ' ' :: '=' :: ' ' :: (text ++ '\n' :: rest)) =
      some ({ d with current := d.current ++ [(name, .value v)] }, rest) := by
  have key : dottedKey (name.toList ++ ' ' :: '=' :: ' ' :: (text ++ '\n' :: rest)) =
      some ([name], '=' :: ' ' :: (text ++ '\n' :: rest)) := dottedKey_bare bare rfl rfl nofun
  have entry : keyValue (value (nestingLimit - 1))
      (name.toList ++ ' ' :: '=' :: ' ' :: (text ++ '\n' :: rest)) =
        some (([name], v), '\n' :: rest) := by
    rw [keyValue, key, Option.bind_some]
    change (value _ (skipBlanks (' ' :: (text ++ '\n' :: rest)))).map _ = _
    rw [reads]
    rfl
  have added : d.addValue [name] v =
      some { d with current := d.current ++ [(name, .value v)] } := by
    change (d.current.insert [] name v).map _ = _
    rw [Entries.insert_fresh fresh]
    rfl
  unfold line
  split
  · next e => exact absurd e (bare.ne_cons rfl)
  · next e => exact absurd e (bare.ne_cons rfl)
  · rw [newline?_bare bare, entry, Option.bind_some]
    change (d.addValue [name] v).map (·, rest) = _
    rw [added]
    rfl

/-- A line with a name in brackets opens its table. -/
lemma line_header {name : String} (bare : Bare name) (d : Document) (rest : List Char) :
    d.line ('[' :: (name.toList ++ ']' :: '\n' :: rest)) =
      (d.closeTable.bind (·.openTable [name])).map (·, rest) := by
  have key : dottedKey (name.toList ++ ']' :: '\n' :: rest) =
      some ([name], ']' :: '\n' :: rest) := dottedKey_bare bare rfl rfl nofun
  change d.header (name.toList ++ ']' :: '\n' :: rest) = _
  unfold header
  split
  · next e => exact absurd e (bare.ne_cons rfl)
  · rw [key]
    rfl

/-! ## Runs of lines -/

/-- Reading a piece of text takes a document to another, in no more lines than the piece has
characters. -/
def Takes (s : List Char) (d d' : Document) : Prop :=
  ∃ n ≤ s.length, ∀ fuel rest, lines (fuel + n) d (s ++ rest) = lines fuel d' rest

/-- No text changes nothing. -/
lemma Takes.refl (d : Document) : Takes [] d d := ⟨0, Nat.le_refl _, fun _ _ => rfl⟩

/-- Two texts are taken one after the other. -/
lemma Takes.append {s t : List Char} {d d' d'' : Document} (h : Takes s d d')
    (h1 : Takes t d' d'') : Takes (s ++ t) d d'' := by
  obtain ⟨n, le, reads⟩ := h
  obtain ⟨m, le1, reads1⟩ := h1
  refine ⟨m + n, ?_, ?_⟩
  · rw [List.length_append]
    omega
  · intro fuel rest
    rw [← Nat.add_assoc, List.append_assoc, reads, reads1]

/-- A line is taken whatever follows. -/
lemma Takes.line {s : List Char} {d d' : Document}
    (start : ∀ rest, ∃ c tail, skipBlanks (s ++ rest) = c :: tail ∧ s ++ rest = c :: tail)
    (h : ∀ rest, d.line (s ++ rest) = some (d', rest)) : Takes s d d' := by
  refine ⟨1, ?_, ?_⟩
  · cases s with
    | nil =>
      obtain ⟨_, _, _, e⟩ := start []
      cases e
    | cons c s => exact Nat.le_add_left 1 _
  · intro fuel rest
    obtain ⟨c, tail, skipped, e⟩ := start rest
    rw [lines, skipped]
    change (d.line (c :: tail)).bind _ = _
    rw [← e, h]
    rfl

/-- An empty line changes nothing. -/
lemma takes_blank (d : Document) : Takes ['\n'] d d :=
  .line (fun rest => ⟨'\n', rest, rfl, rfl⟩) fun _ => rfl

/-- The line of a setting puts it behind the others. -/
lemma takes_setting {name : String} (bare : Bare name) {text : List Char} {v : Value}
    (reads : ReadsAs text v) {d : Document} (fresh : name ∉ d.current.map Prod.fst) :
    Takes (name.toList ++ ' ' :: '=' :: ' ' :: (text ++ ['\n'])) d
      { d with current := d.current ++ [(name, .value v)] } := by
  have split (rest : List Char) : name.toList ++ ' ' :: '=' :: ' ' :: (text ++ ['\n']) ++ rest =
      name.toList ++ ' ' :: '=' :: ' ' :: (text ++ '\n' :: rest) := by
    simp
  refine .line ?_ ?_
  · intro rest
    obtain ⟨c, cs, e, first⟩ := bare.exists_cons
    rw [split, bare.skipBlanks, e]
    exact ⟨_, _, rfl, rfl⟩
  · intro rest
    rw [split]
    exact line_setting bare reads fresh rest

/-- A fresh table is opened empty. -/
lemma openTable_fresh {d : Document} {name : String} (fresh : name ∉ d.root.map Prod.fst) :
    d.openTable [name] = some { root := d.root, path := [name] } := by
  simp [openTable, Entries.descend, Entries.get?_eq_none.mpr fresh]

/-- A section that was opened afresh goes to the end of the root. -/
lemma closeTable_fresh (root es : Entries) {name : String} (fresh : name ∉ root.map Prod.fst) :
    closeTable { root := root, current := es, path := [name] } =
      some { root := root ++ [(name, .table false false es)], path := [name] } := by
  simp [closeTable, Entries.descend, Entries.get?_eq_none.mpr fresh,
    Entries.set_eq_append fresh]

/-- A header closes the open table and opens its own. -/
lemma takes_header {name : String} (bare : Bare name) {d d' : Document}
    (closed : d.closeTable = some d') (fresh : name ∉ d'.root.map Prod.fst) :
    Takes ('[' :: (name.toList ++ [']', '\n'])) d { root := d'.root, path := [name] } := by
  have split (rest : List Char) : '[' :: (name.toList ++ [']', '\n']) ++ rest =
      '[' :: (name.toList ++ ']' :: '\n' :: rest) := by
    simp
  refine .line (fun rest => ⟨'[', _, rfl, rfl⟩) ?_
  intro rest
  rw [split, line_header bare, closed, Option.bind_some, openTable_fresh fresh]
  rfl

/-- A document that is read to its end is closed. -/
lemma parse_of_takes {s : List Char} {d : Document} (unmarked : ∀ rest, s ≠ '\ufeff' :: rest)
    (h : Takes s {} d) : parse s = d.closeTable.map fun d => Entries.entryValues d.root := by
  obtain ⟨n, le, reads⟩ := h
  obtain ⟨k, e⟩ := Nat.exists_eq_add_of_le' le
  -- The characters are fuel for all the lines and one step more, which finds the end.
  have last : lines (s.length + 1) {} s = some d := by
    have read := reads (k + 1) []
    rw [List.append_nil] at read
    rw [e, Nat.add_right_comm, read]
    rfl
  unfold parse
  split
  · exact absurd rfl (unmarked _)
  · change ((lines (s.length + 1) {} s).bind closeTable).map _ = _
    rw [last]
    rfl

end Document

end Headroom.Toml
