import Mathlib.Data.List.Basic
import Headroom.Proofs.Num.Numeral
import Headroom.Toml.Number

/-!
# Numbers read back

The scanner of numbers takes a count or a double off the front of a text as it was written, if a
line feed follows (`number_count`, `number_numeral`).
-/

namespace Headroom.Toml

/-! ## Digits -/

/-- Digits have one value, here and there. -/
lemma digitsValue_eq {ds : List Char} (digits : ∀ c ∈ ds, c.isDigit = true) :
    digitsValue 10 ds = digitsNumber ds := by
  rw [digitsValue, digitsNumber, Nat.ofDigitChars_eq_foldl]
  refine List.foldl_ext _ _ _ fun n c mem => ?_
  have digit : isDigit c = true := digits c mem
  rw [digitValue, if_pos digit]

/-- A text that goes on with neither a digit nor an underscore. -/
def Stops (s : List Char) : Prop := ∀ c rest, s = c :: rest → isDigit c = false ∧ c ≠ '_'

/-- A character that is neither a digit nor an underscore stops the digits. -/
lemma stops_cons {c : Char} (h : isDigit c = false ∧ c ≠ '_') (s : List Char) :
    Stops (c :: s) := by
  rintro d rest e
  cases e
  exact h

/-- A digit goes to the front of those that follow. -/
lemma moreDigits_digit {c : Char} (digit : isDigit c = true) (s : List Char) :
    moreDigits isDigit (c :: s) = (moreDigits isDigit s).map fun (ds, rest) => (c :: ds, rest) := by
  have plain : c ≠ '_' := by
    rintro rfl
    cases digit
  rw [moreDigits, if_pos digit]
  exact plain

/-- Digits are taken up to what stops them. -/
lemma moreDigits_append {ds rest : List Char} (digits : ∀ c ∈ ds, c.isDigit = true)
    (stops : Stops rest) : moreDigits isDigit (ds ++ rest) = some (ds, rest) := by
  induction ds with
  | nil =>
    cases rest with
    | nil => rfl
    | cons c rest =>
      obtain ⟨other, plain⟩ := stops c rest rfl
      rw [List.nil_append, moreDigits, if_neg (Bool.eq_false_iff.mp other)]
      exact plain
  | cons c ds ih =>
    obtain ⟨digit, digits⟩ := List.forall_mem_cons.mp digits
    rw [List.cons_append, moreDigits_digit digit, ih digits]
    rfl

/-- Digits are taken up to what stops them, if there is one. -/
lemma digits_append {ds rest : List Char} (digits : ∀ c ∈ ds, c.isDigit = true)
    (nonempty : ds ≠ []) (stops : Stops rest) :
    Toml.digits isDigit (ds ++ rest) = some (ds, rest) := by
  cases ds with
  | nil => exact absurd rfl nonempty
  | cons c ds =>
    obtain ⟨digit, digits⟩ := List.forall_mem_cons.mp digits
    have first : isDigit c = true := digit
    rw [List.cons_append, Toml.digits, if_pos first, moreDigits_append digits stops]
    rfl

/-- A whole number is taken up to what stops it. -/
lemma decimalDigits_append {ds rest : List Char} (w : IsWhole ds) (stops : Stops rest) :
    Toml.decimalDigits (ds ++ rest) = some (ds, rest) := by
  obtain rfl | ⟨c, cs, rfl, lead⟩ := w.lead
  · rfl
  · rw [List.cons_append, Toml.decimalDigits, ← List.cons_append]
    · exact digits_append w.digits nofun stops
    · exact fun _ e => lead (List.cons.inj e).1

/-! ## Signs and bases -/

/-- A sign as it is written, where only the minus is. -/
def signText (negative : Bool) : List Char := if negative then ['-'] else []

/-- What starts neither a name nor a base is read as a number in base ten. -/
lemma number_plain {s rest : List Char} {negative signed : Bool}
    (e : sign s = (negative, signed, rest))
    (plain : ∀ c tail, rest = c :: tail → c ≠ 'i' ∧ c ≠ 'n')
    (unmarked : ∀ c tail, rest = '0' :: c :: tail → c ≠ 'x' ∧ c ≠ 'o' ∧ c ≠ 'b') :
    number s = decimalNumber negative rest := by
  rw [number, e]
  dsimp only
  split
  · exact absurd rfl (plain _ _ rfl).1
  · exact absurd rfl (plain _ _ rfl).2
  · exact absurd rfl (unmarked _ _ rfl).1
  · exact absurd rfl (unmarked _ _ rfl).2.1
  · exact absurd rfl (unmarked _ _ rfl).2.2
  · rfl

/-- The sign that was written is read. -/
lemma sign_signText {c : Char} (other : c ≠ '-' ∧ c ≠ '+') (negative : Bool) (s : List Char) :
    sign (signText negative ++ c :: s) = (negative, negative, c :: s) := by
  cases negative with
  | true => rfl
  | false =>
    rw [signText, if_neg Bool.false_ne_true, List.nil_append, sign]
    · exact fun _ e => other.1 (List.cons.inj e).1
    · exact fun _ e => other.2 (List.cons.inj e).1

/-- A digit differs from all that are none. -/
lemma ne_of_isDigit {c d : Char} (digit : c.isDigit = true) (other : d.isDigit = false) :
    c ≠ d := by
  rintro rfl
  cases digit.symm.trans other

/-- Digits that no mark of a base follows are read in base ten. -/
lemma number_decimal {ds : List Char} {c : Char} (w : IsWhole ds)
    (plain : c ≠ 'x' ∧ c ≠ 'o' ∧ c ≠ 'b') (negative : Bool) (rest : List Char) :
    number (signText negative ++ (ds ++ c :: rest)) = decimalNumber negative (ds ++ c :: rest) := by
  obtain ⟨d, cs, e⟩ := w.exists_cons
  have digit := w.digits d (e ▸ List.mem_cons_self)
  have signs : sign (signText negative ++ (ds ++ c :: rest)) =
      (negative, negative, ds ++ c :: rest) := by
    rw [e]
    exact sign_signText ⟨ne_of_isDigit digit rfl, ne_of_isDigit digit rfl⟩ negative _
  refine number_plain signs ?_ ?_
  · intro c' tail e1
    rw [e] at e1
    obtain ⟨rfl, _⟩ := List.cons.inj e1
    exact ⟨ne_of_isDigit digit rfl, ne_of_isDigit digit rfl⟩
  · -- A zero is the only digit, so that after it stands the character that ends the digits.
    intro c' tail e1
    obtain e2 | ⟨d', cs', e2, lead⟩ := w.lead
    · rw [e2] at e1
      obtain ⟨rfl, _⟩ := List.cons.inj (List.cons.inj e1).2
      exact plain
    · rw [e2] at e1
      exact absurd (List.cons.inj e1).1 lead

/-! ## Counts and doubles -/

/-- A count is read back. -/
lemma number_count {n : Nat} (fits : n < Nat.pow 2 63) (rest : List Char) :
    number (Headroom.decimalDigits n ++ '\n' :: rest) = some (.integer n, '\n' :: rest) := by
  have w := isWhole_decimalDigits n
  have read := number_decimal w (c := '\n') (by decide) false rest
  rw [signText, if_neg Bool.false_ne_true, List.nil_append] at read
  have bounded : boundedInteger false n = some (.integer n) := by
    rw [boundedInteger, decide_eq_true fits]
    rfl
  rw [read, decimalNumber, decimalDigits_append w (stops_cons (by decide) _), Option.bind_some]
  change (boundedInteger false (digitsValue 10 _)).map (·, '\n' :: rest) = _
  rw [digitsValue_eq w.digits, digitsNumber_decimalDigits, bounded]
  rfl

/-- The numeral of a finite double is read back. -/
lemma number_numeral {m : Magnitude} (finite : m.isInfinite = false) (negative : Bool)
    (rest : List Char) :
    number (signText negative ++ (m.shortest.positional ['.', '0'] ++ '\n' :: rest)) =
      some (.float (.real negative m), '\n' :: rest) := by
  obtain ⟨whole, fraction, e, w⟩ := Decimal.positional_written m.shortest_canonical
  have digits : ∀ c ∈ whole ++ fraction, c.isDigit = true :=
    List.forall_mem_append.mpr ⟨w.isWhole.digits, w.digits⟩
  have float : floatOf negative whole fraction 0 = some (.float (.real negative m)) := by
    rw [floatOf, digitsValue_eq digits, zero_sub, Binary64.ofDecimal_shortest w]
    rw [if_neg]
    rintro infinite
    cases infinite
    cases finite
  rw [e, List.append_assoc, List.cons_append, number_decimal w.isWhole (by decide), decimalNumber,
    decimalDigits_append w.isWhole (stops_cons (by decide) _), Option.bind_some]
  change (Toml.digits isDigit (fraction ++ '\n' :: rest)).bind _ = _
  rw [digits_append w.digits w.some (stops_cons (by decide) _), Option.bind_some]
  change (floatOf negative whole fraction 0).map (·, '\n' :: rest) = _
  rw [float]
  rfl

end Headroom.Toml
