import Headroom.Proofs.Num.Numeral
import Headroom.Text.Blank
import Headroom.Text.Count

/-!
# Words, lines and numerals

What the texts look like that are cut and read: `Worded` for the words of a text, `Lined` for its
lines and `IsNumeral` for a count in decimal digits. Cutting finds just the words
(`words_eq_iff`), and reading a count accepts just the numerals (`count?_eq_some_iff`). The lines
that are cut lose a carriage return, which is a blank, so that they have the words of the lines of
the text (`map_words_lines`).
-/

namespace Headroom.Text

/-! ## Words -/

/-- At least one character, and no blank. -/
structure IsWord (w : List Char) : Prop where
  some : w ≠ []
  solid : ∀ c ∈ w, isBlank c = false

/-- A text and its words: each one ends at a blank or at the end of the text, and there may be more
blanks anywhere. -/
inductive Worded : List Char → List (List Char) → Prop where
  | nil : Worded [] []
  | blank {c cs ws} : isBlank c = true → Worded cs ws → Worded (c :: cs) ws
  | last {w} : IsWord w → Worded w [w]
  | word {w c cs ws} : IsWord w → isBlank c = true → Worded cs ws →
    Worded (w ++ c :: cs) (w :: ws)

/-- Pieces are what the library cuts at separators. -/
lemma pieces_eq (p : Char → Bool) (cs : List Char) :
    (pieces p cs).1 :: (pieces p cs).2 = cs.splitOnP p := by
  induction cs with
  | nil => rfl
  | cons c cs ih =>
    rw [List.splitOnP_cons_eq_if_modifyHead, ← ih, pieces]
    by_cases sep : p c = true
    · simp only [if_pos sep]
    · simp only [if_neg sep, List.modifyHead_cons]

/-- Words are the pieces between blanks that are not empty. -/
lemma words_eq (cs : List Char) :
    words cs = (cs.splitOnP isBlank).filter (!·.isEmpty) := by
  rw [← pieces_eq]
  rfl

/-- A word is not empty. -/
lemma IsWord.isEmpty {w : List Char} (h : IsWord w) : w.isEmpty = false :=
  Bool.eq_false_iff.mpr fun e => h.some (List.isEmpty_iff.mp e)

/-- A word with one more character in front. -/
lemma IsWord.cons {c : Char} {w : List Char} (solid : isBlank c = false) (h : IsWord w) :
    IsWord (c :: w) := ⟨nofun, List.forall_mem_cons.mpr ⟨solid, h.solid⟩⟩

/-- A single character that is no blank is a word. -/
lemma IsWord.single {c : Char} (solid : isBlank c = false) : IsWord [c] :=
  ⟨nofun, List.forall_mem_singleton.mpr solid⟩

/-- The words of a text are found. -/
lemma Worded.words_eq {cs : List Char} {ws : List (List Char)} (h : Worded cs ws) :
    words cs = ws := by
  induction h with
  | nil => rfl
  | blank blank _ ih =>
    rw [Text.words_eq] at ih ⊢
    rw [List.splitOnP_cons_eq_if_modifyHead, if_pos blank]
    exact ih
  | last word =>
    rw [Text.words_eq, List.splitOnP_eq_singleton word.solid, List.filter_cons, word.isEmpty]
    rfl
  | word word blank _ ih =>
    rw [Text.words_eq] at ih ⊢
    rw [List.splitOnP_append_cons_of_forall_mem word.solid _ blank, List.filter_cons,
      word.isEmpty, ih]
    rfl

/-- A character in front of a text that has words starts a word or lengthens the first one, unless
it is a blank. -/
lemma Worded.exists_cons {cs : List Char} {ws : List (List Char)} (h : Worded cs ws) (c : Char) :
    ∃ ws', Worded (c :: cs) ws' := by
  cases solid : isBlank c with
  | true => exact ⟨ws, .blank solid h⟩
  | false =>
    cases h with
    | nil => exact ⟨_, .last (.single solid)⟩
    | blank blank rest => exact ⟨_, .word (.single solid) blank rest⟩
    | last word => exact ⟨_, .last (word.cons solid)⟩
    | word word blank rest => exact ⟨_, .word (word.cons solid) blank rest⟩

/-- Every text has words. -/
lemma exists_worded (cs : List Char) : ∃ ws, Worded cs ws := by
  induction cs with
  | nil => exact ⟨[], .nil⟩
  | cons c cs ih =>
    obtain ⟨ws, h⟩ := ih
    exact h.exists_cons c

/-- Cutting a text gives its words. -/
lemma words_eq_iff {cs : List Char} {ws : List (List Char)} : words cs = ws ↔ Worded cs ws := by
  refine ⟨?_, Worded.words_eq⟩
  rintro rfl
  obtain ⟨ws, h⟩ := exists_worded cs
  rw [h.words_eq]
  exact h

/-- A blank at the end changes no word. -/
lemma Worded.append_blank {cs : List Char} {ws : List (List Char)} {c : Char}
    (h : Worded cs ws) (blank : isBlank c = true) : Worded (cs ++ [c]) ws := by
  induction h with
  | nil => exact .blank blank .nil
  | blank first _ ih => exact .blank first ih
  | last word => exact .word word blank .nil
  | word word first _ ih =>
    rw [List.append_assoc]
    exact .word word first ih

/-! ## Lines -/

/-- A text and its lines: each one ends at a line feed or at the end of the text. -/
inductive Lined : List Char → List (List Char) → Prop where
  | last {line} : '\n' ∉ line → Lined line [line]
  | feed {line cs lines} : '\n' ∉ line → Lined cs lines →
    Lined (line ++ '\n' :: cs) (line :: lines)

/-- No character of a line is a line feed. -/
lemma ne_feed {line : List Char} (h : '\n' ∉ line) : ∀ c ∈ line, (c == '\n') = false :=
  fun _ mem => beq_false_of_ne fun e => h (e ▸ mem)

/-- The lines of a text are its pieces between line feeds. -/
lemma Lined.splitOnP_eq {cs : List Char} {ls : List (List Char)} (h : Lined cs ls) :
    cs.splitOnP (· == '\n') = ls := by
  induction h with
  | last plain => exact List.splitOnP_eq_singleton (ne_feed plain)
  | feed plain _ ih => rw [List.splitOnP_append_cons_of_forall_mem (ne_feed plain) _ rfl, ih]

/-- A text with one more character in front has lines. -/
lemma Lined.exists_cons {cs : List Char} {ls : List (List Char)} (h : Lined cs ls) (c : Char) :
    ∃ ls', Lined (c :: cs) ls' := by
  by_cases feed : c = '\n'
  · exact ⟨[] :: ls, feed ▸ .feed List.not_mem_nil h⟩
  · have plain {line : List Char} (h : '\n' ∉ line) : '\n' ∉ c :: line :=
      fun mem => (List.mem_cons.mp mem).elim (fun e => feed e.symm) h
    cases h with
    | last line => exact ⟨_, .last (plain line)⟩
    | feed line rest => exact ⟨_, .feed (plain line) rest⟩

/-- Every text has lines. -/
lemma exists_lined (cs : List Char) : ∃ ls, Lined cs ls := by
  induction cs with
  | nil => exact ⟨_, .last List.not_mem_nil⟩
  | cons c cs ih =>
    obtain ⟨ls, h⟩ := ih
    exact h.exists_cons c

/-- Dropping a carriage return loses no word. -/
lemma words_chompReturn (line : List Char) : words (chompReturn line) = words line := by
  rw [chompReturn]
  split
  · next rest e =>
    rw [List.reverse_eq_cons_iff] at e
    obtain ⟨ws, h⟩ := exists_worded rest.reverse
    rw [e, h.words_eq, (h.append_blank (by decide)).words_eq]
  · rfl

/-- The lines that are cut have the words of the lines of the text. -/
lemma Lined.map_words_lines {cs : List Char} {ls : List (List Char)} (h : Lined cs ls) :
    (lines cs).map words = ls.map words := by
  have all := pieces_eq (· == '\n') cs
  rw [h.splitOnP_eq] at all
  rw [lines]
  dsimp only
  have chomped : words ∘ chompReturn = words := funext words_chompReturn
  rw [all, List.map_append, List.map_map, chomped, ← List.map_append,
    List.dropLast_eq_take, List.take_append_drop]

/-! ## Numerals -/

/-- A word denotes a count of 64 bits: it consists of decimal digits, which a plus sign may
precede. -/
def IsNumeral (word : List Char) (n : Nat) : Prop :=
  ∃ digits, (word = digits ∨ word = '+' :: digits) ∧ digits ≠ [] ∧
    (∀ c ∈ digits, c.isDigit = true) ∧ digitsNumber digits = n ∧ n < Nat.pow 2 64

/-- A digit counts from zero. -/
lemma digit?_eq (c : Char) :
    digit? c = if c.isDigit = true then some (c.toNat - '0'.toNat) else none := by
  have range : ('0' ≤ c ∧ c ≤ '9') ↔ c.isDigit = true := by
    rw [Char.isDigit, Bool.and_eq_true, decide_eq_true_eq, decide_eq_true_eq]
    rfl
  rw [digit?]
  simp only [range]

/-- Digits are read just if all are digits. -/
lemma foldlM_digits {cs : List Char} {init n : Nat} :
    cs.foldlM (fun n c => (digit? c).map (10 * n + ·)) init = some n ↔
      (∀ c ∈ cs, c.isDigit = true) ∧ Nat.ofDigitChars 10 cs init = n := by
  induction cs generalizing init with
  | nil => simp
  | cons c cs ih =>
    rw [List.foldlM_cons, digit?_eq, List.forall_mem_cons, Nat.ofDigitChars_cons]
    by_cases digit : c.isDigit = true
    · rw [if_pos digit, and_assoc, ← ih]
      simp [digit]
    · rw [if_neg digit]
      simp [digit]

/-- A count without a sign is read just from digits, at least one. -/
lemma natural?_eq_some_iff {cs : List Char} {n : Nat} :
    natural? cs = some n ↔
      cs ≠ [] ∧ (∀ c ∈ cs, c.isDigit = true) ∧ digitsNumber cs = n := by
  rw [natural?]
  cases cs with
  | nil => simp
  | cons c cs =>
    rw [List.isEmpty_cons, if_neg Bool.false_ne_true, foldlM_digits]
    simp [digitsNumber]

/-- Digits below the bound, that is. -/
lemma filter_natural?_iff {cs : List Char} {n : Nat} :
    (natural? cs).filter (· < Nat.pow 2 64) = some n ↔
      cs ≠ [] ∧ (∀ c ∈ cs, c.isDigit = true) ∧ digitsNumber cs = n ∧ n < Nat.pow 2 64 := by
  rw [Option.filter_eq_some_iff, natural?_eq_some_iff, decide_eq_true_eq, and_assoc, and_assoc]

/-- Reading a count accepts the numerals. -/
lemma count?_eq_some_iff {word : List Char} {n : Nat} :
    count? (Nat.pow 2 64) word = some n ↔ IsNumeral word n := by
  rw [count?.eq_def]
  split
  · next rest =>
    rw [filter_natural?_iff]
    refine ⟨fun h => ⟨rest, .inr rfl, h⟩, ?_⟩
    rintro ⟨digits, rfl | e, h⟩
    · exact absurd (h.2.1 '+' List.mem_cons_self) (by decide)
    · obtain rfl := (List.cons.inj e).2
      exact h
  · next plain =>
    rw [filter_natural?_iff]
    refine ⟨fun h => ⟨word, .inl rfl, h⟩, ?_⟩
    rintro ⟨digits, rfl | rfl, h⟩
    · exact h
    · exact absurd rfl (plain digits)

end Headroom.Text
