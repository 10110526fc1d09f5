import Mathlib.Algebra.Order.BigOperators.Group.List
import Mathlib.Data.List.Forall2
import Headroom.Proofs.Text.Words
import Headroom.Sampling.ProcStat

/-!
# The row of processor ticks

`FirstCpuLine` and `Row` say which texts report ticks: the first line that has `cpu` as its first
word goes on with at least four columns, and the first eight of them are numerals. These are the
texts that are accepted, and nothing else of a text matters (`parse_grammar`).

What is reported are exact sums. They fit if the columns are below `2 ^ 61`, but columns that fit
one by one need not fit together, and then nothing is reported although the text is accepted
(`sums_exact`, `grammar_unreported`, `sums_overflow`).
-/

namespace Headroom.ProcStat

/-! ## Grammar -/

/-- The word that the line starts with. -/
def cpuWord : List Char := ['c', 'p', 'u']

/-- The first line of a text that has `cpu` as its first word goes on with these words. -/
def FirstCpuLine (text : List Char) (columns : List (List Char)) : Prop :=
  ∃ before line after, Text.Lined text (before ++ line :: after) ∧
    (∀ earlier ∈ before, ∀ words, ¬ Text.Worded earlier (cpuWord :: words)) ∧
    Text.Worded line (cpuWord :: columns)

/-- A text lists these counts on its first line of the processor: at least four columns, of which
the first eight are read. -/
def Row (text : List Char) (row : List Nat) : Prop :=
  ∃ columns, FirstCpuLine text columns ∧ 4 ≤ columns.length ∧
    List.Forall₂ Text.IsNumeral (columns.take 8) row

/-- The words after `cpu`, if that is the first word. -/
def afterCpu? : List (List Char) → Option (List (List Char))
  | ['c', 'p', 'u'] :: columns => some columns
  | _ => none

/-- Words go on after `cpu` just if they start with it. -/
lemma afterCpu?_eq_some_iff {words columns : List (List Char)} :
    afterCpu? words = some columns ↔ words = cpuWord :: columns := by
  rw [afterCpu?.eq_def]
  split
  · next columns1 => simp [cpuWord]
  · next other =>
    refine ⟨nofun, ?_⟩
    rintro rfl
    exact absurd rfl (other columns)

/-- The columns are those of the first line whose words go on after `cpu`. -/
lemma cpuColumns?_eq (lines : List (List Char)) :
    cpuColumns? lines = (lines.map Text.words).findSome? afterCpu? := by
  rw [List.findSome?_map]
  rfl

/-- The columns that are found are those of the first line of the processor. -/
lemma cpuColumns?_eq_some_iff {text : List Char} {columns : List (List Char)} :
    cpuColumns? (Text.lines text) = some columns ↔ FirstCpuLine text columns := by
  rw [cpuColumns?_eq]
  refine ⟨?_, ?_⟩
  · intro e
    obtain ⟨lines, lined⟩ := Text.exists_lined text
    rw [lined.map_words_lines, List.findSome?_map, List.findSome?_eq_some_iff] at e
    obtain ⟨before, line, after, rfl, found, earlier⟩ := e
    refine ⟨before, line, after, lined, ?_, ?_⟩
    · intro l mem words worded
      have none := earlier l mem
      rw [Function.comp_apply, worded.words_eq] at none
      cases none
    · exact Text.words_eq_iff.mp (afterCpu?_eq_some_iff.mp found)
  · rintro ⟨before, line, after, lined, earlier, found⟩
    rw [lined.map_words_lines, List.findSome?_map, List.findSome?_eq_some_iff]
    refine ⟨before, line, after, rfl, afterCpu?_eq_some_iff.mpr found.words_eq, ?_⟩
    intro l mem
    rw [Option.eq_none_iff_forall_ne_some]
    intro words e
    exact earlier l mem words (Text.words_eq_iff.mp (afterCpu?_eq_some_iff.mp e))

/-! ## Reading the columns -/

/-- All columns are counted if all are numerals. -/
lemma counts_eq_ok_iff {columns : List (List Char)} {row : List Nat} :
    counts columns = .ok row ↔ List.Forall₂ Text.IsNumeral columns row := by
  induction columns generalizing row with
  | nil => rw [List.forall₂_nil_left_iff, counts, Except.ok.injEq, eq_comm]
  | cons column columns ih =>
    rw [counts, List.forall₂_cons_left_iff]
    refine ⟨?_, ?_⟩
    · intro e
      split at e
      · cases e
      · next n numeral =>
        cases rest : counts columns with
        | error fault =>
          rw [rest] at e
          cases e
        | ok ns =>
          rw [rest] at e
          obtain rfl := Except.ok.inj e
          exact ⟨n, ns, Text.count?_eq_some_iff.mp numeral, ih.mp rest, rfl⟩
    · rintro ⟨n, ns, numeral, rest, rfl⟩
      rw [Text.count?_eq_some_iff.mpr numeral, ih.mpr rest]
      rfl

/-- The ticks of a row that is long enough are its sums, unless they exceed a count. -/
lemma ticks_eq {row : List Nat} (long : 4 ≤ row.length) :
    ticks row = if row.sum < Nat.pow 2 64 then
      .ok ⟨row.getD 3 0 + row.getD 4 0, row.sum⟩ else .error .sumOverflow := by
  match row, long with
  | user :: nice :: system :: idle :: [], _ => rfl
  | user :: nice :: system :: idle :: iowait :: rest, _ => rfl

/-- A row that is too short is rejected. -/
lemma ticks_of_short {row : List Nat} (short : row.length < 4) :
    ticks row = .error (.rejected (.tooFewColumns row.length)) := by
  rw [ticks.eq_def]
  split
  · next e => simp only [List.length_cons] at short; omega
  · rfl

/-- Of the line that is found the first eight columns are counted and summed. -/
lemma FirstCpuLine.parse_eq {text : List Char} {columns : List (List Char)}
    (h : FirstCpuLine text columns) :
    parse text = ((counts (columns.take 8)).mapError .rejected).bind ticks := by
  rw [parse, cpuColumns?_eq_some_iff.mpr h]
  rfl

/-- A text without a line of the processor is rejected. -/
lemma parse_of_no_line {text : List Char} (h : ¬ ∃ columns, FirstCpuLine text columns) :
    parse text = .error (.rejected .noCpuLine) := by
  rw [parse]
  split
  · rfl
  · next columns e => exact absurd ⟨columns, cpuColumns?_eq_some_iff.mp e⟩ h

/-- The row that a text lists is read, and the ticks are its sums if they fit. -/
lemma Row.parse_eq {text : List Char} {row : List Nat} (h : Row text row) :
    parse text = if row.sum < Nat.pow 2 64 then
      .ok ⟨row.getD 3 0 + row.getD 4 0, row.sum⟩ else .error .sumOverflow := by
  obtain ⟨columns, line, long, numerals⟩ := h
  have read := numerals.length_eq
  rw [List.length_take] at read
  rw [line.parse_eq, counts_eq_ok_iff.mpr numerals]
  exact ticks_eq (by omega)

/-- A text lists a row or is rejected. -/
lemma row_or_rejected (text : List Char) :
    (∃ row, Row text row) ∨ ∃ e, parse text = .error (.rejected e) := by
  by_cases found : ∃ columns, FirstCpuLine text columns
  · obtain ⟨columns, line⟩ := found
    rw [line.parse_eq]
    cases read : counts (columns.take 8) with
    | error e => exact .inr ⟨e, rfl⟩
    | ok row =>
      have numerals := counts_eq_ok_iff.mp read
      have length := numerals.length_eq
      rw [List.length_take] at length
      by_cases short : row.length < 4
      · exact .inr ⟨_, ticks_of_short short⟩
      · exact .inl ⟨row, columns, line, by omega, numerals⟩
  · exact .inr ⟨_, parse_of_no_line found⟩

/-- Ticks that are reported are the sums of a row that the text lists. -/
lemma row_of_ok {text : List Char} {t : CpuTicks} (h : parse text = .ok t) :
    ∃ row, Row text row ∧ row.sum < Nat.pow 2 64 ∧
      t = ⟨row.getD 3 0 + row.getD 4 0, row.sum⟩ := by
  obtain ⟨row, lists⟩ | ⟨e, rejected⟩ := row_or_rejected text
  · rw [lists.parse_eq] at h
    split at h
    · next fits => exact ⟨row, lists, fits, (Except.ok.inj h).symm⟩
    · cases h
  · rw [rejected] at h
    cases h

/-- A text with an overflow lists a row that has no sum among the counts. -/
lemma row_of_overflow {text : List Char} (h : parse text = .error .sumOverflow) :
    ∃ row, Row text row ∧ Nat.pow 2 64 ≤ row.sum := by
  obtain ⟨row, lists⟩ | ⟨e, rejected⟩ := row_or_rejected text
  · rw [lists.parse_eq] at h
    split at h
    · cases h
    · next high => exact ⟨row, lists, Nat.not_lt.mp high⟩
  · rw [rejected] at h
    cases h

/-- A text is accepted just if its first line of the processor has four columns and the first eight
of them are numerals. Ticks are reported just if, moreover, the sum of these is a count: the fourth
column, with the fifth if there is one, and the sum. All else of the text is of no account, be it
the columns behind these, other lines before the line or lines after it. -/
theorem parse_grammar (text : List Char) :
    ((∃ t, parse text = .ok t) ∨ parse text = .error .sumOverflow ↔ ∃ row, Row text row) ∧
      ((∃ t, parse text = .ok t) ↔ ∃ row, Row text row ∧ row.sum < Nat.pow 2 64) ∧
      (∀ row, Row text row → row.sum < Nat.pow 2 64 →
        parse text = .ok ⟨row.getD 3 0 + row.getD 4 0, row.sum⟩) ∧
      ∀ columns, FirstCpuLine text columns → ∀ other columns1, FirstCpuLine other columns1 →
        columns1.take 8 = columns.take 8 → parse other = parse text := by
  have reported : ∀ row, Row text row → row.sum < Nat.pow 2 64 →
      parse text = .ok ⟨row.getD 3 0 + row.getD 4 0, row.sum⟩ := by
    intro row lists fits
    rw [lists.parse_eq, if_pos fits]
  refine ⟨⟨?_, ?_⟩, ⟨?_, ?_⟩, reported, ?_⟩
  · rintro (⟨t, e⟩ | e)
    · obtain ⟨row, lists, _⟩ := row_of_ok e
      exact ⟨row, lists⟩
    · obtain ⟨row, lists, _⟩ := row_of_overflow e
      exact ⟨row, lists⟩
  · rintro ⟨row, lists⟩
    by_cases fits : row.sum < Nat.pow 2 64
    · exact .inl ⟨_, reported row lists fits⟩
    · right
      rw [lists.parse_eq, if_neg fits]
  · rintro ⟨t, e⟩
    obtain ⟨row, lists, fits, _⟩ := row_of_ok e
    exact ⟨row, lists, fits⟩
  · rintro ⟨row, lists, fits⟩
    exact ⟨_, reported row lists fits⟩
  · intro columns line other columns1 line1 same
    rw [line.parse_eq, line1.parse_eq, same]

/-- A text whose columns are found and counted lists the counts. -/
lemma Row.of_counts {text : List Char} {columns : List (List Char)} {row : List Nat}
    (found : cpuColumns? (Text.lines text) = some columns) (long : 4 ≤ columns.length)
    (read : counts (columns.take 8) = .ok row) : Row text row :=
  ⟨columns, cpuColumns?_eq_some_iff.mp found, long, counts_eq_ok_iff.mp read⟩

/-- The line of a single processor and the guest times are passed over. -/
theorem parse_grammar_past_others :
    parse "cpu0 1 2 3 4\n\tcpu  +10 20 30 400 50 6 7 8 9 n/a\r\ncpu 5".toList = .ok ⟨450, 531⟩ := by
  obtain ⟨_, _, reported, _⟩ :=
    parse_grammar "cpu0 1 2 3 4\n\tcpu  +10 20 30 400 50 6 7 8 9 n/a\r\ncpu 5".toList
  exact reported [10, 20, 30, 400, 50, 6, 7, 8] (.of_counts rfl (by decide) (by decide))
    (by decide)

/-- A text of the grammar need not be reported: idle time may exceed a count all by itself. -/
theorem grammar_unreported :
    Row "cpu 1 2 3 18446744073709551615 5".toList [1, 2, 3, 18446744073709551615, 5] ∧
      ¬ ∃ t, parse "cpu 1 2 3 18446744073709551615 5".toList = .ok t := by
  refine ⟨.of_counts rfl (by decide) (by decide), ?_⟩
  have overflow : parse "cpu 1 2 3 18446744073709551615 5".toList = .error .sumOverflow := by
    decide
  rintro ⟨t, e⟩
  rw [overflow] at e
  cases e

/-! ## Sums -/

/-- The fourth and the fifth count are part of the sum. -/
lemma idle_le_sum : ∀ row : List Nat, row.getD 3 0 + row.getD 4 0 ≤ row.sum
  | [] | [_] | [_, _] | [_, _, _] => Nat.zero_le _
  | [user, nice, system, idle] => by
    show idle + 0 ≤ user + (nice + (system + (idle + 0)))
    omega
  | user :: nice :: system :: idle :: iowait :: rest => by
    show idle + iowait ≤ user + (nice + (system + (idle + (iowait + rest.sum))))
    omega

/-- Eight counts below `2 ^ 61` have a sum below `2 ^ 64`. -/
lemma Row.sum_lt {text : List Char} {row : List Nat} (h : Row text row)
    (low : ∀ n ∈ row, n < Nat.pow 2 61) : row.sum < Nat.pow 2 64 := by
  obtain ⟨columns, _, _, numerals⟩ := h
  have length := numerals.length_eq
  rw [List.length_take] at length
  have bound := List.sum_le_card_nsmul row (Nat.pow 2 61 - 1)
    fun n mem => Nat.le_pred_of_lt (low n mem)
  calc row.sum ≤ row.length * (Nat.pow 2 61 - 1) := bound
    _ ≤ 8 * (Nat.pow 2 61 - 1) := Nat.mul_le_mul_right _ (by omega)
    _ < Nat.pow 2 64 := by decide

/-- Ticks that are reported are exact sums of a row, the idle time being part of the total. No ticks
are reported of a row whose sum is no count. If all its columns are below `2 ^ 61`, they are. -/
theorem sums_exact (text : List Char) :
    (∀ t, parse text = .ok t → ∃ row, Row text row ∧
      t.idle = row.getD 3 0 + row.getD 4 0 ∧ t.total = row.sum ∧
      t.idle ≤ t.total ∧ t.total ≤ Nat.pow 2 64 - 1) ∧
      (parse text = .error .sumOverflow ↔ ∃ row, Row text row ∧ Nat.pow 2 64 ≤ row.sum) ∧
      ∀ row, Row text row → (∀ n ∈ row, n < Nat.pow 2 61) → ∃ t, parse text = .ok t := by
  refine ⟨?_, ⟨row_of_overflow, ?_⟩, ?_⟩
  · intro t e
    obtain ⟨row, lists, fits, rfl⟩ := row_of_ok e
    exact ⟨row, lists, rfl, rfl, idle_le_sum row, Nat.le_pred_of_lt fits⟩
  · rintro ⟨row, lists, high⟩
    rw [lists.parse_eq, if_neg (Nat.not_lt.mpr high)]
  · intro row lists low
    rw [lists.parse_eq, if_pos (lists.sum_lt low)]
    exact ⟨_, rfl⟩

/-- The largest column below `2 ^ 61` is reported. -/
theorem sums_exact_of_low :
    ∃ t, parse "cpu 1 2 3 2305843009213693951".toList = .ok t := by
  obtain ⟨_, _, reported⟩ := sums_exact "cpu 1 2 3 2305843009213693951".toList
  exact reported [1, 2, 3, 2305843009213693951] (.of_counts rfl (by decide) (by decide))
    (by decide)

/-- A column that is the largest count leaves no room for another one. -/
theorem sums_overflow :
    Row "cpu 18446744073709551615 0 0 5".toList [18446744073709551615, 0, 0, 5] ∧
      Nat.pow 2 64 - 1 < [18446744073709551615, 0, 0, 5].sum ∧
      parse "cpu 18446744073709551615 0 0 5".toList = .error .sumOverflow :=
  ⟨.of_counts rfl (by decide) (by decide), by decide, by decide⟩

end Headroom.ProcStat
