import Mathlib.Data.List.Basic
import LiveShell.Source.Lines

/-!
Where the lines of a text begin and end. The lines tile the text, only a line break ends one, and the number
of a line counts the starts at or before an offset. From this: which line an offset lies on, and what stands
between the end of a line and an offset of the same line.
-/

namespace LiveShell.Source

set_option autoImplicit false

/-! ### Lines tile the text -/

theorem lines_flatten (text : List Char) : (linesOf text).flatten = text := by
  fun_induction linesOf text with
  | case1 => rfl
  | case2 rest ih => simp [ih]
  | case3 character rest _ isBreak ih => simp [ih]
  | case4 character rest _ isBreak empty ih =>
      rw [empty] at ih
      simpa using ih
  | case5 character rest _ isBreak line lines split ih =>
      rw [split] at ih
      simpa using ih

theorem lines_nonempty (text : List Char) : linesOf text ≠ [] := by
  fun_induction linesOf text <;> simp

/-- A line break is the only place where a new line can start. -/
theorem line_ends_with_break (text : List Char) :
    ∀ line ∈ (linesOf text).dropLast,
      ∃ body last, line = body ++ [last] ∧ (last = '\n' ∨ last = '\r') := by
  fun_induction linesOf text with
  | case1 => simp
  | case2 rest ih =>
      intro line member
      rw [List.dropLast_cons_of_ne_nil (lines_nonempty rest)] at member
      rcases List.mem_cons.mp member with rfl | later
      · exact ⟨['\r'], '\n', rfl, Or.inl rfl⟩
      · exact ih line later
  | case3 character rest _ isBreak ih =>
      intro line member
      rw [List.dropLast_cons_of_ne_nil (lines_nonempty rest)] at member
      rcases List.mem_cons.mp member with rfl | later
      · exact ⟨[], character, rfl, isBreak⟩
      · exact ih line later
  | case4 character rest _ isBreak empty ih => simp
  | case5 character rest _ isBreak first others split ih =>
      intro line member
      cases others with
      | nil => simp at member
      | cons second more =>
          rw [split] at ih
          simp only [List.dropLast_cons_cons, List.mem_cons] at member
          rcases member with rfl | later
          · obtain ⟨body, last, shape, ends⟩ := ih first (by simp)
            exact ⟨character :: body, last, by rw [shape]; rfl, ends⟩
          · exact ih line (by simp [later])

/-- The lines after some of the first ones are the lines of what stands there. -/
theorem lines_of_drop (text : List Char) {index : Nat} (bound : index < (linesOf text).length) :
    ∃ later, linesOf later = (linesOf text).drop index := by
  have step : ∀ text, ∀ first rest, linesOf text = first :: rest → rest ≠ [] → ∃ later, linesOf later = rest := by
    intro text
    fun_induction linesOf text with
    | case1 =>
        intro first rest split more
        simp only [List.cons.injEq] at split
        exact absurd split.2.symm more
    | case2 later ih =>
        intro first rest split _
        exact ⟨later, (List.cons.inj split).2⟩
    | case3 character later _ isBreak ih =>
        intro first rest split _
        exact ⟨later, (List.cons.inj split).2⟩
    | case4 character later _ isBreak empty ih => exact absurd empty (lines_nonempty later)
    | case5 character later _ isBreak line lines found ih =>
        intro first rest split more
        rw [← (List.cons.inj split).2] at more ⊢
        exact ih line lines found more
  induction index with
  | zero => exact ⟨text, rfl⟩
  | succ index induction =>
      obtain ⟨later, found⟩ := induction (by omega)
      rw [List.drop_eq_getElem_cons (by omega)] at found
      refine step later _ _ found ?_
      rw [ne_eq, List.drop_eq_nil_iff]
      omega

/-- From a character that is no line break the rest of its line is a line of its own. -/
theorem lines_of_column {text first : List Char} {rest : List (List Char)} (split : linesOf text = first :: rest)
    {column : Nat} {character : Char} (here : first[column]? = some character)
    (plain : character ≠ '\n' ∧ character ≠ '\r') :
    linesOf (first.drop column ++ rest.flatten) = first.drop column :: rest := by
  fun_induction linesOf text generalizing first rest column with
  | case1 =>
      rw [← (List.cons.inj split).1] at here
      simp at here
  | case2 later ih =>
      rw [← (List.cons.inj split).1] at here
      have isBreak := List.mem_of_getElem? here
      simp only [List.mem_cons, List.not_mem_nil, or_false] at isBreak
      exact absurd isBreak (by simp [plain.1, plain.2])
  | case3 other later _ isBreak ih =>
      rw [← (List.cons.inj split).1] at here
      have same := List.mem_of_getElem? here
      rw [List.mem_singleton] at same
      subst same
      exact absurd isBreak (by simp [plain.1, plain.2])
  | case4 other later _ isBreak empty ih => exact absurd empty (lines_nonempty later)
  | case5 other later notBoth isBreak line lines found ih =>
      obtain ⟨rfl, rfl⟩ := List.cons.inj split
      cases column with
      | zero =>
          have whole : linesOf (other :: later) = (other :: line) :: lines := by
            rw [linesOf, if_neg isBreak, found]
            exact notBoth
          rw [List.drop_zero, ← List.flatten_cons, ← whole, lines_flatten, whole]
      | succ column => exact ih found (by simpa using here)

/-! ### Starts of lines -/

/-- The offset of the first character of the line with an index, the end of the text past the last line. -/
def lineOffset (text : List Char) (index : Nat) : Nat := ((linesOf text).take index).flatten.length

theorem line_offset_end (text : List Char) : lineOffset text (linesOf text).length = text.length := by
  rw [lineOffset, List.take_length, lines_flatten]

theorem line_offset_succ (text : List Char) (index : Nat) (bound : index < (linesOf text).length) :
    lineOffset text (index + 1) = lineOffset text index + (linesOf text)[index].length := by
  rw [lineOffset, List.take_add_one, List.getElem?_eq_getElem bound, List.flatten_append, List.length_append,
    lineOffset]
  simp

theorem line_offset_mono (text : List Char) {low high : Nat} (order : low ≤ high) :
    lineOffset text low ≤ lineOffset text high := by
  have shorter : (linesOf text).take low <+: (linesOf text).take high :=
    List.take_prefix_take_left order
  obtain ⟨rest, split⟩ := shorter
  rw [lineOffset, lineOffset, ← split, List.flatten_append, List.length_append]
  omega

theorem line_starts_length (start : Nat) (lines : List (List Char)) :
    (lineStarts start lines).length = lines.length := by
  induction lines generalizing start with
  | nil => rfl
  | cons line lines induction => simp [lineStarts, induction]

/-- A line starts where the lines before it end. -/
theorem line_start_after_lines (start index : Nat) (lines : List (List Char))
    (bound : index < lines.length) :
    (lineStarts start lines)[index]? = some (start + (lines.take index).flatten.length) := by
  induction lines generalizing start index with
  | nil => simp at bound
  | cons line lines induction =>
      cases index with
      | zero => simp [lineStarts]
      | succ index =>
          have inner : index < lines.length := by simpa using bound
          simp only [lineStarts, List.getElem?_cons_succ, List.take_succ_cons, List.flatten_cons,
            List.length_append]
          rw [induction (start + line.length) index inner]
          congr 1
          omega

/-- A line number, counted from one, finds its line. -/
theorem line_index_eq (text : List Char) {index : Nat} (bound : index < (linesOf text).length) :
    (Lines.of text).index? ((index : Int) + 1) = some index := by
  have starts : (Lines.of text).starts.size = (linesOf text).length := by
    simp [Lines.of, line_starts_length]
  have known : ¬((index : Int) + 1 - 1 < 0) := by omega
  have inside : 0 ≤ (index : Int) + 1 - 1 ∧ (index : Int) + 1 - 1 < ((linesOf text).length : Int) := by omega
  simp only [Lines.index?, starts, if_neg known, if_pos inside]
  congr 1
  omega

theorem start_of_line (text : List Char) {index : Nat} (bound : index < (linesOf text).length) :
    (Lines.of text).starts[index]? = some (lineOffset text index) := by
  have start := line_start_after_lines 0 index (linesOf text) bound
  simpa [Lines.of, lineOffset] using start

/-- The starts counted up to an offset are those of the lines that begin at or before it; the next line
begins after it. -/
theorem counted_lines (start offset : Nat) (lines : List (List Char)) :
    let count := ((lineStarts start lines).takeWhile
      fun (start : Nat) => decide ((start : Int) ≤ (offset : Int))).length
    count ≤ lines.length ∧
      (∀ index < count, start + (lines.take index).flatten.length ≤ offset) ∧
      (count < lines.length → offset < start + (lines.take count).flatten.length) := by
  induction lines generalizing start with
  | nil => simp [lineStarts]
  | cons line lines induction =>
      obtain ⟨within, reached, ahead⟩ := induction (start + line.length)
      by_cases before : start ≤ offset
      · have kept : decide ((start : Int) ≤ (offset : Int)) = true := by
          simpa using before
        simp only [lineStarts, List.takeWhile_cons, kept, if_true, List.length_cons]
        refine ⟨by omega, ?_, ?_⟩
        · intro index inside
          cases index with
          | zero => simpa using before
          | succ index =>
              have earlier := reached index (by omega)
              simp only [List.take_succ_cons, List.flatten_cons, List.length_append]
              omega
        · intro short
          have later := ahead (by omega)
          simp only [List.take_succ_cons, List.flatten_cons, List.length_append]
          omega
      · have dropped : decide ((start : Int) ≤ (offset : Int)) = false := by
          simpa using before
        simp only [lineStarts, List.takeWhile_cons, dropped, Bool.false_eq_true, if_false,
          List.length_nil]
        refine ⟨by omega, by intro index inside; omega, ?_⟩
        intro _
        simp
        omega

/-! ### The line of an offset -/

/-- An offset lies on the line with its number: at or after its start, before the start of the next. -/
theorem line_at_bounds (text : List Char) (offset : Nat) :
    let line := (Lines.of text).lineAt offset
    0 < line ∧ line ≤ (linesOf text).length ∧ lineOffset text (line - 1) ≤ offset ∧
      (line < (linesOf text).length → offset < lineOffset text line) := by
  obtain ⟨within, reached, ahead⟩ := counted_lines 0 offset (linesOf text)
  have positive : 0 < (Lines.of text).lineAt offset := by
    by_contra none
    have zero : (Lines.of text).lineAt offset = 0 := by omega
    have lengthPos := List.length_pos_iff.mpr (lines_nonempty text)
    simp only [Lines.lineAt, Lines.countUpTo, Lines.of] at zero
    rw [zero] at ahead
    simpa using ahead lengthPos
  refine ⟨positive, ?_, ?_, ?_⟩
  · simpa [Lines.lineAt, Lines.countUpTo, Lines.of] using within
  · have start := reached ((Lines.of text).lineAt offset - 1)
      (by simp only [Lines.lineAt, Lines.countUpTo, Lines.of] at positive ⊢; omega)
    simpa [lineOffset] using start
  · intro short
    have later := ahead (by simpa [Lines.lineAt, Lines.countUpTo, Lines.of] using short)
    simpa [lineOffset, Lines.lineAt, Lines.countUpTo, Lines.of] using later

/-- A line that starts at or before an offset is at most the offset's line. -/
theorem line_at_of_start_le (text : List Char) {index offset : Nat}
    (bound : index < (linesOf text).length) (reached : lineOffset text index ≤ offset) :
    index < (Lines.of text).lineAt offset := by
  obtain ⟨positive, within, started, ahead⟩ := line_at_bounds text offset
  by_contra beyond
  have next := ahead (by omega)
  have order := line_offset_mono text (show (Lines.of text).lineAt offset ≤ index by omega)
  omega

theorem line_at_mono (text : List Char) {low high : Nat} (order : low ≤ high) :
    (Lines.of text).lineAt low ≤ (Lines.of text).lineAt high := by
  obtain ⟨positive, within, started, _⟩ := line_at_bounds text low
  have reached := line_at_of_start_le text (show (Lines.of text).lineAt low - 1 < (linesOf text).length by omega)
    (show lineOffset text ((Lines.of text).lineAt low - 1) ≤ high by omega)
  omega

/-- An offset inside the text lies before the end of its line, the line's break included. -/
theorem offset_le_next_line (text : List Char) {offset : Nat} (inside : offset ≤ text.length) :
    offset ≤ lineOffset text ((Lines.of text).lineAt offset) := by
  obtain ⟨positive, within, started, ahead⟩ := line_at_bounds text offset
  by_cases last : (Lines.of text).lineAt offset < (linesOf text).length
  · exact Nat.le_of_lt (ahead last)
  · have final : (Lines.of text).lineAt offset = (linesOf text).length := by omega
    rw [final, line_offset_end]
    exact inside

/-! ### Characters of a line -/

theorem flatten_get {lines : List (List Char)} {index column : Nat} (bound : index < lines.length)
    (inside : column < lines[index].length) :
    lines.flatten[(lines.take index).flatten.length + column]? = some lines[index][column] := by
  induction lines generalizing index with
  | nil => simp at bound
  | cons line lines induction =>
      cases index with
      | zero =>
          have here : column < line.length := by simpa using inside
          simp [List.getElem?_append_left here, List.getElem?_eq_getElem here]
      | succ index =>
          have later := @induction index (by simpa using bound) (by simpa using inside)
          simp only [List.take_succ_cons, List.flatten_cons, List.length_append, Nat.add_assoc,
            List.getElem_cons_succ]
          rw [List.getElem?_append_right (Nat.le_add_right _ _), Nat.add_sub_cancel_left]
          exact later

theorem character_of_line (text : List Char) {index column : Nat} (bound : index < (linesOf text).length)
    (inside : column < (linesOf text)[index].length) :
    text[lineOffset text index + column]? = some (linesOf text)[index][column] := by
  have found := flatten_get bound inside
  rw [lines_flatten] at found
  exact found

/-- A character that is no line break does not end its line. -/
theorem line_at_succ (text : List Char) {offset : Nat} {character : Char}
    (here : text[offset]? = some character) (plain : character ≠ '\n' ∧ character ≠ '\r') :
    (Lines.of text).lineAt (offset + 1) = (Lines.of text).lineAt offset := by
  obtain ⟨positive, within, started, ahead⟩ := line_at_bounds text offset
  obtain ⟨_, nextWithin, nextStarted, _⟩ := line_at_bounds text (offset + 1)
  have order := line_at_mono text (Nat.le_add_right offset 1)
  by_contra changed
  -- The next line would have to start right after the character, which then is the break of this line.
  have short : (Lines.of text).lineAt offset < (linesOf text).length := by omega
  have nextStart : lineOffset text ((Lines.of text).lineAt offset) = offset + 1 := by
    have before := ahead short
    have reached := line_offset_mono text
      (show (Lines.of text).lineAt offset ≤ (Lines.of text).lineAt (offset + 1) - 1 by omega)
    omega
  have bound : (Lines.of text).lineAt offset - 1 < (linesOf text).length := by omega
  have member : (linesOf text)[(Lines.of text).lineAt offset - 1] ∈ (linesOf text).dropLast := by
    refine List.mem_iff_getElem.mpr ⟨(Lines.of text).lineAt offset - 1, ?_, by rw [List.getElem_dropLast]⟩
    rw [List.length_dropLast]
    omega
  obtain ⟨body, last, shape, isBreak⟩ := line_ends_with_break text _ member
  have lengths := line_offset_succ text _ bound
  rw [Nat.sub_add_cancel positive, nextStart, shape] at lengths
  simp only [List.length_append, List.length_cons, List.length_nil] at lengths
  have inLine : body.length < (linesOf text)[(Lines.of text).lineAt offset - 1].length := by
    rw [shape]
    simp
  have found := character_of_line text bound inLine
  have place : lineOffset text ((Lines.of text).lineAt offset - 1) + body.length = offset := by omega
  simp only [place, shape, List.getElem_append_right (Nat.le_refl _), Nat.sub_self, List.getElem_cons_zero] at found
  have same : character = last := Option.some.inj (here.symm.trans found)
  subst same
  rcases isBreak with isFeed | isReturn
  · exact plain.1 isFeed
  · exact plain.2 isReturn

/-! ### Ends of lines -/

theorem drop_break_length_le (row : List Char) : (dropBreak row).length ≤ row.length := by
  rw [dropBreak, List.length_reverse]
  calc (row.reverse.dropWhile _).length ≤ row.reverse.length := (List.dropWhile_suffix _).length_le
    _ = row.length := List.length_reverse

/-- What is left out of a line at its end are line breaks only. -/
theorem break_after_dropped (row : List Char) {column : Nat} (inside : column < row.length)
    (past : (dropBreak row).length ≤ column) : row[column] = '\n' ∨ row[column] = '\r' := by
  let isBreak := fun (character : Char) => decide (character = '\n' ∨ character = '\r')
  have split : row = dropBreak row ++ (row.reverse.takeWhile isBreak).reverse := by
    rw [dropBreak, ← List.reverse_append, List.takeWhile_append_dropWhile, List.reverse_reverse]
  have found : row[column] ∈ (row.reverse.takeWhile isBreak).reverse := by
    have reached : row[column]? = (row.reverse.takeWhile isBreak).reverse[column - (dropBreak row).length]? := by
      conv_lhs => rw [split]
      exact List.getElem?_append_right past
    rw [List.getElem?_eq_getElem inside] at reached
    exact List.mem_of_getElem? reached.symm
  have passed : isBreak row[column] = true :=
    List.all_eq_true.mp List.all_takeWhile _ (List.mem_reverse.mp found)
  simpa [isBreak] using passed

/-- The end of a line before its break, for a line that is there. -/
theorem line_end_eq (text : List Char) {line : Nat} (positive : 0 < line)
    (bound : line - 1 < (linesOf text).length) :
    (Lines.of text).lineEnd? line =
      some (lineOffset text (line - 1) + (dropBreak (linesOf text)[line - 1]).length) := by
  have index := line_index_eq text bound
  rw [show ((line - 1 : Nat) : Int) + 1 = line by omega] at index
  have row : (Lines.of text).texts.getD (line - 1) [] = (linesOf text)[line - 1] := by
    simp [Lines.of, Array.getD_eq_getD_getElem?, List.getElem?_eq_getElem bound]
  rw [Lines.lineEnd?, index, Option.map_some, row, Array.getD_eq_getD_getElem?, start_of_line text bound,
    Option.getD_some]

/-- A character that is no line break stands before the end of its line. -/
theorem offset_before_line_end (text : List Char) {offset : Nat} {character : Char}
    (here : text[offset]? = some character) (plain : character ≠ '\n' ∧ character ≠ '\r') :
    ∃ stop, (Lines.of text).lineEnd? ((Lines.of text).lineAt offset) = some stop ∧ offset < stop ∧
      stop ≤ text.length := by
  obtain ⟨positive, within, started, ahead⟩ := line_at_bounds text offset
  have bound : (Lines.of text).lineAt offset - 1 < (linesOf text).length := by omega
  have inside : offset < text.length := (List.getElem?_eq_some_iff.mp here).1
  have nextLine : offset < lineOffset text ((Lines.of text).lineAt offset) := by
    by_cases last : (Lines.of text).lineAt offset < (linesOf text).length
    · exact ahead last
    · rw [show (Lines.of text).lineAt offset = (linesOf text).length by omega, line_offset_end]
      exact inside
  have lengths := line_offset_succ text _ bound
  rw [Nat.sub_add_cancel positive] at lengths
  refine ⟨_, line_end_eq text positive bound, ?_, ?_⟩
  · by_contra past
    have column : offset - lineOffset text ((Lines.of text).lineAt offset - 1) <
        (linesOf text)[(Lines.of text).lineAt offset - 1].length := by omega
    have found := character_of_line text bound column
    rw [Nat.add_sub_cancel' started, here] at found
    have isBreak := break_after_dropped _ column (by omega)
    rw [← Option.some.inj found] at isBreak
    rcases isBreak with isFeed | isReturn
    · exact plain.1 isFeed
    · exact plain.2 isReturn
  · have kept := drop_break_length_le (linesOf text)[(Lines.of text).lineAt offset - 1]
    have whole := line_offset_mono text within
    rw [line_offset_end] at whole
    omega

/-- Between the end of a line and an offset of that line there are only line breaks. -/
theorem breaks_after_line_end (text : List Char) {offset stop between : Nat} (inside : offset ≤ text.length)
    (ends : (Lines.of text).lineEnd? ((Lines.of text).lineAt offset) = some stop)
    (past : stop ≤ between) (before : between < offset) :
    text[between]? = some '\n' ∨ text[between]? = some '\r' := by
  obtain ⟨positive, within, started, ahead⟩ := line_at_bounds text offset
  have bound : (Lines.of text).lineAt offset - 1 < (linesOf text).length := by omega
  have lengths := line_offset_succ text _ bound
  rw [Nat.sub_add_cancel positive] at lengths
  have reach := offset_le_next_line text inside
  have stopEq := Option.some.inj (ends.symm.trans (line_end_eq text positive bound))
  have column : between - lineOffset text ((Lines.of text).lineAt offset - 1) <
      (linesOf text)[(Lines.of text).lineAt offset - 1].length := by omega
  have found := character_of_line text bound column
  rw [Nat.add_sub_cancel' (by omega)] at found
  have isBreak := break_after_dropped _ column (by omega)
  rw [found]
  simpa using isBreak

end LiveShell.Source
