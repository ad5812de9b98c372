import LiveShell.Proofs.LineBounds
import LiveShell.Source.Recovery

/-!
Offsets and positions. The lines of a source tile it, a line ends with the only break it has, and the table of starts
rises strictly from zero. So every offset has one position and every place on a line one offset, each the inverse of the
other; later offsets have later positions, and the end of a line is where its break begins.
-/

namespace LiveShell.Source

set_option autoImplicit false

/-! ### What a line is made of -/

/-- A line in two parts: what stands on it, without any break, and the break that ends it, if there is one. -/
structure IsLine (row body ending : List Char) : Prop where
  whole : row = body ++ ending
  plain : ∀ character ∈ body, character ≠ '\n' ∧ character ≠ '\r'
  ends : ending ∈ [[], ['\n'], ['\r'], ['\r', '\n']]

theorem lines_parted (text : List Char) : ∀ row ∈ linesOf text, ∃ body ending, IsLine row body ending := by
  fun_induction linesOf text with
  | case1 => simpa using ⟨[], [], rfl, by simp, by simp⟩
  | case2 rest induction => exact List.forall_mem_cons.mpr ⟨⟨[], ['\r', '\n'], rfl, by simp, by simp⟩, induction⟩
  | case3 character rest _ isBreak induction =>
      refine List.forall_mem_cons.mpr ⟨⟨[], [character], rfl, by simp, ?_⟩, induction⟩
      rcases isBreak with rfl | rfl <;> simp
  | case4 character rest _ plain empty => exact absurd empty (lines_nonempty rest)
  | case5 character rest _ plain line lines split induction =>
      rw [split] at induction
      obtain ⟨⟨body, ending, isLine⟩, later⟩ := List.forall_mem_cons.mp induction
      refine List.forall_mem_cons.mpr ⟨⟨character :: body, ending, ?_, ?_, isLine.ends⟩, later⟩
      · rw [isLine.whole, List.cons_append]
      · exact List.forall_mem_cons.mpr ⟨not_or.mp plain, isLine.plain⟩

/-- The last line goes on to the end of the text, so no break ends it. -/
theorem last_line_plain {text row : List Char} (last : (linesOf text).getLast? = some row) :
    ∀ character ∈ row, character ≠ '\n' ∧ character ≠ '\r' := by
  fun_induction linesOf text generalizing row with
  | case1 =>
      obtain rfl : [] = row := by simpa using last
      simp
  | case2 rest induction =>
      rw [List.getLast?_cons_of_ne_nil (lines_nonempty rest)] at last
      exact induction last
  | case3 character rest _ isBreak induction =>
      rw [List.getLast?_cons_of_ne_nil (lines_nonempty rest)] at last
      exact induction last
  | case4 character rest _ plain empty => exact absurd empty (lines_nonempty rest)
  | case5 character rest _ plain line lines split induction =>
      rw [split] at induction
      cases lines with
      | nil =>
          obtain rfl : character :: line = row := by simpa using last
          exact List.forall_mem_cons.mpr ⟨not_or.mp plain, induction rfl⟩
      | cons second more => exact induction last

/-- The break at the end of a line is all that is left out without it. -/
theorem drop_break_of_line {row body ending : List Char} (isLine : IsLine row body ending) : dropBreak row = body := by
  have breaks : ∀ character ∈ ending.reverse, decide (character = '\n' ∨ character = '\r') = true := by
    have ends := isLine.ends
    simp only [List.mem_cons, List.not_mem_nil, or_false] at ends
    rcases ends with rfl | rfl | rfl | rfl <;> simp
  rw [dropBreak, isLine.whole, List.reverse_append, List.dropWhile_append_of_pos breaks]
  cases turned : body.reverse with
  | nil => rw [List.reverse_eq_nil_iff.mp turned]; rfl
  | cons last before =>
      have plain := isLine.plain last (List.mem_reverse.mp (turned ▸ List.mem_cons_self))
      rw [List.dropWhile_cons_of_neg (by simpa using plain), ← turned, List.reverse_reverse]

/-- Only the last line has no break. -/
theorem unbroken_iff_last {text row body ending : List Char} {index : Nat} (here : (linesOf text)[index]? = some row)
    (isLine : IsLine row body ending) : ending = [] ↔ index + 1 = (linesOf text).length := by
  obtain ⟨bound, rfl⟩ := List.getElem?_eq_some_iff.mp here
  constructor
  · rintro rfl
    by_contra earlier
    have member : (linesOf text)[index] ∈ (linesOf text).dropLast :=
      List.mem_iff_getElem.mpr ⟨index, by rw [List.length_dropLast]; omega, List.getElem_dropLast _⟩
    obtain ⟨front, last, shape, isBreak⟩ := line_ends_with_break text _ member
    have within : last ∈ body := by
      rw [← List.append_nil body, ← isLine.whole, shape]
      exact List.mem_append_right _ (List.mem_singleton_self last)
    obtain ⟨noFeed, noReturn⟩ := isLine.plain last within
    exact isBreak.elim noFeed noReturn
  · intro final
    have last : (linesOf text).getLast? = some (linesOf text)[index] := by
      rw [List.getLast?_eq_getElem?, ← final, Nat.add_sub_cancel, here]
    have plain := last_line_plain last
    have ends := isLine.ends
    have inside : ∀ character ∈ ending, character ≠ '\n' ∧ character ≠ '\r' := fun character member =>
      plain character (isLine.whole ▸ List.mem_append_right _ member)
    simp only [List.mem_cons, List.not_mem_nil, or_false] at ends
    rcases ends with rfl | rfl | rfl | rfl <;> simp_all

/-- A line's characters stand in the text from its start on. -/
theorem line_in_text {text row : List Char} {index : Nat} (here : (linesOf text)[index]? = some row) :
    row <+: text.drop (lineOffset text index) := by
  obtain ⟨bound, rfl⟩ := List.getElem?_eq_some_iff.mp here
  have whole : text = ((linesOf text).take index).flatten ++ ((linesOf text).drop index).flatten := by
    rw [← List.flatten_append, List.take_append_drop, lines_flatten]
  have later := (congrArg (List.drop (lineOffset text index)) whole).trans List.drop_left
  rw [later, List.drop_eq_getElem_cons bound, List.flatten_cons]
  exact List.prefix_append _ _

/-! ### The tables -/

/-- A line before another one has at least its break, so starts rise strictly. -/
theorem line_offset_strict (text : List Char) {low high : Nat} (order : low < high)
    (bound : high < (linesOf text).length) : lineOffset text low < lineOffset text high := by
  have here : (linesOf text)[low]? = some (linesOf text)[low] := List.getElem?_eq_getElem (by omega)
  obtain ⟨body, ending, isLine⟩ := lines_parted text (linesOf text)[low] (List.getElem_mem _)
  have broken : ending ≠ [] := by
    rw [ne_eq, unbroken_iff_last here isLine]
    omega
  have width : 0 < (linesOf text)[low].length := by
    rw [isLine.whole, List.length_append]
    have positive := List.length_pos_iff.mpr broken
    omega
  have next := line_offset_succ text low (by omega)
  have later := line_offset_mono text (show low + 1 ≤ high by omega)
  omega

theorem starts_rise (text : List Char) : (Lines.of text).starts.toList.Pairwise (· < ·) := by
  rw [List.pairwise_iff_getElem]
  intro low high lowBound highBound order
  have size : (Lines.of text).starts.toList.length = (linesOf text).length := by
    simp [Lines.of, line_starts_length]
  have lowStart := start_of_line text (show low < (linesOf text).length by omega)
  have highStart := start_of_line text (show high < (linesOf text).length by omega)
  rw [← Array.getElem?_toList, List.getElem?_eq_getElem lowBound] at lowStart
  rw [← Array.getElem?_toList, List.getElem?_eq_getElem highBound] at highStart
  rw [Option.some.inj lowStart, Option.some.inj highStart]
  exact line_offset_strict text order (by omega)

/-! ### There and back -/

/-- The column of an offset counts from the start of its line. -/
theorem position_eq (text : List Char) (offset : Nat) :
    (Lines.of text).position offset =
      ⟨(Lines.of text).lineAt offset, offset - lineOffset text ((Lines.of text).lineAt offset - 1)⟩ := by
  obtain ⟨positive, within, _⟩ := line_at_bounds text offset
  have start := start_of_line text (show (Lines.of text).lineAt offset - 1 < (linesOf text).length by omega)
  rw [Lines.position, ← Lines.lineAt, if_neg (by omega), Array.getD_eq_getD_getElem?, start, Option.getD_some]

theorem offset_of_place (text : List Char) {index : Nat} (bound : index < (linesOf text).length) (column : Nat)
    (inside : lineOffset text index + column ≤ text.length) :
    (Lines.of text).offset? ⟨(index : Int) + 1, column⟩ = some ((lineOffset text index + column : Nat) : Int) := by
  have start := start_of_line text bound
  rw [Lines.offset?, line_index_eq text bound, Option.map_some, Array.getD_eq_getD_getElem?, start, Option.getD_some]
  congr 1
  show min ((lineOffset text index : Int) + (column : Int)) (text.length : Int) = _
  omega

/-- The line of an offset is the one that starts at or before it, the next one starting behind it. -/
theorem line_at_eq (text : List Char) {index offset : Nat} (bound : index < (linesOf text).length)
    (started : lineOffset text index ≤ offset)
    (ahead : index + 1 < (linesOf text).length → offset < lineOffset text (index + 1)) :
    (Lines.of text).lineAt offset = index + 1 := by
  have reached := line_at_of_start_le text bound started
  obtain ⟨_, within, startedToo, _⟩ := line_at_bounds text offset
  by_contra other
  have later := line_offset_mono text (show index + 1 ≤ (Lines.of text).lineAt offset - 1 by omega)
  have before := ahead (by omega)
  omega

/-- Positions in the order of reading. -/
def Position.Before (first second : Position) : Prop :=
  first.line < second.line ∨ first.line = second.line ∧ first.column < second.column

/-- An offset of the text has a position on one of the lines, and is the offset of that position. -/
theorem position_inside (text : List Char) {offset : Nat} (inside : offset ≤ text.length) :
    let place := (Lines.of text).position offset
    1 ≤ place.line ∧ place.line ≤ (linesOf text).length ∧ 0 ≤ place.column ∧
      (Lines.of text).offset? place = some (offset : Int) := by
  obtain ⟨positive, within, started, _⟩ := line_at_bounds text offset
  rw [position_eq]
  refine ⟨Int.ofNat_le.mpr positive, Int.ofNat_le.mpr within, Int.sub_nonneg.mpr (Int.ofNat_le.mpr started), ?_⟩
  have back := offset_of_place text (show (Lines.of text).lineAt offset - 1 < (linesOf text).length by omega)
    (offset - lineOffset text ((Lines.of text).lineAt offset - 1)) (by omega)
  have line : (((Lines.of text).lineAt offset - 1 : Nat) : Int) + 1 = (Lines.of text).lineAt offset := by omega
  rw [line, Nat.add_sub_cancel' started, Int.ofNat_sub started] at back
  exact back

/-- An offset before the text is told from the last line's start, as line zero. -/
theorem position_before_text (text : List Char) {offset : Int} (before : offset < 0) :
    (Lines.of text).position offset = ⟨0, offset - ((Lines.of text).starts.back?.getD 0 : Nat)⟩ := by
  have none : (Lines.of text).countUpTo offset = 0 := by
    obtain ⟨first, rest, split⟩ := List.exists_cons_of_ne_nil (lines_nonempty text)
    rw [Lines.countUpTo, Lines.of, split]
    simp [lineStarts, before]
  rw [Lines.position, none]
  rfl

/-- Later offsets have later positions, those before the text included. -/
theorem position_strict (text : List Char) {low high : Int} (order : low < high) :
    ((Lines.of text).position low).Before ((Lines.of text).position high) := by
  by_cases highBefore : high < 0
  · rw [position_before_text text highBefore, position_before_text text (show low < 0 by omega)]
    exact Or.inr ⟨rfl, by simpa using order⟩
  · obtain ⟨high, rfl⟩ := Int.eq_ofNat_of_zero_le (Int.not_lt.mp highBefore)
    obtain ⟨highPositive, _⟩ := line_at_bounds text high
    by_cases lowBefore : low < 0
    · rw [position_before_text text lowBefore, position_eq]
      exact Or.inl (by simpa using highPositive)
    · obtain ⟨low, rfl⟩ := Int.eq_ofNat_of_zero_le (Int.not_lt.mp lowBefore)
      have lines := line_at_mono text (show low ≤ high by omega)
      rw [position_eq, position_eq]
      rcases Nat.eq_or_lt_of_le lines with same | above
      · refine Or.inr ⟨congrArg Nat.cast same, ?_⟩
        rw [same]
        exact Int.sub_lt_sub_right order _
      · exact Or.inl (Int.ofNat_lt.mpr above)

/-- A place on a line, up to the last line's end, has an offset, and that has the place as its position. -/
theorem position_of_place {text row : List Char} {index column : Nat} (here : (linesOf text)[index]? = some row)
    (inside : column < row.length ∨ index + 1 = (linesOf text).length ∧ column ≤ row.length) :
    (Lines.of text).offset? ⟨(index : Int) + 1, column⟩ = some ((lineOffset text index + column : Nat) : Int) ∧
      (Lines.of text).position (lineOffset text index + column : Nat) = ⟨(index : Int) + 1, column⟩ := by
  obtain ⟨bound, rfl⟩ := List.getElem?_eq_some_iff.mp here
  have next := line_offset_succ text index bound
  have whole := line_offset_mono text (show index + 1 ≤ (linesOf text).length by omega)
  rw [line_offset_end] at whole
  have line : (Lines.of text).lineAt (lineOffset text index + column) = index + 1 :=
    line_at_eq text bound (by omega) (by omega)
  refine ⟨offset_of_place text bound column (by omega), ?_⟩
  have width : ((lineOffset text index + column : Nat) : Int) - lineOffset text index = column := by omega
  rw [position_eq, line, Nat.add_sub_cancel, width]
  rfl

/-- A line's end is where its break begins. -/
theorem line_end_at_break {text row body ending : List Char} {index : Nat} (here : (linesOf text)[index]? = some row)
    (isLine : IsLine row body ending) :
    (Lines.of text).lineEnd? ((index : Int) + 1) = some (lineOffset text index + body.length) := by
  obtain ⟨bound, rfl⟩ := List.getElem?_eq_some_iff.mp here
  have ends := line_end_eq text (show 0 < index + 1 by omega) (show index + 1 - 1 < (linesOf text).length by omega)
  simp only [Nat.add_sub_cancel, drop_break_of_line isLine] at ends
  exact ends

theorem slice_of_line {source : String} {row body ending : List Char} {index : Nat}
    (here : (linesOf source.toList)[index]? = some row) (isLine : IsLine row body ending) :
    (parse source).slice (lineOffset source.toList index) (lineOffset source.toList index + body.length) =
      String.ofList body := by
  obtain ⟨rest, split⟩ := line_in_text here
  have part : ((parse source).text.extract (lineOffset source.toList index)
      (lineOffset source.toList index + body.length)).toList = body := by
    rw [Array.toList_extract, List.extract_eq_take_drop, Nat.add_sub_cancel_left]
    show (source.toList.drop (lineOffset source.toList index)).take body.length = body
    rw [← split, isLine.whole, List.append_assoc, List.take_left]
  rw [Parsed.slice, part]

/-- The lines of a source give it back, and a break stands only at the end of a line. Line starts rise strictly from
zero. Every offset of the source has a position on one of the lines, and is the offset of that position; every place on
a line, up to the end of the last one, is the position of its offset; later offsets have later positions. The end of a
line is where its break begins: from its start to there stands what is on the line, without any break. -/
theorem offsets_and_positions_inverse (source : String) :
    let lines := (parse source).lines
    lines.texts.toList.flatten = source.toList ∧
    lines.starts[0]? = some 0 ∧ lines.starts.toList.Pairwise (· < ·) ∧
    (∀ offset ≤ source.length,
      1 ≤ (lines.position offset).line ∧ (lines.position offset).line ≤ lines.texts.size ∧
      0 ≤ (lines.position offset).column ∧ lines.offset? (lines.position offset) = some (offset : Int)) ∧
    (∀ low high : Int, low < high → (lines.position low).Before (lines.position high)) ∧
    ∀ index row, lines.texts[index]? = some row → ∃ start body ending,
      lines.starts[index]? = some start ∧ IsLine row body ending ∧ (ending = [] ↔ index + 1 = lines.texts.size) ∧
      lines.lineEnd? ((index : Int) + 1) = some (start + body.length) ∧
      (parse source).slice start (start + body.length) = String.ofList body ∧
      ∀ column : Nat, column < row.length ∨ index + 1 = lines.texts.size ∧ column ≤ row.length →
        lines.offset? ⟨(index : Int) + 1, column⟩ = some ((start + column : Nat) : Int) ∧
          lines.position (start + column : Nat) = ⟨(index : Int) + 1, column⟩ := by
  intro lines
  have size : lines.texts.size = (linesOf source.toList).length := List.size_toArray
  refine ⟨lines_flatten _, ?_, starts_rise _, ?_, fun low high => position_strict _, ?_⟩
  · exact start_of_line source.toList (List.length_pos_iff.mpr (lines_nonempty _))
  · intro offset inside
    rw [size]
    exact position_inside source.toList (by rwa [String.length_toList])
  · intro index row found
    have here : (linesOf source.toList)[index]? = some row := by
      rw [← found, ← Array.getElem?_toList]
      rfl
    obtain ⟨bound, _⟩ := List.getElem?_eq_some_iff.mp here
    obtain ⟨body, ending, isLine⟩ := lines_parted _ row (List.mem_of_getElem? here)
    rw [size]
    exact ⟨_, body, ending, start_of_line _ bound, isLine, unbroken_iff_last here isLine,
      line_end_at_break here isLine, slice_of_line here isLine, fun column => position_of_place here⟩

end LiveShell.Source
