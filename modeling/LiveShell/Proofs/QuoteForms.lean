import Mathlib.Data.List.TakeWhile
import Mathlib.Tactic.Tauto
import LiveShell.Completion.Suffixes
import LiveShell.Locate.Literal

/-!
The two readings of how a string literal opens: the one that makes a node and the one that completing inside a
literal uses. They are written apart and agree on every text, literal or not.
-/

namespace LiveShell.Literal

set_option autoImplicit false

theorem letter_iff (character : Char) :
    Completion.isLiteralLetter character = letters.contains character := by
  simp only [Completion.isLiteralLetter, letters, List.contains_eq_mem, List.mem_cons, List.not_mem_nil,
    or_false]
  congr 1
  apply propext
  tauto

/-- Which of the four quotes is tried in which order. -/
theorem quote_search (text : List Char) :
    Completion.quoteAt text =
      if [doubleQuote, doubleQuote, doubleQuote].isPrefixOf text then [doubleQuote, doubleQuote, doubleQuote]
      else if [singleQuote, singleQuote, singleQuote].isPrefixOf text then
        [singleQuote, singleQuote, singleQuote]
      else if [doubleQuote].isPrefixOf text then [doubleQuote]
      else if [singleQuote].isPrefixOf text then [singleQuote] else [] := by
  have spelled : (["\x22\x22\x22", "\x27\x27\x27", "\x22", "\x27"].map String.toList) =
      [[doubleQuote, doubleQuote, doubleQuote], [singleQuote, singleQuote, singleQuote], [doubleQuote],
        [singleQuote]] := by
    decide
  rw [Completion.quoteAt, spelled]
  simp only [List.find?_cons]
  repeat' split
  all_goals simp_all

/-- Trying the four quotes from the longest on finds the quote that looking at three characters tells. -/
theorem quote_found_eq (text : List Char) : Completion.quoteAt text = quoteAt text := by
  have apart : singleQuote ≠ doubleQuote := by decide
  rw [quote_search]
  match text with
  | [] => rfl
  | [first] => simp only [quoteAt, List.isPrefixOf]; grind
  | [first, second] => simp only [quoteAt, List.isPrefixOf]; grind
  | first :: second :: third :: rest => simp only [quoteAt, List.isPrefixOf]; grind

theorem drop_letters (belongs : Char → Bool) (raw : List Char) :
    raw.drop (raw.takeWhile belongs).length = raw.dropWhile belongs := by
  induction raw with
  | nil => rfl
  | cons character rest induction => by_cases letter : belongs character <;> simp [letter, induction]

/-- Both readings give the same letters and the same quote. -/
theorem literal_opening_eq (raw : List Char) : Completion.literalOpening raw = opening raw := by
  have letters_eq : Completion.isLiteralLetter = letters.contains := funext letter_iff
  simp only [Completion.literalOpening, opening, letters_eq, quote_found_eq, drop_letters]

/-! ### Texts that open a literal -/

def IsQuote (character : Char) : Prop := character = singleQuote ∨ character = doubleQuote

theorem quote_is_no_letter {character : Char} (isQuote : IsQuote character) :
    letters.contains character = false := by
  rcases isQuote with rfl | rfl <;> decide

theorem quote_is_no_break {character : Char} (isQuote : IsQuote character) :
    character ≠ '\n' ∧ character ≠ '\r' := by
  rcases isQuote with rfl | rfl <;> decide

theorem quote_at_front (text : List Char) : quoteAt text <+: text := by
  match text with
  | [] => exact List.nil_prefix
  | [first] => simp only [quoteAt]; split <;> simp
  | [first, second] => simp only [quoteAt]; split <;> simp
  | first :: second :: third :: rest => simp only [quoteAt]; grind

theorem quote_at_nonempty {character : Char} (isQuote : IsQuote character) (rest : List Char) :
    quoteAt (character :: rest) ≠ [] := by
  have known : (decide (character = singleQuote) || decide (character = doubleQuote)) = true := by
    simpa [IsQuote] using isQuote
  match rest with
  | [] => simp [quoteAt, known]
  | [second] => simp [quoteAt, known]
  | second :: third :: more =>
      simp only [quoteAt, known, if_true]
      split <;> simp

theorem quote_at_other {character : Char} (other : ¬IsQuote character) (rest : List Char) :
    quoteAt (character :: rest) = [] := by
  have unknown : (decide (character = singleQuote) || decide (character = doubleQuote)) = false := by
    simpa [IsQuote] using other
  match rest with
  | [] => simp [quoteAt, unknown]
  | [second] => simp [quoteAt, unknown]
  | second :: third :: more => simp [quoteAt, unknown]

/-- A quote at the start of a text is one of the two marks, once or three times. -/
theorem quote_at_known {text : List Char} (filled : quoteAt text ≠ []) :
    ∃ mark, IsQuote mark ∧ (quoteAt text = [mark] ∨ quoteAt text = [mark, mark, mark]) := by
  cases text with
  | nil => exact absurd rfl filled
  | cons first rest =>
      by_cases isQuote : IsQuote first
      · have known : (decide (first = singleQuote) || decide (first = doubleQuote)) = true := by
          simpa [IsQuote] using isQuote
        refine ⟨first, isQuote, ?_⟩
        match rest with
        | [] => simp [quoteAt, known]
        | [second] => simp [quoteAt, known]
        | second :: third :: more =>
            simp only [quoteAt, known, if_true]
            split <;> simp
      · exact absurd (quote_at_other isQuote rest) filled

/-- A text is its letters, its quote and the rest. -/
theorem opening_split (raw : List Char) :
    raw = (opening raw).1 ++ (opening raw).2 ++
      raw.drop ((opening raw).1.length + (opening raw).2.length) := by
  have tail : (opening raw).2 <+: raw.drop (opening raw).1.length := by
    simp only [opening, drop_letters]
    exact quote_at_front _
  obtain ⟨rest, split⟩ := tail
  have shorter : raw.drop ((opening raw).1.length + (opening raw).2.length) = rest := by
    rw [← List.drop_drop, ← split, List.drop_left]
  rw [shorter, List.append_assoc, split, opening]
  exact (List.takeWhile_append_dropWhile.symm.trans (by rw [drop_letters]))

/-- Letters before a quote are the letters of the literal that the quote opens. -/
theorem opening_after_letters {before : List Char} {quote : Char} (rest : List Char)
    (allLetters : ∀ letter ∈ before, letters.contains letter = true) (isQuote : IsQuote quote) :
    opening (before ++ quote :: rest) = (before, quoteAt (quote :: rest)) := by
  have noLetter : ¬letters.contains quote = true := by
    rw [quote_is_no_letter isQuote]
    exact Bool.false_ne_true
  simp only [opening]
  rw [List.takeWhile_append_of_pos allLetters, List.dropWhile_append_of_pos allLetters,
    List.takeWhile_cons_of_neg noLetter, List.dropWhile_cons_of_neg noLetter, List.append_nil]

/-- A single character that opens a literal is a quote. -/
theorem lone_quote {text : List Char} (short : text.length ≤ 1) (opens : (opening text).2 ≠ []) :
    ∃ quote, text = [quote] ∧ IsQuote quote := by
  match text with
  | [] => exact absurd rfl opens
  | [character] =>
      refine ⟨character, rfl, ?_⟩
      by_contra other
      apply opens
      by_cases letter : letters.contains character = true
      · rw [opening, List.dropWhile_cons_of_pos letter]
        rfl
      · rw [opening, List.dropWhile_cons_of_neg letter]
        exact quote_at_other other []
  | first :: second :: rest => simp at short

/-- A text that opens a literal starts with a letter or a quote, and with no line break. -/
theorem opening_head {raw : List Char} (opens : (opening raw).2 ≠ []) :
    ∃ first rest, raw = first :: rest ∧ first ≠ '\n' ∧ first ≠ '\r' := by
  cases raw with
  | nil => exact absurd rfl opens
  | cons first rest =>
      refine ⟨first, rest, rfl, ?_⟩
      by_cases letter : letters.contains first = true
      · constructor
        · rintro rfl
          exact absurd letter (by decide)
        · rintro rfl
          exact absurd letter (by decide)
      · rw [opening, List.dropWhile_cons_of_neg letter] at opens
        by_contra broken
        refine opens (quote_at_other (fun quoted => ?_) rest)
        exact broken (quote_is_no_break quoted)

end LiveShell.Literal
