import LiveShell.Text.Emoji
import LiveShell.Text.Wrapped
import Mathlib.Data.List.Infix

/-!
Text on a console. Breaking a text into lines moves blanks only: every character that can be seen comes out, in order.
A text of short lines without tabs and without characters for the console itself comes out as it is.
-/

namespace LiveShell.Text

set_option autoImplicit false

/-- A character that can be seen on a console. -/
def isVisible (character : Char) : Bool := !isSpace character && !isConsoleControl character

/-- What can be seen of a text. -/
def visible (text : List Char) : List Char := text.filter isVisible

variable {width : Nat} {text line : List Char} {words full : List (List Char)}

@[simp]
theorem visible_nil : visible [] = [] := rfl

@[simp]
theorem visible_append (first second : List Char) : visible (first ++ second) = visible first ++ visible second :=
  List.filter_append ..

theorem visible_blanks (blank : ∀ character ∈ text, isSpace character = true) : visible text = [] :=
  List.filter_eq_nil_iff.mpr fun character among => by simp [isVisible, blank character among]

/-! ### Lines of a text -/

theorem split_at_each_lines (mark : Char) (text : List Char) :
    (splitAtEach mark text).flatMap (· ++ [mark]) = text ++ [mark] := by
  induction text with
  | nil => rfl
  | cons character rest induction =>
      rw [splitAtEach]
      split
      · next same => rw [List.flatMap_cons, induction, same, List.nil_append, List.singleton_append, List.cons_append]
      · split
        · next none => simp [none] at induction
        · next piece pieces found =>
          rw [found, List.flatMap_cons] at induction
          rw [List.flatMap_cons, List.cons_append, List.cons_append, induction, List.cons_append]

theorem mem_of_line {mark character : Char} (among : line ∈ splitAtEach mark text) (inside : character ∈ line) :
    character ∈ text ∨ character = mark := by
  have present : character ∈ (splitAtEach mark text).flatMap (· ++ [mark]) :=
    List.mem_flatMap.mpr ⟨line, among, List.mem_append_left _ inside⟩
  rw [split_at_each_lines] at present
  simpa using present

theorem expand_tabs_visible (size column : Nat) (text : List Char) :
    visible (expandTabs size column text) = visible text := by
  induction text generalizing column with
  | nil => rfl
  | cons character rest induction =>
      unfold expandTabs
      split
      · cases ‹_ = []›
      · next same =>
        cases same
        have blank : visible ['\t'] = [] := by decide
        have spaces (count : Nat) : visible (List.replicate count ' ') = [] :=
          visible_blanks fun character among => by rw [List.eq_of_mem_replicate among]; decide
        rw [visible_append, induction, spaces, ← List.singleton_append, visible_append, blank]
      · next same =>
        cases same
        rw [← List.singleton_append, visible_append, induction, ← visible_append, List.singleton_append]

theorem expand_tabs_none (size column : Nat) (noTab : '\t' ∉ text) : expandTabs size column text = text := by
  induction text generalizing column with
  | nil => rfl
  | cons character rest induction =>
      unfold expandTabs
      split
      · cases ‹_ = []›
      · next same =>
        cases same
        exact absurd List.mem_cons_self noTab
      · next same =>
        cases same
        rw [induction _ (List.not_mem_of_not_mem_cons noTab)]

/-! ### Words of a line -/

theorem split_words_flatten (done rest : List Char) :
    (spacedWords.splitWords done rest).flatten = done.reverse ++ rest := by
  induction rest generalizing done with
  | nil =>
      unfold spacedWords.splitWords
      split <;> simp_all
  | cons character rest induction =>
      unfold spacedWords.splitWords
      split
      · rw [List.flatten_cons, induction]
        rfl
      · rw [induction]
        simp

/-- The words of a line, with the blanks around them, are the line; or it has none. -/
theorem spaced_words_flatten (line : List Char) : spacedWords line = [] ∨ (spacedWords line).flatten = line := by
  have whole := split_words_flatten [] (line.dropWhile isSpace)
  unfold spacedWords
  dsimp only
  split
  · exact .inl rfl
  · next word words found =>
      rw [found, List.flatten_cons] at whole
      rw [List.flatten_cons, List.append_assoc, whole]
      exact .inr List.takeWhile_append_dropWhile

theorem fold_word_flatten (width : Nat) (done : List Char) (filled : Nat) (rest : List Char) :
    (foldWord width done filled rest).flatten = done.reverse ++ rest := by
  induction rest generalizing done filled with
  | nil =>
      unfold foldWord
      split <;> simp_all
  | cons character rest induction =>
      unfold foldWord
      split
      · rw [List.flatten_cons, induction]
        rfl
      · rw [induction]
        simp

theorem last_piece_flatten (pieces : List (List Char)) :
    (pieces.drop 1).reverse.flatten ++ pieces.headD [] = pieces.reverse.flatten := by
  cases pieces <;> simp

/-- Filling lines with words loses nothing. -/
theorem fill_lines_flatten (width : Nat) (full : List (List Char)) (line : List Char) (words : List (List Char)) :
    (fillLines width full line words).flatten = full.reverse.flatten ++ line ++ words.flatten := by
  induction words generalizing full line with
  | nil => simp [fillLines]
  | cons word words induction =>
      have closed : (if line.isEmpty then full else line :: full).reverse.flatten = full.reverse.flatten ++ line := by
        cases line <;> simp
      rw [fillLines]
      dsimp only
      split
      · rw [induction]
        simp
      · split
        · rw [induction, closed]
          simp
        · have folded := last_piece_flatten (foldWord width [] 0 word).reverse
          rw [List.reverse_reverse, fold_word_flatten, List.reverse_nil, List.nil_append] at folded
          rw [induction, List.reverse_append, List.flatten_append, closed, List.append_assoc _ _ (List.headD ..),
            folded]
          simp

/-- Only blanks at the end of a line are trimmed. -/
theorem trim_behind_visible (width : Nat) (line : List Char) : visible (trimBehind width line) = visible line := by
  let blanks := (line.reverse.takeWhile isSpace).length
  let kept := line.length - min blanks (cellCount line - width)
  have behind : visible (line.drop kept) = [] := by
    refine visible_blanks fun character among => ?_
    have front := List.prefix_iff_eq_take.mp (List.takeWhile_prefix isSpace (l := line.reverse))
    have last : character ∈ line.reverse.take (min blanks (cellCount line - width)) := by
      rw [List.take_reverse]
      exact List.mem_reverse.mpr among
    have blank : character ∈ line.reverse.takeWhile isSpace := by
      rw [front]
      exact (List.take_prefix_take_left (Nat.min_le_left ..)).subset last
    exact List.all_eq_true.mp List.all_takeWhile _ blank
  have whole := congrArg visible (List.take_append_drop kept line)
  rwa [visible_append, behind, List.append_nil] at whole

theorem wrap_line_visible (width : Nat) (line : List Char) : visible (wrapLine width line).flatten = visible line := by
  have trimmed (lines : List (List Char)) : visible (lines.map (trimBehind width)).flatten = visible lines.flatten := by
    induction lines with
    | nil => rfl
    | cons first lines induction =>
        rw [List.map_cons, List.flatten_cons, visible_append, induction, trim_behind_visible, ← visible_append,
          List.flatten_cons]
  unfold wrapLine
  dsimp only
  rw [trimmed]
  rcases spaced_words_flatten line with none | whole
  · simp [none]
  · split
    · simp
    · rw [fill_lines_flatten, whole]
      simp

/-- Every character that can be seen comes out on the console, in order. -/
theorem on_console_visible (width : Nat) (text : String) :
    visible (onConsole width text).toList = visible text.toList := by
  have shownLines (lines : List (List Char)) : visible (lines.flatMap (· ++ ['\n'])) = visible lines.flatten := by
    induction lines with
    | nil => rfl
    | cons first lines induction =>
        have blank : visible ['\n'] = [] := by decide
        rw [List.flatMap_cons, visible_append, visible_append, blank, induction, List.append_nil, ← visible_append,
          List.flatten_cons]
  have wrapped (lines : List (List Char)) :
      visible (lines.flatMap fun line => wrapLine width (expandTabs 8 0 line)).flatten = visible lines.flatten := by
    induction lines with
    | nil => rfl
    | cons first lines induction =>
        rw [List.flatMap_cons, List.flatten_append, visible_append, induction, wrap_line_visible, expand_tabs_visible,
          ← visible_append, List.flatten_cons]
  have noControl : visible (text.toList.filter fun character => !isConsoleControl character) = visible text.toList := by
    rw [visible, visible, List.filter_filter]
    congr 1
    funext character
    rw [isVisible, Bool.and_assoc, Bool.and_self]
  have lines := shownLines (splitAtEach '\n' (text.toList.filter fun character => !isConsoleControl character))
  rw [split_at_each_lines, visible_append] at lines
  rw [onConsole, String.toList_ofList, shownLines, wrapped, ← noControl, ← lines]
  have blank : visible ['\n'] = [] := by decide
  rw [blank, List.append_nil]

/-! ### Texts that fit -/

theorem cell_count_append (first second : List Char) :
    cellCount (first ++ second) = cellCount first + cellCount second := by
  have shifted (start : Nat) (text : List Char) :
      text.foldl (fun count character => count + cellsOf character) start = start + cellCount text := by
    induction text generalizing start with
    | nil => rfl
    | cons character rest induction =>
        rw [cellCount, List.foldl_cons, List.foldl_cons, induction, induction]
        omega
  rw [cellCount, List.foldl_append, shifted]
  rfl

theorem cell_count_drop_end (drops : Char → Bool) (text : List Char) :
    cellCount (dropEnd drops text) ≤ cellCount text := by
  have whole : text = dropEnd drops text ++ (text.reverse.takeWhile drops).reverse := by
    rw [dropEnd, ← List.reverse_append, List.takeWhile_append_dropWhile, List.reverse_reverse]
  have counted := congrArg cellCount whole
  rw [cell_count_append] at counted
  omega

theorem fill_lines_fitting (fits : cellCount (line ++ words.flatten) ≤ width) :
    fillLines width [] line words = [line ++ words.flatten] := by
  induction words generalizing line with
  | nil => simp [fillLines]
  | cons word words induction =>
      rw [List.flatten_cons, ← List.append_assoc] at fits ⊢
      have room : cellCount line + cellCount (dropEnd isSpace word) ≤ width := by
        have := cell_count_drop_end isSpace word
        rw [cell_count_append, cell_count_append] at fits
        omega
      rw [fillLines]
      dsimp only
      rw [if_pos room, induction fits]

theorem trim_behind_fitting (fits : cellCount line ≤ width) : trimBehind width line = line := by
  rw [trimBehind, Nat.sub_eq_zero_of_le fits, Nat.min_zero, Nat.sub_zero, List.take_length]

theorem wrap_line_fitting (fits : cellCount line ≤ width) : wrapLine width line = [line] := by
  unfold wrapLine
  dsimp only
  split
  · rw [List.map_singleton, trim_behind_fitting fits]
  · next some =>
    rcases spaced_words_flatten line with none | whole
    · simp [none] at some
    · rw [fill_lines_fitting (by rwa [List.nil_append, whole]), List.nil_append, whole, List.map_singleton,
        trim_behind_fitting fits]

/-- A text that a console shows as it is: lines that fit, without tabs and without characters for the console. -/
structure IsPlainText (width : Nat) (text : List Char) : Prop where
  noControl : ∀ character ∈ text, isConsoleControl character = false
  noTab : '\t' ∉ text
  fits : ∀ line ∈ splitAtEach '\n' text, cellCount line ≤ width

theorem is_plain_text_iff : IsPlainText width text ↔ (text.all (!isConsoleControl ·) && !text.contains '\t' &&
    (splitAtEach '\n' text).all (cellCount · ≤ width)) = true := by
  simp only [Bool.and_eq_true, List.all_eq_true, Bool.not_eq_true', List.contains_eq_mem, decide_eq_false_iff_not,
    decide_eq_true_eq]
  constructor
  · exact fun plain => ⟨⟨plain.noControl, plain.noTab⟩, plain.fits⟩
  · rintro ⟨⟨noControl, noTab⟩, fits⟩
    exact ⟨noControl, noTab, fits⟩

instance : Decidable (IsPlainText width text) := decidable_of_iff _ is_plain_text_iff.symm

theorem on_console_plain {text : String} (plain : IsPlainText width text.toList) :
    onConsole width text = text ++ "\n" := by
  have whole : text.toList.filter (fun character => !isConsoleControl character) = text.toList :=
    List.filter_eq_self.mpr fun character among => by simp [plain.noControl character among]
  have single : (splitAtEach '\n' text.toList).flatMap (fun line => wrapLine width (expandTabs 8 0 line)) =
      splitAtEach '\n' text.toList := by
    rw [List.flatMap_congr fun line among => ?_, List.flatMap_singleton']
    have noTab : '\t' ∉ line := fun inside => by
      rcases mem_of_line among inside with tab | same
      · exact plain.noTab tab
      · cases same
    rw [expand_tabs_none 8 0 noTab, wrap_line_fitting (plain.fits line among)]
  rw [onConsole, whole, single, split_at_each_lines, String.ofList_append, String.ofList_toList]

/-! ### Codes of emoji -/

/-- A text with a code between colons. -/
def HoldsCode (text : List Char) : Prop :=
  ∃ before name after, text = before ++ ':' :: (name ++ ':' :: after) ∧ ∀ character ∈ name, isSpace character = false

/-- Where there is no colon there is no code. -/
theorem no_code_without_colon (noColon : ':' ∉ text) : ¬HoldsCode text := by
  rintro ⟨before, name, after, rfl, _⟩
  exact noColon (List.mem_append_right _ List.mem_cons_self)

/-- A code that is found is spelled out: no blank stands before the colon that ends it. -/
theorem code_at_spelled {name : List Char} {code : EmojiCode} (found : codeAt? name text = some code) :
    ∃ front after, text = front ++ ':' :: after ∧ ∀ character ∈ front, isSpace character = false := by
  induction text generalizing name with
  | nil => cases found
  | cons character rest induction =>
      rw [codeAt?] at found
      split at found
      · next ending mark variant =>
        have begins : ending.isPrefixOf (character :: rest) = true :=
          List.find?_some (p := fun variant : List Char × Char => variant.1.isPrefixOf (character :: rest)) variant
        obtain ⟨after, whole⟩ := List.isPrefixOf_iff_prefix.mp begins
        have known := List.mem_of_find?_eq_some variant
        simp only [variants, List.mem_cons, Prod.mk.injEq, List.not_mem_nil, or_false] at known
        have spelled (front : List Char) (clear : front.all (fun character => !isSpace character) = true) :
            ∀ character ∈ front, isSpace character = false := by simpa using clear
        rcases known with ⟨rfl, -⟩ | ⟨rfl, -⟩
        · exact ⟨"-emoji".toList, after, whole.symm, spelled _ (by decide)⟩
        · exact ⟨"-text".toList, after, whole.symm, spelled _ (by decide)⟩
      · split at found
        · next same => exact ⟨[], rest, by rw [same, List.nil_append], by simp⟩
        · split at found
          · cases found
          · next notBlank =>
            obtain ⟨front, after, rfl, spelled⟩ := induction found
            refine ⟨character :: front, after, rfl, fun other among => ?_⟩
            rcases List.mem_cons.mp among with rfl | later
            · simpa using notBlank
            · exact spelled other later

theorem with_emoji_none (none : ¬HoldsCode text) : withEmoji text = text := by
  unfold withEmoji
  induction text with
  | nil => rfl
  | cons character rest induction =>
      have later : ¬HoldsCode rest := by
        rintro ⟨before, name, after, whole, spelled⟩
        exact none ⟨character :: before, name, after, by rw [whole, List.cons_append], spelled⟩
      by_cases colon : character = ':'
      · subst colon
        rw [withEmojiAfter]
        cases found : codeAt? [] rest with
        | none => rw [induction later]
        | some code =>
            obtain ⟨front, after, rfl, spelled⟩ := code_at_spelled found
            exact absurd ⟨[], front, after, rfl, spelled⟩ none
      · rw [withEmojiAfter, induction later]
        simpa using colon

end LiveShell.Text
