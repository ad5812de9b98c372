import LiveShell.Text.Shortened
import Mathlib.Data.List.Infix

/-!
Texts cut to a width. Only the words of a text count, with single blanks between them. When they fit, all of them stay;
else a front part of them stays, with the mark after it. So a text is shown unchanged just when it fits and holds no
blanks but single ones between words.
-/

namespace LiveShell.Text

set_option autoImplicit false

/-! ### Words and blanks -/

/-- A word: some characters, none of them a blank. -/
def IsWord (word : List Char) : Prop := word ≠ [] ∧ ∀ character ∈ word, isSpace character = false

/-- A text with no blanks but single ones between words. -/
def IsTidy (text : List Char) : Prop := ∃ words : List (List Char), (∀ word ∈ words, IsWord word) ∧ text = spaced words

variable {word text : List Char} {parts : List (List Char)}

@[simp]
theorem spaced_nil : spaced [] = [] := rfl

@[simp]
theorem spaced_single (word : List Char) : spaced [word] = word := by simp [spaced]

@[simp]
theorem spaced_cons_cons (word next : List Char) (parts : List (List Char)) :
    spaced (word :: next :: parts) = word ++ ' ' :: spaced (next :: parts) := by
  simp [spaced]

theorem spaced_length_cons (word : List Char) (parts : List (List Char)) :
    (spaced (word :: parts)).length ≤ word.length + 1 + (spaced parts).length := by
  cases parts with
  | nil => simp
  | cons next parts =>
      rw [spaced_cons_cons, List.length_append, List.length_cons]
      omega

/-- What is gathered are words. -/
theorem gathered_words (clear : ∀ character ∈ word, isSpace character = false) :
    ∀ part ∈ words.gather word text, IsWord part := by
  induction text generalizing word with
  | nil =>
      intro part among
      unfold words.gather at among
      split at among
      · cases among
      · next filled =>
          obtain rfl := List.mem_singleton.mp among
          exact ⟨by simpa using filled, by simpa using clear⟩
  | cons character rest induction =>
      unfold words.gather
      split
      · split
        · exact induction (by simp)
        · next filled =>
            intro part among
            rcases List.mem_cons.mp among with rfl | later
            · exact ⟨by simpa using filled, by simpa using clear⟩
            · exact induction (by simp) part later
      · next visible =>
          exact induction (by simpa [visible] using clear)

theorem words_are_words (text : List Char) : ∀ part ∈ words text, IsWord part := gathered_words (by simp)

/-- No text gets longer when its blanks are collapsed. -/
theorem gathered_length (word text : List Char) :
    (spaced (words.gather word text)).length ≤ word.length + text.length := by
  induction text generalizing word with
  | nil =>
      unfold words.gather
      split <;> simp
  | cons character rest induction =>
      unfold words.gather
      rw [List.length_cons]
      split
      · split
        · have := induction []
          simp only [List.length_nil] at this
          omega
        · have := induction []
          have := spaced_length_cons word.reverse (words.gather [] rest)
          simp only [List.length_nil, List.length_reverse] at *
          omega
      · have := induction (character :: word)
        rw [List.length_cons] at this
        omega

theorem collapsed_length (text : List Char) : (spaced (words text)).length ≤ text.length :=
  (gathered_length [] text).trans_eq (Nat.zero_add _)

theorem gather_visible (visible : ∀ character ∈ text, isSpace character = false) (word rest : List Char) :
    words.gather word (text ++ rest) = words.gather (text.reverse ++ word) rest := by
  induction text generalizing word with
  | nil => rfl
  | cons character text induction =>
      have first : isSpace character = false := visible character List.mem_cons_self
      rw [List.cons_append, words.gather, if_neg (by simp [first]),
        induction fun other among => visible other (List.mem_cons_of_mem _ among)]
      simp

/-- Words with single blanks between them are found again. -/
theorem words_spaced (areWords : ∀ part ∈ parts, IsWord part) : words (spaced parts) = parts := by
  induction parts with
  | nil => rfl
  | cons part parts induction =>
      obtain ⟨filled, visible⟩ := areWords part List.mem_cons_self
      cases parts with
      | nil =>
          have gathered := gather_visible visible [] []
          rw [spaced_single, words, ← List.append_nil part, gathered, words.gather]
          simp [filled]
      | cons next parts =>
          rw [spaced_cons_cons, words, gather_visible visible, words.gather, if_pos (by decide),
            if_neg (by simpa using filled)]
          have later := induction fun other among => areWords other (List.mem_cons_of_mem _ among)
          rw [words] at later
          simp [later]

/-- A text is tidy when collapsing its blanks leaves it as it is. -/
theorem tidy_iff : IsTidy text ↔ spaced (words text) = text := by
  constructor
  · rintro ⟨parts, areWords, rfl⟩
    rw [words_spaced areWords]
  · exact fun same => ⟨words text, words_are_words text, same.symm⟩

/-- Words do not end with a blank, whatever stands between them. -/
theorem spaced_ends_visible (areWords : ∀ part ∈ parts, IsWord part) (front : List Char) :
    spaced parts ≠ front ++ [' '] := by
  induction parts generalizing front with
  | nil => simp
  | cons part parts induction =>
      have later := induction fun other among => areWords other (List.mem_cons_of_mem _ among)
      cases parts with
      | nil =>
          intro same
          have visible := (areWords part List.mem_cons_self).2 ' ' (by rw [← spaced_single part, same]; simp)
          exact absurd visible (by decide)
      | cons next parts =>
          rw [spaced_cons_cons]
          intro same
          rcases List.eq_nil_or_concat (spaced (next :: parts)) with empty | ⟨inner, last, split⟩
          · have filled := (areWords next (by simp)).1
            cases parts <;> simp [filled] at empty
          · rw [List.concat_eq_append] at split
            rw [split, ← List.cons_append, ← List.append_assoc] at same
            obtain ⟨_, ended⟩ := List.append_inj' same rfl
            exact later inner (ended ▸ split)

/-! ### Chunks -/

theorem chunks_from_flatten (text : Array Char) (fuel place : Nat) (enough : text.size ≤ place + fuel) :
    (chunksFrom text fuel place).flatten = text.toList.drop place := by
  induction fuel generalizing place with
  | zero =>
      rw [chunksFrom, List.drop_eq_nil_of_le (by simpa using enough)]
      rfl
  | succ fuel induction =>
      rw [chunksFrom]
      split
      · dsimp only
        let stop := max (chunkEnd text place) (place + 1)
        have onward : place ≤ stop := by omega
        have behind : text.toList.drop stop = (text.toList.drop place).drop (stop - place) := by
          rw [List.drop_drop, Nat.add_sub_cancel' onward]
        rw [List.flatten_cons, induction _ (by omega), Array.toList_extract, List.extract_eq_take_drop, behind,
          List.take_append_drop]
      · rw [List.drop_eq_nil_of_le (by simp; omega)]
        rfl

theorem chunks_flatten (text : List Char) : (chunks text).flatten = text :=
  chunks_from_flatten text.toArray text.length 0 (by simp)

/-! ### Fitting chunks -/

/-- Where cutting stands: the chunks taken and those left make up a text, and the length is that of the chunks taken. -/
structure Cutting (whole : List Char) (taken : List (List Char)) (length : Nat) (rest : List (List Char)) : Prop where
  split : taken.reverse.flatten ++ rest.flatten = whole
  counted : length = taken.reverse.flatten.length

variable {whole mark : List Char} {width length : Nat} {taken rest : List (List Char)}

theorem take_fitting_cuts (width : Nat) (before : Cutting whole taken length rest) :
    Cutting whole (takeFitting width taken length rest).1 (takeFitting width taken length rest).2.1
      (takeFitting width taken length rest).2.2 := by
  induction rest generalizing taken length with
  | nil => exact before
  | cons chunk rest induction =>
      rw [takeFitting]
      split
      · exact induction ⟨by simpa using before.split, by simp [before.counted]⟩
      · exact before

/-- All chunks are taken when they fit together. -/
theorem take_fitting_all (before : Cutting whole taken length rest) (fits : whole.length ≤ width) :
    (takeFitting width taken length rest).2.2 = [] := by
  induction rest generalizing taken length with
  | nil => rfl
  | cons chunk rest induction =>
      have room : length + chunk.length ≤ width := by
        have total := congrArg List.length before.split
        simp only [List.length_append, List.flatten_cons, ← before.counted] at total
        omega
      rw [takeFitting, if_pos room]
      exact induction ⟨by simpa using before.split, by simp [before.counted]⟩

/-- A mark comes after a front part of what was taken; with it, the width is kept, if the mark alone keeps it. -/
theorem mark_after_front (width : Nat) (mark : List Char) (counted : length = taken.reverse.flatten.length) :
    ∃ front, markAfter width mark length taken = front ++ mark ∧ front <+: taken.reverse.flatten ∧
      (front ++ mark).length ≤ max width mark.length := by
  induction taken generalizing length with
  | nil => exact ⟨[], rfl, List.nil_prefix, Nat.le_max_right ..⟩
  | cons chunk before induction =>
      rw [markAfter]
      split
      · next fits =>
        refine ⟨_, rfl, List.prefix_refl _, ?_⟩
        simp only [Bool.and_eq_true, decide_eq_true_eq] at fits
        rw [List.length_append, ← counted]
        omega
      · obtain ⟨front, same, within, short⟩ := induction
          (by simp [counted] : length - chunk.length = before.reverse.flatten.length)
        exact ⟨front, same, within.trans (by simp), short⟩

theorem take_fitting_within (room : length ≤ width) : (takeFitting width taken length rest).2.1 ≤ width := by
  induction rest generalizing taken length with
  | nil => exact room
  | cons chunk rest induction =>
      rw [takeFitting]
      split
      · next fits => exact induction fits
      · exact room

/-! ### Shortening -/

theorem cutting_start (whole : List Char) : Cutting whole [] 0 (chunks whole) := ⟨chunks_flatten whole, rfl⟩

theorem Cutting.front (cutting : Cutting whole taken length rest) : taken.reverse.flatten <+: whole :=
  ⟨_, cutting.split⟩

theorem shorten_fitting (fits : (spaced (words text)).length ≤ width) :
    shorten width mark text = spaced (words text) := by
  have cutting := take_fitting_cuts width (cutting_start (spaced (words text)))
  have all := take_fitting_all (cutting_start (spaced (words text))) fits
  unfold shorten
  rcases found : takeFitting width [] 0 (chunks (spaced (words text))) with ⟨taken, length, rest⟩
  rw [found] at cutting all
  obtain rfl : rest = [] := all
  have split := cutting.split
  rw [List.flatten_nil, List.append_nil] at split
  dsimp only
  split
  · next before =>
    exact absurd split.symm (by simpa using spaced_ends_visible (words_are_words text) _)
  · simpa using split

/-- A chunk may be cut in two, the first part taken. -/
theorem Cutting.cut {chunk : List Char} (cutting : Cutting whole taken length (chunk :: rest)) (place : Nat) :
    Cutting whole (chunk.take place :: taken) (length + (chunk.take place).length) (chunk.drop place :: rest) where
  split := by
    rw [← cutting.split, List.reverse_cons, List.flatten_append, List.flatten_singleton, List.append_assoc,
      List.flatten_cons, ← List.append_assoc (chunk.take place), List.take_append_drop, List.flatten_cons]
  counted := by
    rw [List.reverse_cons, List.flatten_append, List.flatten_singleton, List.length_append, cutting.counted]

/-- What is left over is marked: a line that is not the end of its text keeps a front part and gets the mark. -/
theorem line_marked (cutting : Cutting whole taken length rest) (more : rest ≠ []) (blank : rest ≠ [[' ']]) :
    ∃ front, (match (match taken with
        | [' '] :: before => (before, length - 1)
        | taken => (taken, length)) with
      | (taken, length) =>
        if rest.isEmpty || (rest = [[' ']] && length ≤ width) then taken.reverse.flatten
        else markAfter width mark length taken) = front ++ mark ∧
      front <+: whole ∧ (front ++ mark).length ≤ max width mark.length := by
  have cut : (rest.isEmpty || (rest = [[' ']] && length ≤ width)) = false := by simp [more, blank]
  split
  next kept count line =>
  have front : kept.reverse.flatten <+: whole ∧ count = kept.reverse.flatten.length := by
    split at line
    · cases line
      exact ⟨.trans (by simp) cutting.front, by simp [cutting.counted]⟩
    · cases line
      exact ⟨cutting.front, cutting.counted⟩
  obtain ⟨part, same, within, short⟩ := mark_after_front width mark front.2
  rw [if_neg (by simp [more, blank])]
  exact ⟨part, same, within.trans front.1, short⟩

theorem shorten_cut (mark : List Char) (wide : width < (spaced (words text)).length) :
    ∃ front, shorten width mark text = front ++ mark ∧ front <+: spaced (words text) ∧
      (front ++ mark).length ≤ max width mark.length := by
  have cutting := take_fitting_cuts width (cutting_start (spaced (words text)))
  have within : (takeFitting width [] 0 (chunks (spaced (words text)))).2.1 ≤ width := take_fitting_within (Nat.zero_le _)
  have notBlank {taken rest : List (List Char)} {length : Nat} (cutting : Cutting (spaced (words text)) taken length rest) :
      rest ≠ [[' ']] := by
    rintro rfl
    exact spaced_ends_visible (words_are_words text) taken.reverse.flatten cutting.split.symm
  unfold shorten
  rcases found : takeFitting width [] 0 (chunks (spaced (words text))) with ⟨taken, length, rest⟩
  rw [found] at cutting within
  cases rest with
  | nil =>
      have total := cutting.split
      rw [List.flatten_nil, List.append_nil] at total
      rw [← total, ← cutting.counted] at wide
      exact absurd within (Nat.not_le.mpr wide)
  | cons chunk later =>
      dsimp only
      split
      · have inPieces := cutting.cut (cutWithin (width - length) chunk)
        exact line_marked inPieces nofun (notBlank inPieces)
      · exact line_marked cutting nofun (notBlank cutting)

/-- A text that is shortened, so that it keeps the width. -/
theorem shorten_length (room : mark.length ≤ width) : (shorten width mark text).length ≤ width := by
  rcases Nat.lt_or_ge width (spaced (words text)).length with wide | fits
  · obtain ⟨front, same, _, short⟩ := shorten_cut mark wide
    rw [same]
    omega
  · rw [shorten_fitting fits]
    exact fits

/-- A text is shown as it is just when it is tidy and fits. -/
theorem shorten_eq_self_iff (room : mark.length ≤ width) :
    shorten width mark text = text ↔ IsTidy text ∧ text.length ≤ width := by
  constructor
  · intro same
    have fits : text.length ≤ width := same ▸ shorten_length room
    rw [shorten_fitting ((collapsed_length text).trans fits)] at same
    exact ⟨tidy_iff.mpr same, fits⟩
  · rintro ⟨tidy, fits⟩
    rw [shorten_fitting ((collapsed_length text).trans fits), tidy_iff.mp tidy]

/-- A tidy text that does not fit keeps a front part, with the mark after it. -/
theorem shorten_tidy_wide (mark : List Char) (tidy : IsTidy text) (wide : width < text.length) :
    ∃ front, shorten width mark text = front ++ mark ∧ front <+: text := by
  have collapsed := tidy_iff.mp tidy
  obtain ⟨front, same, within, _⟩ := shorten_cut mark (by rwa [collapsed] : width < (spaced (words text)).length)
  rw [collapsed] at within
  exact ⟨front, same, within⟩

end LiveShell.Text
