import LiveShell.Proofs.LexemeBrackets
import Mathlib.Data.List.Infix
import Mathlib.Logic.Relation

/-!
The course of reading lexemes. What one step can do is said once: it takes characters and puts lexemes that are no
brackets, or it takes a sign and keeps count of brackets. From that follows for the whole reading that the open brackets
are those of the lexemes read so far, and that a closing bracket on the last line is the last lexeme.
-/

namespace LiveShell.Code.Lexeme

set_option autoImplicit false

/-! ### Characters passed over -/

/-- A text goes on as another one, without a closing bracket up to there. -/
def SkipsTo (text rest : List Char) : Prop := ∃ taken, text = taken ++ rest ∧ ')' ∉ taken

variable {text rest after : List Char} {character : Char}

theorem SkipsTo.refl (text : List Char) : SkipsTo text text := ⟨[], rfl, List.not_mem_nil⟩

theorem SkipsTo.trans (first : SkipsTo text rest) (second : SkipsTo rest after) : SkipsTo text after := by
  obtain ⟨taken, rfl, clear⟩ := first
  obtain ⟨further, rfl, clear'⟩ := second
  exact ⟨taken ++ further, (List.append_assoc ..).symm, by simp [clear, clear']⟩

theorem SkipsTo.cons (skips : SkipsTo text rest) (other : character ≠ ')') : SkipsTo (character :: text) rest := by
  obtain ⟨taken, rfl, clear⟩ := skips
  exact ⟨character :: taken, rfl, List.not_mem_cons_of_ne_of_not_mem other.symm clear⟩

theorem skips_while (belongs : Char → Bool) (outside : belongs ')' = false) (text : List Char) :
    SkipsTo text (text.drop (text.takeWhile belongs).length) := by
  refine ⟨text.takeWhile belongs, List.prefix_append_drop (List.takeWhile_prefix _), fun present => ?_⟩
  rw [List.all_eq_true.mp List.all_takeWhile _ present] at outside
  cases outside

/-! Numbers. -/

theorem skips_digits {isDigit : Char → Bool} (outside : isDigit ')' = false) {digits : List Char}
    (taken : takeDigits isDigit text = some (digits, rest)) : SkipsTo text rest := by
  have other {character : Char} (digit : isDigit character = true) : character ≠ ')' := by
    rintro rfl
    rw [digit] at outside
    cases outside
  fun_induction takeDigits generalizing digits with
  | case1 digit remaining isDigit induction =>
      obtain ⟨⟨_, _⟩, before, same⟩ := Option.map_eq_some_iff.mp taken
      cases same
      exact ((induction before).cons (other isDigit)).cons (by decide)
  | case2 | case3 => cases taken
  | case4 character remaining _ _ isDigit induction =>
      obtain ⟨⟨_, _⟩, before, same⟩ := Option.map_eq_some_iff.mp taken
      cases same
      exact (induction before).cons (other isDigit)
  | case5 | case6 =>
      cases taken
      exact .refl _

theorem skips_based_number {base : Nat} {value : Literal}
    (taken : basedNumber? base text = some (value, rest)) : SkipsTo text rest := by
  unfold basedNumber? at taken
  extract_lets isDigit afterSign at taken
  have outside : isDigit ')' = false := rfl
  have skipsDigits {behind : List Char} (taken : afterSign behind = some (value, rest)) : SkipsTo behind rest := by
    unfold afterSign at taken
    extract_lets digitsBehind at taken
    have digitsSkipped (taken : digitsBehind () = some (value, rest)) : SkipsTo behind rest := by
      obtain ⟨⟨digits, remaining⟩, found, taken⟩ := Option.bind_eq_some_iff.mp taken
      dsimp only at taken
      split at taken
      · cases taken
        exact skips_digits outside found
      · cases taken
    split at taken
    · cases taken
    · exact digitsSkipped taken
  split at taken
  · next remaining =>
    split at taken
    · exact (skipsDigits taken).cons (by decide)
    · cases taken
  · exact skipsDigits taken

theorem skips_exponent {exponent : Option (List Char)} (taken : takeExponent text = some (exponent, rest)) :
    SkipsTo text rest := by
  unfold takeExponent at taken
  split at taken
  · next letter remaining =>
    split at taken
    · next isLetter =>
      have other : letter ≠ ')' := by rintro rfl; simp at isLetter
      split at taken
      next sign digits found =>
      have signSkipped : SkipsTo remaining digits := by
        split at found <;> cases found
        · exact (SkipsTo.refl _).cons (by decide)
        · exact (SkipsTo.refl _).cons (by decide)
        · exact .refl _
      split at taken
      · obtain ⟨⟨_, _⟩, before, same⟩ := Option.map_eq_some_iff.mp taken
        cases same
        exact (signSkipped.trans (skips_digits (by decide) before)).cons other
      · cases taken
        exact .refl _
    · cases taken
      exact .refl _
  · cases taken
    exact .refl _

theorem skips_decimal_number {value : Literal} (taken : decimalNumber? text = some (value, rest)) :
    SkipsTo text rest := by
  unfold decimalNumber? at taken
  extract_lets afterWhole at taken
  have skipsFromPoint {whole behind : List Char} (taken : afterWhole (whole, behind) = some (value, rest)) :
      SkipsTo behind rest := by
    dsimp -zeta only [afterWhole] at taken
    extract_lets number afterPlaces at taken
    have skipsFromExponent {places : Option (List Char)} {behind : List Char}
        (taken : afterPlaces (places, behind) = some (value, rest)) :
        SkipsTo behind rest := by
      obtain ⟨⟨exponent, remaining⟩, found, taken⟩ := Option.bind_eq_some_iff.mp taken
      refine (skips_exponent found).trans ?_
      dsimp only at taken
      split at taken
      · next letter after =>
        split at taken
        · next isLetter =>
          split at taken
          · cases taken
            exact (SkipsTo.refl _).cons (by rintro rfl; simp at isLetter)
          · cases taken
        · split_ifs at taken <;> cases taken <;> exact .refl _
      · split_ifs at taken <;> cases taken <;> exact .refl _
    split at taken
    · split at taken
      · obtain ⟨⟨digits, remaining⟩, found, taken⟩ := Option.bind_eq_some_iff.mp taken
        obtain ⟨⟨_, _⟩, before, same⟩ := Option.map_eq_some_iff.mp found
        cases same
        exact ((skips_digits (by decide) before).trans (skipsFromExponent taken)).cons (by decide)
      · exact (skipsFromExponent taken).cons (by decide)
    · exact skipsFromExponent taken
  split at taken
  · obtain ⟨⟨digits, remaining⟩, found, taken⟩ := Option.bind_eq_some_iff.mp taken
    exact (skips_digits (by decide) found).trans (skipsFromPoint taken)
  · exact skipsFromPoint taken

theorem skips_number {value : Literal} (taken : numberAt? text = some (value, rest)) : SkipsTo text rest := by
  rw [numberAt?.eq_def] at taken
  split at taken
  · next letter remaining =>
      have skipsBased {base : Nat} (other : letter ≠ ')') (taken : basedNumber? base remaining = some (value, rest)) :
          SkipsTo ('0' :: letter :: remaining) rest :=
        ((skips_based_number taken).cons other).cons (by decide)
      split_ifs at taken with isHexadecimal isOctal isBinary
      · exact skipsBased (by rintro rfl; simp at isHexadecimal) taken
      · exact skipsBased (by rintro rfl; simp at isOctal) taken
      · exact skipsBased (by rintro rfl; simp at isBinary) taken
      · exact skips_decimal_number taken
  · exact skips_decimal_number taken

/-! Blanks, literals and signs. -/

theorem skips_indentation {wide narrow : Nat} {widths : Nat × Nat}
    (taken : takeIndentation wide narrow text = some (widths, rest)) : SkipsTo text rest := by
  fun_induction takeIndentation generalizing widths with
  | case1 _ _ _ induction | case2 _ _ _ induction | case3 _ _ _ induction =>
      exact (induction taken).cons (by decide)
  | case4 _ _ remaining induction =>
      obtain ⟨⟨_, _⟩, before, same⟩ := Option.map_eq_some_iff.mp taken
      cases same
      exact ((induction before).cons (by decide)).cons (by decide)
  | case5 =>
      cases taken
      exact .refl _

theorem operator_split {sign : String} (found : operatorAt? text = some (sign, rest)) :
    sign ∈ operators ∧ text = sign.toList ++ rest := by
  obtain ⟨known, listed, taken⟩ := List.exists_of_findSome?_eq_some found
  dsimp only at taken
  split at taken
  · next front =>
      cases taken
      exact ⟨listed, List.prefix_append_drop (List.isPrefixOf_iff_prefix.mp front)⟩
  · cases taken

theorem body_split {quote : Char} {tripled : Bool} {done body : List Char}
    (taken : takeBody quote tripled done text = some (body, rest)) : ∃ before, text = before ++ quote :: rest := by
  fun_induction takeBody generalizing body with
  | case1 => cases taken
  | case2 _ character remaining induction =>
      obtain ⟨before, rfl⟩ := induction taken
      exact ⟨'\\' :: character :: before, rfl⟩
  | case3 =>
      cases taken
      exact ⟨[], by simp_all⟩
  | case4 =>
      cases taken
      exact ⟨[quote, quote], by simp_all⟩
  | case5 _ second third after _ _ _ induction =>
      obtain ⟨before, same⟩ := induction taken
      exact ⟨quote :: before, by rw [same, List.cons_append]⟩
  | case6 | case7 => cases taken
  | case8 _ character remaining _ _ _ induction =>
      obtain ⟨before, rfl⟩ := induction taken
      exact ⟨character :: before, rfl⟩

theorem literal_split {letters : List Char} {quote : Char} (found : literalAt? text = some (letters, quote, rest)) :
    quote ≠ ')' ∧ ∃ before, text = before ++ rest := by
  unfold literalAt? at found
  dsimp only at found
  split at found
  · next opening remaining split =>
      split at found
      · next quoted =>
          cases found
          let letters := (text.takeWhile isAsciiLetter).map Char.toLower
          refine ⟨by rintro rfl; simp at quoted, text.take letters.length ++ [quote], ?_⟩
          rw [List.append_assoc, List.singleton_append, ← split, List.take_append_drop]
      · cases found
  · cases found

theorem quoted_split {letters : List Char} {quote : Char} {lexeme : Lexeme}
    (found : quotedAt? letters quote text = some (lexeme, rest)) :
    (∃ body, lexeme = quoted letters body) ∧ ∃ before, text = before ++ quote :: rest := by
  unfold quotedAt? at found
  dsimp only at found
  obtain ⟨⟨body, _⟩, taken, same⟩ := Option.map_eq_some_iff.mp found
  cases same
  refine ⟨⟨body, rfl⟩, ?_⟩
  obtain ⟨before, behind⟩ := body_split taken
  split at behind
  · next second third remaining =>
      split at behind
      · exact ⟨second :: third :: before, congrArg ([second, third] ++ ·) behind⟩
      · exact ⟨before, behind⟩
  · exact ⟨before, behind⟩

theorem comment_split (text : List Char) : ∃ comment, text = comment ++ dropComment text ∧
    (comment = [] ∨ ∃ body, comment = '#' :: body ∧ '\n' ∉ body) := by
  unfold dropComment
  split
  · next body =>
      refine ⟨('#' :: body).takeWhile (· ≠ '\n'), (List.takeWhile_append_dropWhile ..).symm, .inr ?_⟩
      refine ⟨body.takeWhile (· ≠ '\n'), rfl, fun present => ?_⟩
      simpa using List.all_eq_true.mp List.all_takeWhile _ present
  · exact ⟨[], rfl, .inl rfl⟩

/-! ### What a step does -/

/-- Characters that no closing bracket ends, unless it stands in a comment there. -/
def EndsOpen (taken : List Char) : Prop :=
  (∀ before, taken ≠ before ++ [')']) ∨ ∃ before comment, taken = before ++ '#' :: comment ∧ '\n' ∉ comment

/-- A lexeme that is neither a sign nor the end. -/
def IsPlain : Lexeme → Prop
  | operator _ | finish => False
  | _ => True

/-- What one step of reading does: it takes characters and puts lexemes that are no signs, or it takes a sign. -/
inductive Stepped (state next : State) : Prop
  | quiet (taken : List Char) (put : List Lexeme) (rest : state.rest = taken ++ next.rest)
      (done : next.done = put ++ state.done) (brackets : next.brackets = state.brackets)
      (plain : ∀ lexeme ∈ put, IsPlain lexeme) (ends : EndsOpen taken)
  | sign (sign : String) (known : sign ∈ operators) (rest : state.rest = sign.toList ++ next.rest)
      (done : next.done = operator sign :: state.done)
      (tracked : trackBrackets state.brackets sign = .ok next.brackets)

variable {state next : State}

theorem ends_open_of_last {before : List Char} (other : character ≠ ')') : EndsOpen (before ++ [character]) :=
  .inl fun before' same => other (by cases (List.append_inj' same rfl).2; rfl)

theorem ends_open_of_skips (skips : SkipsTo text rest) : ∃ taken, text = taken ++ rest ∧ EndsOpen taken := by
  obtain ⟨taken, split, clear⟩ := skips
  exact ⟨taken, split, .inl fun before same => clear (by simp [same])⟩

/-- A step that passes over characters and puts lexemes that are no signs. -/
theorem Stepped.of_skips (put : List Lexeme) (skips : SkipsTo state.rest next.rest) (done : next.done = put ++ state.done)
    (brackets : next.brackets = state.brackets) (plain : ∀ lexeme ∈ put, IsPlain lexeme) : Stepped state next := by
  obtain ⟨taken, split, ends⟩ := ends_open_of_skips skips
  exact .quiet taken put split done brackets plain ends

theorem close_blocks_puts {wide narrow : Nat} {blocks blocks' : List (Nat × Nat)} {done done' : List Lexeme}
    (closed : closeBlocks wide narrow blocks done = .ok (blocks', done')) :
    ∃ put, done' = put ++ done ∧ ∀ lexeme ∈ put, lexeme = dedent := by
  induction blocks generalizing done with
  | nil =>
      simp only [closeBlocks] at closed
      split_ifs at closed
      cases closed
      exact ⟨[], rfl, by simp⟩
  | cons block blocks induction =>
      simp only [closeBlocks] at closed
      split_ifs at closed
      · obtain ⟨put, rfl, dedents⟩ := induction closed
        exact ⟨put ++ [dedent], by simp, by simpa [or_imp, forall_and] using dedents⟩
      all_goals cases closed
      exact ⟨[], rfl, by simp⟩

theorem begin_line_steps (stepped : beginLine state = .ok next) : Stepped state next := by
  unfold beginLine at stepped
  split at stepped
  · cases stepped
  · next wide narrow behind found =>
      have blank := skips_indentation found
      obtain ⟨comment, split, shape⟩ := comment_split behind
      split at stepped
      · -- The text ends on this line, maybe with a comment.
        next ended =>
        cases stepped
        rw [ended, List.append_nil] at split
        subst split
        rcases shape with rfl | ⟨body, rfl, inLine⟩
        · exact .of_skips [] blank rfl rfl (by simp)
        · obtain ⟨taken, same, _⟩ := blank
          exact .quiet (taken ++ '#' :: body) [] (by simpa using same) rfl rfl (by simp)
            (.inr ⟨taken, body, rfl, inLine⟩)
      · next after ended =>
        cases stepped
        obtain ⟨taken, same, _⟩ := blank
        refine .quiet ((taken ++ comment) ++ ['\n']) [] ?_ rfl rfl (by simp) (ends_open_of_last (by decide))
        rw [same, split, ended]
        simp
      · split at stepped
        next topWide topNarrow top =>
        split_ifs at stepped
        · cases stepped
          exact .of_skips [] blank rfl rfl (by simp)
        · cases stepped
          exact .of_skips [indent] blank rfl rfl (by simp [IsPlain])
        · rcases closed : closeBlocks wide narrow state.blocks state.done with fault | ⟨blocks, done⟩
          · rw [closed] at stepped
            cases stepped
          · rw [closed] at stepped
            cases stepped
            obtain ⟨put, rfl, dedents⟩ := close_blocks_puts closed
            exact .of_skips put blank rfl rfl fun lexeme among => by simp [dedents lexeme among, IsPlain]

theorem read_lexeme_steps (stepped : readLexeme state = .ok next) : Stepped state next := by
  unfold readLexeme at stepped
  dsimp only at stepped
  split at stepped
  · next ended =>
    cases stepped
    exact .of_skips [] (.refl _) rfl rfl (by simp)
  · next behind start =>
    split at stepped
    · cases stepped
    · cases stepped
    · next after =>
      cases stepped
      exact .of_skips [] (start ▸ ((SkipsTo.refl _).cons (by decide)).cons (by decide)) rfl rfl (by simp)
    · cases stepped
  · next behind start =>
    have skips : SkipsTo state.rest behind := start ▸ (SkipsTo.refl _).cons (by decide)
    split at stepped
    · cases stepped
      exact .of_skips [newline] skips rfl rfl (by simp [IsPlain])
    · cases stepped
      exact .of_skips [] skips rfl rfl (by simp)
  · next character behind _ _ start =>
    split at stepped
    · next blank =>
      cases stepped
      exact .of_skips [] (start ▸ (SkipsTo.refl _).cons (by rintro rfl; simp at blank)) rfl rfl (by simp)
    split at stepped
    · next isComment =>
      cases stepped
      obtain ⟨comment, split, shape⟩ := comment_split state.rest
      refine .quiet comment [] split rfl rfl (by simp) ?_
      rcases shape with rfl | ⟨body, rfl, inLine⟩
      · exact .inl (by simp)
      · exact .inr ⟨[], body, rfl, inLine⟩
    split at stepped
    · next letters quote after found =>
      obtain ⟨other, before, split⟩ := literal_split found
      split at stepped
      · next lexeme remaining taken =>
        cases stepped
        obtain ⟨⟨body, rfl⟩, inside, behind⟩ := quoted_split taken
        refine .quiet ((before ++ inside) ++ [quote]) [quoted letters body] ?_ rfl rfl (by simp [IsPlain])
          (ends_open_of_last other)
        rw [split, behind]
        simp
      · cases stepped
    · split at stepped
      · split at stepped
        · next value remaining taken =>
          cases stepped
          exact .of_skips [number value] (skips_number taken) rfl rfl (by simp [IsPlain])
        · cases stepped
      split at stepped
      · split at stepped
        · cases stepped
          exact .of_skips [name _] (skips_while mayContinueName (by decide) _) rfl rfl
            (by simp [IsPlain])
        · cases stepped
      · split at stepped
        · next sign remaining found =>
          obtain ⟨known, split⟩ := operator_split found
          cases tracked : trackBrackets state.brackets sign with
          | error fault =>
              rw [tracked] at stepped
              cases stepped
          | ok brackets =>
              rw [tracked] at stepped
              cases stepped
              exact .sign sign known split rfl tracked
        · cases stepped

theorem steps_of_ok (stepped : (if state.atLineStart then beginLine state else readLexeme state) = .ok next) :
    Stepped state next := by
  split at stepped
  · exact begin_line_steps stepped
  · exact read_lexeme_steps stepped

/-! ### What every step keeps -/

theorem brackets_after_plain {put : List Lexeme} (plain : ∀ lexeme ∈ put, IsPlain lexeme) (brackets : List Char) :
    bracketsAfter brackets put = some brackets := by
  induction put with
  | nil => rfl
  | cons lexeme put induction =>
      have past : bracketsPast brackets lexeme = some brackets := by
        have isPlain := plain lexeme List.mem_cons_self
        cases lexeme <;> first | rfl | exact isPlain.elim
      rw [bracketsAfter, past]
      exact induction fun other among => plain other (List.mem_cons_of_mem _ among)

/-- What holds of a state of reading, whatever the text: the open brackets are those of the lexemes so far, and the end
is not among these. -/
structure Consistent (state : State) : Prop where
  brackets : bracketsAfter [] state.done.reverse = some state.brackets
  unfinished : finish ∉ state.done

theorem Stepped.consistent (stepped : Stepped state next) (before : Consistent state) : Consistent next := by
  cases stepped with
  | quiet taken put _ done brackets plain _ =>
      refine ⟨?_, ?_⟩
      · rw [done, brackets, List.reverse_append, brackets_after_append, before.brackets]
        exact brackets_after_plain (fun lexeme among => plain lexeme (List.mem_reverse.mp among)) _
      · rw [done, List.mem_append]
        rintro (among | among)
        · exact plain _ among
        · exact before.unfinished among
  | sign sign _ _ done tracked =>
      refine ⟨?_, ?_⟩
      · rw [done, List.reverse_cons, brackets_after_append, before.brackets]
        simp [bracketsAfter, bracketsPast, tracked, Except.toOption]
      · rw [done]
        exact List.not_mem_cons_of_ne_of_not_mem (fun same => by cases same) before.unfinished

/-- A text that ends with a closing bracket on a line of its own, or is only that bracket. -/
def EndsClosing (text : List Char) : Prop := (∃ before, text = before ++ ['\n', ')']) ∨ text = [')']

theorem EndsClosing.behind {taken : List Char} (ends : EndsClosing (taken ++ rest)) : EndsClosing rest ∨ rest = [] := by
  rcases ends with ⟨before, split⟩ | single
  · rcases List.append_eq_append_iff.mp split with ⟨between, _, same⟩ | ⟨between, _, same⟩
    · exact .inl (.inl ⟨between, same⟩)
    · rcases between with _ | ⟨_, _ | ⟨_, _ | _⟩⟩ <;> simp_all [EndsClosing]
  · rcases List.append_eq_singleton_iff.mp single with ⟨_, same⟩ | ⟨_, same⟩
    · exact .inl (.inr same)
    · exact .inr same

/-- Such a text is not used up by a comment, or by anything that a closing bracket does not end. -/
theorem EndsClosing.not_open (ends : EndsClosing text) : ¬EndsOpen text := by
  rintro (other | ⟨lead, comment, split, inLine⟩)
  · rcases ends with ⟨before, rfl⟩ | rfl
    · exact other (before ++ ['\n']) (by simp)
    · exact other [] rfl
  · subst split
    rcases ends with ⟨before, same⟩ | single
    · rcases List.append_eq_append_iff.mp same with ⟨between, _, same⟩ | ⟨between, _, same⟩
      · rcases between with _ | ⟨_, _⟩
        · simp at same
        · rw [List.cons_append, List.cons.injEq] at same
          exact inLine (by simp [same.2])
      · rcases between with _ | ⟨_, _ | ⟨_, _ | _⟩⟩ <;> simp_all
    · rcases List.append_eq_singleton_iff.mp single with ⟨_, same⟩ | ⟨_, same⟩ <;> simp at same

/-- The closing bracket at the end of the text is still to come, or it is the last lexeme. -/
def ClosesLast (state : State) : Prop :=
  EndsClosing state.rest ∨ state.rest = [] ∧ ∃ earlier, state.done = operator ")" :: earlier

theorem Stepped.closes_last (stepped : Stepped state next) (more : state.rest ≠ []) (before : ClosesLast state) :
    ClosesLast next := by
  have ends : EndsClosing state.rest := before.resolve_right fun used => more used.1
  cases stepped with
  | quiet taken put split _ _ _ isOpen =>
      rw [split] at ends
      rcases ends.behind with later | used
      · exact .inl later
      · rw [used, List.append_nil] at ends
        exact absurd isOpen ends.not_open
  | sign sign known split done _ =>
      rw [split] at ends
      rcases ends.behind with later | used
      · exact .inl later
      · rw [used, List.append_nil] at ends
        have onLine : ∀ sign ∈ operators, '\n' ∉ sign.toList := by decide
        refine .inr ⟨used, state.done, ?_⟩
        rcases ends with ⟨before, same⟩ | single
        · exact absurd (by simp [same]) (onLine sign known)
        · rw [done, singleton_of_to_list single]
          rfl

theorem Stepped.grows (stepped : Stepped state next) : state.done <:+ next.done := by
  cases stepped with
  | quiet _ put _ done => exact ⟨put, done.symm⟩
  | sign _ _ _ done => exact ⟨[_], done.symm⟩

/-! ### The whole course -/

/-- States that reading can come to. -/
abbrev Reaches : State → State → Prop := Relation.ReflTransGen fun state next => state.rest ≠ [] ∧ Stepped state next

/-- Reading comes to a state with nothing left and no bracket open, or stops at a fault with the lexemes so far. -/
theorem read_all_course (fuel : Nat) (state : State) :
    ∃ last, Reaches state last ∧
      (readAll fuel state = (finishLexemes last, none) ∧ last.rest = [] ∧ last.brackets = [] ∨
        ∃ fault, readAll fuel state = (last.done.reverse, some fault)) := by
  induction fuel generalizing state with
  | zero => exact ⟨state, .refl, .inr ⟨_, rfl⟩⟩
  | succ fuel induction =>
      rw [readAll]
      split
      · next ended =>
          split
          · next closed =>
              exact ⟨state, .refl, .inl ⟨rfl, List.isEmpty_iff.mp ended, List.isEmpty_iff.mp closed⟩⟩
          · exact ⟨state, .refl, .inr ⟨_, rfl⟩⟩
      · next more =>
          dsimp only
          split
          · next next stepped =>
              obtain ⟨last, reaches, outcome⟩ := induction next
              exact ⟨last, .head ⟨mt List.isEmpty_iff.mpr more, steps_of_ok stepped⟩ reaches, outcome⟩
          · exact ⟨state, .refl, .inr ⟨_, rfl⟩⟩

/-- What holds at first and is kept by every step holds of all that reading comes to. -/
theorem Reaches.keeps (holds : State → Prop) {last : State} (reaches : Reaches state last)
    (kept : ∀ {state next}, state.rest ≠ [] → Stepped state next → holds state → holds next) (first : holds state) :
    holds last := by
  induction reaches with
  | refl => exact first
  | tail _ step induction => exact kept step.1 step.2 induction

/-- Lexemes that were read up to a fault have no end. -/
theorem unfinished_of_fault {text : String} (faulty : (lexemes text).2 ≠ none) : finish ∉ (lexemes text).1 := by
  obtain ⟨last, reaches, outcome⟩ := read_all_course (2 * (unifyBreaks text.toList).length + 2)
    { rest := unifyBreaks text.toList }
  have consistent : Consistent last :=
    reaches.keeps Consistent (fun _ step => step.consistent) ⟨rfl, List.not_mem_nil⟩
  rw [lexemes] at faulty ⊢
  rcases outcome with ⟨read, _⟩ | ⟨fault, read⟩
  · rw [read] at faulty
    exact absurd rfl faulty
  · rw [read]
    exact mt List.mem_reverse.mp consistent.unfinished

/-! ### Texts in brackets -/

/-- A mark for the end of a line, a block or the text. -/
def IsMark (lexeme : Lexeme) : Prop := lexeme = newline ∨ lexeme = dedent ∨ lexeme = finish

theorem finish_lexemes_split (state : State) :
    ∃ marks, finishLexemes state = state.done.reverse ++ marks ∧ ∀ mark ∈ marks, IsMark mark := by
  unfold finishLexemes
  dsimp only
  split
  · refine ⟨(finish :: state.blocks.map fun _ => dedent).reverse, List.reverse_append, ?_⟩
    simp [or_imp, forall_and, IsMark]
  · refine ⟨newline :: (finish :: state.blocks.map fun _ => dedent).reverse, by simp, ?_⟩
    simp [or_imp, forall_and, IsMark]

theorem unify_breaks_ends (before : List Char) :
    ∃ unified, unifyBreaks (before ++ ['\n', ')']) = unified ++ ['\n', ')'] := by
  generalize same : before ++ ['\n', ')'] = text
  fun_induction unifyBreaks generalizing before with
  | case1 rest induction =>
      rcases before with _ | ⟨_, _ | ⟨_, further⟩⟩
      · cases same
      · cases same
        exact ⟨[], rfl⟩
      · cases same
        obtain ⟨unified, ends⟩ := induction further rfl
        exact ⟨'\n' :: unified, by rw [ends]; rfl⟩
  | case2 rest _ induction =>
      rcases before with _ | ⟨_, further⟩
      · cases same
      · cases same
        obtain ⟨unified, ends⟩ := induction further rfl
        exact ⟨'\n' :: unified, by rw [ends]; rfl⟩
  | case3 character rest _ _ induction =>
      rcases before with _ | ⟨_, further⟩
      · cases same
        exact ⟨[], rfl⟩
      · cases same
        obtain ⟨unified, ends⟩ := induction further rfl
        exact ⟨character :: unified, by rw [ends]; rfl⟩
  | case4 => simp at same

/-- A text that starts with an opening bracket is read up to there. -/
theorem reads_opening (behind : List Char) (fuel : Nat) :
    readAll (fuel + 2) { rest := '(' :: behind } =
      readAll fuel { rest := behind, brackets := ['('], atLineStart := false, done := [operator "("] } := rfl

/-- A text that stands between an opening bracket and a closing one on a line of its own. When it is read without a
fault, the brackets are the first and the last lexeme. Either they belong together, or the text closes the first one
and opens one for the last. -/
theorem bracketed_lexemes (inside : List Char)
    (faultless : (lexemes (String.ofList ('(' :: inside ++ ['\n', ')']))).2 = none) :
    ∃ inner marks, (lexemes (String.ofList ('(' :: inside ++ ['\n', ')']))).1 =
        operator "(" :: (inner ++ operator ")" :: marks) ∧
      (∀ mark ∈ marks, IsMark mark) ∧ (Balanced inner ∨ ClosesEarly inner) := by
  obtain ⟨unified, ends⟩ := unify_breaks_ends inside
  have begins : unifyBreaks (String.ofList ('(' :: inside ++ ['\n', ')'])).toList = '(' :: (unified ++ ['\n', ')']) := by
    rw [String.toList_ofList, ← ends]
    rfl
  rw [lexemes, begins, reads_opening] at faultless ⊢
  obtain ⟨last, reaches, outcome⟩ := read_all_course (2 * ('(' :: (unified ++ ['\n', ')'])).length)
    { rest := unified ++ ['\n', ')'], brackets := ['('], atLineStart := false, done := [operator "("] }
  rcases outcome with ⟨read, used, closed⟩ | ⟨fault, read⟩
  · rw [read]
    have consistent : Consistent last := reaches.keeps Consistent (fun _ step => step.consistent) ⟨rfl, by simp⟩
    have opened : [operator "("] <:+ last.done := reaches.keeps (fun state => [operator "("] <:+ state.done)
      (fun _ step before => before.trans step.grows) (List.suffix_refl _)
    have closes : ClosesLast last :=
      reaches.keeps ClosesLast (fun more step => step.closes_last more) (.inl (.inl ⟨unified, rfl⟩))
    rcases closes with ends | ⟨_, earlier, done⟩
    · rw [used] at ends
      exact absurd ends (by simp [EndsClosing])
    · rw [done, List.suffix_cons_iff] at opened
      obtain ⟨inner, rfl⟩ := opened.resolve_left (by simp)
      obtain ⟨marks, split, areMarks⟩ := finish_lexemes_split last
      refine ⟨inner.reverse, marks, by simp [split, done], areMarks, balanced_or_closes_early ?_⟩
      simpa [done, closed] using consistent.brackets
  · rw [read] at faultless
    cases faultless

end LiveShell.Code.Lexeme
