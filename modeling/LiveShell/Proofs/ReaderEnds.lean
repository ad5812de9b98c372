import LiveShell.Code.Reader
import LiveShell.Proofs.LexerCourse
import Mathlib

/-!
The end of a text and its readers. A reader takes lexemes from the front and never makes one up, so what it leaves holds
the end of the text only if the end was there before. The end is put by reading lexemes without a fault; a text that is
read as an expression is therefore free of faults in its lexemes.
-/

namespace LiveShell.Code

set_option autoImplicit false
set_option mvcgen.warning false

open Std.Do

namespace Reader

variable {α β : Type}

/-- A reader that makes up no end: where none was to come, none is left. -/
abbrev MakesNoEnd (reader : Reader α) : Prop :=
  ⦃fun rest => ⌜Lexeme.finish ∉ rest⌝⦄ reader ⦃⇓? _ rest => ⌜Lexeme.finish ∉ rest⌝⦄

/-- What that says of a single run. -/
theorem makes_no_end_iff {reader : Reader α} : MakesNoEnd reader ↔
    ∀ before value after, Lexeme.finish ∉ before → reader.run before = .ok (value, after) → Lexeme.finish ∉ after := by
  have onRun (before : List Lexeme) : (wp⟦reader⟧ (⇓? _ rest => ⌜Lexeme.finish ∉ rest⌝) before).down ↔
      (wp⟦reader.run before⟧ (⇓? pair => ⌜Lexeme.finish ∉ pair.2⌝)).down := by
    simp only [wp, PredTrans.apply_pushArg]
    rfl
  have failed (fault : Fault) : wp⟦(Except.error fault : Except Fault (α × List Lexeme))⟧
      (⇓? pair => ⌜Lexeme.finish ∉ pair.2⌝) = ⌜True⌝ := by
    change wp⟦(MonadExceptOf.throw fault : Except Fault (α × List Lexeme))⟧ _ = _
    simp
  have given (pair : α × List Lexeme) : wp⟦(Except.ok pair : Except Fault (α × List Lexeme))⟧
      (⇓? pair => ⌜Lexeme.finish ∉ pair.2⌝) = ⌜Lexeme.finish ∉ pair.2⌝ := by
    change wp⟦(pure pair : Except Fault (α × List Lexeme))⟧ _ = _
    simp
  constructor
  · intro keeps before value after unended outcome
    have told := (onRun before).mp (Triple.iff.mp keeps before unended)
    rw [outcome, given] at told
    exact told
  · intro told
    refine Triple.iff.mpr fun before unended => (onRun before).mpr ?_
    rcases outcome : reader.run before with fault | ⟨value, after⟩
    · rw [failed]
      trivial
    · rw [given]
      exact told before value after unended outcome

theorem makes_no_end_bind {first : Reader α} {next : α → Reader β} (early : MakesNoEnd first)
    (late : ∀ value, MakesNoEnd (next value)) : MakesNoEnd (first >>= next) :=
  Triple.bind first next early late

/-! ### Refusing -/

theorem refuse_fails (before : List Lexeme) : ∃ fault, ∀ γ : Type, (refuse : Reader γ).run before = .error fault := by
  cases next : before.headD .finish with
  | indent | dedent =>
      refine ⟨.indentation, fun γ => ?_⟩
      simp only [refuse, peek, StateT.run_bind, StateT.run_get, StateT.run_pure, pure_bind, next]
      rfl
  | _ =>
      refine ⟨.malformed, fun γ => ?_⟩
      simp only [refuse, peek, StateT.run_bind, StateT.run_get, StateT.run_pure, pure_bind, next]
      rfl

/-- Nothing follows when a reader refuses. -/
theorem refuse_bind (next : α → Reader β) : refuse >>= next = refuse := by
  funext before
  obtain ⟨fault, refused⟩ := refuse_fails before
  have first : (refuse : Reader α) before = .error fault := refused α
  have same : (refuse : Reader β) before = .error fault := refused β
  change ((refuse : Reader α) before >>= _) = _
  rw [first, same]
  rfl

@[spec]
theorem makes_no_end_refuse : MakesNoEnd (refuse : Reader α) := by
  refine makes_no_end_iff.mpr fun before value after _ outcome => ?_
  obtain ⟨fault, refused⟩ := refuse_fails before
  rw [refused] at outcome
  cases outcome

theorem makes_no_end_throw (fault : Fault) : MakesNoEnd (throw fault : Reader α) :=
  makes_no_end_iff.mpr fun _ _ _ _ outcome => nomatch outcome

/-! ### Single lexemes -/

@[spec]
theorem makes_no_end_peek : MakesNoEnd peek := by mvcgen [peek]

@[spec]
theorem makes_no_end_peek_next : MakesNoEnd peekNext := by mvcgen [peekNext]

@[spec]
theorem makes_no_end_advance : MakesNoEnd advance := by
  mvcgen [advance]
  exact fun present => ‹Lexeme.finish ∉ _› (List.mem_of_mem_drop present)

@[spec]
theorem makes_no_end_bound : MakesNoEnd bound := by mvcgen [bound]

@[spec]
theorem makes_no_end_at_operator (sign : String) : MakesNoEnd (atOperator sign) := by mvcgen [atOperator]

@[spec]
theorem makes_no_end_take_operator (sign : String) : MakesNoEnd (takeOperator sign) := by mvcgen [takeOperator]

@[spec]
theorem makes_no_end_expect_operator (sign : String) : MakesNoEnd (expectOperator sign) := by mvcgen [expectOperator]

@[spec]
theorem makes_no_end_at_word (word : String) : MakesNoEnd (atWord word) := by mvcgen [atWord]

@[spec]
theorem makes_no_end_take_word (word : String) : MakesNoEnd (takeWord word) := by mvcgen [takeWord]

@[spec]
theorem makes_no_end_expect_word (word : String) : MakesNoEnd (expectWord word) := by mvcgen [expectWord]

@[spec]
theorem makes_no_end_expect_name : MakesNoEnd expectName := by mvcgen [expectName]

@[spec]
theorem makes_no_end_take_relation : MakesNoEnd takeRelation := by mvcgen [takeRelation]

@[spec]
theorem makes_no_end_at_clause : MakesNoEnd atClause := by mvcgen [atClause]

/-! ### Repetitions: by induction on how often they may go on -/

section Repetitions

variable {item : Reader Expr} (items : MakesNoEnd item)
include items

@[spec]
theorem makes_no_end_more_items (starts : Lexeme → Bool) (fuel : Nat) : MakesNoEnd (moreItems item starts fuel) := by
  induction fuel with
  | zero => mvcgen [moreItems]
  | succ fuel induction => mvcgen [moreItems, items, induction]

@[spec]
theorem makes_no_end_chain (operators : List (String × BinaryOperator)) (fuel : Nat) (left : Expr) :
    MakesNoEnd (chain item operators fuel left) := by
  induction fuel generalizing left with
  | zero => mvcgen [chain]
  | succ fuel induction => mvcgen [chain, items, induction]

@[spec]
theorem makes_no_end_more_operands (word : String) (fuel : Nat) : MakesNoEnd (moreOperands word item fuel) := by
  induction fuel with
  | zero => mvcgen [moreOperands]
  | succ fuel induction => mvcgen [moreOperands, items, induction]

@[spec]
theorem makes_no_end_more_relations (fuel : Nat) : MakesNoEnd (moreRelations item fuel) := by
  induction fuel with
  | zero => mvcgen [moreRelations]
  | succ fuel induction => mvcgen [moreRelations, items, induction]

@[spec]
theorem makes_no_end_more_parameters (annotated : Bool) (closer : String) (fuel : Nat) (state : ParameterState) :
    MakesNoEnd (moreParameters item annotated closer fuel state) := by
  induction fuel generalizing state with
  | zero => mvcgen [moreParameters]
  | succ fuel induction =>
      simp only [moreParameters, refuse_bind]
      refine makes_no_end_bind (makes_no_end_at_operator _) fun atEnd => ?_
      split
      · mvcgen
      split
      · mvcgen
      refine makes_no_end_bind ?parameter fun next => ?others
      case parameter => mvcgen [items]
      case others => mvcgen [induction]

@[spec]
theorem makes_no_end_more_arguments {named : Reader Expr} {clauses : ClauseReader} (names : MakesNoEnd named)
    (gathers : MakesNoEnd clauses) (fuel : Nat) (state : ArgumentState) :
    MakesNoEnd (moreArguments named item clauses fuel state) := by
  induction fuel generalizing state with
  | zero => mvcgen [moreArguments]
  | succ fuel induction =>
      simp only [moreArguments, refuse_bind]
      refine makes_no_end_bind (makes_no_end_take_operator _) fun atEnd => ?_
      split
      · mvcgen
      refine makes_no_end_bind ?argument fun next => ?others
      case argument => mvcgen [names, items, gathers]
      case others => mvcgen [induction]

end Repetitions

@[spec]
theorem makes_no_end_take_quoted (fuel : Nat) : MakesNoEnd (takeQuoted fuel) := by
  induction fuel with
  | zero => mvcgen [takeQuoted]
  | succ fuel induction => mvcgen [takeQuoted, induction]

/-! ### Levels, with a reader for the levels inside -/

section Levels

variable {read : Level → Reader Expr} (inner : ∀ level, MakesNoEnd (read level))
include inner

@[spec]
theorem makes_no_end_take_clauses (fuel : Nat) : MakesNoEnd (takeClauses read fuel) := by
  induction fuel with
  | zero => mvcgen [takeClauses]
  | succ fuel induction => mvcgen [takeClauses, inner, induction]

@[spec]
theorem makes_no_end_take_trailers (fuel : Nat) (value : Expr) : MakesNoEnd (takeTrailers read fuel value) := by
  induction fuel generalizing value with
  | zero => mvcgen [takeTrailers]
  | succ fuel induction => mvcgen [takeTrailers, inner, induction]

@[spec]
theorem makes_no_end_after_round : MakesNoEnd (afterRound read) := by mvcgen [afterRound, inner]

@[spec]
theorem makes_no_end_after_square : MakesNoEnd (afterSquare read) := by mvcgen [afterSquare, inner]

@[spec]
theorem makes_no_end_take_entry : MakesNoEnd (takeEntry read) := by mvcgen [takeEntry, inner]

@[spec]
theorem makes_no_end_after_brace : MakesNoEnd (afterBrace read) := by mvcgen [afterBrace, inner]

theorem makes_no_end_read_atom : MakesNoEnd (readAtom read) := by
  refine makes_no_end_bind makes_no_end_peek fun lexeme => ?_
  split
  case h_6 =>
    -- The values of a row of texts come from no reader of these lexemes.
    refine makes_no_end_bind makes_no_end_bound fun count => ?_
    refine makes_no_end_bind (makes_no_end_take_quoted _) fun found => ?_
    split
    · mvcgen
    · exact makes_no_end_throw _
  all_goals mvcgen [inner]

@[spec]
theorem makes_no_end_read_slice : MakesNoEnd (readSlice read) := by mvcgen [readSlice, inner]

theorem makes_no_end_read_level (level : Level) : MakesNoEnd (readLevel read level) := by
  cases level with
  | atom => exact makes_no_end_read_atom inner
  | _ => mvcgen [readLevel, requireTarget, inner]

end Levels

@[spec]
theorem makes_no_end_read_at (fuel : Nat) (level : Level) : MakesNoEnd (readAt fuel level) := by
  induction fuel generalizing level with
  | zero => exact makes_no_end_refuse
  | succ fuel induction => exact makes_no_end_read_level induction level

end Reader

/-- A text that is read as an expression has no fault in its lexemes: reading must come to the end. -/
theorem faultless_of_read {text : String} {value : Expr} (read : readExpression text = .ok value) :
    (lexemes text).2 = none := by
  by_contra faulty
  have unended := Lexeme.unfinished_of_fault faulty
  unfold readExpression at read
  dsimp only at read
  split at read
  · next outcome =>
    rw [StateT.run_bind] at outcome
    rcases given : (Reader.readAt (levelBound text.length) .commas).run (lexemes text).1 with fault | ⟨found, rest⟩
    · rw [given] at outcome
      cases outcome
    · rw [given] at outcome
      have kept := Reader.makes_no_end_iff.mp (Reader.makes_no_end_read_at _ _) _ _ _ unended given
      change pure (found, rest) >>= _ = _ at outcome
      rw [pure_bind, StateT.run_bind, StateT.run_get, pure_bind] at outcome
      split at outcome
      · next ended =>
        exact kept ((List.dropWhile_suffix _).mem (ended ▸ List.mem_singleton_self _))
      · have given : (Reader.refuse : Reader Expr).run (rest.dropWhile _) = _ := outcome
        obtain ⟨fault, refused⟩ := Reader.refuse_fails (rest.dropWhile _)
        cases given.symm.trans (refused _)
  · cases read

end LiveShell.Code
