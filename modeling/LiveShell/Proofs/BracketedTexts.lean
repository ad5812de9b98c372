import LiveShell.Proofs.ForbiddenParts
import LiveShell.Proofs.InputFaults
import LiveShell.Proofs.ReaderEnds

/-!
Texts that are evaluated. A text is read in brackets that are put around it. When that succeeds, every bracket has its
partner, and the added ones are each other's, unless the text closes the first of them and opens another one for the
last. A text that cannot be read so is told of as a failure, and nothing is changed.
-/

namespace LiveShell.Environment

open Code (Expr Fault Lexeme)
open Completion (Evaluation)

set_option autoImplicit false

variable {environment : Environment} {text : String} {world : World} {silent : Bool}

/-! ### Reading in brackets -/

/-- The lexemes of a text between the brackets that are put around it, when it is read in them to its end. -/
def HasInner (text : String) (inner : List Lexeme) : Prop :=
  ∃ marks, Code.lexemes (inBrackets text) = (.operator "(" :: (inner ++ .operator ")" :: marks), none) ∧
    ∀ mark ∈ marks, Lexeme.IsMark mark

/-- A text that is one expression in brackets: it can be read, and the added brackets belong together. -/
structure IsBracketed (text : String) : Prop where
  unmarked : text.toList.contains '\x00' = false
  read : ∃ expression, Code.readExpression (inBrackets text) = .ok expression
  matched : ∃ inner, HasInner text inner ∧ Lexeme.Balanced inner

/-- A text that closes the bracket before it and opens one for the bracket behind it. -/
def Reopens (text : String) : Prop := ∃ inner, HasInner text inner ∧ Lexeme.ClosesEarly inner

theorem bracketed_or_reopens (unmarked : text.toList.contains '\x00' = false) {expression : Expr}
    (read : Code.readExpression (inBrackets text) = .ok expression) : IsBracketed text ∨ Reopens text := by
  have faultless := Code.faultless_of_read read
  obtain ⟨inner, marks, split, areMarks, matched⟩ := Lexeme.bracketed_lexemes _ faultless
  have hasInner : HasInner text inner := ⟨marks, Prod.ext split faultless, areMarks⟩
  exact matched.imp (fun balanced => ⟨unmarked, ⟨expression, read⟩, inner, hasInner, balanced⟩)
    fun early => ⟨inner, hasInner, early⟩

/-! ### Texts that cannot be read -/

/-- A text cannot be read as an expression, or reading it raises an error that needs no code to be told of. -/
theorem read_or_raises (text : String) :
    (text.toList.contains '\x00' = false ∧ ∃ expression, Code.readExpression (inBrackets text) = .ok expression) ∨
      ∃ name message, isErrorCase name "Exception" = true ∧
        readExpression text = Run.raise name (argumentsOf message) := by
  cases marked : text.toList.contains '\x00' with
  | true =>
      refine .inr ⟨"ValueError", some "source code string cannot contain null bytes", by decide +kernel, ?_⟩
      rw [readExpression, require_text_marked marked, raise_bind]
      rfl
  | false =>
      have required := require_text_unmarked marked
      cases read : Code.readExpression (inBrackets text) with
      | ok expression => exact .inl ⟨rfl, expression, rfl⟩
      | error fault =>
          obtain ⟨name, ordinary, raised⟩ := fault_raised fault
          refine .inr ⟨name, none, ordinary, ?_⟩
          rw [readExpression, required, pure_bind, read, Run.readOrRaise, raised]
          rfl

/-- A new error without a message or with one. -/
theorem plain_of_raise (name : String) (message : Option String) (world : World) :
    IsPlainError (.ref (world.cells.size + 1))
      { world with cells := world.cells ++ errorCells name (argumentsOf message) world.cells.size } := by
  refine ⟨_, .error name, world.cells.size, message, rfl, ?_⟩
  rw [Array.getElem?_append_right (by omega), Nat.add_sub_cancel_left]
  rfl

/-- A failure comes back as its account, in the same environment, and nothing but cells is added to the world. -/
def TellsOfFailure (environment : Environment) (text : String) (silent : Bool) (world : World) : Prop :=
  ∃ failure after, (environment.evaluate text silent).runIn world =
    (.ok ({ result := failure.raised, failure := some failure }, environment), after) ∧ OnlyAdds world after

theorem evaluate_of_raise {name : String} {message : Option String} (ordinary : isErrorCase name "Exception" = true)
    (raises : valueOf environment.space text silent = Run.raise name (argumentsOf message)) :
    TellsOfFailure environment text silent world := by
  have fails : Run.Fails (Run.raise name (argumentsOf message) : Run Value) world := Run.fails_raise ordinary
  obtain ⟨error, between, raised, isOrdinary⟩ := fails
  have plain : IsPlainError error between := by
    rw [run_in_raise] at raised
    cases raised
    exact plain_of_raise name message world
  have known : (Run.isError error "Exception").runIn between = (.ok true, between) := isOrdinary
  obtain ⟨failure, told⟩ := told_plain_error plain
  refine ⟨failure, between, ?_, raise_only_adds raised⟩
  simp only [evaluate, orFailure, bind_assoc, Run.run_in_bind, Run.run_in_attempt, raises, raised, known, if_true, told]
  rfl

/-- Whether an evaluation comes to a value with some form. -/
def comesToForm (form : String) (text : String) (world : World) : Bool :=
  ((evaluate { space := 0 } text true).runIn world).1.toOption.any fun given =>
    given.1.failure.isNone && given.1.result.shown == some form

end LiveShell.Environment
