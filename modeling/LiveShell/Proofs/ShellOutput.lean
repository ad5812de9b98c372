import LiveShell.Proofs.ConsoleText
import LiveShell.Proofs.InputFaults
import LiveShell.Session.Shell

/-!
What an input writes and what the shell shows. The output of an input that ends normally comes first, before its value,
and nothing that can be seen is missing from it. The output is handed over with the value, so an input that raises an
error shows none of it.
-/

namespace LiveShell.Shell

set_option autoImplicit false

open Environment (IsProgram capturing runParts partsOf run_in_capturing)
open Run (Fails run_in_bind)
open Text (HoldsCode IsPlainText onConsole visible withEmoji)

/-! ### Output of an input -/

/-- What the statements of a text write. -/
def written (environment : Environment) (text : String) (world : World) : String :=
  ((runParts environment text).runIn { world with output := "" }).2.output

variable {shell : Shell} {environment : Environment} {text output : String} {world after : World} {value error : Value}

/-- An input that ends normally has been read, and its output was captured while it was carried out. -/
theorem captured_of_executed (ended : (environment.execute text).runIn world = (.ok (value, output), after)) :
    ∃ between, (capturing (runParts environment text)).runIn world = (.ok (value, output), between) := by
  by_cases readable : ∃ program, IsProgram text program
  · obtain ⟨program, isProgram⟩ := readable
    rw [isProgram.executed] at ended
    obtain ⟨⟨found, printed⟩, between, captured, later⟩ := Run.run_of_bind ended
    refine ⟨between, ?_⟩
    dsimp only at later
    split at later
    · obtain ⟨_, _, _, last⟩ := Run.run_of_bind later
      cases last
      exact captured
    · cases later
      exact captured
  · obtain ⟨name, arguments, _, executed⟩ := Environment.unread_raises environment (not_exists.mp readable)
    rw [executed, Environment.run_in_raise] at ended
    cases ended

/-- What is handed over with the value is what the statements have written. -/
theorem executed_output (ended : (environment.execute text).runIn world = (.ok (value, output), after)) :
    output = written environment text world := by
  obtain ⟨between, captured⟩ := captured_of_executed ended
  rw [run_in_capturing] at captured
  rw [written]
  rcases carried : (runParts environment text).runIn { world with output := "" } with ⟨error | found, last⟩
  · rw [carried] at captured
    cases captured
  · rw [carried] at captured
    cases captured
    rfl

/-! ### What is shown -/

/-- A text without the line breaks at its end. -/
def trimmed (text : String) : List Char := Text.dropEnd (· = '\n') text.toList

/-- What the shell shows of a text that was written. -/
def shownOutput (text : String) : String :=
  if text = "" then "" else onConsole width (String.ofList (withEmoji (trimmed text)))

/-- A value as the shell shows it, if there is one. -/
def shownIfAny : Value → Run String
  | .nothing => pure ""
  | value => shownValue value

/-- What the shell shows of an error, of which an interruption has nothing to tell. -/
def shownError (error : Value) : Run Reply := do
  if ← Run.isError error "KeyboardInterrupt" then return .printed ""
  else if ← Run.isError error "Exception" then return .failed (← lastLine error)
  else throw error

/-- The output of an input that ends normally is shown before its value. -/
theorem execute_ended (ended : (shell.environment.execute text).runIn world = (.ok (value, output), after)) :
    (shell.execute text).runIn world =
      ((fun shown => Reply.printed (shownOutput output ++ shown)) <$> shownIfAny value).runIn after := by
  rw [Shell.execute, run_in_bind, Run.run_in_attempt, ended, map_eq_pure_bind]
  rfl

/-- An error comes from what is captured, so what was written before it is not in the world any more. -/
theorem output_of_raised (raised : (environment.execute text).runIn world = (.error error, after)) :
    after.output = world.output := by
  by_cases readable : ∃ program, IsProgram text program
  · obtain ⟨program, isProgram⟩ := readable
    rw [isProgram.executed, run_in_bind, run_in_capturing] at raised
    rcases carried : (runParts environment text).runIn { world with output := "" } with ⟨error | found, last⟩
    · rw [carried] at raised
      cases raised
      rfl
    · -- Binding the value of the input raises nothing.
      rw [carried] at raised
      dsimp only at raised
      split at raised
      · cases raised
      · cases raised
  · obtain ⟨name, arguments, _, executed⟩ := Environment.unread_raises environment (not_exists.mp readable)
    rw [executed, Environment.run_in_raise] at raised
    cases raised
    rfl

theorem execute_raised (raised : (shell.environment.execute text).runIn world = (.error error, after)) :
    (shell.execute text).runIn world = (shownError error).runIn after := by
  rw [Shell.execute, run_in_bind, Run.run_in_attempt, raised]
  rfl

theorem shown_output_visible (text : String) :
    visible (shownOutput text).toList = visible (withEmoji (trimmed text)) := by
  unfold shownOutput
  split
  · next none =>
    subst none
    rfl
  · rw [Text.on_console_visible, String.toList_ofList]

theorem shown_output_plain (noCode : ¬HoldsCode (trimmed text)) (plain : IsPlainText width (trimmed text)) :
    shownOutput text = if text = "" then "" else String.ofList (trimmed text) ++ "\n" := by
  rw [shownOutput, Text.with_emoji_none noCode, Text.on_console_plain (by rwa [String.toList_ofList])]

/-- Of an input that ends normally, everything that its statements have written is shown, and before its value: every
character that can be seen, in order, with codes of emoji as the emoji; and to the letter up to the line breaks at its
end, when that are lines without such codes that the console shows as they are. Of an input that raises an error, the
error is shown, and what was written before it is gone. -/
theorem written_output_shown (shell : Shell) (text : String) (world : World) :
    (∀ value output after, (shell.environment.execute text).runIn world = (.ok (value, output), after) →
      ∃ front : String,
        (shell.execute text).runIn world =
          ((fun shown => Reply.printed (front ++ shown)) <$> shownIfAny value).runIn after ∧
        visible front.toList = visible (withEmoji (trimmed (written shell.environment text world))) ∧
        (¬HoldsCode (trimmed (written shell.environment text world)) →
          IsPlainText width (trimmed (written shell.environment text world)) →
          front = if written shell.environment text world = "" then ""
            else String.ofList (trimmed (written shell.environment text world)) ++ "\n")) ∧
      ∀ error after, (shell.environment.execute text).runIn world = (.error error, after) →
        after.output = world.output ∧ (shell.execute text).runIn world = (shownError error).runIn after := by
  constructor
  · intro value output after ended
    have handed := executed_output ended
    subst handed
    exact ⟨_, execute_ended ended, shown_output_visible _, shown_output_plain⟩
  · intro error after raised
    exact ⟨output_of_raised raised, execute_raised raised⟩

theorem letter_shown_before_five :
    let shell : Shell := { settings := {}, environment := { space := 0 } }
    let world : World := { cells := #[.dict #[] none] }
    (∃ value output after, (shell.environment.execute "print('a')\n5").runIn world = (.ok (value, output), after) ∧
      (shell.execute "print('a')\n5").runIn world =
        ((fun shown => Reply.printed ("a\n" ++ shown)) <$> shownIfAny value).runIn after) ∧
      ∃ error after, (shell.environment.execute "print('a')\n1/0").runIn world = (.error error, after) ∧
        (shell.execute "print('a')\n1/0").runIn world = (shownError error).runIn after := by
  intro shell world
  constructor
  · have wrote : written shell.environment "print('a')\n5" world = "a\n" := by decide +kernel
    have normal : ((shell.environment.execute "print('a')\n5").runIn world).1.toOption ≠ none := by decide +kernel
    rcases ended : (shell.environment.execute "print('a')\n5").runIn world with ⟨error | ⟨value, output⟩, after⟩
    · rw [ended] at normal
      exact absurd rfl normal
    · obtain ⟨front, shown, _, same⟩ :=
        (written_output_shown shell "print('a')\n5" world).1 value output after ended
      rw [wrote] at same
      have front_eq : front = "a\n" := same (Text.no_code_without_colon (by decide +kernel)) (by decide +kernel)
      rw [front_eq] at shown
      exact ⟨value, output, after, rfl, shown⟩
  · have fails : Fails (shell.environment.execute "print('a')\n1/0") world := by decide +kernel
    obtain ⟨error, after, raised, _⟩ := fails
    exact ⟨error, after, raised, ((written_output_shown shell "print('a')\n1/0" world).2 error after raised).2⟩

/-- What an input writes before it raises an error is shown nowhere: an ordinary error that is an interruption too shows
nothing at all, and a division by zero only itself. -/
theorem line_before_error_lost :
    let shell : Shell := { settings := {}, environment := { space := 0 } }
    let interrupted := "class E(KeyboardInterrupt, Exception): pass\nprint('x')\nraise E()"
    let divided := "print('part')\n1/0"
    let world : World := { cells := #[.dict #[] none] }
    Fails (shell.environment.execute interrupted) world ∧ written shell.environment interrupted world = "x\n" ∧
      ((shell.execute interrupted).runIn world).1.toOption = some (.printed "") ∧
      Fails (shell.environment.execute divided) world ∧ written shell.environment divided world = "part\n" ∧
      ((shell.execute divided).runIn world).1.toOption = some (.failed "ZeroDivisionError: division by zero") := by
  decide +kernel

end LiveShell.Shell
