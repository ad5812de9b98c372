import LiveShell.Proofs.RaisedErrors
import LiveShell.Session.Environment

/-!
Inputs that do not compile. A text is read as a whole before anything of it runs, but the rules of code are asked of it
in two parts: of its statements before they run, and of the trailing expression when they have run. A text that breaks
the rules in its statements, or cannot be read, changes nothing. Where only the trailing expression breaks them, the
statements before it are carried out first.
-/

namespace LiveShell

open Code (Expr Fault NameEvent Stmt)

set_option autoImplicit false

namespace Code

/-! ### Rules of a program and of its parts -/

theorem events_append (first second : List Stmt) : eventsIn (first ++ second) = eventsIn first ++ eventsIn second := by
  induction first with
  | nil => rfl
  | cons statement rest induction => simp only [List.cons_append, eventsIn, induction, List.append_assoc]

theorem declared_append (isGlobal : Bool) (first second : List Stmt) :
    declaredIn isGlobal (first ++ second) = declaredIn isGlobal first ++ declaredIn isGlobal second := by
  induction first with
  | nil => rfl
  | cons statement rest induction => simp only [List.cons_append, declaredIn, induction, List.append_assoc]

theorem block_fits_append (setting : Setting) (first second : List Stmt) :
    blockFits setting (first ++ second) = (blockFits setting first && blockFits setting second) := by
  induction first with
  | nil => rfl
  | cons statement rest induction => simp only [List.cons_append, blockFits, induction, Bool.and_assoc]

/-- Names that are only touched at the end come after every declaration. -/
theorem declared_first_touched (touched names : List String) (events : List NameEvent) :
    declaredFirst touched (events ++ names.map .touched) = declaredFirst touched events := by
  induction events generalizing touched with
  | nil =>
      induction names generalizing touched with
      | nil => rfl
      | cons name rest induction => exact induction (name :: touched)
  | cons event rest induction =>
      cases event with
      | touched name => exact induction (name :: touched)
      | declared name => simp only [List.cons_append, declaredFirst, induction]

/-- A trailing expression keeps the rules of the whole program when it keeps them on its own. -/
theorem program_fits_trailing (body : List Stmt) (value : Expr) :
    programFits (body ++ [.expression value]) = (programFits body && value.fits {}) := by
  have events : eventsIn [.expression value] = value.touches.map .touched := List.append_nil _
  have globals : declaredIn true [.expression value] = [] := rfl
  have nonlocals : declaredIn false [.expression value] = [] := rfl
  have last : blockFits {} [.expression value] = value.fits {} := Bool.and_true _
  simp only [programFits, declarationsFit, events_append, events, declared_first_touched, declared_append, globals,
    nonlocals, List.append_nil, block_fits_append, last, Bool.and_assoc]

end Code

namespace Environment

open Run (Fails run_in_bind)

theorem split_trailing_fits (program : List Stmt) :
    Code.programFits program =
      (Code.programFits (splitTrailing program).1 && (splitTrailing program).2.all fun value => value.fits {}) := by
  unfold splitTrailing
  split
  · next value last =>
      obtain ⟨body, rfl⟩ := List.getLast?_eq_some_iff.mp last
      rw [List.dropLast_concat]
      exact Code.program_fits_trailing body value
  · exact (Bool.and_true _).symm

/-! ### Compiling -/

/-- Compiles a whole text: it can be read as a program, and the program keeps the rules of code. -/
def compile (source : String) : Run Unit := do
  Run.requireText source
  let program ← Run.readOrRaise (Code.readProgram source)
  if !Code.programFits program then Run.raiseFaultOfCode .malformed

/-- The statements of a text before its trailing expression, and that. -/
def partsOf (source : String) : List Stmt × Option Expr :=
  match Code.readProgram source with
  | .ok program => splitTrailing program
  | .error _ => ([], none)

/-- Whether a text that can be read breaks the rules of code in its trailing expression only. -/
def faultIsTrailing (source : String) : Bool :=
  !source.toList.contains '\x00' && Code.programFits (partsOf source).1 &&
    !(partsOf source).2.all fun value => value.fits {}

/-- Between two worlds nothing has changed but that cells were added. -/
def OnlyAdds (before after : World) : Prop := ∃ added, after = { before with cells := before.cells ++ added }

variable {α β : Type} {world after : World} {error : Value} {source : String}

/-- The cells of a new error: the namespace of its attributes and the error itself. -/
def errorCells (name : String) (arguments : List Value) (space : Address) : Array Cell :=
  #[.dict #[] none, .instanceOf (.kind (.error name)) space (some (.tuple arguments))]

theorem run_in_raise (name : String) (arguments : List Value) (world : World) :
    (Run.raise name arguments : Run α).runIn world = (.error (.ref (world.cells.size + 1)),
      { world with cells := world.cells ++ errorCells name arguments world.cells.size }) := by
  have cells : (world.cells.push (.dict #[] none)).push
      (.instanceOf (.kind (.error name)) world.cells.size (some (.tuple arguments))) =
        world.cells ++ errorCells name arguments world.cells.size := by
    apply Array.toList_inj.mp
    simp [errorCells]
  have address : (world.cells.push (.dict #[] none)).size = world.cells.size + 1 := Array.size_push _
  rw [← cells, ← address]
  rfl

theorem raise_only_adds {name : String} {arguments : List Value}
    (raised : (Run.raise name arguments : Run α).runIn world = (.error error, after)) : OnlyAdds world after := by
  rw [run_in_raise] at raised
  cases raised
  exact ⟨_, rfl⟩

/-- An error is raised whatever was to be given instead. -/
theorem raise_elsewhere {name : String} {arguments : List Value}
    (raised : (Run.raise name arguments : Run α).runIn world = (.error error, after)) :
    (Run.raise name arguments : Run β).runIn world = (.error error, after) := by
  rw [run_in_raise] at raised ⊢
  cases raised
  rfl

/-- Nothing follows an error that is raised. -/
theorem raise_bind (name : String) (arguments : List Value) (next : α → Run β) :
    Run.raise name arguments >>= next = Run.raise name arguments := by
  apply Run.run_ext
  intro world
  rw [run_in_bind, run_in_raise, run_in_raise]

/-- What is printed during a computation is taken out of the world again, whether or not it raises. -/
theorem run_in_capturing (run : Run α) (world : World) :
    (capturing run).runIn world = match run.runIn { world with output := "" } with
      | (.ok value, after) => (.ok (value, after.output), { after with output := world.output })
      | (.error error, after) => (.error error, { after with output := world.output }) := by
  have taken : (capturing run).runIn world =
      (do
        let outcome ← Run.attempt run
        let printed := (← get).output
        modify fun after => { after with output := world.output }
        return (← Run.resume outcome, printed) : Run (α × String)).runIn { world with output := "" } := rfl
  rw [taken, run_in_bind, Run.run_in_attempt]
  rcases run.runIn { world with output := "" } with ⟨_ | _, after⟩ <;> rfl

/-- An error is raised without regard to what was printed before. -/
theorem capturing_raise (name : String) (arguments : List Value) :
    capturing (Run.raise name arguments : Run α) = Run.raise name arguments := by
  apply Run.run_ext
  intro world
  rw [run_in_capturing, run_in_raise, run_in_raise]

/-- A fault is raised by an ordinary error of its own. -/
theorem fault_raised (fault : Fault) :
    ∃ name, isErrorCase name "Exception" = true ∧
      ∀ γ : Type, (Run.raiseFaultOfCode fault : Run γ) = Run.raise name [] := by
  cases fault <;> exact ⟨_, by decide +kernel, fun _ => rfl⟩

theorem fault_bind (fault : Fault) (next : α → Run β) :
    Run.raiseFaultOfCode fault >>= next = Run.raiseFaultOfCode fault := by
  obtain ⟨name, _, raised⟩ := fault_raised fault
  rw [raised, raised, raise_bind]

theorem capturing_fault (fault : Fault) :
    capturing (Run.raiseFaultOfCode fault : Run α) = Run.raiseFaultOfCode fault := by
  obtain ⟨name, _, raised⟩ := fault_raised fault
  rw [raised, raised, capturing_raise]

theorem fault_only_adds {fault : Fault}
    (raised : (Run.raiseFaultOfCode fault : Run α).runIn world = (.error error, after)) : OnlyAdds world after := by
  obtain ⟨name, _, same⟩ := fault_raised fault
  rw [same] at raised
  exact raise_only_adds raised

theorem fault_elsewhere {fault : Fault}
    (raised : (Run.raiseFaultOfCode fault : Run α).runIn world = (.error error, after)) :
    (Run.raiseFaultOfCode fault : Run β).runIn world = (.error error, after) := by
  obtain ⟨name, _, same⟩ := fault_raised fault
  rw [same] at raised ⊢
  exact raise_elsewhere raised

/-! ### Running what does not compile -/

theorem run_program_fault {space : Address} {body : List Stmt} (unfit : Code.programFits body = false) :
    Run.runProgram space body = Run.raiseFaultOfCode .malformed := by
  rw [Run.runProgram, unfit]
  exact fault_bind _ _

theorem evaluate_in_fault {space : Address} {value : Expr} (unfit : value.fits {} = false) :
    Run.evaluateIn space true value = Run.raiseFaultOfCode .malformed := by
  rw [Run.evaluateIn, Run.evaluateThrough, unfit]
  exact fault_bind _ _

/-- Code is no text that holds a null character. -/
theorem require_text_marked (marked : source.toList.contains '\x00' = true) :
    Run.requireText source = Run.raise "ValueError" [.text "source code string cannot contain null bytes"] := by
  rw [Run.requireText, if_pos marked]
  rfl

theorem require_text_unmarked (unmarked : source.toList.contains '\x00' = false) :
    Run.requireText source = pure () := by
  rw [Run.requireText, unmarked]
  rfl

/-- A text that can be read as a program. -/
structure IsProgram (source : String) (program : List Stmt) : Prop where
  unmarked : source.toList.contains '\x00' = false
  read : Code.readProgram source = .ok program

/-- A text that cannot be read is refused by compiling and by running it alike. -/
theorem unread_raises (environment : Environment) (unread : ∀ program, ¬IsProgram source program) :
    ∃ name arguments, compile source = Run.raise name arguments ∧
      environment.execute source = Run.raise name arguments := by
  cases marked : source.toList.contains '\x00' with
  | true =>
      refine ⟨"ValueError", [.text "source code string cannot contain null bytes"], ?_, ?_⟩
      · rw [compile, require_text_marked marked, raise_bind]
      · rw [execute, require_text_marked marked, raise_bind]
  | false =>
      have required := require_text_unmarked marked
      cases read : Code.readProgram source with
      | ok program => exact absurd ⟨marked, read⟩ (unread program)
      | error fault =>
          obtain ⟨name, _, raised⟩ := fault_raised fault
          refine ⟨name, [], ?_, ?_⟩
          · rw [compile, required, read, pure_bind, Run.readOrRaise, raised, raise_bind]
          · rw [execute, required, read, pure_bind, Run.readOrRaise, raised, raise_bind]

/-- Carries out the statements of a text and gives the value of its trailing expression. -/
def runParts (environment : Environment) (source : String) : Run Value := do
  Run.runProgram environment.space (partsOf source).1
  match (partsOf source).2 with
  | some expression => Run.evaluateIn environment.space true expression
  | none => return .nothing

namespace IsProgram

variable {program : List Stmt} (isProgram : IsProgram source program)
include isProgram

theorem required : Run.requireText source = pure () := require_text_unmarked isProgram.unmarked

theorem parts : partsOf source = splitTrailing program := by rw [partsOf, isProgram.read]

theorem compiled :
    compile source = if Code.programFits program then pure () else Run.raiseFaultOfCode .malformed := by
  rw [compile, isProgram.required, isProgram.read, pure_bind, Run.readOrRaise, pure_bind]
  cases Code.programFits program <;> rfl

theorem fits : Code.programFits program =
    (Code.programFits (partsOf source).1 && (partsOf source).2.all fun value => value.fits {}) := by
  rw [isProgram.parts]
  exact split_trailing_fits program

theorem executed (environment : Environment) : environment.execute source = (do
    let (value, printed) ← capturing (runParts environment source)
    if (partsOf source).2.isSome then Run.setName environment.space lastName value
    return (value, printed)) := by
  rw [execute, isProgram.required, isProgram.read, runParts, isProgram.parts]
  rfl

end IsProgram

/-- The statements of a text are run, and then a fault in its trailing expression is raised. -/
def runThenRefuse (space : Address) (source : String) : Run (Value × String) :=
  capturing do
    Run.runProgram space (partsOf source).1
    Run.raiseFaultOfCode .malformed

theorem execute_statements_fault (environment : Environment) {program : List Stmt}
    (isProgram : IsProgram source program) (unfit : Code.programFits (partsOf source).1 = false) :
    environment.execute source = Run.raiseFaultOfCode .malformed := by
  rw [isProgram.executed, runParts, run_program_fault unfit, fault_bind, capturing_fault, fault_bind]

theorem not_succeeds_fault (fault : Fault) : ¬Run.Succeeds (Run.raiseFaultOfCode fault : Run α) := by
  obtain ⟨name, _, raised⟩ := fault_raised fault
  rw [raised]
  exact Run.not_succeeds_raise name []

theorem succeeds_of_capturing {run : Run α} (succeeds : Run.Succeeds (capturing run)) : Run.Succeeds run := by
  obtain ⟨world, given, last, outcome⟩ := succeeds
  rw [run_in_capturing] at outcome
  rcases inside : run.runIn { world with output := "" } with ⟨error | value, between⟩
  · rw [inside] at outcome
    cases outcome
  · exact ⟨_, value, between, inside⟩

theorem execute_trailing_fault (environment : Environment) {program : List Stmt} (isProgram : IsProgram source program)
    {value : Expr} (trailing : (partsOf source).2 = some value) (unfit : value.fits {} = false) :
    environment.execute source = runThenRefuse environment.space source := by
  have raises : ¬Run.Succeeds (runThenRefuse environment.space source) := by
    intro succeeds
    obtain ⟨_, _, refused⟩ := Run.succeeds_bind (succeeds_of_capturing succeeds)
    exact not_succeeds_fault .malformed refused
  rw [isProgram.executed, runParts, trailing]
  simp only [evaluate_in_fault unfit]
  -- No value comes out, so the name of the last value stays as it is.
  exact (Run.bind_congr_raises raises _ pure).trans (bind_pure _)

theorem trailing_of_fault (isTrailing : faultIsTrailing source = true) :
    ∃ program value, IsProgram source program ∧ (partsOf source).2 = some value ∧ value.fits {} = false := by
  simp only [faultIsTrailing, Bool.and_eq_true, Bool.not_eq_true'] at isTrailing
  obtain ⟨⟨unmarked, _⟩, unfit⟩ := isTrailing
  cases read : Code.readProgram source with
  | error fault =>
      rw [partsOf, read] at unfit
      cases unfit
  | ok program =>
      cases trailing : (partsOf source).2 with
      | none =>
          rw [trailing] at unfit
          cases unfit
      | some value =>
          rw [trailing] at unfit
          exact ⟨program, value, ⟨unmarked, read⟩, rfl, unfit⟩

/-- The names of a namespace that is the first cell. -/
def namesAtStart (world : World) : Option (List String) := ((Run.namesIn 0).runIn world).1.toOption

end Environment

end LiveShell
