import LiveShell.Evaluation.Host
import LiveShell.Evaluation.Statement

/-!
Calling values of every kind, and the steps of generators. The engine ties evaluation and calls together, up
to the depth to which calls may nest.
-/

namespace LiveShell

open Code (Expr)

namespace Run

/-! Functions written in code. -/

/-- Runs the body of a function in a scope made for it. -/
def runBody (engine : Engine) (data : FunctionData) (scope : Scope) : Run Value := do
  match data.body with
  | .expression value => evaluate engine scope value
  | .block statements =>
      match ← runBlock engine scope statements with
      | .returned value => return value
      | _ => return .nothing

def globalNamesOf (data : FunctionData) : List String :=
  match data.body with
  | .block statements => Code.declaredIn true statements
  | .expression _ => []

/-- Calls a function: one that yields gives a generator, one that waits gives a coroutine. -/
def callFunction (engine : Engine) (data : FunctionData) (given : Given) : Run Value := do
  let bound ← fitArguments data.qualified (slotsOf data) given
  let inner ← innerScope data.scope data.locals bound (data.qualified ++ ".<locals>.")
  let scope := { inner with globalNames := globalNamesOf data }
  if data.isGenerator then
    new (.generator
      { name := data.qualified, element := .literal .nothing, clauses := [], scope, iterators := [],
        pending := some (data, scope) })
  else if data.isAsync then new (.coroutine data.qualified (.call data scope))
  else runBody engine data scope

/-! Generators. -/

/-- Runs the body of a generator that is a function, and keeps what it yields. -/
def runAhead (engine : Engine) (data : FunctionData) (scope : Scope) : Run (List Value × Option Value) := do
  let before := (← get).yielded
  modify fun world => { world with yielded := [] }
  let outcome ← attempt (runBody engine data scope)
  let given := (← get).yielded
  modify fun world => { world with yielded := before }
  match outcome with
  | .ok _ => return (given, none)
  | .error error => return (given, some error)

def writeGenerator (address : Address) (data : GeneratorData) : Run Unit := writeCell address (.generator data)

/-- The next item of gathering clauses whose iterators are under way, and the iterators afterwards. -/
def stepClauses (engine : Engine) (scope : Scope) (element : Expr) (clauses : List Expr) :
    Nat → List Value → Run (Option (Value × List Value))
  | 0, _ => raise "KeyboardInterrupt" []
  | _ + 1, [] => return none
  | turns + 1, iterator :: outer => do
      match ← engine.next iterator with
      | none => stepClauses engine scope element clauses turns outer
      | some item =>
          match clauses[outer.length]? with
          | some (.clause target _ conditions _) =>
              assign engine scope item target
              if ← allHold engine scope conditions then
                match clauses[outer.length + 1]? with
                | some (.clause _ source _ _) =>
                    let inner ← iterate engine (← evaluate engine scope source)
                    stepClauses engine scope element clauses turns (inner :: iterator :: outer)
                | _ => return some (← evaluate engine scope element, iterator :: outer)
              else stepClauses engine scope element clauses turns (iterator :: outer)
          | _ => return none

/-- The next item of a generator. One that raises has no further items. -/
def stepGenerator (engine : Engine) (address : Address) (data : GeneratorData) : Run (Option Value) := do
  if data.running then valueError "generator already executing"
  if data.finished then return none
  let data ← (match data.pending with
    | none => pure data
    | some (function, scope) => do
        writeGenerator address { data with running := true }
        let (ready, failure) ← runAhead engine function scope
        pure { data with pending := none, ready, failure, running := false })
  match data.ready, data.failure with
  | item :: ready, _ =>
      writeGenerator address { data with ready }
      return some item
  | [], some error =>
      finishGenerator address data
      throw error
  | [], none =>
      writeGenerator address { data with running := true }
      match ← attempt (stepClauses engine data.scope data.element data.clauses patience data.iterators) with
      | .ok (some (item, iterators)) =>
          writeGenerator address { data with iterators }
          return some item
      | .ok none =>
          finishGenerator address data
          return none
      | .error error =>
          finishGenerator address data
          throw error

/-- Carries a coroutine out. -/
def runCoroutine (engine : Engine) (address : Address) (name : String) (awaited : Awaited) : Run Value := do
  writeCell address (.coroutine name .finished)
  match awaited with
  | .call data scope => runBody engine data scope
  | .ready value => return value
  | .finished => fail "RuntimeError" "cannot reuse already awaited coroutine"

/-! Calls. -/

def notCallable {α : Type} (value : Value) : Run α := do
  typeError ("'" ++ (← typeName value) ++ "' object is not callable")

def callReferred (engine : Engine) (value : Value) (cell : Cell) (given : Given) : Run Value := do
  match cell with
  | .function data => callFunction engine data given
  | .host name qualified action counted => callHost engine name qualified action counted given
  | .bound self function => engine.call function (self :: given.positional) given.named
  | .classObject _ => instantiate engine value given
  | .wrapped false function => engine.call function given.positional given.named
  | .instanceOf cls _ _ =>
      match ← memberOf? cls "__call__" with
      | some (.made function) =>
          engine.call (← bindMember engine value cls function) given.positional given.named
      | _ => notCallable value
  | _ => notCallable value

/-- Calls a value. -/
def callValue (engine : Engine) (value : Value) (given : Given) : Run Value := do
  match value with
  | .kind .type => typeOf engine given
  | .kind kind => construct engine kind given
  | .routine name =>
      match Text.splitAtEach '.' name.toList with
      | [library, function] =>
          callLibraryRoutine engine (String.ofList library) (String.ofList function) given
      | _ => callRoutine engine name given
  | .method self name => callMethod engine self name given
  | .wrapper self name => callOperation engine self name given
  | .descriptor kind name => callDescriptor engine kind name given
  | .foreign library name => if ← isCallable value then callLibraryRoutine engine library name given else notCallable value
  | .ref address =>
      match ← cellAt? address with
      | some cell => callReferred engine value cell given
      | none => notCallable value
  | value => notCallable value

/-- The next item of an iterator; a coroutine runs and gives its value. -/
def nextOf (engine : Engine) (iterator : Value) : Run (Option Value) := do
  match iterator with
  | .ref address =>
      match ← cellAt? address with
      | some (.coroutine name awaited) => some <$> runCoroutine engine address name awaited
      | _ => nextWith engine (stepGenerator engine) iterator
  | _ => nextWith engine (stepGenerator engine) iterator

def tooDeep {α : Type} : Run α := fail "RecursionError" "maximum recursion depth exceeded"

end Run

/-- The engine for calls that may nest to some depth. -/
def engineAt : Nat → Engine
  | 0 => { call := fun _ _ _ => Run.tooDeep, next := fun _ => Run.tooDeep }
  | depth + 1 =>
      { call := fun value positional named => Run.callValue (engineAt depth) value { positional, named }
        next := fun iterator => Run.nextOf (engineAt depth) iterator }

/-- The engine that all code runs with. -/
def engine : Engine := engineAt depthLimit

end LiveShell
