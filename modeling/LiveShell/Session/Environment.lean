import LiveShell.Completion.Dialogue
import LiveShell.Session.Guard
import LiveShell.Session.Hints
import LiveShell.Session.Loading
import LiveShell.Text.Shortened

/-!
The running environment that completion asks about values. It holds a namespace that code runs in, handles for
values that were told of, and hints. Values leave it as descriptions only. Handles and hints are no part of the
world that code changes.
-/

namespace LiveShell

open Completion (Description Evaluation Plain Request Trouble ValueSort)

structure Environment where
  /-- The namespace that code runs in. -/
  space : Address
  /-- The values behind the handles that were given out and not released. -/
  handles : List (String × Value) := []
  /-- How many handles were given out so far. -/
  issued : Nat := 0
  hints : Hints := {}

namespace Environment

/-! Handles. -/

/-- Gives out a handle for a value. -/
def retain (environment : Environment) (value : Value) : String × Environment :=
  let handle := toString (environment.issued + 1)
  (handle, { environment with
    handles := environment.handles ++ [(handle, value)], issued := environment.issued + 1 })

/-- The value behind a handle; nothing behind one that is not known. -/
def resolve? (environment : Environment) (handle : String) : Option Value :=
  environment.handles.lookup handle

def release (environment : Environment) (handle : String) : Environment :=
  { environment with handles := environment.handles.filter (·.1 ≠ handle) }

/-- Takes all handles back. -/
def close (environment : Environment) : Environment := { environment with handles := [] }

/-! Descriptions. -/

/-- How wide a description may be. -/
def widest : Nat := 200

/-- The form of a value on one line, shortened; its class when it has no form. -/
def shownBriefly (value : Value) : Run String :=
  tryCatch (do
    return String.ofList (Text.shorten widest "...".toList (← Run.shown engine value).toList)) fun error => do
    if ← Run.isError error "Exception" then return "<" ++ (← Run.typeName value) ++ ">" else throw error

/-- Whether a value is a function of some kind: also one that binds itself when it is looked up, as long as it
cannot be set. -/
def isFunction (value : Value) : Run Bool := do
  if ← Run.isClass value then return true
  match value with
  | .routine _ | .method .. => return true
  | .descriptor .. =>
      return value.kindOf = .descriptor || value.kindOf = .slotDescriptor
  | .foreign library name => return foreignKind library name = .function
  | .ref address =>
      match ← Run.cellAt? address with
      | some (.function _) | some (.host ..) | some (.bound ..) | some (.wrapped ..) | some (.superOf ..) =>
          return true
      | some (.instanceOf cls _ _) =>
          return (← Run.memberOf? cls "__get__").isSome && (← Run.memberOf? cls "__set__").isNone
      | _ => return false
  | _ => return false

def plainNumber (value : Value) : Plain :=
  match value with
  | .real number => .number (Number.realText number) (number == 0.0)
  | .patternFlags bits => .named (patternFlagText bits)
  | value => .whole (value.whole?.getD 0)

/-- The sort of a value, and the value itself if it is a plain one. -/
def sortOf (value : Value) : Run (ValueSort × Plain) := do
  match ← Run.plain value with
  | .nothing => return (.nothing, .nothing)
  | .boolean value => return (.boolean, .boolean value)
  | .text text => return (.text, .text text)
  | plain =>
      if (← Run.isKind value .whole) || (← Run.isKind value .real) then return (.number, plainNumber plain)
      if ← isFunction value then return (.function, .nothing)
      return (.object, .nothing)

/-- A value as it is told of, without a handle. -/
def describe (value : Value) : Run Description := do
  let (sort, plain) ← sortOf value
  let shown ← shownBriefly value
  return { sort, value := plain, shown := some shown, className := some (← Run.typeName value) }

/-- How an error is told of. -/
def describeFailure (error : Value) : Run Completion.Failure := do
  let raised ← describe error
  let text ← Run.layOut engine error ""
  return { text := (← Run.typeName error) ++ ": " ++ text, raised }

/-- Carries something out and tells of the error that it raises. What ends the whole program passes through. -/
def orFailure {α : Type} (run : Run α) : Run (Except Completion.Failure α) := do
  match ← Run.attempt run with
  | .ok value => return .ok value
  | .error error =>
      if ← Run.isError error "Exception" then return .error (← describeFailure error) else throw error

/-! Evaluation. -/

/-- A text without the blanks around it, in brackets and on lines of its own. -/
def inBrackets (text : String) : String :=
  let inner := ((text.toList.dropWhile Text.isSpace).reverse.dropWhile Text.isSpace).reverse
  String.ofList ('(' :: inner ++ ['\n', ')'])

/-- Reads a text as one expression. -/
def readExpression (text : String) : Run Code.Expr := do
  Run.requireText text
  Run.readOrRaise (Code.readExpression (inBrackets text))

/-- The guard over a namespace: parts are evaluated in it, and names of pure functions are looked up in it. -/
def watchOf (gate : Run.Gate) (space : Address) : Guard.Watch where
  value part := Run.evaluateThrough gate space false part
  isShadowed name := do
    match ← Run.nameIn? space name with
    | none => return false
    | some value =>
        return match builtinValue? name with
          | some builtin => !value.same builtin
          | none => true

/-- The value of a text in a namespace, with a gate for the calls in it. A silent evaluation is refused when it
could change something. -/
def valueThrough (gate : Run.Gate) (space : Address) (text : String) (silent : Bool) : Run Value := do
  let expression ← readExpression text
  if silent then Guard.inspect (watchOf gate space) false expression
  Run.evaluateThrough gate space true expression

/-- The value of a text in a namespace. -/
def valueOf (space : Address) (text : String) (silent : Bool) : Run Value :=
  valueThrough .free space text silent

/-- Evaluates a text. The value gets a handle; a failure is told of. -/
def evaluate (environment : Environment) (text : String) (silent : Bool) : Run (Evaluation × Environment) := do
  match ← orFailure (valueOf environment.space text silent) with
  | .error failure => return ({ result := failure.raised, failure := some failure }, environment)
  | .ok value =>
      let description ← describe value
      let (handle, environment) := environment.retain value
      return ({ result := { description with handle := some handle } }, environment)

/-- The form of a silently evaluated text; nothing when that fails. No handle stays. -/
def preview (environment : Environment) (text : String) : Run (Option String × Environment) := do
  let (evaluation, environment) ← environment.evaluate text true
  match evaluation.failure, evaluation.result.handle with
  | some _, _ => return (none, environment)
  | none, some handle => return (evaluation.result.shown, environment.release handle)
  | none, none => return (evaluation.result.shown, environment)

/-- The statements of a program before its trailing expression, and that. -/
def splitTrailing (program : List Code.Stmt) : List Code.Stmt × Option Code.Expr :=
  match program.getLast? with
  | some (.expression value) => (program.dropLast, some value)
  | _ => (program, none)

/-- What was printed during a computation. When it raises, what it printed is lost. -/
def capturing {α : Type} (run : Run α) : Run (α × String) := do
  let before := (← get).output
  modify fun world => { world with output := "" }
  let outcome ← Run.attempt run
  let printed := (← get).output
  modify fun world => { world with output := before }
  return (← Run.resume outcome, printed)

/-- The name that the value of the last input is bound to. -/
def lastName : String := "_"

/-- Runs a shell input: its statements, then its trailing expression. Gives the value of that, and what was
printed. -/
def execute (environment : Environment) (source : String) : Run (Value × String) := do
  Run.requireText source
  let (body, trailing) := splitTrailing (← Run.readOrRaise (Code.readProgram source))
  let (value, printed) ← capturing (do
    Run.runProgram environment.space body
    match trailing with
    | some expression => Run.evaluateIn environment.space true expression
    | none => return .nothing)
  if trailing.isSome then Run.setName environment.space lastName value
  return (value, printed)

/-! Other requests. -/

/-- The names of the namespace and the built-in ones, in order. -/
def globalNames (environment : Environment) : Run (List String) := do
  let keys := (← Run.entriesAt environment.space).map (·.1)
  let isName (value : Value) : Bool := match value with
    | .text _ => true
    | _ => false
  if keys.all isName then
    return sortedOnce ((← Run.namesIn environment.space) ++ Members.builtin)
  else
    let builtins := Value.texts (Members.builtin.filter fun name => !(keys.any (isText name)))
    let sorted ← Run.sortValues engine (setOrder (keys ++ builtins.toArray))
    return sorted.toList.filterMap fun value => match value with
      | .text name => some name
      | _ => none
where
  isText (name : String) : Value → Bool
    | .text text => text = name
    | _ => false

/-- The module that a specifier names: an absolute path to a file, or the name of a library. A path to a module
whose name is loaded already gives nothing. -/
def moduleOf (specifier : String) : Run (Option Value) := do
  if specifier.toList.head? = some Files.separator then
    if ← Run.isLoaded (Run.moduleNameOf specifier) then return none
    Run.loadFile specifier
  else return some (← Run.loadLibrary specifier)

/-- Loads a module and binds it, unless its name is bound already. -/
def loadModule (environment : Environment) (specifier : String) : Run Evaluation := do
  match ← orFailure (moduleOf specifier) with
  | .error failure => return { result := .undefined, failure := some failure }
  | .ok none => return { result := .undefined }
  | .ok (some module) =>
      let name ← Run.bindingNameOf module
      if (← Run.nameIn? environment.space name).isNone then Run.setName environment.space name module
      return { result := ← describe module }

/-- A name of a value that is no text cannot be told of. -/
def nameOrRaise (value : Value) : Run String := do
  match ← Run.plain value with
  | .text name => return name
  | _ => Run.raise "ValidationError" [.tuple [.text "name", .text "string_type"]]

/-- The names of the value behind a handle; none when it does not tell them. -/
def properties (environment : Environment) (handle : String) : Run (List String) := do
  match environment.resolve? handle with
  | none => return []
  | some value =>
      match ← Run.unlessRaised ["Exception"] (Run.namesOf engine value) with
      | none => return []
      | some names => names.toList.mapM nameOrRaise

/-- The hint for a call of the value behind a handle. Anything but a text counts as no hint. -/
def invokeHint (environment : Environment) (handle : Option String) (site : Option Node) (line : String) :
    Run Description := do
  match handle.bind environment.resolve? with
  | none | some .nothing => return .undefined
  | some value =>
      match ← Run.unlessRaised ["Exception"] (environment.hints.forCall value site line) with
      | some hint =>
          match ← Run.plain hint with
          | .text text => return { sort := .text, value := .text text }
          | _ => return .undefined
      | none => return .undefined

/-- How the environment shows itself. -/
def shown (environment : Environment) : Run String := do
  return "NamespaceEnvironment(" ++ toString (← Run.entriesAt environment.space).size ++ " names, " ++
    toString environment.handles.length ++ " handles)"

/-! Answering completion. -/

/-- Answers a request of completion. -/
def answer (environment : Environment) : (request : Request) → Run (request.Answer × Environment)
  | .evaluate expression silent => environment.evaluate expression silent
  | .globalNames => do return (← environment.globalNames, environment)
  | .loadModule specifier => do return (← environment.loadModule specifier, environment)
  | .properties handle => do return (← environment.properties handle, environment)
  | .hint callee site line => do
      return (← environment.invokeHint callee.handle (some site) line, environment)
  | .release handle => return ((), environment.release handle)

/-- An error in the midst of completion: the program ends only by what is no ordinary error. -/
def troubleOf (error : Value) : Run (Trouble Value) := do
  if ← Run.isError error "Exception" then return .failed else return .ended error

/-- Answers requests and keeps the environment and its world as they are afterwards. -/
def answerIn (request : Request) (state : Environment × World) :
    Except (Trouble Value) request.Answer × Environment × World :=
  let (environment, world) := state
  match (environment.answer request).runIn world with
  | (.ok (reply, environment), world) => (.ok reply, environment, world)
  | (.error error, world) =>
      match (troubleOf error).runIn world with
      | (.ok trouble, world) => (.error trouble, environment, world)
      | (.error error, world) => (.error (.ended error), environment, world)

end Environment

end LiveShell
