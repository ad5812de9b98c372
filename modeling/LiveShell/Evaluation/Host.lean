import LiveShell.Evaluation.Parameter
import LiveShell.Value.LibraryRoutine

/-!
Functions of the surroundings: the ones that the shell adds to what code can use, and those that only give a
value or raise an error.
-/

namespace LiveShell

namespace Run

/-- Changes the current directory and gives the new one. -/
def changeDirectory (path : Value) : Run Value := do
  let expanded ← expandPath (← pathArgument path)
  let _ ← callSystemRoutine? "chdir" ⟨[pathValue expanded], []⟩
  currentDirectory

/-- A function that tells whether a pattern is found in a text. -/
def searchFunction (engine : Engine) (pattern flags : Value) : Run Value := do
  let isEmpty ← (match pattern with
    | .nothing => pure true
    | pattern => equal engine pattern (.text ""))
  if isEmpty then fail "PatternRequiredError" "grep() requires a pattern"
  let compiled ← (do
    if ← isKind pattern .text then return .ref (← compilePattern pattern flags)
    else return pattern : Run Value)
  new (.host "<lambda>" "grep.<locals>.<lambda>" (.search compiled) false)

/-- What a function of the surroundings takes. -/
def hostSlots (name qualified : String) (action : HostAction) : List Slot :=
  match action with
  | .perform "cd" => [{ name := "path", kind := .positional, default := some (.text "~") }]
  | .perform "grep" =>
      [{ name := "pattern", kind := .positional, default := some .nothing },
       { name := "flags", kind := .positional, default := some (.whole 0) }]
  | .perform _ => []
  | .search _ => [{ name := "text", kind := .positional }]
  | _ =>
      if name = qualified then [{ name := "args", kind := .variadic }, { name := "kwargs", kind := .keywords }]
      else [{ name := "self", kind := .positional }, { name := "args", kind := .variadic }]

def callHost (engine : Engine) (name qualified : String) (action : HostAction) (counted : Bool)
    (given : Given) : Run Value := do
  let bound ← fitArguments qualified (hostSlots name qualified action) given
  let argument (name : String) : Value := (bound.lookup name).getD .nothing
  if counted then count name
  match action with
  | .give value => return value
  | .raise error text => fail error text
  | .perform "cd" => changeDirectory (argument "path")
  | .perform "pwd" => currentDirectory
  | .perform "grep" => searchFunction engine (argument "pattern") (argument "flags")
  | .perform _ => return .nothing
  | .search pattern =>
      let found ← engine.call (← attributeOf engine pattern "search") [argument "text"] []
      return .boolean !(found.same .nothing)

/-- The functions that the shell adds. -/
def hostFunctions : List String := ["cd", "pwd", "grep"]

end Run

end LiveShell
