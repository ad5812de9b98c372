import LiveShell.Evaluation.Engine

/-!
Running whole texts: expressions, programs and files. What runs in a namespace finds the built-in names
through an entry that is added to it.
-/

namespace LiveShell

namespace Run

def scopeOf (space : Address) : Scope := { globals := space }

/-- Adds the entry for the built-in names, unless there is one. -/
def prepareSpace (space : Address) : Run Unit := do
  if (← nameIn? space builtinsName).isNone then
    setName space builtinsName (.foreign "builtins" builtinsName)

def raiseFaultOfCode {α : Type} (fault : Code.Fault) : Run α :=
  match fault with
  | .malformed => raise "SyntaxError" []
  | .indentation => raise "IndentationError" []
  | .tabs => raise "TabError" []

def readOrRaise {α : Type} (found : Except Code.Fault α) : Run α :=
  match found with
  | .ok value => return value
  | .error fault => raiseFaultOfCode fault

/-- No text with the character that ends texts is code. -/
def requireText (source : String) : Run Unit := do
  if source.toList.contains '\x00' then valueError "source code string cannot contain null bytes"

/-- The value of an expression that keeps the rules of code, in a namespace, with a gate for its calls. -/
def evaluateThrough (gate : Gate) (space : Address) (mayWait : Bool) (expression : Code.Expr) : Run Value := do
  if !expression.fits { mayWait } then raiseFaultOfCode .malformed
  prepareSpace space
  Gated.evaluate engine gate (scopeOf space) expression

/-- The value of an expression that keeps the rules of code, in a namespace. -/
def evaluateIn (space : Address) (mayWait : Bool) (expression : Code.Expr) : Run Value :=
  evaluateThrough .free space mayWait expression

/-- Runs statements that keep the rules of code, in a namespace. -/
def runProgram (space : Address) (program : List Code.Stmt) : Run Unit := do
  if !Code.programFits program then raiseFaultOfCode .malformed
  prepareSpace space
  prepareAnnotations (scopeOf space) program
  let _ ← runBlock engine (scopeOf space) program

/-! Modules in files. -/

/-- The name of the module at a path: its last part. -/
def moduleNameOf (path : String) : String :=
  String.ofList (Files.baseName (Files.trimEnd path.toList))

/-- Where the text of the module at a path is, and whether it is a package. -/
def moduleFile? (path : String) : Run (Option (String × Bool)) := do
  let world ← get
  let isFile (path : String) : Bool := world.files.isFile world.place.current path.toList
  let package := String.ofList (Files.join path.toList "__init__.py".toList)
  if isFile (path ++ ".py") then return some (path ++ ".py", false)
  else if isFile package then return some (package, true)
  else return none

def forgetModule (name : String) : Run Unit :=
  modify fun world => { world with modules := world.modules.filter (·.1 ≠ name) }

/-- A text without the mark at its start that tells its coding. -/
def withoutMark (source : String) : String :=
  match source.toList with
  | '\ufeff' :: rest => String.ofList rest
  | _ => source

/-- What a module knows from the start. -/
def moduleEntries (name file path : String) (isPackage : Bool) : List (String × Value) :=
  [("__name__", .text name), ("__doc__", .nothing), ("__package__", .text (if isPackage then name else "")),
   ("__loader__", .foreign "importlib" "__loader__"), ("__spec__", .foreign "importlib" "__spec__")] ++
  (if isPackage then [("__path__", .tuple [.text path])] else []) ++
  [("__file__", .text file), ("__cached__", .text file)]

/-- Loads the module at a path. When its code raises, the module is forgotten again. -/
def loadFile (path : String) : Run (Option Value) := do
  let name := moduleNameOf path
  match ← moduleFile? path with
  | none => return none
  | some (file, isPackage) =>
      let space ← newDict #[]
      for (entry, value) in moduleEntries name file path isPackage do setName space entry value
      let module ← new (.module name space)
      modify fun world => { world with modules := world.modules ++ [(name, module)] }
      let world ← get
      let outcome ← attempt (do
        match world.files.read world.place.current file.toList with
        | .error fault => raiseFault fault (.text file)
        | .ok source =>
            requireText source
            let program ← readOrRaise (Code.readProgram (withoutMark source))
            match leadingText? program with
            | some doc => setName space "__doc__" (.text doc)
            | none => pure ()
            runProgram space program)
      match outcome with
      | .ok _ => return some module
      | .error error =>
          forgetModule name
          throw error

/-- The name that a loaded module is bound to: the last part of what it calls itself. -/
def bindingNameOf (module : Value) : Run String := do
  match ← attributeOf engine module "__name__" with
  | .text name => return (name.splitOn ".").getLastD ""
  | other =>
      let rpartition ← attributeOf engine other "rpartition"
      textOf engine (← itemOf engine (← engine.call rpartition [.text "."] []) (.whole 2))

end Run

end LiveShell
