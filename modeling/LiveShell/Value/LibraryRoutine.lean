import LiveShell.Value.Routine

/-!
Functions of the libraries: places in the file system, paths, patterns and a part of the mathematical ones.
-/

namespace LiveShell

namespace Run

/-- Raises a fault of the file system about a path. -/
def raiseFault {α : Type} (fault : Files.Fault) (path : Value) : Run α :=
  match fault.number? with
  | some number =>
      raise ((systemErrors.lookup (number : Int)).getD "OSError") [.whole number, .text fault.reason, path]
  | none => valueError fault.reason

def pathArgument (value : Value) : Run Files.Path := do
  match ← plain value with
  | .text text | .path text => return text.toList
  | _ => typeError ("expected str, bytes or os.PathLike object, not " ++ (← typeName value))

def pathValue (path : Files.Path) : Value := .text (String.ofList path)

def currentDirectory : Run Value := do return pathValue (Files.Tree.placeText (← get).place.current)

/-- A path cut before its last dot, unless the name starts there. -/
def splitSuffix (path : Files.Path) : Files.Path × Files.Path :=
  let name := Files.baseName path
  let after := (name.reverse.takeWhile (· ≠ '.')).reverse
  let before := name.take (name.length - after.length - 1)
  if after.length = name.length || before.all (· = '.') then (path, [])
  else (path.take (path.length - after.length - 1), '.' :: after)

/-- A path without steps that lead nowhere. -/
def simplifyPath (path : Files.Path) : Files.Path :=
  let rooted : Bool := path.head? = some Files.separator
  let steps := (Files.components path).foldl (fun done step =>
    if step = ['.'] then done
    else if step = ['.', '.'] then
      match done.getLast? with
      | some last => if last = ['.', '.'] then done ++ [step] else done.dropLast
      | none => if rooted then done else [step]
    else done ++ [step]) []
  let body := [Files.separator].intercalate steps
  let text := if rooted then Files.separator :: body else body
  if text.isEmpty then ['.'] else text

def absolutePath (path : Files.Path) : Run Files.Path := do
  return simplifyPath (Files.join (Files.Tree.placeText (← get).place.current) path)

def expandPath (path : Files.Path) : Run Files.Path := do
  let world ← get
  match Files.expandHome (Files.View.ofTree world.files world.place) path with
  | .ok expanded => return expanded
  | .error fault => raiseFault fault (pathValue path)

/-- Functions on paths. -/
def callPathRoutine? (name : String) (given : Given) : Run (Option Value) := do
  let path ← (match given.positional with
    | value :: _ => pathArgument value
    | [] => pure [])
  let world ← get
  let current := world.place.current
  match name with
  | "join" =>
      let others ← (given.positional.drop 1).mapM pathArgument
      return some (pathValue (others.foldl Files.join path))
  | "basename" => return some (pathValue (Files.baseName path))
  | "dirname" => return some (pathValue (Files.directoryName path))
  | "split" => return some (.tuple [pathValue (Files.directoryName path), pathValue (Files.baseName path)])
  | "splitext" =>
      let (stem, suffix) := splitSuffix path
      return some (.tuple [pathValue stem, pathValue suffix])
  | "exists" | "lexists" => return some (.boolean (world.files.resolve current path).toOption.isSome)
  | "isdir" => return some (.boolean (world.files.isDirectory current path))
  | "isfile" => return some (.boolean (world.files.isFile current path))
  | "isabs" => return some (.boolean (path.head? = some Files.separator))
  | "normpath" => return some (pathValue (simplifyPath path))
  | "abspath" | "realpath" => return some (pathValue (← absolutePath path))
  | "expanduser" => return some (pathValue (← expandPath path))
  | "normcase" | "expandvars" => return some (pathValue path)
  | _ => return none

def callSystemRoutine? (name : String) (given : Given) : Run (Option Value) := do
  match name with
  | "getcwd" => return some (← currentDirectory)
  | "fspath" => return some (pathValue (← pathArgument (given.positional.headD .nothing)))
  | "listdir" =>
      let path := given.positional.headD (.text ".")
      let world ← get
      match world.files.list world.place.current (← pathArgument path) with
      | .ok names => return some (← newList (names.map pathValue).toArray)
      | .error fault => raiseFault fault path
  | "chdir" =>
      let path := given.positional.headD .nothing
      let world ← get
      let characters ← pathArgument path
      match world.files.resolve world.place.current characters with
      | .ok place =>
          if world.files.isDirectoryAt place then
            set { world with place := { world.place with current := place } }
            return some .nothing
          else raiseFault .notDirectory path
      | .error fault => raiseFault fault path
  | "getenv" =>
      match given.positional with
      | .text "HOME" :: _ => return some (pathValue (← get).place.home)
      | _ :: standard :: _ => return some standard
      | _ => return some .nothing
  | _ => return none

/-- Functions on patterns: they make the pattern and call its method of the same name. -/
def callPatternRoutine? (engine : Engine) (name : String) (given : Given) : Run (Option Value) := do
  match name, given.positional with
  | "compile", source :: rest =>
      let flags := (given.named.lookup "flags").getD (rest.headD (.whole 0))
      return some (.ref (← compilePattern source flags))
  | "escape", [.text text] =>
      let special := "()[]\x7b\x7d?*+-|^$\\.&~# \t\n\r\x0b\x0c".toList
      return some (.text (String.ofList (text.toList.flatMap fun character =>
        if special.contains character then ['\\', character] else [character])))
  | "purge", [] => return some .nothing
  | _, source :: rest =>
      if !(["search", "match", "fullmatch", "findall", "finditer", "sub", "split"].contains name) then
        return none
      let taken := if name = "sub" then 2 else 1
      let flags := (given.named.lookup "flags").getD
        ((rest[if name = "sub" || name = "split" then taken + 1 else taken]?).getD (.whole 0))
      let pattern ← compilePattern source flags
      return some (← callMethod engine (.ref pattern) name ⟨rest.take (taken + 1), []⟩)
  | _, [] => return none

/-- Functions of one real number that give one. -/
def realFunction? (name : String) : Option (Float → Float) :=
  match name with
  | "sqrt" => some Float.sqrt
  | "exp" => some Float.exp
  | "sin" => some Float.sin
  | "cos" => some Float.cos
  | "tan" => some Float.tan
  | "asin" => some Float.asin
  | "acos" => some Float.acos
  | "atan" => some Float.atan
  | "log2" => some Float.log2
  | "log10" => some Float.log10
  | "fabs" => some Float.abs
  | _ => none

def callMathRoutine? (engine : Engine) (name : String) (given : Given) : Run (Option Value) := do
  let first := given.positional.headD .nothing
  match realFunction? name with
  | some function =>
      let number ← realOf engine first
      let result := function number
      if result.isNaN && !number.isNaN then valueError "math domain error"
      if result.isInf && !number.isInf then
        if name = "exp" then fail "OverflowError" "math range error" else valueError "math domain error"
      return some (.real result)
  | none =>
      match name with
      | "floor" | "ceil" | "trunc" =>
          return some (← callOperation engine first ("__" ++ name ++ "__") ⟨[], []⟩)
      | "gcd" =>
          let numbers ← given.positional.mapM (toIndex engine)
          return some (.whole (numbers.foldl (fun done number => Nat.gcd done number.natAbs) 0 : Nat))
      | "isnan" => return some (.boolean (← realOf engine first).isNaN)
      | "isinf" => return some (.boolean (← realOf engine first).isInf)
      | "isfinite" => return some (.boolean (← realOf engine first).isFinite)
      | "pow" =>
          let exponent ← realOf engine ((given.positional[1]?).getD .nothing)
          return some (.real ((← realOf engine first).pow exponent))
      | "log" =>
          let number ← realOf engine first
          if number ≤ 0.0 then valueError "math domain error"
          match given.positional[1]? with
          | some base => return some (.real (number.log / (← realOf engine base).log))
          | none => return some (.real number.log)
      | _ => return none

/-- Calls a function of a library. -/
def callLibraryRoutine (engine : Engine) (library name : String) (given : Given) : Run Value := do
  let result ← (match library with
    | "builtins" =>
        if name = "exit" || name = "quit" then raise "SystemExit" [given.positional.headD .nothing]
        else return some .nothing
    | "os" => callSystemRoutine? name given
    | "posixpath" => callPathRoutine? name given
    | "re" => callPatternRoutine? engine name given
    | "math" => callMathRoutine? engine name given
    | "asyncio" =>
        if name = "sleep" then
          return some (← new (.coroutine "sleep" (.ready ((given.positional[1]?).getD .nothing))))
        else pure none
    | _ => pure none : Run (Option Value))
  match result with
  | some value => return value
  | none => fail "RuntimeError" (library ++ "." ++ name ++ "() cannot be called here")

end Run

end LiveShell
