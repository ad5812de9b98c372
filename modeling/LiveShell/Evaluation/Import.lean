import LiveShell.Evaluation.Expression

/-!
Loading libraries by name and binding what they hold.
-/

namespace LiveShell

namespace Run

/-- How deep libraries that are parts of libraries may lie. -/
def libraryDepth : Nat := 6

/-- Whether a library or a file was loaded under a name. -/
def isLoaded (name : String) : Run Bool := do
  return Library.loadedFromStart.contains name || ((← get).modules.lookup name).isSome

/-- The name without its last part; empty when it has one part only. -/
def parentName (name : String) : String := ".".intercalate (name.splitOn ".").dropLast

def noModule {α : Type} (name : String) : Run α :=
  fail "ModuleNotFoundError" ("No module named " ++ Text.quoted name)

/-- What is loaded under a name; the libraries above it are loaded first. -/
def loadNamed : Nat → String → Run Value
  | 0, name => noModule name
  | depth + 1, name => do
      let proper := Library.properName name
      match (← get).modules.lookup proper with
      | some library => return library
      | none =>
          if Library.loadedFromStart.contains name then openLibrary libraryDepth proper
          else
            let parent := parentName name
            if name.contains '.' then
              let _ ← loadNamed depth parent
              if !Library.isPackage parent then
                fail "ModuleNotFoundError"
                  ("No module named " ++ Text.quoted name ++ "; " ++ Text.quoted parent ++ " is not a package")
            if Library.exists? name then openLibrary libraryDepth proper else noModule name

/-- Loads a library by its full name. -/
def loadLibrary (name : String) : Run Value := do
  if name.startsWith "." then
    typeError ("the 'package' argument is required to perform a relative import for '" ++ name ++ "'")
  if name = "" then valueError "Empty module name"
  loadNamed ((name.splitOn ".").length + 1) name

/-- Loads a library and binds it, or the library that it is a part of. -/
def importInto (engine : Engine) (scope : Scope) (name : String) (binding : Option String) : Run Unit := do
  let library ← loadLibrary name
  match binding with
  | some word =>
      let parts := (name.splitOn ".").drop 1
      let mut part ← loadLibrary (Code.firstPart name)
      for step in parts do
        part := (← attributeIfAny? engine part step).getD library
      bindName scope word part
  | none => bindName scope (Code.firstPart name) (← loadLibrary (Code.firstPart name))

def moduleName (module : Value) : Run String := do
  match module with
  | .ref address =>
      match ← cellAt? address with
      | some (.module name _) => return name
      | _ => return "?"
  | _ => return "?"

/-- Binds names that a library holds. -/
def importFrom (engine : Engine) (scope : Scope) (name : String) (level : Nat)
    (names : List (String × Option String)) : Run Unit := do
  if 0 < level then
    if (← nameIn? scope.globals "__name__").isNone then raise "KeyError" [.text "'__name__' not in globals"]
    fail "ImportError" "attempted relative import with no known parent package"
  let library ← loadLibrary name
  for (word, binding) in names do
    if word = "*" then
      for member in ← plainNames library do
        if !member.startsWith "_" then
          match ← attributeIfAny? engine library member with
          | some value => bindName scope member value
          | none => pure ()
    else
      match ← attributeIfAny? engine library word with
      | some value => bindName scope (binding.getD word) value
      | none =>
          let full := name ++ "." ++ word
          if Library.exists? full then bindName scope (binding.getD word) (← loadLibrary full)
          else
            fail "ImportError" ("cannot import name '" ++ word ++ "' from '" ++ (← moduleName library) ++
              "' (unknown location)")

end Run

end LiveShell
