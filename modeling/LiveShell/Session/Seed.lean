import LiveShell.Session.Environment

/-!
The namespace that the shell starts with: libraries that are at hand, the functions that the shell adds, and
the hints for these.
-/

namespace LiveShell

namespace Environment

/-- An environment over a new namespace with nothing in it. -/
def empty : Run Environment := do return { space := ← Run.newDict #[] }

/-- What the shell's namespace calls itself. -/
def shellName : String := "__conch__"

/-- The libraries that are bound from the start. -/
def preloaded : List String := ["asyncio", "os", "re"]

/-- The environment of a new shell. -/
def seed : Run Environment := do
  let space ← Run.newDict #[]
  Run.setName space "__name__" (.text shellName)
  Run.prepareSpace space
  for library in preloaded do Run.setName space library (← Run.loadLibrary library)
  Run.setName space "Path" (.kind .path)
  let mut hints : Hints := {}
  for (name, hint) in Hints.standard do
    let function ← Run.new (.host name name (.perform name) false)
    Run.setName space name function
    hints := hints.keep function hint
  return { space, hints }

/-- The names in the namespace of a new shell. -/
def seedNames : List String := ["__name__", "Path"] ++ preloaded ++ Hints.standard.map (·.1)

/-- The names of the namespace in order, without the entry for the built-in ones. -/
def names (environment : Environment) : Run (List String) := do
  return sortedOnce ((← Run.namesIn environment.space).filter (· ≠ Run.builtinsName))

end Environment

end LiveShell
