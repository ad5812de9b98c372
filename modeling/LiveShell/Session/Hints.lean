import LiveShell.Evaluation.Engine
import LiveShell.Node
import LiveShell.Value.Signature

/-!
Hints for calls, kept by the identity of the value that is called. A bound method shares the hint of its
function.
-/

namespace LiveShell

/-- What is shown for a call: a text, or what a provider makes of the call and its line. -/
inductive Hint
  | text (hint : String)
  | provider (provide : Option Node → String → Run Value)

/-- The values that have a hint. -/
structure Hints where
  entries : List (Value × Hint) := []

namespace Hints

/-- What a hint is kept for: the function of a bound method, other values themselves. -/
def target (callee : Value) : Run Value := do
  return (← Run.attributeIfAny? engine callee "__func__").getD callee

def forget (hints : Hints) (target : Value) : Hints :=
  { entries := hints.entries.filter fun (known, _) => !known.same target }

def keep (hints : Hints) (target : Value) (hint : Hint) : Hints :=
  { entries := (hints.forget target).entries ++ [(target, hint)] }

def find? (hints : Hints) (target : Value) : Option Hint :=
  (hints.entries.find? fun (known, _) => known.same target).map (·.2)

def register (hints : Hints) (callee : Value) (hint : Hint) : Run Hints := do
  return hints.keep (← target callee) hint

def unregister (hints : Hints) (callee : Value) : Run Hints := do return hints.forget (← target callee)

/-- Registers a hint; without one, the signature of the value. -/
def annotate (hints : Hints) (callee : Value) (hint : Option Hint) : Run Hints := do
  match hint with
  | some hint => hints.register callee hint
  | none => hints.register callee (.text (← Run.signatureHint engine callee))

def knows (hints : Hints) (callee : Value) : Run Bool := do
  return (hints.find? (← target callee)).isSome

/-- The hint for a call; nothing for a value without one. -/
def forCall (hints : Hints) (callee : Value) (site : Option Node) (line : String) : Run Value := do
  match hints.find? (← target callee) with
  | none => return .nothing
  | some (.text hint) => return .text hint
  | some (.provider provide) => provide site line

/-- The arguments of the node that a hint is for. Without a node there is nothing to ask. -/
def argumentsOf (site : Option Node) : Run (List Node) :=
  match site with
  | none => Run.fail "AttributeError" "'NoneType' object has no attribute 'arguments'"
  | some (.call _ _ arguments) => return arguments
  | some _ => return []

/-- The hint for the function that searches for a pattern: as soon as there is a pattern, it is about flags. -/
def searchHint (site : Option Node) (_line : String) : Run Value := do
  let start := "grep(pattern, flags=0) -> predicate -- "
  if (← argumentsOf site).isEmpty then return .text (start ++ "pattern: str or compiled re.Pattern")
  else return .text (start ++ "flags: re.IGNORECASE, re.MULTILINE, ...")

/-- The hints of the functions that the shell adds, by their names. -/
def standard : List (String × Hint) :=
  [("cd", .text "cd(path='~') -> str -- change the working directory"),
   ("pwd", .text "pwd() -> str -- current working directory"), ("grep", .provider searchHint)]

end Hints

end LiveShell
