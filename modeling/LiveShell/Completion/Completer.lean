import LiveShell.Completion.Dialogue
import LiveShell.Completion.Suffixes
import LiveShell.Files.Candidates
import LiveShell.Locate.Cursor
import LiveShell.Settings
import LiveShell.Source.Token
import LiveShell.Text.Quoted

/-!
Completing a partially typed line. The node under the cursor decides: paths in a string literal, the names
of the environment for an identifier, the attributes of the evaluated object after a dot, and a hint for a
call whose bracket is still open. Whatever goes wrong on the way, the answer is that there is nothing to
offer; only what ends the whole program passes through.
-/

namespace LiveShell.Completion

/-- Suffixes of what was typed, or one hint that is only to be shown. -/
structure Completion where
  suffixes : List String
  typed : String := ""
  fillable : Bool := true
deriving DecidableEq, Repr, Inhabited

/-- What completing knows besides the environment. -/
structure Surroundings where
  settings : Settings
  files : Files.View
  /-- The current directory. -/
  current : String

/-- What was typed of a name before the cursor. -/
def typedBefore (name : String) (start : Nat) (cursor : Int) : String :=
  String.ofList (name.toList.take (max 0 (cursor - start)).toNat)

def completeGlobals : Dialogue ε (Option Completion) := do
  let names ← Dialogue.request .globalNames
  pure (some { suffixes := suffixesAfter names "" })

def joinedPath (parts : List String) : String :=
  String.ofList (parts.foldl (fun path part => Files.join path part.toList) [])

/-- Whether importing a name, first from the module directory, gave a module. -/
def loadModule (around : Surroundings) (name : String) : Dialogue ε Bool := do
  if !around.settings.autoloadModules || !Text.isName name.toList || Source.isKeyword name.toList then
    return false
  let installed : Dialogue ε Bool := do
    let evaluation ← Dialogue.request (.loadModule name)
    pure (evaluation.result.sort = .object)
  match around.settings.moduleDirectory with
  | none | some "" => installed
  | some directory =>
      let evaluation ← Dialogue.request (.loadModule (joinedPath [around.current, directory, name]))
      if evaluation.result.sort = .object then pure true else installed

def completeIdentifier (around : Surroundings) (cursor : Int) (node : Node) :
    Dialogue ε (Option Completion) := do
  let name := node.typedName
  let typed := typedBefore name node.start cursor
  let names ← Dialogue.request .globalNames
  let finish (names : List String) : Option Completion :=
    match suffixesAfter names typed with
    | [] => none
    | suffixes => some { suffixes := suffixes, typed := typed }
  if name ≠ "" && !names.contains name then
    if ← loadModule around name then return finish (← Dialogue.request .globalNames)
  return finish names

def completeString (around : Surroundings) (cursor : Int) (span : Span) (value raw : String) :
    Dialogue ε (Option Completion) := do
  if cursor = span.start || (cursor = span.stop && isFinishedLiteral raw.toList) then return none
  let (letters, quote) := literalOpening raw.toList
  let payload := span.start + letters.length + quote.length
  let written := if cursor = payload then [] else value.toList
  let candidates : Except Files.Fault (Files.Path × List Files.Path) := do
    let path ← Files.normalize around.files written
    pure (path, ← Files.completePath around.files false path)
  match candidates with
  | .error _ => Dialogue.trouble .failed
  | .ok (path, candidates) =>
      match Files.listingFault? around.files path with
      | some (directory, fault) =>
          Dialogue.note "conch.paths" ("cannot list " ++ Text.quoted (Files.pathText directory) ++ ": " ++
            fault.message (Files.pathText (Files.listedAs directory)))
      | none => pure ()
      pure (some {
        suffixes := suffixesAfter (candidates.map Files.pathText) (Files.pathText path)
        typed := Files.pathText (Files.trailingFragment path) })

def completeMember (source : String) (cursor : Int) (object property : Node) :
    Dialogue ε (Option Completion) := do
  let typed := typedBefore property.typedName property.start cursor
  let nothing : Option Completion := some { suffixes := [], typed := typed }
  let evaluation ← Dialogue.request (.evaluate (object.text source.toList) true)
  match evaluation.failure, evaluation.result.handle with
  | none, some handle =>
      let names ← (Dialogue.request (.properties handle)).ending (Dialogue.request (.release handle))
      pure (some { suffixes := suffixesAfter names typed, typed := typed })
  | _, _ => pure nothing

def completeCall (source : String) (node callee : Node) : Dialogue ε (Option Completion) := do
  if source.toList[node.stop - 1]? = some ')' then return none
  let evaluation ← Dialogue.request (.evaluate (callee.text source.toList) true)
  if evaluation.failure.isSome then return none
  let asked : Dialogue ε Description := Dialogue.request (.hint evaluation.result node source)
  let hint ← match evaluation.result.handle with
    | some handle => asked.ending (Dialogue.request (.release handle))
    | none => asked
  if hint.sort ≠ .text || !hint.value.holds then return none
  match hint.value with
  | .text value => pure (some { suffixes := [value], fillable := false })
  | _ => Dialogue.trouble .failed

/-- Completion by the kind of the node that the cursor sits in. -/
def completeAt (around : Surroundings) (source : String) (cursor : Int) :
    Dialogue ε (Option Completion) := do
  if source = "" then return ← completeGlobals
  match Locate.locate source cursor with
  | .error _ => Dialogue.trouble .failed
  | .ok none => do
      Dialogue.note "conch.parser" ("no node at " ++
        toString (Locate.clampCursor source.length cursor) ++ " in " ++ Text.quoted source)
      completeGlobals
  | .ok (some node) =>
      match node with
      | .string span value raw => completeString around cursor span value raw
      | .identifier .. => completeIdentifier around cursor node
      | .member _ _ _ true => pure none
      | .member _ object property false => completeMember source cursor object property
      | .call _ callee _ => completeCall source node callee
      | .other _ => do
          Dialogue.note "conch.completer" ("no completion for " ++ node.kindName ++ " node at " ++
            toString cursor)
          pure none

/-- Completes a source at a cursor, its end when there is none. Failures count as nothing to offer. -/
def complete (around : Surroundings) (source : String) (cursor : Option Int) :
    Dialogue ε (Option Completion) :=
  let cursor := cursor.getD source.length
  (completeAt around source cursor).handle fun
    | .ok completion => .finish completion
    | .error .failed => do
        Dialogue.note "conch.completer" ("completion of " ++ Text.quoted source ++ " at " ++
          toString cursor ++ " failed")
        pure none
    | .error (.ended reason) => .trouble (.ended reason)

end LiveShell.Completion
