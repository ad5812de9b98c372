import LiveShell.Completion.Completer
import LiveShell.Session.Seed

/-!
Completion over a running environment. Requests see the namespace as it is, and the environment and its world
stay as the requests leave them.
-/

namespace LiveShell

namespace Environment

/-- Completes a source at a cursor, its end when there is none, with remarks for the log. What ends the program
passes through. -/
def suggestWithRemarks (environment : Environment) (settings : Settings) (source : String)
    (cursor : Option Int) :
    Run (Option Completion.Completion × List Completion.Remark × Environment) := do
  let world ← get
  let around : Completion.Surroundings :=
    { settings, files := Files.View.ofTree world.files world.place,
      current := String.ofList (Files.Tree.placeText world.place.current) }
  let (result, remarks, environment, world) :=
    (Completion.complete around source cursor).run answerIn (environment, world)
  set world
  match result with
  | .ok found => return (found, remarks, environment)
  | .error (.ended error) => throw error
  | .error .failed => return (none, remarks, environment)

/-- Completes a source at a cursor, its end when there is none. -/
def suggest (environment : Environment) (settings : Settings) (source : String) (cursor : Option Int) :
    Run (Option Completion.Completion × Environment) := do
  let (found, _, environment) ← environment.suggestWithRemarks settings source cursor
  return (found, environment)

/-- The value of a text in a copy of the namespace, so that the namespace stays as it is. -/
def valueAside (environment : Environment) (text : String) : Run Value := do
  valueOf (← Run.newDict (← Run.entriesAt environment.space)) text false

end Environment

end LiveShell
