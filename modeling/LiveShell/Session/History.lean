import LiveShell.Session.Moment
import LiveShell.Value.LibraryRoutine

/-!
The history of inputs. It may be kept in a file, where an entry is an empty line, a line that tells when, and
the lines of the input, each behind a plus sign.
-/

namespace LiveShell

structure History where
  /-- The file that the history is kept in. -/
  file : Option Files.Path := none
  /-- The inputs, oldest first. -/
  entries : List String := []
deriving Inhabited

namespace History

/-- An input as it stands in the file. -/
def entryText (moment : Moment) (text : String) : String :=
  let lines := Text.splitAtEach '\n' text.toList
  "\n# " ++ moment.dateAndTime ++ "\n" ++ String.join (lines.map fun line => "+" ++ String.ofList line ++ "\n")

/-- The inputs in the lines of a file: runs of lines behind a plus sign. -/
def entriesIn (done : List String) : List (List Char) → List String
  | [] => finished
  | ('+' :: line) :: lines => entriesIn (String.ofList line :: done) lines
  | _ :: lines => finished ++ entriesIn [] lines
where
  finished : List String := if done.isEmpty then [] else ["\n".intercalate done.reverse]

/-- A path without the steps that lead nowhere. -/
def plainComponents (path : Files.Path) : List Files.Path :=
  (Files.components path).filter (· ≠ ['.'])

/-- Components as a path again. -/
def pathOf (isAbsolute : Bool) (parts : List Files.Path) : Files.Path :=
  let joined := (parts.intersperse [Files.separator]).flatten
  if isAbsolute then Files.separator :: joined else if parts.isEmpty then ['.'] else joined

def isAbsolute (path : Files.Path) : Bool := path.head? = some Files.separator

/-- A path with its own directory in place of a tilde. A user without one is an error. -/
def expanded (path : Files.Path) : Run Files.Path := do
  let plain := pathOf (isAbsolute path) (plainComponents path)
  let path ← Run.expandPath plain
  if path.head? = some '~' then Run.fail "RuntimeError" "Could not determine home directory."
  return pathOf (isAbsolute path) (plainComponents path)

/-- Makes the directory that a file is to stand in. -/
def makeRoom (path : Files.Path) : Run Unit := do
  let world ← get
  let start := if isAbsolute path then [] else world.place.current
  match world.files.makeDirectory start (plainComponents path).dropLast.reverse with
  | .ok files => set { world with files }
  | .error (fault, parts) => Run.raiseFault fault (Run.pathValue (pathOf (isAbsolute path) parts))

/-- The history that the settings ask for, with the inputs that its file holds already. -/
def start (file : Option String) : Run History := do
  match file with
  | none | some "" => return {}
  | some file =>
      let path ← expanded file.toList
      makeRoom path
      let world ← get
      let text := ((world.files.read world.place.current path).toOption).getD ""
      let lines := Text.cutLines (· = '\n') false [] text.toList
      return { file := some path, entries := entriesIn [] lines }

/-- Adds to the file. -/
def store (path : Files.Path) (text : String) : Run Unit := do
  let world ← get
  let current := world.place.current
  let parts := plainComponents path
  match world.files.walk (if isAbsolute path then [] else current) parts.dropLast with
  | .error fault => Run.raiseFault fault (Run.pathValue path)
  | .ok place =>
      let before := ((world.files.read current path).toOption).getD ""
      let place := place ++ (parts.getLast?).toList
      set { world with files := world.files.put place (some (before ++ text)) }

/-- Adds an input, unless it is empty or the same as the latest one. -/
def add (history : History) (moment : Moment) (text : String) : Run History := do
  if text = "" || history.entries.getLast? = some text then return history
  for path in history.file do store path (entryText moment text)
  return { history with entries := history.entries ++ [text] }

end History

end LiveShell
