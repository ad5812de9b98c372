import LiveShell.Files.Path
import LiveShell.Text.Quoted

/-!
A tree of files and directories, and what asking for a path in it gives. There are no links, so a path is
walked component by component from the current directory or from the top.
-/

namespace LiveShell.Files

/-- Why a path cannot be used. -/
inductive Fault
  | missing
  | notDirectory
  | isDirectory
  | occupied
  /-- No path holds the character that ends texts inside the system. -/
  | holdsNul
deriving DecidableEq, Repr, Inhabited

/-- The system's number for a fault, where it has one. -/
def Fault.number? : Fault → Option Nat
  | .missing => some 2
  | .notDirectory => some 20
  | .isDirectory => some 21
  | .occupied => some 17
  | .holdsNul => none

def Fault.reason : Fault → String
  | .missing => "No such file or directory"
  | .notDirectory => "Not a directory"
  | .isDirectory => "Is a directory"
  | .occupied => "File exists"
  | .holdsNul => "embedded null byte"

/-- The text of a fault about a path. -/
def Fault.message (fault : Fault) (path : String) : String :=
  match fault.number? with
  | some number => "[Errno " ++ toString number ++ "] " ++ fault.reason ++ ": " ++ Text.quoted path
  | none => fault.reason

/-- Entries by their components from the top. A directory has no text. The top itself is not listed. -/
structure Tree where
  entries : List (List Path × Option String)
deriving Inhabited

namespace Tree

def isDirectoryAt (tree : Tree) (place : List Path) : Bool :=
  place.isEmpty || tree.entries.any fun (name, content) => name = place && content.isNone

def exists? (tree : Tree) (place : List Path) : Bool :=
  place.isEmpty || tree.entries.any fun (name, _) => name = place

def textAt? (tree : Tree) (place : List Path) : Option String :=
  (tree.entries.find? fun (name, _) => name = place).bind (·.2)

/-- The names of what lies directly in a directory. -/
def childrenOf (tree : Tree) (place : List Path) : List Path :=
  tree.entries.filterMap fun (name, _) =>
    match name.getLast? with
    | some last => if name.dropLast = place then some last else none
    | none => none

/-- Walks components from a place. Every step needs a directory to start from. -/
def walk (tree : Tree) (place : List Path) : List Path → Except Fault (List Path)
  | [] => pure place
  | step :: rest =>
      if !tree.isDirectoryAt place then throw (if tree.exists? place then .notDirectory else .missing)
      else if step = ['.'] then tree.walk place rest
      else if step = ['.', '.'] then tree.walk place.dropLast rest
      else if tree.exists? (place ++ [step]) then tree.walk (place ++ [step]) rest
      else throw .missing

/-- The place a path leads to from a current directory. A separator at the end asks for a directory. -/
def resolve (tree : Tree) (current : List Path) (path : Path) : Except Fault (List Path) :=
  if path.isEmpty then throw .missing
  else if path.contains '\x00' then throw .holdsNul
  else do
    let start := if path.head? = some separator then [] else current
    let place ← tree.walk start (components path)
    if endsWithSeparator path && !tree.isDirectoryAt place then throw .notDirectory else pure place

def list (tree : Tree) (current : List Path) (path : Path) : Except Fault (List Path) := do
  let place ← tree.resolve current path
  if tree.isDirectoryAt place then pure (tree.childrenOf place) else throw .notDirectory

def isDirectory (tree : Tree) (current : List Path) (path : Path) : Bool :=
  match tree.resolve current path with
  | .ok place => tree.isDirectoryAt place
  | .error _ => false

def isFile (tree : Tree) (current : List Path) (path : Path) : Bool :=
  match tree.resolve current path with
  | .ok place => (tree.textAt? place).isSome
  | .error _ => false

def read (tree : Tree) (current : List Path) (path : Path) : Except Fault String := do
  let place ← tree.resolve current path
  match tree.textAt? place with
  | some text => pure text
  | none => throw .isDirectory

/-- The text of a place, written with a leading separator. -/
def placeText (place : List Path) : Path :=
  if place.isEmpty then [separator] else place.flatMap (separator :: ·)

/-- Adds an entry with the directories that lead to it, in place of what had its name. -/
def put (tree : Tree) (place : List Path) (content : Option String) : Tree :=
  let rec parents (above : List Path) : List Path → Tree → Tree
    | [], tree => tree
    | [_], tree => tree
    | step :: rest, tree =>
        let here := above ++ [step]
        parents here rest
          (if tree.exists? here then tree else ⟨tree.entries ++ [(here, none)]⟩)
  let tree := parents [] place tree
  if content.isNone && tree.exists? place then tree
  else if tree.exists? place then
    ⟨tree.entries.map fun (name, old) => (name, if name = place then content else old)⟩
  else ⟨tree.entries ++ [(place, content)]⟩

/-- Makes a directory, and first the ones above it that are missing. The components are in reverse. A fault
is about the directory that could not be made. -/
def makeDirectory (tree : Tree) (start : List Path) : List Path → Except (Fault × List Path) Tree
  | [] => pure tree
  | name :: above => do
      let faultHere (fault : Fault) : Fault × List Path := (fault, (name :: above).reverse)
      let tree ← match tree.walk start above.reverse with
        | .error .missing => tree.makeDirectory start above
        | _ => pure tree
      match tree.walk start above.reverse with
      | .error fault => throw (faultHere fault)
      | .ok place =>
          if !tree.isDirectoryAt place then throw (faultHere .notDirectory)
          else match tree.walk start (name :: above).reverse with
            | .error _ => pure (tree.put (place ++ [name]) none)
            | .ok made => if tree.isDirectoryAt made then pure tree else throw (faultHere .occupied)

end Tree

/-- Where a user's own directory lies, and which directory is current. -/
structure Place where
  current : List Path
  home : Path
  /-- The directories of the users that have one here. -/
  homes : List (Path × Path)
deriving Inhabited

end LiveShell.Files
