import LiveShell.Files.Tree

/-!
Candidates for a partially typed path. The file system is asked for two things only, the entries of a
directory and whether a path is one, so all that is said here holds for any two such answers.
-/

namespace LiveShell.Files

/-- What completing paths needs to know of a file system. -/
structure View where
  /-- The names in a directory, in any order. -/
  entries : Path → Except Fault (List Path)
  isDirectory : Path → Bool
  /-- The own directory of a user, the empty one standing for whoever asks. -/
  home? : Path → Option Path

def View.ofTree (tree : Tree) (place : Place) : View where
  entries path := tree.list place.current path
  isDirectory path := tree.isDirectory place.current path
  home? user := if user.isEmpty then some place.home else place.homes.lookup user

/-- A path with the leading tilde replaced by the directory it stands for. An unknown user stays. -/
def expandHome (view : View) (path : Path) : Except Fault Path :=
  match splitHome path with
  | none => pure path
  | some (user, rest) =>
      if user.contains '\x00' then throw .holdsNul
      else match view.home? user with
        | none => pure path
        | some home =>
            let expanded := trimEnd home ++ rest
            pure (if expanded.isEmpty then [separator] else expanded)

/-- A leading tilde expanded and doubled separators collapsed. Steps to a parent stay: what they name
depends on what is there. -/
def normalize (view : View) (path : Path) : Except Fault Path := collapse <$> expandHome view path

def pathText (path : Path) : String := String.ofList path

/-- Names in the order of their characters. -/
def sortNames (names : List Path) : List Path :=
  names.mergeSort fun left right => decide (pathText left ≤ pathText right)

/-- The directory that a partially typed path asks for, and what its entries have to start with. -/
def splitTyped (path : Path) : Path × Path :=
  if endsWithSeparator path then (path, []) else (directoryName path, baseName path)

/-- The path that the file system is asked for; the current directory has no name of its own. -/
def listedAs (directory : Path) : Path := if directory.isEmpty then ['.'] else directory

/-- The entries of a directory in order. One that cannot be listed has none; a path with a forbidden
character is no path at all. -/
def listSorted (view : View) (directory : Path) : Except Fault (List Path) :=
  match view.entries (listedAs directory) with
  | .ok names => pure (sortNames names)
  | .error .holdsNul => throw .holdsNul
  | .error _ => pure []

/-- Why the directory of a partially typed path cannot be listed, if it cannot. -/
def listingFault? (view : View) (path : Path) : Option (Path × Fault) :=
  let directory := (splitTyped path).1
  match view.entries (listedAs directory) with
  | .error .holdsNul => none
  | .error fault => some (directory, fault)
  | .ok _ => none

/-- The candidates for a path, each with the directory as it was typed. A single directory gets a separator,
so that the next request goes into it. -/
def completePath (view : View) (onlyDirectories : Bool) (path : Path) : Except Fault (List Path) := do
  let (directory, typed) := splitTyped path
  let names ← listSorted view directory
  let hits := names.filter (typed.isPrefixOf ·)
  let hits :=
    if onlyDirectories then hits.filter fun hit => view.isDirectory (join directory hit) else hits
  let hits := match hits with
    | [hit] => if view.isDirectory (join directory hit) then [hit ++ [separator]] else [hit]
    | hits => hits
  pure (hits.map (join directory))

/-- The candidates below the typed directory, without it, and the part still being typed. -/
def relativeCandidates (view : View) (onlyDirectories : Bool) (typed : Path) :
    Except Fault (List Path × Path) := do
  let path ← normalize view typed
  let candidates ← completePath view onlyDirectories path
  pure (candidates.map (·.drop (headOf path).length), trailingFragment path)

end LiveShell.Files
