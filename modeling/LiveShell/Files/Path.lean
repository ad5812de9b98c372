/-!
Paths as text. Nothing here asks a file system: a path is cut at its last separator, joined to another, and
rid of doubled separators by looking at its characters alone.
-/

namespace LiveShell.Files

abbrev Path := List Char

def separator : Char := '/'

/-- What follows the last separator. -/
def baseName : Path → Path
  | [] => []
  | character :: rest =>
      if rest.contains separator then baseName rest
      else if character = separator then rest
      else character :: rest

/-- Everything up to the last separator, that one included. -/
def headOf : Path → Path
  | [] => []
  | character :: rest =>
      if (character :: rest).contains separator then character :: headOf rest else []

/-- A path without the separators at its end. -/
def trimEnd (path : Path) : Path :=
  (path.reverse.dropWhile (· = separator)).reverse

/-- The directory part: the head without the separators at its end, unless it holds nothing else. -/
def directoryName (path : Path) : Path :=
  let head := headOf path
  if head.all (· = separator) then head else trimEnd head

def endsWithSeparator (path : Path) : Bool := path.getLast? = some separator

/-- One path below another; an absolute one stands for itself. -/
def join (directory entry : Path) : Path :=
  if entry.head? = some separator then entry
  else if directory.isEmpty || endsWithSeparator directory then directory ++ entry
  else directory ++ [separator] ++ entry

/-- Runs of separators become one. -/
def collapse : Path → Path
  | [] => []
  | [character] => [character]
  | first :: second :: rest =>
      if first = separator && second = separator then collapse (second :: rest)
      else first :: collapse (second :: rest)

/-- The part of a path that is still being typed: nothing right after a separator. -/
def trailingFragment (path : Path) : Path :=
  if endsWithSeparator path then [] else baseName path

/-- The pieces between separators, empty ones left out. -/
def components (path : Path) : List Path :=
  match _found : path.dropWhile (· = separator) with
  | [] => []
  | first :: rest =>
      (first :: rest.takeWhile (· ≠ separator)) :: components (rest.dropWhile (· ≠ separator))
termination_by path.length
decreasing_by
  have outer := (List.dropWhile_suffix (l := path) (· = separator)).length_le
  have inner := (List.dropWhile_suffix (l := rest) (· ≠ separator)).length_le
  rw [_found] at outer
  simp only [List.length_cons] at outer
  omega

/-- The user's own directory written at the start of a path, and the rest of the path. The user is empty
for the one who asks; a path without a leading tilde names none. -/
def splitHome : Path → Option (Path × Path)
  | '~' :: rest => some (rest.takeWhile (· ≠ separator), rest.dropWhile (· ≠ separator))
  | _ => none

end LiveShell.Files
