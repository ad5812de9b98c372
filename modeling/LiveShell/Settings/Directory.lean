import LiveShell.Files.Tree
import LiveShell.Settings.Load

/-!
Settings as they are found in a directory of a tree of files.
-/

namespace LiveShell.Settings

/-- The settings that hold in a directory. Files that cannot be read count as not there. -/
def loadIn (files : Files.Tree) (current : List Files.Path) (directory : String) :
    Except LoadFault Settings :=
  let file (name : String) : String × Option String :=
    let path := if directory = "." then name
      else String.ofList (Files.join directory.toList name.toList)
    (path, (files.read current path.toList).toOption)
  load (file "pyproject.toml") (file ".conch.toml")

end LiveShell.Settings
