import LiveShell.Session.Command
import LiveShell.Session.Shell
import Std.Time.DateTime.Timestamp

/-!
The program. It takes the files around the current directory into a tree, carries a command line out on that,
and puts down what changed.
-/

namespace LiveShell.Program

open Files

/-- How far below the current directory files are seen. -/
def sightDepth : Nat := 5

/-- Adds what lies in a directory, so far as it can be read. -/
def lookInto (place : List Path) (depth : Nat) (tree : Tree) : IO Tree := do
  match depth with
  | 0 => return tree
  | depth + 1 =>
      let entries ← try (System.mkFilePath [String.ofList (Tree.placeText place)]).readDir
        catch _ => pure #[]
      let mut tree := tree
      for entry in entries do
        let here := place ++ [entry.fileName.toList]
        if ← entry.path.isDir then tree ← lookInto here depth (tree.put here none)
        else
          let text ← try IO.FS.readFile entry.path catch _ => pure ""
          tree := tree.put here (some text)
      return tree

/-- The world that the program starts in. -/
def startWorld : IO World := do
  let here ← IO.currentDir
  let current := components here.toString.toList
  let home := ((← IO.getEnv "HOME").getD "/").toList
  let tree : Tree ← (do
    if current.isEmpty then return ⟨[]⟩ else return Tree.put ⟨[]⟩ current none : IO Tree)
  return { files := ← lookInto current sightDepth tree, place := { current, home, homes := [] } }

/-- Puts down the files and directories that are new or have changed. -/
def putDown (before after : Tree) : IO Unit := do
  for (place, content) in after.entries do
    let path := String.ofList (Tree.placeText place)
    match content with
    | none => if !before.exists? place then IO.FS.createDirAll path
    | some text => if before.textAt? place ≠ some text then IO.FS.writeFile path text

def now : IO Moment := do
  return { seconds := (← Std.Time.Timestamp.now).toSecondsSinceUnixEpoch.val.toNat }

def usage : String :=
  "Usage: liveshell [--debug] [--help] [complete SOURCE [--cursor N]]"

/-- Reads inputs, one a line, until there are no more, and shows the replies. -/
partial def converse (shell : Shell) (world : World) : IO World := do
  let (pieces, world) := match Shell.prompt.runIn world with
    | (.ok pieces, world) => (pieces, world)
    | (.error _, world) => ([], world)
  IO.print (String.join (pieces.map (·.2)))
  (← IO.getStdout).flush
  let line ← (← IO.getStdin).getLine
  if line.isEmpty then return world
  let text := String.ofList (Text.dropEnd (· = '\n') line.toList)
  match (shell.take (← now) text).runIn world with
  | (.error _, world) => return world
  | (.ok (reply, shell), world) =>
      match reply with
      | .printed shown => IO.print shown
      | .failed line => IO.println line
      converse shell world

def converseFrom (settings : Settings) (world : World) : IO World := do
  match (Shell.start settings).runIn world with
  | (.ok shell, world) => converse shell world
  | (.error _, world) =>
      IO.eprintln "Error: the history cannot be kept"
      return world

end LiveShell.Program

open LiveShell LiveShell.Program in
def main (arguments : List String) : IO UInt32 := do
  let before ← startWorld
  match (Command.run (← now) arguments).runIn before with
  | (.error _, _) => return 1
  | (.ok outcome, world) =>
      let world ← (match outcome with
        | .help => do
            IO.println usage
            return world
        | .misused => do
            IO.eprintln usage
            return world
        | .failed reason => do
            IO.eprintln ("Error: " ++ reason)
            return world
        | .shell settings => converseFrom settings world
        | .completed found => do
            IO.println ((Completion.written found).writeIndented "")
            return world : IO World)
      putDown before.files world.files
      return UInt32.ofNat outcome.exitCode
