/-!
What a user can set for the shell.
-/

namespace LiveShell

structure Settings where
  /-- Import a module when its name is typed. -/
  autoloadModules : Bool := true
  /-- The directory below the current one that is searched for typed module names first. -/
  moduleDirectory : Option String := some "__pypackages__"
  completeWhileTyping : Bool := false
  debugLog : Bool := false
  historyFile : Option String := some ".conch/history"
deriving DecidableEq, Repr, Inhabited

end LiveShell
