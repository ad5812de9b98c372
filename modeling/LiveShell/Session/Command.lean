import LiveShell.Completion.Written
import LiveShell.Number.Reading
import LiveShell.Session.Moment
import LiveShell.Session.Suggestion
import LiveShell.Settings.Directory

/-!
The command line: options before the command, then the command with options and arguments of its own. The
settings are read as soon as the command is known, so a fault in them comes before one in what follows.
-/

namespace LiveShell

/-- An option by its spellings, the long one first. -/
structure CommandOption where
  names : List String
  takesValue : Bool := false
deriving Repr, Inhabited

/-- The words of a command line: options under their first spelling with their values, and the rest. -/
structure CommandWords where
  given : List (String × String) := []
  rest : List String := []
deriving DecidableEq, Repr, Inhabited

/-- What a command line leads to. -/
inductive CommandOutcome
  | help
  /-- A command line that cannot be understood. -/
  | misused
  /-- Settings that cannot be used, or no place for the log. -/
  | failed (reason : String)
  /-- The shell is to start. -/
  | shell (settings : Settings)
  | completed (found : Option Completion.Completion)
deriving Inhabited

def CommandOutcome.exitCode : CommandOutcome → Nat
  | .help | .shell _ | .completed _ => 0
  | .failed _ => 1
  | .misused => 2

namespace CommandWords

def value? (words : CommandWords) (name : String) : Option String :=
  (words.given.reverse.find? (·.1 = name)).map (·.2)

def has (words : CommandWords) (name : String) : Bool := (words.value? name).isSome

/-- Single letters behind one dash. The last of them may want the next word for its value. -/
def readLetters (options : List CommandOption) :
    List Char → Option (List (String × String) × Option String)
  | [] => some ([], none)
  | letter :: rest => do
      let option ← options.find? (·.names.contains (String.ofList ['-', letter]))
      let name := option.names.headD ""
      if option.takesValue then
        if rest.isEmpty then some ([], some name) else some ([(name, String.ofList rest)], none)
      else
        let (given, wanting) ← readLetters options rest
        some ((name, "") :: given, wanting)

/-- A word that starts with a dash. A long option may carry its value behind an equals sign. -/
def readOption (options : List CommandOption) (word : List Char) :
    Option (List (String × String) × Option String) :=
  let spelling := String.ofList (word.takeWhile (· ≠ '='))
  let value := word.dropWhile (· ≠ '=')
  if word.take 2 ≠ ['-', '-'] then readLetters options (word.drop 1)
  else do
    let option ← options.find? (·.names.contains spelling)
    let name := option.names.headD ""
    match option.takesValue, value with
    | true, [] => some ([], some name)
    | true, _ :: value => some ([(name, String.ofList value)], none)
    | false, [] => some ([(name, "")], none)
    | false, _ => none

def isOption (word : List Char) : Bool := word.head? = some '-' && 1 < word.length

/-- Reads words. Two dashes end the options; `mixed` lets options stand behind other words. -/
def read (options : List CommandOption) (mixed : Bool) : List String → Option CommandWords
  | [] => some {}
  | word :: words =>
      if word = "--" then some { rest := words }
      else if isOption word.toList then
        match readOption options word.toList, words with
        | none, _ => none
        | some (given, none), words => (read options mixed words).map fun later =>
            { later with given := given ++ later.given }
        | some (given, some name), value :: words => (read options mixed words).map fun later =>
            { later with given := given ++ (name, value) :: later.given }
        | some (_, some _), [] => none
      else if mixed then (read options mixed words).map fun later => { later with rest := word :: later.rest }
      else some { rest := word :: words }

end CommandWords

namespace Command

def helpOption : CommandOption := { names := ["--help"] }

def programOptions : List CommandOption := [helpOption, { names := ["--debug"] }]

def completeOptions : List CommandOption :=
  [helpOption, { names := ["--cursor", "-c"], takesValue := true }]

/-- Where the log lies below the current directory. -/
def logPlace : List Files.Path := [".conch".toList, "debug.log".toList]

/-- Puts lines into the log, which is made if it is not there. A fault tells why that cannot be. -/
def writeLog (text : String) : Run (Except Files.Fault Unit) := do
  let world ← get
  let current := world.place.current
  match world.files.makeDirectory current logPlace.dropLast.reverse with
  | .error (fault, _) => return .error fault
  | .ok files =>
      let place := current ++ logPlace
      if files.isDirectoryAt place then return .error .isDirectory
      set { world with files := files.put place (some ((files.textAt? place).getD "" ++ text)) }
      return .ok ()

/-- Why there are no settings, for the user. -/
def faultText : Settings.LoadFault → String
  | .unreadable path => "Invalid TOML in " ++ path
  | .invalid problems => "Invalid conch configuration: " ++
      ", ".intercalate (problems.map fun problem => problem.kind.name)
  | .misuse misuse => misuse.message

/-- The settings of the current directory, with the log opened when it is asked for. -/
def prepare (debug : Bool) : Run (Except String Settings) := do
  let world ← get
  let directory := String.ofList (Files.Tree.placeText world.place.current)
  match Settings.loadIn world.files world.place.current directory with
  | .error fault => return .error (faultText fault)
  | .ok settings =>
      let settings := { settings with debugLog := debug || settings.debugLog }
      if !settings.debugLog then return .ok settings
      match ← writeLog "" with
      | .ok _ => return .ok settings
      | .error fault => return .error (fault.message ".conch/debug.log")

/-- Completes a source in a new environment. -/
def complete (settings : Settings) (moment : Moment) (source : String) (cursor : Option Int) : Run CommandOutcome := do
  let environment ← Environment.seed
  let (found, remarks, _) ← environment.suggestWithRemarks settings source cursor
  if settings.debugLog then
    let _ ← writeLog (String.join (remarks.map fun remark => moment.time ++ " " ++ remark.line ++ "\n"))
  return .completed found

/-- The command that completes, by its own words. -/
def runComplete (settings : Settings) (moment : Moment) (arguments : List String) : Run CommandOutcome := do
  match CommandWords.read completeOptions true arguments with
  | none => return .misused
  | some words =>
      if words.has "--help" then return .help
      match words.rest, words.value? "--cursor" with
      | [source], none => complete settings moment source none
      | [source], some written =>
          match Number.readWhole? 10 written with
          | some cursor => complete settings moment source (some cursor)
          | none => return .misused
      | _, _ => return .misused

/-- Carries a command line out. `moment` is the time for the log. -/
def run (moment : Moment) (arguments : List String) : Run CommandOutcome := do
  match CommandWords.read programOptions false arguments with
  | none => return .misused
  | some words =>
      if words.has "--help" then return .help
      match words.rest with
      | [] =>
          match ← prepare (words.has "--debug") with
          | .error reason => return .failed reason
          | .ok settings => return .shell settings
      | "complete" :: arguments =>
          match ← prepare (words.has "--debug") with
          | .error reason => return .failed reason
          | .ok settings => runComplete settings moment arguments
      | _ => return .misused

end Command

end LiveShell
