import LiveShell.Session.History
import LiveShell.Session.Suggestion
import LiveShell.Session.Typing
import LiveShell.Text.Emoji
import LiveShell.Value.Outline

/-!
The shell: a long-lived environment, what it prints for an input, and the loop over what is typed.
-/

namespace LiveShell

structure Shell where
  settings : Settings
  environment : Environment
  history : History := {}

/-- What the shell shows for an input. -/
inductive Reply
  | printed (text : String)
  /-- An error was shown; its last line. -/
  | failed (line : String)
deriving DecidableEq, Repr, Inhabited

namespace Reply

/-- The last line of a text that is not blank. -/
def lastLineOf (text : String) : String :=
  String.ofList (((Text.splitAtEach '\n' text.toList).filter (!·.all Text.isSpace)).getLastD [])

/-- All that was shown: everything printed, or the last line of it when an error was among it. -/
def together (replies : List Reply) : Reply :=
  replies.foldl (fun shown reply =>
    match shown, reply with
    | .printed before, .printed text => .printed (before ++ text)
    | .printed _, .failed line => .failed line
    | .failed line, .printed text => if lastLineOf text = "" then .failed line else .failed (lastLineOf text)
    | .failed _, .failed line => .failed line) (.printed "")

end Reply

namespace Shell

/-- How wide the console is. -/
def width : Nat := 120

/-- A new shell. -/
def start (settings : Settings) : Run Shell := do
  let environment ← Environment.seed
  return { settings, environment, history := ← History.start settings.historyFile }

/-- The name of the current directory, which the prompt shows. -/
def placeName : Run String := do
  return match (← get).place.current.getLast? with
    | some name => String.ofList name
    | none => "/"

/-- The pieces of the prompt, each with its style. -/
def prompt : Run (List (String × String)) := do
  return [("class:prompt.cwd", ← placeName), ("fg:#87ff87", " > ")]

/-- A value as the console shows it. -/
def shownValue (value : Value) : Run String := do
  let lines := (← Run.outline engine value).lines width
  let form := "\n".intercalate lines
  if form = "" then
    return Text.onConsole width ((← Run.shown engine (← Run.classOf value)) ++ ".__repr__ returned empty string")
  let shownLines := Text.cutLines Text.breaksLine false [] form.toList
  return Text.onConsole width ("\n".intercalate (shownLines.map String.ofList))

/-- The text of an error, which its own code may fail to give. -/
def messageOf (error : Value) : Run String := do
  match ← Run.unlessRaised ["Exception"] (Run.textOf engine error) with
  | some message => return message
  | none => return "<exception str() failed>"

/-- The last line that an error is shown with. -/
def lastLine (error : Value) : Run String := do
  let name ← Run.typeName error
  let message ← messageOf error
  return Reply.lastLineOf (Text.onConsole width (if message = "" then name else name ++ ": " ++ message))

/-- Runs an input and tells what is shown for it. An interruption shows nothing, and what is no ordinary error
passes through. -/
def execute (shell : Shell) (text : String) : Run Reply := do
  match ← Run.attempt (shell.environment.execute text) with
  | .error error =>
      if ← Run.isError error "KeyboardInterrupt" then return .printed ""
      else if ← Run.isError error "Exception" then return .failed (← lastLine error)
      else throw error
  | .ok (value, output) =>
      let shownOutput :=
        if output = "" then ""
        else Text.onConsole width (String.ofList (Text.withEmoji (Text.dropEnd (· = '\n') output.toList)))
      let shown ← (match value with
        | .nothing => pure ""
        | value => shownValue value)
      return .printed (shownOutput ++ shown)

def isBlank (text : String) : Bool := text.toList.all Text.isSpace

/-- Takes an input from the prompt into the history and runs it. A blank one is not run. -/
def take (shell : Shell) (moment : Moment) (text : String) : Run (Reply × Shell) := do
  let shell := { shell with history := ← shell.history.add moment text }
  if isBlank text then return (.printed "", shell) else return (← shell.execute text, shell)

/-- The replies to all inputs, one after the other. -/
def takeAll (moment : Moment) : List String → Shell → Run (List Reply × Shell)
  | [], shell => return ([], shell)
  | text :: texts, shell => do
      let (reply, shell) ← shell.take moment text
      let (replies, shell) ← takeAll moment texts shell
      return (reply :: replies, shell)

def close (shell : Shell) : Shell := { shell with environment := shell.environment.close }

/-- Runs what the keys enter until one of them ends the loop, and closes the shell. -/
def run (shell : Shell) (moment : Moment) (keys : List Char) : Run (List Reply × Shell) := do
  let (replies, shell) ← takeAll moment (Typing.inputs {} keys) shell
  return (replies, shell.close)

/-- The names of the namespace that a new one does not have. -/
def ownNames (shell : Shell) : Run (List String) := do
  return (← shell.environment.names).filter fun name => !Environment.seedNames.contains name

end Shell

end LiveShell
