import LiveShell.Settings.Validate
import LiveShell.Toml.Reader
import LiveShell.Text.Quoted

/-!
Settings from the files of a directory: the shell's table in the project file, then the shell's own file,
whose values win.
-/

namespace LiveShell.Settings

open Toml

/-- A use of a value that its sort does not allow, named as the shell's language names it. -/
inductive Misuse
  | noMember (sort name : String)
  | notIterable (sort : String)
  | notSequence (place : Nat)
  | wrongLength (place length : Nat)
  | unhashable (sort : String)
  | tooManyDigits (count : Nat)
deriving DecidableEq, Repr, Inhabited

def Misuse.kind : Misuse → String
  | .noMember .. => "AttributeError"
  | .notIterable _ | .notSequence _ | .unhashable _ => "TypeError"
  | .wrongLength .. | .tooManyDigits _ => "ValueError"

def Misuse.message : Misuse → String
  | .noMember sort name =>
      Text.quoted sort ++ " object has no attribute " ++ Text.quoted name
  | .notIterable sort => Text.quoted sort ++ " object is not iterable"
  | .notSequence place =>
      "cannot convert dictionary update sequence element #" ++ toString place ++ " to a sequence"
  | .wrongLength place length =>
      "dictionary update sequence element #" ++ toString place ++ " has length " ++ toString length ++
        "; 2 is required"
  | .unhashable sort => "unhashable type: " ++ Text.quoted sort
  | .tooManyDigits count =>
      "Exceeds the limit (4300 digits) for integer string conversion: value has " ++ toString count ++
        " digits; use sys.set_int_max_str_digits() to increase the limit"

/-- Why a directory has no settings. -/
inductive LoadFault
  | unreadable (path : String)
  | invalid (problems : List Problem)
  | misuse (misuse : Misuse)
deriving Repr, Inhabited

/-- How a value's sort is called. -/
def sortName : Value → String
  | .text _ => "str"
  | .whole _ => "int"
  | .real _ => "float"
  | .boolean _ => "bool"
  | .moment .dateTime => "datetime.datetime"
  | .moment .date => "datetime.date"
  | .moment .time => "datetime.time"
  | .list _ => "list"
  | .table _ => "dict"
  | .nothing => "NoneType"

def memberOf (value : Value) (name : String) : Except Misuse Value :=
  match value with
  | .table entries => pure ((entries.lookup name).getD (.table []))
  | value => throw (.noMember (sortName value) "get")

/-- The items of one element of a list of pairs. -/
def elementItems (place : Nat) : Value → Except Misuse (List Value)
  | .list items => pure items
  | .text word => pure (word.toList.map fun character => .text (String.ofList [character]))
  | .table entries => pure (entries.map fun (name, _) => .text name)
  | _ => throw (.notSequence place)

def nameOf : Value → Except Misuse Name
  | .text name => pure (.text name)
  | .whole value => pure (.number value)
  | .boolean value => pure (.number (if value then 1 else 0))
  | .real value =>
      pure (if value.floor == value && value.abs < 1000000000.0 then
        .number (if value < 0 then -(value.abs.toUInt64.toNat : Int) else value.toUInt64.toNat)
      else .other (toString value))
  | .moment kind => pure (.other (sortName (.moment kind)))
  | .nothing => pure (.other "None")
  | value => throw (.unhashable (sortName value))

/-- Adds the pairs that a list of two-item elements holds. -/
def addPairs (entries : Entries) (place : Nat) : List Value → Except Misuse Entries
  | [] => pure entries
  | element :: rest => do
      match ← elementItems place element with
      | [name, value] => addPairs (entries.put (← nameOf name) value) (place + 1) rest
      | items => throw (.wrongLength place items.length)

/-- The entries that a value stands for when it is merged like a table. -/
def entriesOf : Value → Except Misuse Entries
  | .table table => pure (Entries.ofTable table)
  | .list items => addPairs [] 0 items
  | .text word =>
      match word.toList with
      | [] => pure []
      | _ => throw (.wrongLength 0 1)
  | value => throw (.notIterable (sortName value))

def readDocument (path text : String) : Except LoadFault Table :=
  match Toml.read text with
  | .ok table => pure table
  | .error .malformed => throw (.unreadable path)
  | .error (.tooManyDigits count) => throw (.misuse (.tooManyDigits count))

/-- The entries under the shell's name in a project file. -/
def projectEntries (table : Table) : Except LoadFault Entries :=
  let found := do
    let tool ← memberOf (.table table) "tool"
    entriesOf (← memberOf tool "conch")
  match found with
  | .ok entries => pure entries
  | .error misuse => throw (.misuse misuse)

/-- The settings from the two files, each with the path to tell of it, or without a text if it is not
there. -/
def load (project own : String × Option String) : Except LoadFault Settings := do
  let base ← match project with
    | (path, some text) => projectEntries (← readDocument path text)
    | (_, none) => pure []
  let entries ← match own with
    | (path, some text) => pure (base.merge (Entries.ofTable (← readDocument path text)))
    | (_, none) => pure base
  match ofEntries entries with
  | .ok settings => pure settings
  | .error problems => throw (.invalid problems)

end LiveShell.Settings
