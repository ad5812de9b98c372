import LiveShell.Settings
import LiveShell.Text.LetterCase
import LiveShell.Toml.Document

/-!
Settings from named values. Every field is judged alone; the problems are told in the order of the fields,
then come the names that are no field, in the order in which they were written.
-/

namespace LiveShell.Settings

open Toml

/-- The name of a setting as it was written. A list of pairs may use a number for one. -/
inductive Name
  | text (name : String)
  | number (value : Int)
  | other (written : String)
deriving DecidableEq, Repr, Inhabited

inductive ProblemKind
  | noText
  | noBoolean
  | unknownBoolean
  | unknownName
  | nameIsNoText
deriving DecidableEq, Repr, Inhabited

def ProblemKind.name : ProblemKind → String
  | .noText => "string_type"
  | .noBoolean => "bool_type"
  | .unknownBoolean => "bool_parsing"
  | .unknownName => "extra_forbidden"
  | .nameIsNoText => "invalid_key"

structure Problem where
  name : Name
  kind : ProblemKind
deriving DecidableEq, Repr, Inhabited

/-- Named values, each name once, in the order in which the names first came. -/
abbrev Entries := List (Name × Value)

/-- Adds a value, in the old place of its name if that is there. -/
def Entries.put (entries : Entries) (name : Name) (value : Value) : Entries :=
  match entries with
  | [] => [(name, value)]
  | (other, old) :: rest =>
      if other = name then (name, value) :: rest else (other, old) :: Entries.put rest name value

/-- Entries with others added: these win where both have a name. -/
def Entries.merge (entries others : Entries) : Entries :=
  others.foldl (fun entries (name, value) => entries.put name value) entries

def Entries.ofTable (table : Table) : Entries := table.map fun (name, value) => (.text name, value)

def trueWords : List String := ["1", "on", "t", "true", "y", "yes"]

def falseWords : List String := ["0", "off", "f", "false", "n", "no"]

/-- A boolean, or what is commonly written for one: the numbers zero and one and some words. -/
def readBoolean : Value → Except ProblemKind Bool
  | .boolean value => pure value
  | .whole 0 => pure false
  | .whole 1 => pure true
  | .whole _ => throw .unknownBoolean
  | .real value =>
      if value == 0.0 then pure false else if value == 1.0 then pure true else throw .noBoolean
  | .text word =>
      let word := String.ofList (word.toList.map Char.toLower)
      if trueWords.contains word then pure true
      else if falseWords.contains word then pure false
      else throw .unknownBoolean
  | _ => throw .noBoolean

/-- A text, or nothing. -/
def readText : Value → Except ProblemKind (Option String)
  | .text value => pure (some value)
  | .nothing => pure none
  | _ => throw .noText

def fieldNames : List String :=
  ["autoload_modules", "module_dir", "complete_while_typing", "debug_log", "history_file"]

/-- A field from its entry, or its default. -/
def readField (entries : Entries) (name : String) (standard : α) (read : Value → Except ProblemKind α) :
    Except Problem α :=
  match entries.lookup (.text name) with
  | none => pure standard
  | some value => match read value with
    | .ok found => pure found
    | .error kind => throw ⟨.text name, kind⟩

def problemOf? : Except Problem α → Option Problem
  | .ok _ => none
  | .error problem => some problem

def strayProblem? : Name → Option Problem
  | .text name =>
      if fieldNames.contains name then none else some ⟨.text name, .unknownName⟩
  | name => some ⟨name, .nameIsNoText⟩

/-- The settings that entries stand for, or everything that is wrong with them. -/
def ofEntries (entries : Entries) : Except (List Problem) Settings :=
  let standard : Settings := {}
  let autoload := readField entries "autoload_modules" standard.autoloadModules readBoolean
  let directory := readField entries "module_dir" standard.moduleDirectory readText
  let typing := readField entries "complete_while_typing" standard.completeWhileTyping readBoolean
  let log := readField entries "debug_log" standard.debugLog readBoolean
  let history := readField entries "history_file" standard.historyFile readText
  match autoload, directory, typing, log, history, entries.filterMap fun (name, _) => strayProblem? name with
  | .ok autoload, .ok directory, .ok typing, .ok log, .ok history, [] =>
      pure ⟨autoload, directory, typing, log, history⟩
  | autoload, directory, typing, log, history, strays =>
      throw ([problemOf? autoload, problemOf? directory, problemOf? typing, problemOf? log,
        problemOf? history].filterMap id ++ strays)

end LiveShell.Settings
