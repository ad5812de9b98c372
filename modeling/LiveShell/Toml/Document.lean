/-!
Documents of settings: tables of named values, kept in the order in which their keys were written. While a
document is being read, a draft of it also remembers which tables may not be opened or extended again.
-/

namespace LiveShell.Toml

/-- The kinds of dates and times; nothing more of them is looked at. -/
inductive Moment
  | dateTime
  | date
  | time
deriving DecidableEq, Repr, Inhabited

inductive Value
  | text (value : String)
  | whole (value : Int)
  | real (value : Float)
  | boolean (value : Bool)
  | moment (kind : Moment)
  | list (items : List Value)
  | table (entries : List (String × Value))
  /-- No value; it cannot be written in a document. -/
  | nothing
deriving Inhabited

abbrev Table := List (String × Value)

abbrev Key := List String

/-- Puts a value under a name, in its old place if the name is there. -/
def Table.put (table : Table) (name : String) (value : Value) : Table :=
  match table with
  | [] => [(name, value)]
  | (other, old) :: rest =>
      if other = name then (name, value) :: rest else (other, old) :: Table.put rest name value

/-- Changes the table behind a key, made along the way if missing. An array of tables stands for its last
one when `throughLists`. There is no result when something else stands in the way. -/
def adjust (throughLists : Bool) (key : Key) (change : Table → Option Table) (table : Table) : Option Table :=
  match key with
  | [] => change table
  | name :: rest =>
      match (table.lookup name).getD (.table []) with
      | .table inner => (adjust throughLists rest change inner).map fun inner => table.put name (.table inner)
      | .list items =>
          match throughLists, items.getLast? with
          | true, some (.table inner) =>
              (adjust throughLists rest change inner).map fun inner =>
                table.put name (.list (items.dropLast ++ [.table inner]))
          | _, _ => none
      | _ => none

structure Draft where
  content : Table
  /-- Tables with a heading of their own, or made by a dotted key. -/
  headed : List Key
  /-- Tables made by dotted keys since the last heading. -/
  dotted : List Key
  /-- Arrays and inline tables: nothing can be added in them or below. -/
  frozen : List Key
deriving Inhabited

def Draft.empty : Draft := ⟨[], [], [], []⟩

def Draft.isFrozen (draft : Draft) (key : Key) : Bool := draft.frozen.any (·.isPrefixOf key)

def Draft.isHeaded (draft : Draft) (key : Key) : Bool := draft.headed.contains key

/-- What dotted keys made is closed once the next heading comes. -/
def Draft.closeDotted (draft : Draft) : Draft :=
  { draft with headed := draft.headed ++ draft.dotted, dotted := [] }

/-- Opens a table by its heading. -/
def Draft.openTable (draft : Draft) (key : Key) : Option Draft :=
  if draft.isHeaded key || draft.isFrozen key then none
  else (adjust true key some draft.content).map fun content =>
    { draft with content := content, headed := draft.headed ++ [key] }

/-- Opens one more table of an array. What was closed in the one before it is open again. -/
def Draft.openElement (draft : Draft) (key : Key) : Option Draft :=
  if draft.isFrozen key then none
  else
    let append (table : Table) : Option Table :=
      match key.getLast? with
      | none => none
      | some name =>
          match table.lookup name with
          | none => some (table.put name (.list [.table []]))
          | some (.list items) => some (table.put name (.list (items ++ [.table []])))
          | some _ => none
    (adjust true key.dropLast append draft.content).map fun content =>
      { draft with
        content := content
        headed := draft.headed.filter (!key.isPrefixOf ·) ++ [key]
        frozen := draft.frozen.filter (!key.isPrefixOf ·) }

/-- The proper beginnings of a key that are longer than a heading. -/
def dottedParents (heading key : Key) : List Key :=
  (List.range (key.length - 1)).map fun count => heading ++ key.take (count + 1)

def putNew (name : String) (value : Value) (table : Table) : Option Table :=
  if (table.lookup name).isSome then none else some (table.put name value)

def Value.isNest : Value → Bool
  | .list _ | .table _ => true
  | _ => false

/-- Adds a value under a key below the current heading. -/
def Draft.assign (draft : Draft) (heading key : Key) (value : Value) : Option Draft :=
  let parents := dottedParents heading key
  let above := heading ++ key.dropLast
  if parents.any draft.isHeaded || draft.isFrozen above && !above.isEmpty then none
  else match key.getLast? with
    | none => none
    | some name =>
        (adjust true above (putNew name value) draft.content).map fun content =>
          { draft with
            content := content
            dotted := draft.dotted ++ parents
            frozen := if value.isNest then draft.frozen ++ [heading ++ key] else draft.frozen }

end LiveShell.Toml
