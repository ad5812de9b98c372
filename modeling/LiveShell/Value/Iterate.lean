import LiveShell.Value.Container

/-!
Iterators over values: making one, taking its next item, and going through all items.
-/

namespace LiveShell

namespace Run

def newIterator (name : String) (cursor : Cursor) : Run Value := new (.iterator (.named name) cursor)

def byteValues (bytes : List UInt8) : List Value := bytes.map fun byte => .whole byte.toNat

def characterValues (text : String) : List Value := text.toList.map fun c => .text (String.singleton c)

def partOf (part : ViewPart) (entry : Value × Value) : Value :=
  match part with
  | .keys => entry.1
  | .values => entry.2
  | .items => .tuple [entry.1, entry.2]

def entryIteratorName : ViewPart → String
  | .keys => "dict_keyiterator"
  | .values => "dict_valueiterator"
  | .items => "dict_itemiterator"

/-- Whether a value gives items when it is asked for the next one. -/
def isIterator (value : Value) : Run Bool := do
  match value with
  | .ref address =>
      match ← cellAt? address with
      | some (.iterator ..) | some (.generator _) => return true
      | some (.instanceOf ..) => return (← ownMember? value "__next__").isSome
      | _ => return false
  | _ => return false

def plainIterator? (value : Value) : Run (Option Value) := do
  match value with
  | .text text =>
      let ascii := text.toList.all fun c => c.toNat < 0x80
      return some (← newIterator (if ascii then "str_ascii_iterator" else "str_iterator")
        (.characters text.toList))
  | .bytes bytes => return some (← newIterator "bytes_iterator" (.items (byteValues bytes)))
  | .tuple items => return some (← newIterator "tuple_iterator" (.items items))
  | .range start stop step =>
      return some (← newIterator "range_iterator" (.range start step (rangeLength start stop step)))
  | .ref address =>
      match ← cellAt? address with
      | some (.list _) => return some (← newIterator "list_iterator" (.list address 0))
      | some (.dict entries _) =>
          return some (← newIterator "dict_keyiterator" (.entries .keys address 0 entries.size))
      | some (.set members _) =>
          return some (← newIterator "set_iterator"
            (.members address members.size (setOrder members).toList))
      | some (.view part source) =>
          return some (← newIterator (entryIteratorName part)
            (.entries part source 0 (← entriesAt source).size))
      | some (.iterator ..) | some (.generator _) => return some value
      | _ => return none
  | _ => return none

/-- A new iterator over a value. -/
def iterate (engine : Engine) (value : Value) : Run Value := do
  match ← ownMember? value "__iter__" with
  | some .nothing => typeError ("'" ++ (← typeName value) ++ "' object is not iterable")
  | some _ =>
      match ← callOwn? engine value "__iter__" [] with
      | some iterator =>
          if ← isIterator iterator then return iterator
          typeError ("iter() returned non-iterator of type '" ++ (← typeName iterator) ++ "'")
      | none => return value
  | none =>
      match ← plainIterator? (← plain value) with
      | some iterator => return iterator
      | none =>
          if (← ownMember? value "__getitem__").isSome then
            newIterator "iterator" (.indexed value 0 1)
          else typeError ("'" ++ (← typeName value) ++ "' object is not iterable")

def isError (value : Value) (name : String) : Run Bool := isKind value (.error name)

/-- Carries a computation out; nothing when it raises an error of a kind. -/
def unlessRaised {α : Type} (names : List String) (run : Run α) : Run (Option α) :=
  tryCatch (some <$> run) fun error => do
    for name in names do
      if ← isError error name then return none
    throw error

def setCursor (address : Address) (cursor : Cursor) : Run Unit :=
  modify fun world =>
    { world with cells := world.cells.modify address fun cell => match cell with
        | .iterator kind _ => .iterator kind cursor
        | cell => cell }

/-- The next items of several iterators, as long as each has one. Tells how many had one. -/
def nextOfAll (engine : Engine) : List Value → Run (List Value × Bool)
  | [] => return ([], true)
  | source :: sources => do
      match ← engine.next source with
      | none => return ([], false)
      | some item =>
          let (items, complete) ← nextOfAll engine sources
          return (item :: items, complete)

/-- The first item from a source that a function accepts. -/
def nextAccepted (engine : Engine) (function source : Value) : Nat → Run (Option Value)
  | 0 => return none
  | turns + 1 => do
      match ← engine.next source with
      | none => return none
      | some item =>
          let accepted ← (match function with
            | .nothing => holds engine item
            | function => do holds engine (← engine.call function [item] []))
          if accepted then return some item else nextAccepted engine function source turns

/-- Raises when strictly paired sources are not equally long. -/
def requireEnds (engine : Engine) (met : Nat) (sources : List Value) : Run Unit := do
  let argument (count : Nat) : String :=
    if count = 1 then "argument 1" else "arguments 1-" ++ toString count
  if 0 < met then
    valueError ("zip() argument " ++ toString (met + 1) ++ " is shorter than " ++ argument met)
  for (source, index) in (sources.drop 1).zipIdx do
    if (← engine.next source).isSome then
      valueError ("zip() argument " ++ toString (index + 2) ++ " is longer than " ++ argument (index + 1))

/-- The next item at a cursor, and where the cursor goes. -/
def stepCursor (engine : Engine) (cursor : Cursor) : Run (Option (Value × Cursor)) := do
  match cursor with
  | .list source index =>
      return ((← listAt source)[index]?).map fun item => (item, .list source (index + 1))
  | .reversedList source left =>
      match left with
      | 0 => return none
      | left + 1 => return ((← listAt source)[left]?).map fun item => (item, .reversedList source left)
  | .items (item :: rest) => return some (item, .items rest)
  | .items [] => return none
  | .characters (character :: rest) =>
      return some (.text (String.singleton character), .characters rest)
  | .characters [] => return none
  | .range next step left =>
      match left with
      | 0 => return none
      | left + 1 => return some (.whole next, .range (next + step) step left)
  | .entries part source index size =>
      let entries ← entriesAt source
      if entries.size ≠ size then
        fail "RuntimeError" "dictionary changed size during iteration"
      return (entries[index]?).map fun entry => (partOf part entry, .entries part source (index + 1) size)
  | .members source size rest =>
      if (← membersAt source).size ≠ size then
        fail "RuntimeError" "Set changed size during iteration"
      match rest with
      | item :: rest => return some (item, .members source size rest)
      | [] => return none
  | .mapped function sources =>
      let (items, complete) ← nextOfAll engine sources
      if complete then return some (← engine.call function items [], cursor) else return none
  | .filtered function source =>
      return (← nextAccepted engine function source patience).map fun item => (item, cursor)
  | .zipped [] _ => return none
  | .zipped sources strict =>
      let (items, complete) ← nextOfAll engine sources
      if complete then return some (.tuple items, cursor)
      if strict then requireEnds engine items.length sources
      return none
  | .counted source next =>
      return (← engine.next source).map fun item => (.tuple [.whole next, item], .counted source (next + 1))
  | .called function sentinel =>
      let item ← engine.call function [] []
      if ← alike engine item sentinel then return none else return some (item, cursor)
  | .indexed source index step =>
      if index < 0 then return none
      let item ← unlessRaised ["IndexError", "StopIteration"]
        (do match ← callOwn? engine source "__getitem__" [.whole index] with
          | some item => return item
          | none => return .nothing)
      return item.map fun item => (item, .indexed source (index + step) step)
  | .finished => return none

/-- The next item of an iterator, with a way to step generators. -/
def nextWith (engine : Engine) (stepGenerator : Address → GeneratorData → Run (Option Value))
    (iterator : Value) : Run (Option Value) := do
  match iterator with
  | .ref address =>
      match ← cellAt? address with
      | some (.iterator _ cursor) =>
          match ← stepCursor engine cursor with
          | some (item, cursor) => setCursor address cursor; return some item
          | none => setCursor address .finished; return none
      | some (.generator data) => stepGenerator address data
      | some (.instanceOf ..) =>
          match ← ownMember? iterator "__next__" with
          | some _ => unlessRaised ["StopIteration"] (do
              match ← callOwn? engine iterator "__next__" [] with
              | some item => return item
              | none => return .nothing)
          | none => typeError ("'" ++ (← typeName iterator) ++ "' object is not an iterator")
      | _ => typeError ("'" ++ (← typeName iterator) ++ "' object is not an iterator")
  | _ => typeError ("'" ++ (← typeName iterator) ++ "' object is not an iterator")

/-- Goes on with items until an action asks to stop or no item is left. -/
def forEachFrom (engine : Engine) (iterator : Value) (action : Value → Run Bool) : Nat → Run Unit
  | 0 => raise "KeyboardInterrupt" []
  | turns + 1 => do
      match ← engine.next iterator with
      | none => return ()
      | some item => if ← action item then forEachFrom engine iterator action turns else return ()

/-- The items of a built-in container as they are now. -/
def snapshot? (value : Value) : Run (Option (Array Value)) := do
  match value with
  | .text text => return some (characterValues text).toArray
  | .bytes bytes => return some (byteValues bytes).toArray
  | .tuple items => return some items.toArray
  | .range start stop step =>
      return some ((Array.range (rangeLength start stop step)).map fun (index : Nat) =>
        .whole (start + step * index))
  | .ref address =>
      match ← cellAt? address with
      | some (.list items) => return some items
      | some (.dict entries _) => return some (entries.map (·.1))
      | some (.set members _) => return some (setOrder members)
      | some (.view part source) => return some ((← entriesAt source).map (partOf part))
      | _ => return none
  | _ => return none

def collectFrom (engine : Engine) (iterator : Value) : Nat → Array Value → Run (Array Value)
  | 0, _ => raise "KeyboardInterrupt" []
  | turns + 1, items => do
      match ← engine.next iterator with
      | none => return items
      | some item => collectFrom engine iterator turns (items.push item)

/-- All items of a value. -/
def collect (engine : Engine) (value : Value) : Run (Array Value) := do
  if (← ownMember? value "__iter__").isNone then
    match ← snapshot? (← plain value) with
    | some items => return items
    | none => pure ()
  collectFrom engine (← iterate engine value) patience #[]

end Run

end LiveShell
