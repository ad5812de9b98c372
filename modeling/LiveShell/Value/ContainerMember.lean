import LiveShell.Value.Arguments
import LiveShell.Value.Sorting
import LiveShell.Value.Subscript

/-!
The methods of lists, tuples, mappings, sets, ranges and the views of mappings.
-/

namespace LiveShell

namespace Run

def argumentAt (arguments : List (Option Value)) (index : Nat) : Option Value := (arguments[index]?).getD none

def firstArgument (arguments : List (Option Value)) : Value := (argumentAt arguments 0).getD .nothing

/-! Lists and tuples. -/

def listShape? (name : String) : Option Shape :=
  match name with
  | "append" | "extend" | "remove" | "count" => some .one
  | "clear" | "copy" | "reverse" => some .none
  | "insert" => some (.between 2 2)
  | "pop" => some (.between 0 1)
  | "index" => some (.between 1 3)
  | "sort" => some .any
  | _ => none

/-- The place of the first item that is alike. -/
def placeOfItem (engine : Engine) (item : Value) : Nat → List Value → Run (Option Nat)
  | _, [] => return none
  | place, candidate :: rest => do
      if ← alike engine candidate item then return some place
      else placeOfItem engine item (place + 1) rest

def countItems (engine : Engine) (item : Value) : List Value → Run Nat
  | [] => return 0
  | candidate :: rest => do
      let found ← alike engine candidate item
      return (← countItems engine item rest) + (if found then 1 else 0)

/-- The place of an item between two bounds. -/
def indexOfItem (engine : Engine) (items : List Value) (arguments : List (Option Value)) :
    Run (Option Nat) := do
  let size : Int := items.length
  let draw (place : Int) : Int := if place < 0 then max (place + size) 0 else place
  let start := draw (← placeArgument engine (argumentAt arguments 1) 0)
  let stop := min (draw (← placeArgument engine (argumentAt arguments 2) size)) size
  let part := (items.drop start.toNat).take (stop - start).toNat
  placeOfItem engine (firstArgument arguments) start.toNat part

/-- The order to sort in: by a key, downwards or upwards. -/
def sortOrder (engine : Engine) (function : String) (named : List (String × Value)) :
    Run (Option Value × Bool) := do
  for (name, _) in named do
    if name ≠ "key" && name ≠ "reverse" then
      typeError ("'" ++ name ++ "' is an invalid keyword argument for " ++ function ++ "()")
  let key := match named.lookup "key" with
    | some .nothing | none => none
    | some key => some key
  let descending ← (match named.lookup "reverse" with
    | none => pure false
    | some value => do
        match ← toIndex? engine value with
        | some number => pure (number ≠ 0)
        | none => typeError ("'" ++ (← typeName value) ++ "' object cannot be interpreted as an integer"))
  return (key, descending)

def sortWith (engine : Engine) (items : Array Value) (key : Option Value) (descending : Bool) :
    Run (Array Value) := do
  let keyed ← items.toList.mapM fun item => do
    match key with
    | none => return (item, item)
    | some key => return (← engine.call key [item] [], item)
  sortByKeys engine keyed descending

def callListMember (engine : Engine) (address : Address) (name : String) (given : Given)
    (arguments : List (Option Value)) : Run Value := do
  let first := firstArgument arguments
  match name with
  | "append" => modifyList address (·.push first); return .nothing
  | "extend" =>
      let items ← collect engine first
      modifyList address (· ++ items)
      return .nothing
  | "insert" =>
      let place ← sizeArgument engine first
      let item := (argumentAt arguments 1).getD .nothing
      modifyList address fun items =>
        let size : Int := items.size
        let place := if place < 0 then max (place + size) 0 else min place size
        items.insertIdxIfInBounds place.toNat item
      return .nothing
  | "remove" =>
      match ← placeOfItem engine first 0 (← listAt address).toList with
      | some place =>
          modifyList address (·.eraseIdxIfInBounds place)
          return .nothing
      | none => valueError "list.remove(x): x not in list"
  | "pop" =>
      let items ← listAt address
      let index ← (match argumentAt arguments 0 with
        | none => pure (-1)
        | some index => sizeArgument engine index)
      if items.isEmpty then indexError "pop from empty list"
      match placeOf? index items.size with
      | some place =>
          modifyList address (·.eraseIdxIfInBounds place)
          return (items[place]?).getD .nothing
      | none => indexError "pop index out of range"
  | "clear" => modifyList address fun _ => #[]; return .nothing
  | "copy" => newList (← listAt address)
  | "reverse" => modifyList address Array.reverse; return .nothing
  | "count" => return .whole (← countItems engine first (← listAt address).toList)
  | "index" =>
      match ← indexOfItem engine (← listAt address).toList arguments with
      | some place => return .whole place
      | none => valueError ((← shown engine first) ++ " is not in list")
  | _ =>
      if !given.positional.isEmpty then typeError "sort() takes no positional arguments"
      let (key, descending) ← sortOrder engine "sort" given.named
      let sorted ← sortWith engine (← listAt address) key descending
      modifyList address fun _ => sorted
      return .nothing

def callTupleMember? (engine : Engine) (items : List Value) (name : String) (given : Given) :
    Run (Option Value) := do
  match name with
  | "count" =>
      let arguments ← orderArguments "tuple" name .one given
      return some (.whole (← countItems engine (firstArgument arguments) items))
  | "index" =>
      let arguments ← orderArguments "tuple" name (.between 1 3) given
      match ← indexOfItem engine items arguments with
      | some place => return some (.whole place)
      | none => valueError "tuple.index(x): x not in tuple"
  | _ => return none

/-! Mappings. -/

def mappingShape? (name : String) : Option Shape :=
  match name with
  | "get" | "setdefault" | "pop" => some (.between 1 2)
  | "popitem" | "keys" | "values" | "items" | "copy" | "clear" => some .none
  | "update" => some .any
  | _ => none

/-- A pair from an item that should be one. -/
def pairOf (engine : Engine) (index : Nat) (item : Value) : Run (Value × Value) := do
  let number := toString index
  let parts ← (do
    match ← unlessRaised ["TypeError"] (collect engine item) with
    | some parts => pure parts
    | none => typeError ("cannot convert dictionary update sequence element #" ++ number ++ " to a sequence"))
  match parts.toList with
  | [key, value] => return (key, value)
  | parts =>
      valueError ("dictionary update sequence element #" ++ number ++ " has length " ++
        toString parts.length ++ "; 2 is required")

/-- Takes the entries of a mapping, or pairs, into a mapping. -/
def takeIn (engine : Engine) (address : Address) (source : Value) : Run Unit := do
  let plainSource ← plain source
  let entries? ← (match plainSource with
    | .ref inner => do
        match ← cellAt? inner with
        | some (.dict entries _) => pure (some entries)
        | _ => pure none
    | _ => pure none)
  match entries? with
  | some entries => for (key, value) in entries do setEntry engine address key value
  | none =>
      match ← callOwn? engine source "keys" [] with
      | some keys =>
          for key in ← collect engine keys do
            setEntry engine address key (← itemOf engine source key)
      | none =>
          let items ← collect engine source
          for (item, index) in items.zipIdx do
            let (key, value) ← pairOf engine index item
            setEntry engine address key value

/-- Takes one source and named values into a mapping. -/
def updateMapping (engine : Engine) (function : String) (address : Address) (given : Given) : Run Unit := do
  requireBetween function 0 1 ⟨given.positional, []⟩
  match given.positional with
  | source :: _ => takeIn engine address source
  | [] => pure ()
  for (name, value) in given.named do setName address name value

def callMappingMember (engine : Engine) (address : Address) (name : String) (given : Given)
    (arguments : List (Option Value)) : Run Value := do
  let key := firstArgument arguments
  let other := argumentAt arguments 1
  match name with
  | "get" =>
      match ← entryAt? engine address key with
      | some value => return value
      | none => return other.getD .nothing
  | "setdefault" =>
      match ← entryAt? engine address key with
      | some value => return value
      | none =>
          let value := other.getD .nothing
          setEntry engine address key value
          return value
  | "pop" =>
      match ← removeEntry? engine address key with
      | some value => return value
      | none =>
          match other with
          | some value => return value
          | none => missingKey key
  | "popitem" =>
      let entries ← entriesAt address
      match entries.back? with
      | some (key, value) =>
          writeEntries address entries.pop
          return .tuple [key, value]
      | none => raise "KeyError" [.text "popitem(): dictionary is empty"]
  | "keys" => new (.view .keys address)
  | "values" => new (.view .values address)
  | "items" => new (.view .items address)
  | "copy" =>
      match ← cellAt? address with
      | some cell => new cell
      | none => return .nothing
  | "clear" => writeEntries address #[]; return .nothing
  | _ => updateMapping engine "update" address given; return .nothing

/-! Sets. -/

def setShape? (name : String) : Option Shape :=
  match name with
  | "add" | "discard" | "remove" | "symmetric_difference" | "isdisjoint" | "issubset" | "issuperset"
  | "symmetric_difference_update" => some .one
  | "pop" | "clear" | "copy" => some .none
  | "union" | "intersection" | "difference" | "update" | "intersection_update" | "difference_update" =>
      some .any
  | _ => none

/-- Members of a value as a set. -/
def asMembers (engine : Engine) (value : Value) : Run (Array Value) := do
  match ← setMembers? value with
  | some members => return members
  | none => setOf engine (← collect engine value)

def combineSets (engine : Engine) (operator : Code.BinaryOperator) (members : Array Value)
    (others : List Value) : Run (Array Value) := do
  let mut combined := members
  for other in others do
    match ← onSets? engine operator combined (← asMembers engine other) with
    | some next => combined := next
    | none => pure ()
  return combined

def callSetMember (engine : Engine) (address : Address) (frozen : Bool) (name : String) (given : Given)
    (arguments : List (Option Value)) : Run Value := do
  let members ← membersAt address
  let first := firstArgument arguments
  match name with
  | "add" => writeMembers address (← withMember engine members first); return .nothing
  | "discard" | "remove" =>
      match ← withoutMember? engine members first with
      | some rest => writeMembers address rest; return .nothing
      | none => if name = "remove" then missingKey first else return .nothing
  | "pop" =>
      match (setOrder members).toList with
      | first :: _ =>
          match ← withoutMember? engine members first with
          | some rest => writeMembers address rest; return first
          | none => return first
      | [] => raise "KeyError" [.text "pop from an empty set"]
  | "clear" => writeMembers address #[]; return .nothing
  | "copy" => if frozen then return .ref address else newSet members frozen
  | "isdisjoint" => return .boolean (← membersWhere engine members (← asMembers engine first) true).isEmpty
  | "issubset" =>
      return .boolean (← relateSets (equal engine) .lessEqual members (← asMembers engine first))
  | "issuperset" =>
      return .boolean (← relateSets (equal engine) .greaterEqual members (← asMembers engine first))
  | "union" => newSet (← combineSets engine .bitOr members given.positional) frozen
  | "intersection" => newSet (← combineSets engine .bitAnd members given.positional) frozen
  | "difference" => newSet (← combineSets engine .subtract members given.positional) frozen
  | "symmetric_difference" => newSet (← combineSets engine .bitXor members [first]) frozen
  | "update" => writeMembers address (← combineSets engine .bitOr members given.positional); return .nothing
  | "intersection_update" =>
      writeMembers address (← combineSets engine .bitAnd members given.positional)
      return .nothing
  | "difference_update" =>
      writeMembers address (← combineSets engine .subtract members given.positional)
      return .nothing
  | _ =>
      writeMembers address (← combineSets engine .bitXor members [first])
      return .nothing

/-! Ranges. -/

def callRangeMember? (engine : Engine) (range : Value) (name : String) (given : Given) :
    Run (Option Value) := do
  if name ≠ "count" && name ≠ "index" then return none
  let arguments ← orderArguments "range" name .one given
  let item := firstArgument arguments
  let present ← contains engine range item
  if name = "count" then return some (.whole (if present then 1 else 0))
  if !present then valueError ((← shown engine item) ++ " is not in range")
  match range, item.whole? with
  | .range start _ step, some number => return some (.whole (Int.fdiv (number - start) step))
  | _, _ =>
      match ← placeOfItem engine item 0 (← collect engine range).toList with
      | some place => return some (.whole place)
      | none => return some (.whole 0)

/-! What lives in cells. -/

/-- Calls a method of a container; nothing when there is no such method. -/
def callContainerMember? (engine : Engine) (value : Value) (name : String) (given : Given) :
    Run (Option Value) := do
  match value with
  | .tuple items => callTupleMember? engine items name given
  | .range .. => callRangeMember? engine value name given
  | .ref address =>
      match ← cellAt? address with
      | some (.list _) =>
          match listShape? name with
          | some shape =>
              let arguments ← orderArguments "list" name shape given
              return some (← callListMember engine address name given arguments)
          | none => return none
      | some (.dict ..) =>
          match mappingShape? name with
          | some shape =>
              let arguments ← orderArguments "dict" name shape given
              return some (← callMappingMember engine address name given arguments)
          | none => return none
      | some (.set _ frozen) =>
          match setShape? name with
          | some shape =>
              let arguments ← orderArguments (if frozen then "frozenset" else "set") name shape given
              return some (← callSetMember engine address frozen name given arguments)
          | none => return none
      | some (.view _ _) =>
          if name = "isdisjoint" then
            let arguments ← orderArguments "dict_keys" name .one given
            let members := (← setMembers? value).getD #[]
            let others ← asMembers engine (firstArgument arguments)
            return some (.boolean (← membersWhere engine members others true).isEmpty)
          else return none
      | _ => return none
  | _ => return none

end Run

end LiveShell
