import LiveShell.Value.Arithmetic

/-!
Items by index, key or slice: reading, setting and removing them, and whether a container has a member.
-/

namespace LiveShell

/-- Where a slice starts and stops in a sequence of some size, and how far it steps. -/
structure Bounds where
  start : Int
  stop : Int
  step : Int
deriving Repr, Inhabited

/-- Bounds that are left open or stand outside of the sequence are drawn to its ends. -/
def Bounds.within (lower upper : Option Int) (step : Int) (size : Nat) : Bounds :=
  let length : Int := size
  let least : Int := if step < 0 then -1 else 0
  let most : Int := if step < 0 then length - 1 else length
  let draw (bound : Int) : Int :=
    if bound < 0 then max (bound + length) least else min bound most
  let start := match lower with
    | some bound => draw bound
    | none => if step < 0 then most else least
  let stop := match upper with
    | some bound => draw bound
    | none => if step < 0 then least else most
  ⟨start, stop, step⟩

/-- The indices of a slice. -/
def Bounds.indices (bounds : Bounds) : List Nat :=
  (List.range (rangeLength bounds.start bounds.stop bounds.step)).map fun (count : Nat) =>
    (bounds.start + bounds.step * count).toNat

def Bounds.take {α : Type} (bounds : Bounds) (items : Array α) : Array α :=
  (bounds.indices.filterMap fun index => items[index]?).toArray

/-- The place of an index that may count from the end. -/
def placeOf? (index : Int) (size : Nat) : Option Nat :=
  let place := if index < 0 then index + size else index
  if 0 ≤ place && place < size then some place.toNat else none

namespace Run

def sliceBound? (engine : Engine) (value : Value) : Run (Option Int) := do
  match value with
  | .nothing => return none
  | value =>
      match ← toIndex? engine value with
      | some bound => return some bound
      | none => typeError "slice indices must be integers or None or have an __index__ method"

def boundsOf (engine : Engine) (lower upper step : Value) (size : Nat) : Run Bounds := do
  let step := (← sliceBound? engine step).getD 1
  if step = 0 then valueError "slice step cannot be zero"
  let lower ← sliceBound? engine lower
  let upper ← sliceBound? engine upper
  return Bounds.within lower upper step size

def indexError {α : Type} (message : String) : Run α := fail "IndexError" message

/-- The item at an index or the items of a slice of a sequence. -/
def partOfSequence {α : Type} (engine : Engine) (items : Array α) (index : Value)
    (single : α → Run Value) (several : Array α → Run Value) (refusal outside : String) : Run Value := do
  match ← plain index with
  | .slice lower upper step => several ((← boundsOf engine lower upper step items.size).take items)
  | _ =>
      match ← toIndex? engine index with
      | none => typeError (refusal ++ (← typeName index))
      | some place =>
          if Nat.pow 2 63 ≤ place.natAbs then indexError "cannot fit 'int' into an index-sized integer"
          match (placeOf? place items.size).bind fun place => items[place]? with
          | some item => single item
          | none => indexError outside

def partOfRange (engine : Engine) (start step : Int) (size : Nat) (index : Value) : Run Value := do
  match ← plain index with
  | .slice lower upper sliceStep =>
      let bounds ← boundsOf engine lower upper sliceStep size
      return .range (start + bounds.start * step) (start + bounds.stop * step) (step * bounds.step)
  | _ =>
      match ← toIndex? engine index with
      | none => typeError ("range indices must be integers or slices, not " ++ (← typeName index))
      | some place =>
          match placeOf? place size with
          | some place => return .whole (start + step * place)
          | none => indexError "range object index out of range"

def missingKey {α : Type} (key : Value) : Run α := raise "KeyError" [key]

/-- The value of a key; a key that is not there is made up by the mapping itself, where it can. -/
def valueOfKey (engine : Engine) (mapping : Value) (address : Address) (key : Value) : Run Value := do
  match ← entryAt? engine address key with
  | some value => return value
  | none =>
      match ← callOwn? engine mapping "__missing__" [key] with
      | some value => return value
      | none =>
          match ← cellAt? address with
          | some (.dict _ (some factory)) =>
              if factory matches .nothing then missingKey key
              let value ← engine.call factory [] []
              setEntry engine address key value
              return value
          | _ => missingKey key

def partOfMatch (address : Address) (index : Int) : Run Value := do
  match ← cellAt? address with
  | some (.found _ text groups) =>
      match if index < 0 then none else groups[index.toNat]? with
      | some (some (start, stop)) =>
          return .text (String.ofList ((text.toList.take stop).drop start))
      | some none => return .nothing
      | none => indexError "no such group"
  | _ => return .nothing

/-- A class with parameters, such as `list[int]`. -/
def classWithParameters (engine : Engine) (cls : Value) (kind : Kind) (index : Value) : Run Value := do
  if !kind.hasMember "__class_getitem__" then
    typeError ("type '" ++ (← nameOfClass cls) ++ "' is not subscriptable")
  let parameters := match index with
    | .tuple items => items
    | index => [index]
  let names ← parameters.mapM fun parameter => do
    match parameter with
    | .kind kind => return kind.fullName
    | .ellipsis => return "..."
    | parameter => shown engine parameter
  return .foreign "types" (listed (kind.fullName ++ "[") names "]")

/-- The part of a value at an index or key. -/
def itemOf (engine : Engine) (value index : Value) : Run Value := do
  match ← callOwn? engine value "__getitem__" [index] with
  | some result => return result
  | none =>
      match ← plain value with
      | .text text =>
          partOfSequence engine text.toList.toArray index
            (fun character => return .text (String.singleton character))
            (fun characters => return .text (String.ofList characters.toList))
            "string indices must be integers, not '" "string index out of range"
      | .bytes bytes =>
          partOfSequence engine bytes.toArray index (fun byte => return .whole byte.toNat)
            (fun bytes => return .bytes bytes.toList)
            "byte indices must be integers or slices, not " "index out of range"
      | .tuple items =>
          partOfSequence engine items.toArray index (fun item => return item)
            (fun items => return .tuple items.toList)
            "tuple indices must be integers or slices, not " "tuple index out of range"
      | .range start stop step => partOfRange engine start step (rangeLength start stop step) index
      | .kind kind => classWithParameters engine value kind index
      | .ref address =>
          match ← cellAt? address with
          | some (.list items) =>
              partOfSequence engine items index (fun item => return item)
                (fun items => newList items)
                "list indices must be integers or slices, not " "list index out of range"
          | some (.dict ..) => valueOfKey engine value address index
          | some (.found ..) =>
              match ← toIndex? engine index with
              | some index => partOfMatch address index
              | none => indexError "no such group"
          | some (.classObject data) =>
              match ← memberOf? value "__class_getitem__" with
              | some (.made function) =>
                  let function ← bindMember engine value value function
                  engine.call function [index] []
              | some (.builtin kind) => classWithParameters engine value kind index
              | none => typeError ("type '" ++ data.name ++ "' is not subscriptable")
          | _ => typeError ("'" ++ (← typeName value) ++ "' object is not subscriptable")
      | _ => typeError ("'" ++ (← typeName value) ++ "' object is not subscriptable")

/-! Setting and removing. -/

/-- Puts other items in the place of the items of a slice. -/
def replaceSlice (address : Address) (bounds : Bounds) (replacement : Array Value) : Run Unit := do
  let items ← listAt address
  if bounds.step = 1 then
    let start := bounds.start.toNat
    let stop := max start bounds.stop.toNat
    modifyList address fun _ =>
      items.extract 0 start ++ replacement ++ items.extract stop items.size
  else
    let places := bounds.indices
    if places.length ≠ replacement.size then
      valueError ("attempt to assign sequence of size " ++ toString replacement.size ++
        " to extended slice of size " ++ toString places.length)
    modifyList address fun items =>
      (places.zip replacement.toList).foldl (fun items (place, item) => items.setIfInBounds place item) items

def setItem (engine : Engine) (value index item : Value) : Run Unit := do
  match ← callOwn? engine value "__setitem__" [index, item] with
  | some _ => return ()
  | none =>
      let refused : Run Unit := do
        typeError ("'" ++ (← typeName value) ++ "' object does not support item assignment")
      match ← plain value with
      | .ref address =>
          match ← cellAt? address with
          | some (.dict ..) => setEntry engine address index item
          | some (.list items) =>
              match ← plain index with
              | .slice lower upper step =>
                  let bounds ← boundsOf engine lower upper step items.size
                  if (← plainIterator? (← plain item)).isNone && (← ownMember? item "__iter__").isNone then
                    if bounds.step = 1 then typeError "can only assign an iterable"
                    else typeError "must assign iterable to extended slice"
                  replaceSlice address bounds (← collect engine item)
              | _ =>
                  match ← toIndex? engine index with
                  | none =>
                      typeError ("list indices must be integers or slices, not " ++ (← typeName index))
                  | some place =>
                      match placeOf? place items.size with
                      | some place => modifyList address fun items => items.setIfInBounds place item
                      | none => indexError "list assignment index out of range"
          | _ => refused
      | _ => refused

def deleteItem (engine : Engine) (value index : Value) : Run Unit := do
  match ← callOwn? engine value "__delitem__" [index] with
  | some _ => return ()
  | none =>
      let refused : Run Unit := do
        typeError ("'" ++ (← typeName value) ++ "' object doesn't support item deletion")
      match ← plain value with
      | .ref address =>
          match ← cellAt? address with
          | some (.dict ..) =>
              match ← removeEntry? engine address index with
              | some _ => return ()
              | none => missingKey index
          | some (.list items) =>
              match ← plain index with
              | .slice lower upper step =>
                  let places := (← boundsOf engine lower upper step items.size).indices
                  modifyList address fun items =>
                    (items.zipIdx.filter fun (_, place) => !places.contains place).map (·.1)
              | _ =>
                  match ← toIndex? engine index with
                  | none =>
                      typeError ("list indices must be integers or slices, not " ++ (← typeName index))
                  | some place =>
                      match placeOf? place items.size with
                      | some place => modifyList address fun items => items.eraseIdxIfInBounds place
                      | none => indexError "list assignment index out of range"
          | _ => refused
      | _ => refused

/-! Members. -/

def hasAmong (engine : Engine) (item : Value) : List Value → Run Bool
  | [] => return false
  | candidate :: rest => do
      if ← alike engine candidate item then return true else hasAmong engine item rest

def hasByIterating (engine : Engine) (container item : Value) : Run Bool := do
  if (← plainIterator? (← plain container)).isNone && (← ownMember? container "__iter__").isNone &&
      (← ownMember? container "__getitem__").isNone then
    typeError ("argument of type '" ++ (← typeName container) ++ "' is not iterable")
  let iterator ← iterate engine container
  let rec search : Nat → Run Bool
    | 0 => raise "KeyboardInterrupt" []
    | turns + 1 => do
        match ← engine.next iterator with
        | none => return false
        | some candidate => if ← alike engine candidate item then return true else search turns
  search patience

/-- Whether a list of items holds another one as a piece. -/
def hasPiece {α : Type} [BEq α] (piece : List α) : List α → Bool
  | [] => piece.isEmpty
  | item :: items => piece.isPrefixOf (item :: items) || hasPiece piece items

/-- Whether a container has an item. -/
def contains (engine : Engine) (container item : Value) : Run Bool := do
  match ← ownMember? container "__contains__" with
  | some .nothing => typeError ("'" ++ (← typeName container) ++ "' object is not a container")
  | some _ =>
      match ← callOwn? engine container "__contains__" [item] with
      | some result => holds engine result
      | none => return false
  | none =>
      if (← ownMember? container "__iter__").isSome then return ← hasByIterating engine container item
      match ← plain container with
      | .text text =>
          match ← plain item with
          | .text piece => return hasPiece piece.toList text.toList
          | _ =>
              typeError ("'in <string>' requires string as left operand, not " ++ (← typeName item))
      | .bytes bytes =>
          match ← plain item with
          | .bytes piece => return hasPiece piece bytes
          | other =>
              match other.whole? with
              | some number =>
                  if 0 ≤ number && number < 256 then return bytes.any fun byte => (byte.toNat : Int) = number
                  else valueError "byte must be in range(0, 256)"
              | none => typeError ("a bytes-like object is required, not '" ++ (← typeName item) ++ "'")
      | .tuple items => hasAmong engine item items
      | .range start stop step =>
          match (← plain item).whole? with
          | some number =>
              let size := rangeLength start stop step
              let last := start + step * ((size : Int) - 1)
              return size ≠ 0 && min start last ≤ number && number ≤ max start last &&
                (number - start) % step = 0
          | none => hasByIterating engine (.range start stop step) item
      | .ref address =>
          match ← cellAt? address with
          | some (.list items) => hasAmong engine item items.toList
          | some (.dict entries _) => return (← keyIndex? engine entries item).isSome
          | some (.set members _) =>
              match ← setMembers? item with
              | some _ => return (← findKey engine members item).isSome
              | none =>
                  requireHashable engine item
                  return (← findKey engine members item).isSome
          | some (.view .keys source) =>
              return (← keyIndex? engine (← entriesAt source) item).isSome
          | some (.view .items source) =>
              match item with
              | .tuple [key, value] =>
                  match ← entryAt? engine source key with
                  | some known => alike engine known value
                  | none => return false
              | _ => return false
          | _ => hasByIterating engine container item
      | _ => hasByIterating engine container item

end Run

end LiveShell
