import LiveShell.Number.Binary
import LiveShell.Value.Class

/-!
Truth, length, equality, order and hashes of values.
-/

namespace LiveShell

/-- A value as a number. Truth values are numbers too. -/
inductive Numeric
  | whole (value : Int)
  | real (value : Float)
  | complex (real imaginary : Float)
deriving Repr, Inhabited

def Value.numeric? : Value → Option Numeric
  | .boolean value => some (.whole (if value then 1 else 0))
  | .whole value => some (.whole value)
  | .patternFlags bits => some (.whole bits)
  | .real value => some (.real value)
  | .complex x y => some (.complex x y)
  | _ => none

/-- A value as an integer, if it is one. -/
def Value.whole? : Value → Option Int
  | .boolean value => some (if value then 1 else 0)
  | .whole value => some value
  | .patternFlags bits => some bits
  | _ => none

namespace Numeric

def equal : Numeric → Numeric → Bool
  | whole a, whole b => a = b
  | whole a, real b | real b, whole a => Number.compareWhole? a b == some .eq
  | real a, real b => a == b
  | complex a b, complex c d => a == c && b == d
  | complex a b, real c | real c, complex a b => a == c && b == 0.0
  | complex a b, whole c | whole c, complex a b => b == 0.0 && Number.compareWhole? c a == some .eq

/-- The order of two numbers; complex numbers have none, and neither has what is no number. -/
def order? : Numeric → Numeric → Option Ordering
  | whole a, whole b => some (compare a b)
  | whole a, real b => Number.compareWhole? a b
  | real a, whole b => (Number.compareWhole? b a).map Ordering.swap
  | real a, real b => if a < b then some .lt else if b < a then some .gt else if a == b then some .eq else none
  | _, _ => none

def isComplex : Numeric → Bool
  | complex .. => true
  | _ => false

def isZero : Numeric → Bool
  | whole value => value = 0
  | real value => value == 0.0
  | complex x y => x == 0.0 && y == 0.0

end Numeric

/-- How many integers a range holds. -/
def rangeLength (start stop step : Int) : Nat :=
  if 0 < step then
    if start < stop then ((stop - start - 1) / step + 1).toNat else 0
  else if stop < start then ((start - stop - 1) / (-step) + 1).toNat
  else 0

/-- The largest length that a container may tell. -/
def largestSize : Nat := Nat.pow 2 63 - 1

/-- The lexicographic order of lists whose items have an order. -/
def compareLists {α : Type} (order : α → α → Ordering) : List α → List α → Ordering
  | [], [] => .eq
  | [], _ => .lt
  | _, [] => .gt
  | a :: as, b :: bs => match order a b with
      | .eq => compareLists order as bs
      | other => other

namespace Run

/-- The length of a built-in container. -/
def plainLength? (value : Value) : Run (Option Nat) := do
  match value with
  | .text text => return some text.length
  | .bytes bytes => return some bytes.length
  | .tuple items => return some items.length
  | .range start stop step => return some (rangeLength start stop step)
  | .ref address =>
      match ← cellAt? address with
      | some (.list items) => return some items.size
      | some (.dict entries _) => return some entries.size
      | some (.set members _) => return some members.size
      | some (.view _ source) => return some (← entriesAt source).size
      | _ => return none
  | _ => return none

def lengthOf (engine : Engine) (value : Value) : Run Nat := do
  match ← callOwn? engine value "__len__" [] with
  | some result =>
      match (← plain result).whole? with
      | some size => if size < 0 then valueError "__len__() should return >= 0" else return size.toNat
      | none => typeError ("'" ++ (← typeName result) ++ "' object cannot be interpreted as an integer")
  | none =>
      match ← plainLength? (← plain value) with
      | some size =>
          if largestSize < size then fail "OverflowError" "Python int too large to convert to C ssize_t"
          else return size
      | none => typeError ("object of type '" ++ (← typeName value) ++ "' has no len()")

/-- Whether a value counts as true. -/
def holds (engine : Engine) (value : Value) : Run Bool := do
  match value with
  | .nothing => return false
  | .boolean value => return value
  | value =>
      match ← callOwn? engine value "__bool__" [] with
      | some (.boolean result) => return result
      | some result => typeError ("__bool__ should return bool, returned " ++ (← typeName result))
      | none =>
          if (← ownMember? value "__len__").isSome then return (← lengthOf engine value) ≠ 0
          let value ← plain value
          match value.numeric? with
          | some number => return !number.isZero
          | none =>
              match ← plainLength? value with
              | some size => return size ≠ 0
              | none => return true

/-! Equality and order. -/

/-- The members of what works like a set. -/
def setMembers? (value : Value) : Run (Option (Array Value)) := do
  match ← plain value with
  | .ref address =>
      match ← cellAt? address with
      | some (.set members _) => return some members
      | some (.view .keys source) => return some ((← entriesAt source).map (·.1))
      | some (.view .items source) => return some ((← entriesAt source).map fun (k, v) => .tuple [k, v])
      | _ => return none
  | _ => return none

/-- The index of a key among entries. -/
def findKeyBy (equal : Value → Value → Run Bool) (keys : Array Value) (key : Value) :
    Run (Option Nat) := do
  match key with
  | .text name =>
      return keys.findIdx? fun known => match known with
        | .text text => text = name
        | _ => false
  | key =>
      for (known, index) in keys.zipIdx do
        if known.same key then return some index
        match known, key with
        | .text _, .whole _ | .text _, .tuple _ | .text _, .boolean _ | .text _, .nothing => pure ()
        | _, _ => if ← equal known key then return some index
      return none

def reflected : Code.Relation → Code.Relation
  | .less => .greater
  | .lessEqual => .greaterEqual
  | .greater => .less
  | .greaterEqual => .lessEqual
  | relation => relation

def relationName : Code.Relation → String
  | .equal => "__eq__"
  | .notEqual => "__ne__"
  | .less => "__lt__"
  | .lessEqual => "__le__"
  | .greater => "__gt__"
  | .greaterEqual => "__ge__"
  | _ => ""

def relationSign : Code.Relation → String
  | .equal => "=="
  | .notEqual => "!="
  | .less => "<"
  | .lessEqual => "<="
  | .greater => ">"
  | .greaterEqual => ">="
  | .same => "is"
  | .notSame => "is not"
  | .member => "in"
  | .notMember => "not in"

/-- What an order says about a relation. -/
def ordered (relation : Code.Relation) (order : Ordering) : Bool :=
  match relation with
  | .equal => order == .eq
  | .notEqual => order != .eq
  | .less => order == .lt
  | .lessEqual => order != .gt
  | .greater => order == .gt
  | .greaterEqual => order != .lt
  | _ => false

/-- Compares two sequences item by item. -/
def relateItems (relate : Code.Relation → Value → Value → Run Bool) (relation : Code.Relation) :
    List Value → List Value → Run Bool
  | a :: as, b :: bs => do
      if a.same b then relateItems relate relation as bs
      else if ← relate .equal a b then relateItems relate relation as bs
      else match relation with
        | .equal => return false
        | .notEqual => return true
        | relation => relate relation a b
  | as, bs => return ordered relation (compare as.length bs.length)

/-- Whether every one of some values is among others. -/
def allAmong (equal : Value → Value → Run Bool) (values others : Array Value) : Run Bool := do
  for value in values do
    if (← findKeyBy equal others value).isNone then return false
  return true

def relateSets (equal : Value → Value → Run Bool) (relation : Code.Relation) (a b : Array Value) :
    Run Bool := do
  match relation with
  | .equal => if a.size = b.size then allAmong equal a b else return false
  | .notEqual => if a.size = b.size then return !(← allAmong equal a b) else return true
  | .lessEqual => if a.size ≤ b.size then allAmong equal a b else return false
  | .less => if a.size < b.size then allAmong equal a b else return false
  | .greaterEqual => if b.size ≤ a.size then allAmong equal b a else return false
  | .greater => if b.size < a.size then allAmong equal b a else return false
  | _ => return false

def entriesEqual (equal : Value → Value → Run Bool) (a b : Array (Value × Value)) : Run Bool := do
  if a.size ≠ b.size then return false
  let keys := b.map (·.1)
  for (key, value) in a do
    match ← findKeyBy equal keys key with
    | some index =>
        let other := (b.getD index default).2
        if !value.same other && !(← equal value other) then return false
    | none => return false
  return true

/-- A relation between built-in values; nothing when they have no such relation. -/
def relatePlain? (relate : Code.Relation → Value → Value → Run Bool) (relation : Code.Relation)
    (a b : Value) : Run (Option Bool) := do
  let equal := relate .equal
  let equality (answer : Bool) : Option Bool := match relation with
    | .equal => some answer
    | .notEqual => some !answer
    | _ => none
  match a.numeric?, b.numeric? with
  | some a, some b =>
      if a.isComplex || b.isComplex then return equality (a.equal b)
      match a.order? b with
      | some order => return some (ordered relation order)
      | none => return some (relation = .notEqual)
  | some _, none | none, some _ => return none
  | none, none =>
      match a, b with
      | .text a, .text b => return some (ordered relation (compare a b))
      | .path a, .path b => return some (ordered relation (compare a b))
      | .bytes a, .bytes b =>
          return some (ordered relation (compareLists (fun x y => compare x y) a b))
      | .tuple a, .tuple b => return some (← relateItems relate relation a b)
      | .range a b c, .range d e f =>
          let size := rangeLength a b c
          return equality (size = rangeLength d e f && (size = 0 || (a = d && (size = 1 || c = f))))
      | .slice a b c, .slice d e f =>
          return some (← relateItems relate relation [a, b, c] [d, e, f])
      | .ref first, .ref second =>
          match ← cellAt? first, ← cellAt? second with
          | some (.list a), some (.list b) => return some (← relateItems relate relation a.toList b.toList)
          | some (.dict a _), some (.dict b _) =>
              match relation with
              | .equal => return some (← entriesEqual equal a b)
              | .notEqual => return some !(← entriesEqual equal a b)
              | _ => return none
          | some (.bound a f), some (.bound b g) => return equality (a.same b && f.same g)
          | _, _ =>
              match ← setMembers? a, ← setMembers? b with
              | some a, some b => return some (← relateSets equal relation a b)
              | _, _ => return none
      | _, _ => return none

/-- A relation as a class made here defines it. Inequality falls back on equality. -/
def relateOwn? (engine : Engine) (relation : Code.Relation) (a b : Value) : Run (Option Value) := do
  match ← callOwn? engine a (relationName relation) [b] with
  | some .notImplemented => return none
  | some result => return some result
  | none =>
      if relation = .notEqual then
        match ← callOwn? engine a "__eq__" [b] with
        | some .notImplemented | none => return none
        | some result => return some (.boolean !(← holds engine result))
      else return none

/-- The value of a relation between two values; the depth bounds how deep they are compared. -/
def relateAt (engine : Engine) : Nat → Code.Relation → Value → Value → Run Value
  | 0, _, _, _ => fail "RecursionError" "maximum recursion depth exceeded in comparison"
  | depth + 1, relation, a, b => do
      match ← relateOwn? engine relation a b with
      | some result => return result
      | none =>
          match ← relateOwn? engine (reflected relation) b a with
          | some result => return result
          | none =>
              let relate (relation : Code.Relation) (a b : Value) : Run Bool := do
                holds engine (← relateAt engine depth relation a b)
              match ← relatePlain? relate relation (← plain a) (← plain b) with
              | some answer => return .boolean answer
              | none =>
                  match relation with
                  | .equal => return .boolean (a.same b)
                  | .notEqual => return .boolean !(a.same b)
                  | relation =>
                      typeError ("'" ++ relationSign relation ++ "' not supported between instances of '" ++
                        (← typeName a) ++ "' and '" ++ (← typeName b) ++ "'")

def relate (engine : Engine) (relation : Code.Relation) (a b : Value) : Run Value :=
  relateAt engine depthLimit relation a b

def equal (engine : Engine) (a b : Value) : Run Bool := do
  match a, b with
  | .text a, .text b => return a = b
  | .whole a, .whole b => return a = b
  | a, b => holds engine (← relate engine .equal a b)

/-- Equal, or one and the same. -/
def alike (engine : Engine) (a b : Value) : Run Bool := do
  if a.same b then return true else equal engine a b

def less (engine : Engine) (a b : Value) : Run Bool := do holds engine (← relate engine .less a b)

def findKey (engine : Engine) (keys : Array Value) (key : Value) : Run (Option Nat) :=
  findKeyBy (equal engine) keys key

end Run

/-! Hashes. -/

def hashModulus : Nat := Nat.pow 2 61 - 1

/-- A hash is never -1. -/
def properHash (value : Int) : Int := if value = -1 then -2 else value

def hashWhole (value : Int) : Int :=
  let size : Int := (value.natAbs % hashModulus : Nat)
  properHash (if value < 0 then -size else size)

/-- A number's hash is its value modulo a prime, so equal numbers of different kinds have equal hashes. -/
def hashReal (number : Float) : Int :=
  match Number.BinaryValue.of? number with
  | some value =>
      let shift := (value.exponent % 61).toNat
      let size : Int := (value.significand * Nat.pow 2 shift % hashModulus : Nat)
      properHash (if value.negative then -size else size)
  | none => if number.isNaN then 0 else if Number.isNegative number then -314159 else 314159

def toSigned (bits : UInt64) : Int :=
  let value : Int := bits.toNat
  if value < Nat.pow 2 63 then value else value - Nat.pow 2 64

def ofSigned (value : Int) : UInt64 := UInt64.ofNat (value % Nat.pow 2 64).toNat

/-- The hash of a tuple mixes the hashes of its items. -/
def hashTuple (hashes : List Int) : Int :=
  let mixed := hashes.foldl (fun mixed hash =>
    let mixed : UInt64 := mixed + ofSigned hash * 14029467366897019727
    ((mixed <<< 31) ||| (mixed >>> 33)) * 11400714785074694791) (2870177450012600261 : UInt64)
  let mixed := mixed + (UInt64.ofNat hashes.length ^^^ (2870177450012600261 ^^^ 3527539))
  if mixed = UInt64.ofNat (Nat.pow 2 64 - 1) then 1546275796 else toSigned mixed

/-- The hash of a value that does not depend on the run. -/
def Value.stableHash? : Value → Option Int
  | .boolean value => some (if value then 1 else 0)
  | .whole value => some (hashWhole value)
  | .patternFlags bits => some (hashWhole bits)
  | .real value => some (hashReal value)
  | .complex x y =>
      some (properHash (toSigned (ofSigned (hashReal x) + 1000003 * ofSigned (hashReal y))))
  | .tuple items => (hashes? items).map hashTuple
  | _ => none
where
  hashes? : List Value → Option (List Int)
    | [] => some []
    | item :: items => do return (← item.stableHash?) :: (← hashes? items)

/-- A hash of a text or bytes. Any function of the text will do. -/
def hashText (codes : List Nat) : Int :=
  toSigned (codes.foldl (fun mixed code => mixed * 1099511628211 ^^^ UInt64.ofNat code)
    (14695981039346656037 : UInt64))

namespace Run

def unhashable {α : Type} (value : Value) : Run α := do
  typeError ("unhashable type: '" ++ (← typeName value) ++ "'")

/-- The hash of a value. Values that change in place have none. -/
def hashAt (engine : Engine) : Nat → Value → Run Int
  | 0, _ => fail "RecursionError" "maximum recursion depth exceeded"
  | depth + 1, value => do
      match ← ownMember? value "__hash__" with
      | some .nothing => unhashable value
      | some _ =>
          match ← callOwn? engine value "__hash__" [] with
          | some result =>
              match (← plain result).whole? with
              | some hash => return hashWhole hash
              | none => typeError "__hash__ method should return an integer"
          | none => return 0
      | none =>
          match ← plain value with
          | .text text => return hashText (text.toList.map Char.toNat)
          | .bytes bytes => return hashText (bytes.map UInt8.toNat)
          | .path text => return hashText (text.toList.map Char.toNat)
          | .tuple items => return hashTuple (← items.mapM (hashAt engine depth))
          | .slice .. => unhashable value
          | .nothing => return 5883587
          | .ref address =>
              match ← cellAt? address with
              | some (.list _) | some (.dict ..) | some (.view ..) => unhashable value
              | some (.set members frozen) =>
                  if !frozen then unhashable value
                  let hashes ← members.toList.mapM (hashAt engine depth)
                  return hashTuple (hashes.mergeSort fun a b => a ≤ b)
              | _ => return address * 16
          | plain => return (plain.stableHash?).getD 8765

def hashOf (engine : Engine) (value : Value) : Run Int := hashAt engine depthLimit value

/-- Raises unless a value can be a key. -/
def requireHashable (engine : Engine) (value : Value) : Run Unit := do
  match value with
  | .text _ | .whole _ | .boolean _ | .nothing | .real _ => return ()
  | value => let _ ← hashOf engine value

end Run

end LiveShell
