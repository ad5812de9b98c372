import LiveShell.Value.Show

/-!
Arithmetic on values: operators of numbers, of sequences and sets, and as classes define them.
-/

namespace LiveShell

open Code (BinaryOperator UnaryOperator)

def signOf : BinaryOperator → String
  | .add => "+"
  | .subtract => "-"
  | .multiply => "*"
  | .matrix => "@"
  | .divide => "/"
  | .modulo => "%"
  | .power => "** or pow()"
  | .shiftLeft => "<<"
  | .shiftRight => ">>"
  | .bitOr => "|"
  | .bitXor => "^"
  | .bitAnd => "&"
  | .floorDivide => "//"

/-- The sign of an operator that changes its target. -/
def changingSignOf : BinaryOperator → String
  | .power => "**="
  | operator => signOf operator ++ "="

/-- The word in the names of the members that define an operator. -/
def operatorWord : BinaryOperator → String
  | .add => "add"
  | .subtract => "sub"
  | .multiply => "mul"
  | .matrix => "matmul"
  | .divide => "truediv"
  | .modulo => "mod"
  | .power => "pow"
  | .shiftLeft => "lshift"
  | .shiftRight => "rshift"
  | .bitOr => "or"
  | .bitXor => "xor"
  | .bitAnd => "and"
  | .floorDivide => "floordiv"

/-! Integers as endless rows of bits. -/

def complement (value : Int) : Int := -value - 1

def bitAnd (a b : Int) : Int :=
  let clear (value mask : Nat) : Nat := value ^^^ (value &&& mask)
  if 0 ≤ a then
    if 0 ≤ b then (a.toNat &&& b.toNat : Nat) else (clear a.toNat (complement b).toNat : Nat)
  else if 0 ≤ b then (clear b.toNat (complement a).toNat : Nat)
  else complement ((complement a).toNat ||| (complement b).toNat : Nat)

def bitOr (a b : Int) : Int := complement (bitAnd (complement a) (complement b))

def bitXor (a b : Int) : Int :=
  let natural (value : Int) : Nat := (if 0 ≤ value then value else complement value).toNat
  let mixed : Int := (natural a ^^^ natural b : Nat)
  if (0 ≤ a) = (0 ≤ b) then mixed else complement mixed

/-- A power modulo a number, by squaring. -/
def powerModulo (base exponent modulus : Nat) : Nat :=
  let rec go : Nat → Nat → Nat → Nat → Nat
    | 0, done, _, _ => done
    | fuel + 1, done, base, exponent =>
        if exponent = 0 then done
        else
          let done := if exponent % 2 = 1 then done * base % modulus else done
          go fuel done (base * base % modulus) (exponent / 2)
  go (Nat.log2 exponent + 1) (1 % modulus) (base % modulus) exponent

/-- The number that times another one leaves one modulo a size. -/
def inverseModulo (value size : Nat) : Option Nat :=
  let rec go : Nat → Nat → Nat → Int → Int → Option Int
    | 0, _, _, _, _ => none
    | fuel + 1, rest, next, factor, nextFactor =>
        if next = 0 then if rest = 1 then some factor else none
        else go fuel next (rest % next) nextFactor (factor - (rest / next : Nat) * nextFactor)
  (go (2 * Nat.log2 size + 4) value size 1 0).map fun factor => (factor % (size : Int)).toNat

/-! Complex numbers, as pairs. -/

abbrev Pair := Float × Float

def timesPair (a b : Pair) : Pair := (a.1 * b.1 - a.2 * b.2, a.1 * b.2 + a.2 * b.1)

def dividePair (a b : Pair) : Pair :=
  if b.2.abs ≤ b.1.abs then
    let ratio := b.2 / b.1
    let size := b.1 + b.2 * ratio
    ((a.1 + a.2 * ratio) / size, (a.2 - a.1 * ratio) / size)
  else if b.1.abs ≤ b.2.abs then
    let ratio := b.1 / b.2
    let size := b.1 * ratio + b.2
    ((a.1 * ratio + a.2) / size, (a.2 * ratio - a.1) / size)
  else (Number.notANumber, Number.notANumber)

/-- The length of a complex number. -/
def sizeOfPair (a : Pair) : Float :=
  let x := a.1.abs
  let y := a.2.abs
  if y == 0.0 then x else if x == 0.0 then y
  else
    let large := if x < y then y else x
    let small := if x < y then x else y
    let ratio := small / large
    if ratio * ratio < 1e-16 then large else (x * x + y * y).sqrt

def raisePair (a b : Pair) : Pair :=
  if b.1 == 0.0 && b.2 == 0.0 then (1.0, 0.0)
  else if a.1 == 0.0 && a.2 == 0.0 then (0.0, 0.0)
  else
    let size := sizeOfPair a
    let angle := Float.atan2 a.2 a.1
    let length := Float.pow size b.1
    let phase := angle * b.1
    let length := if b.2 == 0.0 then length else length / Float.exp (angle * b.2)
    let phase := if b.2 == 0.0 then phase else phase + b.2 * Float.log size
    (length * Float.cos phase, length * Float.sin phase)

def powerPair : Nat → Pair → Pair
  | 0, _ => (1.0, 0.0)
  | 1, a => a
  | count + 1, a => timesPair (powerPair count a) a

namespace Run

def zeroDivision {α : Type} (message : String) : Run α := fail "ZeroDivisionError" message

def toReal (value : Int) : Run Float := do
  match Number.ofWhole? value with
  | some number => return number
  | none => fail "OverflowError" "int too large to convert to float"

def rangeError {α : Type} : Run α := raise "OverflowError" [.whole 34, .text "Numerical result out of range"]

def realPower (a b : Float) : Run Value := do
  if b == 0.0 then return .real 1.0
  if a == 0.0 && b < 0.0 then zeroDivision "0.0 cannot be raised to a negative power"
  if a < 0.0 && Number.isFinite a && Number.isFinite b && !Number.isWhole b then
    let (real, imaginary) := raisePair (a, 0.0) (b, 0.0)
    return .complex real imaginary
  let result := if a == 1.0 then 1.0 else Float.pow a b
  if result.isInf && Number.isFinite a && Number.isFinite b then rangeError
  return .real result

def wholePower (a b : Int) : Run Value := do
  if 0 ≤ b then
    if 1 < a.natAbs && Nat.pow 2 26 < b then fail "MemoryError" ""
    return .whole (Int.pow a b.toNat)
  if a = 0 then zeroDivision "0.0 cannot be raised to a negative power"
  realPower (← toReal a) (← toReal b)

/-- The quotient of two integers as the nearest real number. -/
def wholeQuotient (a b : Int) : Run Value := do
  if b = 0 then zeroDivision "division by zero"
  let quotient := Number.nearest (decide (a < 0) != decide (b < 0)) a.natAbs b.natAbs
  if Number.isFinite quotient then return .real quotient
  fail "OverflowError" "integer division result too large for a float"

def onWholes? (operator : BinaryOperator) (a b : Int) : Run (Option Value) := do
  match operator with
  | .add => return some (.whole (a + b))
  | .subtract => return some (.whole (a - b))
  | .multiply => return some (.whole (a * b))
  | .divide => return some (← wholeQuotient a b)
  | .floorDivide =>
      if b = 0 then zeroDivision "integer division or modulo by zero"
      return some (.whole (Int.fdiv a b))
  | .modulo =>
      if b = 0 then zeroDivision "integer modulo by zero"
      return some (.whole (Int.fmod a b))
  | .power => return some (← wholePower a b)
  | .shiftLeft =>
      if b < 0 then valueError "negative shift count"
      if a ≠ 0 && Nat.pow 2 30 < b then fail "MemoryError" ""
      return some (.whole (if a = 0 then 0 else a * Nat.pow 2 b.toNat))
  | .shiftRight =>
      if b < 0 then valueError "negative shift count"
      let most : Int := Nat.log2 a.natAbs + 2
      return some (.whole (Int.fdiv a (Nat.pow 2 (min b most).toNat)))
  | .bitOr => return some (.whole (LiveShell.bitOr a b))
  | .bitXor => return some (.whole (LiveShell.bitXor a b))
  | .bitAnd => return some (.whole (LiveShell.bitAnd a b))
  | .matrix => return none

def onReals? (operator : BinaryOperator) (a b : Float) : Run (Option Value) := do
  match operator with
  | .add => return some (.real (a + b))
  | .subtract => return some (.real (a - b))
  | .multiply => return some (.real (a * b))
  | .divide =>
      if b == 0.0 then zeroDivision "float division by zero"
      return some (.real (a / b))
  | .floorDivide =>
      if b == 0.0 then zeroDivision "float floor division by zero"
      return some (.real (Number.floorDivide a b).1)
  | .modulo =>
      if b == 0.0 then zeroDivision "float modulo"
      return some (.real (Number.floorDivide a b).2)
  | .power => return some (← realPower a b)
  | _ => return none

def onPairs? (operator : BinaryOperator) (a b : Pair) : Run (Option Value) := do
  let value (pair : Pair) : Option Value := some (.complex pair.1 pair.2)
  match operator with
  | .add => return value (a.1 + b.1, a.2 + b.2)
  | .subtract => return value (a.1 - b.1, a.2 - b.2)
  | .multiply => return value (timesPair a b)
  | .divide =>
      if b.1 == 0.0 && b.2 == 0.0 then zeroDivision "complex division by zero"
      return value (dividePair a b)
  | .power =>
      if a.1 == 0.0 && a.2 == 0.0 && (b.2 != 0.0 || b.1 < 0.0) then
        zeroDivision "0.0 to a negative or complex power"
      if b.2 == 0.0 && Number.isWhole b.1 && b.1.abs ≤ 100.0 then
        let power := powerPair b.1.abs.toUInt64.toNat a
        return value (if b.1 < 0.0 then dividePair (1.0, 0.0) power else power)
      return value (raisePair a b)
  | _ => return none

def toPair (number : Numeric) : Run Pair := do
  match number with
  | .whole value => return (← toReal value, 0.0)
  | .real value => return (value, 0.0)
  | .complex x y => return (x, y)

def onNumbers? (operator : BinaryOperator) (a b : Numeric) : Run (Option Value) := do
  match a, b with
  | .whole a, .whole b => onWholes? operator a b
  | .complex x y, b => onPairs? operator (x, y) (← toPair b)
  | a, .complex x y => onPairs? operator (← toPair a) (x, y)
  | a, b => onReals? operator (← toPair a).1 (← toPair b).1

/-! Sequences and sets. -/

def repeatItems {α : Type} (items : List α) (count : Int) : List α :=
  (List.replicate count.toNat items).flatten

def repeatArray {α : Type} (items : Array α) (count : Int) : Array α :=
  if items.isEmpty then #[]
  else Nat.fold count.toNat (fun _ _ done => done ++ items) (Array.mkEmpty (items.size * count.toNat))

def repeatText (text : String) (count : Int) : String :=
  if text.isEmpty then ""
  else Nat.fold count.toNat (fun _ _ done => done ++ text) ""

/-- A sequence as often as a count says. -/
def repeated? (value : Value) (count : Int) : Run (Option Value) := do
  match value with
  | .text text => return some (.text (repeatText text count))
  | .bytes bytes => return some (.bytes (repeatItems bytes (if bytes.isEmpty then 0 else count)))
  | .tuple items => return some (.tuple (repeatItems items (if items.isEmpty then 0 else count)))
  | .ref address =>
      match ← cellAt? address with
      | some (.list items) => return some (← newList (repeatArray items count))
      | _ => return none
  | _ => return none

def isSequence (value : Value) : Run Bool := do
  match value with
  | .text _ | .bytes _ | .tuple _ => return true
  | .ref address =>
      match ← cellAt? address with
      | some (.list _) => return true
      | _ => return false
  | _ => return false

def multiplied? (a b : Value) : Run (Option Value) := do
  let times (sequence count : Value) : Run (Option Value) := do
    if !(← isSequence sequence) then return none
    match count.whole? with
    | some count => repeated? sequence count
    | none => typeError ("can't multiply sequence by non-int of type '" ++ (← typeName count) ++ "'")
  match ← times a b with
  | some result => return some result
  | none => times b a

def added? (a b : Value) : Run (Option Value) := do
  let refused (kind : String) : Run (Option Value) := do
    typeError ("can only concatenate " ++ kind ++ " (not \"" ++ (← typeName b) ++ "\") to " ++ kind)
  match a, b with
  | .text a, .text b => return some (.text (a ++ b))
  | .text _, _ => refused "str"
  | .bytes a, .bytes b => return some (.bytes (a ++ b))
  | .bytes _, b => typeError ("can't concat " ++ (← typeName b) ++ " to bytes")
  | .tuple a, .tuple b => return some (.tuple (a ++ b))
  | .tuple _, _ => refused "tuple"
  | .ref first, b =>
      match ← cellAt? first with
      | some (.list a) =>
          match b with
          | .ref second =>
              match ← cellAt? second with
              | some (.list b) => return some (← newList (a ++ b))
              | _ => refused "list"
          | _ => refused "list"
      | _ => return none
  | _, _ => return none

def membersWhere (engine : Engine) (members others : Array Value) (present : Bool) :
    Run (Array Value) := do
  let mut kept := #[]
  for member in members do
    if (← findKey engine others member).isSome == present then kept := kept.push member
  return kept

def onSets? (engine : Engine) (operator : BinaryOperator) (a b : Array Value) :
    Run (Option (Array Value)) := do
  match operator with
  | .bitAnd => return some (← membersWhere engine a b true)
  | .bitOr => return some (a ++ (← membersWhere engine b a false))
  | .subtract => return some (← membersWhere engine a b false)
  | .bitXor =>
      return some ((← membersWhere engine a b false) ++ (← membersWhere engine b a false))
  | _ => return none

def onContainers? (engine : Engine) (operator : BinaryOperator) (a b : Value) :
    Run (Option Value) := do
  match ← setMembers? a, ← setMembers? b with
  | some first, some second =>
      match ← onSets? engine operator first second with
      | some members =>
          let frozen : Bool ← (match a with
            | .ref address => do
                match ← cellAt? address with
                | some (.set _ frozen) => pure frozen
                | _ => pure false
            | _ => pure false)
          return some (← newSet members frozen)
      | none => return none
  | _, _ =>
      match operator, a, b with
      | .bitOr, .ref first, .ref second =>
          match ← cellAt? first, ← cellAt? second with
          | some (.dict a factory), some (.dict b _) =>
              let address ← allocate (.dict a factory)
              for (key, value) in b do setEntry engine address key value
              return some (.ref address)
          | _, _ => return none
      | .divide, .path a, .path b | .divide, .path a, .text b =>
          return some (.path (String.ofList (Files.join a.toList b.toList)))
      | .divide, .text a, .path b => return some (.path (String.ofList (Files.join a.toList b.toList)))
      | _, _, _ => return none

/-- An operator on built-in values, with a way to lay out values in a text. -/
def onPlain? (engine : Engine) (fillIn : Value → Value → Run Value) (operator : BinaryOperator)
    (a b : Value) : Run (Option Value) := do
  match a.numeric?, b.numeric? with
  | some x, some y =>
      match operator, a, b with
      | .bitAnd, .boolean x, .boolean y => return some (.boolean (x && y))
      | .bitOr, .boolean x, .boolean y => return some (.boolean (x || y))
      | .bitXor, .boolean x, .boolean y => return some (.boolean (x != y))
      | .bitOr, .patternFlags x, .patternFlags y => return some (.patternFlags (x ||| y))
      | .bitAnd, .patternFlags x, .patternFlags y => return some (.patternFlags (x &&& y))
      | _, _, _ => onNumbers? operator x y
  | _, _ =>
      match operator, a with
      | .add, _ => added? a b
      | .multiply, _ => multiplied? a b
      | .modulo, .text _ | .modulo, .bytes _ => return some (← fillIn a b)
      | operator, _ => onContainers? engine operator a b

/-- An operator as the class of one side defines it. -/
def ownOperator? (engine : Engine) (word : String) (a b : Value) : Run (Option Value) := do
  match ← callOwn? engine a ("__" ++ word ++ "__") [b] with
  | some .notImplemented => return none
  | result => return result

/-- The value of an operator on two values; `changing` when the first is changed by it. -/
def operate (engine : Engine) (fillIn : Value → Value → Run Value) (operator : BinaryOperator)
    (changing : Bool) (a b : Value) : Run Value := do
  let word := operatorWord operator
  let first ← classOf a
  let second ← classOf b
  let reflectedFirst : Bool ← (do
    if first.same second then pure false else isSubclass second first)
  let reflected : Run (Option Value) := do
    if first.same second then return none else ownOperator? engine ("r" ++ word) b a
  let early ← (if reflectedFirst then reflected else pure none)
  match early with
  | some result => return result
  | none =>
      match ← ownOperator? engine word a b with
      | some result => return result
      | none =>
          let late ← (if reflectedFirst then pure none else reflected)
          match late with
          | some result => return result
          | none =>
              match ← onPlain? engine fillIn operator (← plain a) (← plain b) with
              | some result => return result
              | none =>
                  typeError ("unsupported operand type(s) for " ++
                    (if changing then changingSignOf operator else signOf operator) ++ ": '" ++
                    (← typeName a) ++ "' and '" ++ (← typeName b) ++ "'")

/-! One operand. -/

def unaryWord : UnaryOperator → String
  | .negate => "neg"
  | .plus => "pos"
  | .invert => "invert"
  | .not => "not"

def unarySign : UnaryOperator → String
  | .negate => "-"
  | .plus => "+"
  | .invert => "~"
  | .not => "not"

def operateOn (engine : Engine) (operator : UnaryOperator) (value : Value) : Run Value := do
  if operator = .not then return .boolean !(← holds engine value)
  match ← callOwn? engine value ("__" ++ unaryWord operator ++ "__") [] with
  | some result => return result
  | none =>
      match operator, (← plain value).numeric? with
      | .negate, some (.whole number) => return .whole (-number)
      | .negate, some (.real number) => return .real (-number)
      | .negate, some (.complex x y) => return .complex (-x) (-y)
      | .plus, some (.whole number) => return .whole number
      | .plus, some (.real number) => return .real number
      | .plus, some (.complex x y) => return .complex x y
      | .invert, some (.whole number) => return .whole (complement number)
      | _, _ =>
          typeError ("bad operand type for unary " ++ unarySign operator ++ ": '" ++ (← typeName value) ++
            "'")

/-- A value as an integer for an index or a count. -/
def toIndex? (engine : Engine) (value : Value) : Run (Option Int) := do
  match (← plain value).whole? with
  | some number => return some number
  | none =>
      match ← callOwn? engine value "__index__" [] with
      | some result => return (← plain result).whole?
      | none => return none

def toIndex (engine : Engine) (value : Value) : Run Int := do
  match ← toIndex? engine value with
  | some number => return number
  | none => typeError ("'" ++ (← typeName value) ++ "' object cannot be interpreted as an integer")

end Run

end LiveShell
