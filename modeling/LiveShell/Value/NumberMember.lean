import LiveShell.Number.Reading
import LiveShell.Value.Filling

/-!
The methods of numbers, rounding, and numbers as texts of other bases.
-/

namespace LiveShell

namespace Run

/-- Raises for a real number that has no integer part. -/
def needFinite {α : Type} (number : Float) : Run α :=
  if number.isNaN then valueError "cannot convert float NaN to integer"
  else fail "OverflowError" "cannot convert float infinity to integer"

def nanToRatio {α : Type} (number : Float) : Run α :=
  if number.isNaN then valueError "cannot convert NaN to integer ratio"
  else fail "OverflowError" "cannot convert Infinity to integer ratio"

/-- The integer part of a real number. -/
def truncateReal (number : Float) : Run Int := do
  match Number.truncated? number with
  | some whole => return whole
  | none => needFinite number

/-- A real number as a quotient in lowest terms. -/
def ratioOf (number : Float) : Run Value := do
  match Number.BinaryValue.of? number with
  | none => nanToRatio number
  | some value =>
      let (top, bottom) := value.quotient
      let common := max (Nat.gcd top bottom) 1
      let top : Int := (top / common : Nat)
      return .tuple [.whole (if value.negative then -top else top), .whole (bottom / common : Nat)]

/-- A real number in base sixteen with a binary exponent. -/
def hexReal (number : Float) : String :=
  match Number.BinaryValue.of? number with
  | none => Number.realText number
  | some value =>
      let sign := Number.signText value.negative
      if value.significand = 0 then sign ++ "0x0.0p+0"
      else
        let whole := value.significand / Nat.pow 2 52
        let fraction := value.significand % Nat.pow 2 52
        let exponent := value.exponent + 52
        sign ++ "0x" ++ toString whole ++ "." ++ String.ofList (Text.hexDigits 13 fraction) ++ "p" ++
          (if exponent < 0 then "-" else "+") ++ toString exponent.natAbs

/-- The bytes of an integer, the least significant first. -/
def littleBytes : Nat → Nat → List UInt8
  | 0, _ => []
  | count + 1, value => UInt8.ofNat (value % 256) :: littleBytes count (value / 256)

def isLittle (order : Option Value) : Run Bool := do
  match order with
  | none => return false
  | some (.text "big") => return false
  | some (.text "little") => return true
  | some (.text _) => valueError "byteorder must be either 'little' or 'big'"
  | some other => typeError ("to_bytes() argument 'byteorder' must be str, not " ++ (← typeName other))

def wholeToBytes (engine : Engine) (number : Int) (arguments : List (Option Value)) : Run Value := do
  let length ← (match arguments.headD none with
    | none => pure 1
    | some length => sizeArgument engine length)
  let little ← isLittle ((arguments[1]?).getD none)
  let signed ← (match (arguments[2]?).getD none with
    | none => pure false
    | some signed => holds engine signed)
  if length < 0 then valueError "length argument must be non-negative"
  let size := length.toNat
  if number < 0 && !signed then fail "OverflowError" "can't convert negative int to unsigned"
  let fits := if signed then -(Nat.pow 2 (8 * size - 1) : Int) ≤ number && number < Nat.pow 2 (8 * size - 1)
    else number < Nat.pow 2 (8 * size)
  if !fits then fail "OverflowError" "int too big to convert"
  let bytes := littleBytes size (number % (Nat.pow 2 (8 * size) : Int)).toNat
  return .bytes (if little then bytes else bytes.reverse)

def wholeFromBytes (engine : Engine) (arguments : List (Option Value)) : Run Value := do
  let bytes ← (match ← plain ((arguments.headD none).getD .nothing) with
    | .bytes bytes => pure bytes
    | other => do
        let items ← collect engine other
        items.toList.mapM fun item => do
          match item.whole? with
          | some number =>
              if 0 ≤ number && number < 256 then return UInt8.ofNat number.toNat
              else valueError "bytes must be in range(0, 256)"
          | none => typeError ("'" ++ (← typeName item) ++ "' object cannot be interpreted as an integer"))
  let little ← isLittle ((arguments[1]?).getD none)
  let signed ← (match (arguments[2]?).getD none with
    | none => pure false
    | some signed => holds engine signed)
  let ordered := if little then bytes.reverse else bytes
  let value : Int := (ordered.foldl (fun value byte => value * 256 + byte.toNat) 0 : Nat)
  let limit : Int := Nat.pow 2 (8 * ordered.length)
  return .whole (if signed && limit ≤ 2 * value then value - limit else value)

def numberShape? (kind : Kind) (name : String) : Option Shape :=
  match kind, name with
  | .whole, "bit_length" | .whole, "bit_count" | .whole, "conjugate" | .whole, "as_integer_ratio"
  | .real, "is_integer" | .real, "hex" | .real, "conjugate" | .real, "as_integer_ratio"
  | .complex, "conjugate" => some .none
  | .whole, "to_bytes" => some (.named 0 0 ["length", "byteorder", "signed"])
  | .whole, "from_bytes" => some (.named 1 0 ["bytes", "byteorder", "signed"])
  | _, _ => none

def callWholeMember (engine : Engine) (number : Int) (name : String) (arguments : List (Option Value)) :
    Run Value := do
  match name with
  | "bit_length" => return .whole (if number = 0 then 0 else Nat.log2 number.natAbs + 1 : Nat)
  | "bit_count" => return .whole ((Nat.toDigits 2 number.natAbs).filter (· = '1')).length
  | "as_integer_ratio" => return .tuple [.whole number, .whole 1]
  | "to_bytes" => wholeToBytes engine number arguments
  | _ => return .whole number

def callRealMember (number : Float) (name : String) : Run Value := do
  match name with
  | "is_integer" => return .boolean (Number.isWhole number)
  | "hex" => return .text (hexReal number)
  | "as_integer_ratio" => ratioOf number
  | _ => return .real number

/-- Calls a method of a number; nothing when there is no such method. -/
def callNumberMember? (engine : Engine) (value : Value) (name : String) (given : Given) :
    Run (Option Value) := do
  match value.numeric? with
  | none => return none
  | some number =>
      let (kind, owner) : Kind × String := match number with
        | .whole _ => (.whole, "int")
        | .real _ => (.real, "float")
        | .complex .. => (.complex, "complex")
      match numberShape? kind name with
      | none => return none
      | some shape =>
          let arguments ← orderArguments owner name shape given
          match number with
          | .whole number =>
              if name = "from_bytes" then return some (← wholeFromBytes engine arguments)
              return some (← callWholeMember engine number name arguments)
          | .real number => return some (← callRealMember number name)
          | .complex real imaginary => return some (.complex real (-imaginary))

/-! Rounding. -/

/-- An integer rounded to a multiple of a power of ten, a tie to the even one. -/
def roundWhole (number : Int) (places : Int) : Int :=
  if 0 ≤ places then number
  else
    let unit := Nat.pow 10 (-places).toNat
    let rounded : Int := (Number.roundQuotient number.natAbs unit * unit : Nat)
    if number < 0 then -rounded else rounded

/-- A real number rounded to decimal places, a tie to the even one. -/
def roundReal (number : Float) (places : Int) : Run Float := do
  match Number.BinaryValue.of? number with
  | none => return number
  | some value =>
      if 323 < places then return number
      if places < -308 then return if value.negative then -0.0 else 0.0
      let rounded := Number.roundedTo value (-places)
      let result := Number.nearestDecimal value.negative rounded (-places)
      if Number.isFinite result then return result
      fail "OverflowError" "rounded value too large to represent"

def roundValue (engine : Engine) (value : Value) (places : Option Value) : Run Value := do
  let places := match places with
    | some .nothing => none
    | places => places
  match ← callOwn? engine value "__round__" places.toList with
  | some result => return result
  | none =>
      match (← plain value).numeric?, places with
      | some (.whole number), none => return .whole number
      | some (.whole number), some places => return .whole (roundWhole number (← toIndex engine places))
      | some (.real number), none =>
          match Number.BinaryValue.of? number with
          | none => needFinite number
          | some value =>
              let rounded : Int := (Number.roundedTo value 0 : Nat)
              return .whole (if value.negative then -rounded else rounded)
      | some (.real number), some places => return .real (← roundReal number (← toIndex engine places))
      | _, _ => typeError ("type " ++ (← typeName value) ++ " doesn't define __round__ method")

def absoluteOf (engine : Engine) (value : Value) : Run Value := do
  match ← callOwn? engine value "__abs__" [] with
  | some result => return result
  | none =>
      match (← plain value).numeric? with
      | some (.whole number) => return .whole number.natAbs
      | some (.real number) => return .real number.abs
      | some (.complex x y) => return .real (sizeOfPair (x, y))
      | none => typeError ("bad operand type for abs(): '" ++ (← typeName value) ++ "'")

/-- An integer in another base, with the mark of the base. -/
def inBase (base : Nat) (mark : String) (number : Int) : String :=
  Number.signText (number < 0) ++ mark ++ String.ofList (Nat.toDigits base number.natAbs)

/-- The quotient and what is left of it, both at once. -/
def divideBoth (engine : Engine) (a b : Value) : Run Value := do
  let own (name : String) (x y : Value) : Run (Option Value) := do
    match ← callOwn? engine x name [y] with
    | some .notImplemented => return none
    | result => return result
  match ← own "__divmod__" a b with
  | some result => return result
  | none =>
      match ← own "__rdivmod__" b a with
      | some result => return result
      | none =>
          match (← plain a).numeric?, (← plain b).numeric? with
          | some (.whole x), some (.whole y) =>
              if y = 0 then zeroDivision "integer division or modulo by zero"
              return .tuple [.whole (Int.fdiv x y), .whole (Int.fmod x y)]
          | some (.complex ..), some _ | some _, some (.complex ..) | none, _ | _, none =>
              typeError ("unsupported operand type(s) for divmod(): '" ++ (← typeName a) ++ "' and '" ++
                (← typeName b) ++ "'")
          | some x, some y =>
              let first := (← toPair x).1
              let second := (← toPair y).1
              if second == 0.0 then zeroDivision "float divmod()"
              let (quotient, rest) := Number.floorDivide first second
              return .tuple [.real quotient, .real rest]

/-- A power, or a power modulo a number. -/
def powerOf (engine : Engine) (base exponent : Value) (modulus : Option Value) : Run Value := do
  match modulus with
  | none | some .nothing => operate engine (fillIn engine) .power false base exponent
  | some modulus =>
      match (← plain base).whole?, (← plain exponent).whole?, (← plain modulus).whole? with
      | some base, some exponent, some modulus =>
          if modulus = 0 then valueError "pow() 3rd argument cannot be 0"
          let size := modulus.natAbs
          let reduced (value : Int) : Nat := (value % (size : Int)).toNat
          let sign (value : Nat) : Int :=
            if modulus < 0 && value ≠ 0 then (value : Int) - size else value
          if 0 ≤ exponent then
            return .whole (sign (powerModulo (reduced base) exponent.toNat size))
          else
            match inverseModulo (reduced base) size with
            | some inverse => return .whole (sign (powerModulo inverse (-exponent).toNat size))
            | none => valueError "base is not invertible for the given modulus"
      | _, _, _ =>
          if ((← plain base).numeric?).isSome && ((← plain exponent).numeric?).isSome then
            typeError "pow() 3rd argument not allowed unless all arguments are integers"
          typeError ("unsupported operand type(s) for ** or pow(): '" ++ (← typeName base) ++ "', '" ++
            (← typeName exponent) ++ "', '" ++ (← typeName modulus) ++ "'")

end Run

end LiveShell
