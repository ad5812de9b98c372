import LiveShell.Number.Binary

/-!
The decimal digits of a number: the fewest that read back to it, or as many as are asked for.
-/

namespace LiveShell.Number

/-- `0.d₁d₂… * 10 ^ point`; the digits do not end in a zero, and zero has none. -/
structure Decimal where
  digits : List Char
  point : Int
deriving DecidableEq, Repr, Inhabited

def digitsOf (value : Nat) : List Char := Nat.toDigits 10 value

/-- The exponent of the power of ten just above a positive quotient. -/
def decimalOrder (numerator denominator : Nat) : Int :=
  let guess := ((Nat.log2 numerator : Int) - Nat.log2 denominator) * 30103 / 100000 - 1
  let above (order : Int) : Bool :=
    let (top, bottom) := scaled numerator denominator 10 order
    top < bottom
  if above guess then guess
  else if above (guess + 1) then guess + 1
  else if above (guess + 2) then guess + 2
  else guess + 3

def dropTrailingZeros (digits : List Char) : List Char :=
  (digits.reverse.dropWhile (· = '0')).reverse

/-- `value * 10 ^ exponent` as a decimal. -/
def Decimal.ofScaled (value : Nat) (exponent : Int) : Decimal :=
  if value = 0 then ⟨[], 0⟩
  else
    let digits := digitsOf value
    ⟨dropTrailingZeros digits, digits.length + exponent⟩

/-- Of the two grid points around a value, the nearer one that lies between the bounds. All quantities are
fourths of the last binary place, over one denominator. -/
def gridPoint? (low value high denominator : Nat) (closed : Bool) (exponent : Int) : Option Nat :=
  let (top, bottom) := scaled value denominator 10 exponent
  let below := top / bottom
  let inside (point : Nat) : Bool :=
    let (unit, per) := if 0 ≤ exponent then (Nat.pow 10 exponent.toNat, 1) else (1, Nat.pow 10 (-exponent).toNat)
    let place := point * unit * denominator
    if closed then low * per ≤ place && place ≤ high * per else low * per < place && place < high * per
  let rounded := roundQuotient top bottom
  let other := if rounded = below then below + 1 else below
  if 0 < rounded && inside rounded then some rounded
  else if 0 < other && inside other then some other
  else none

/-- The shortest decimal that reads back to a finite number that is not zero. -/
def shortest (value : BinaryValue) : Decimal :=
  let scale := value.exponent - 2
  let raise (quarter : Nat) : Nat := if 0 ≤ scale then quarter * Nat.pow 2 scale.toNat else quarter
  let denominator := if 0 ≤ scale then 1 else Nat.pow 2 (-scale).toNat
  let middle := raise (4 * value.significand)
  let narrow : Bool := value.significand = Nat.pow 2 52 && -1074 < value.exponent
  let low := raise (4 * value.significand - (if narrow then 1 else 2))
  let high := raise (4 * value.significand + 2)
  let order := decimalOrder middle denominator
  let found := (List.range 17).findSome? fun count =>
    let exponent := order - (count + 1 : Nat)
    (gridPoint? low middle high denominator (value.significand % 2 = 0) exponent).map
      fun point => Decimal.ofScaled point exponent
  found.getD ⟨[], 0⟩

/-- The multiple of `10 ^ exponent` nearest to a number, a tie to the even one. -/
def roundedTo (value : BinaryValue) (exponent : Int) : Nat :=
  let (numerator, denominator) := value.quotient
  let (top, bottom) := scaled numerator denominator 10 exponent
  roundQuotient top bottom

/-- The first digits of a number, rounded, with trailing zeros, and its order. -/
def leadingDigits (value : BinaryValue) (count : Nat) : List Char × Int :=
  if value.significand = 0 then (List.replicate count '0', 1)
  else
    let (numerator, denominator) := value.quotient
    let order := decimalOrder numerator denominator
    let rounded := digitsOf (roundedTo value (order - count))
    if rounded.length ≤ count then (rounded, order) else (rounded.take count, order + 1)

/-! Layout. -/

def signText (negative : Bool) : String := if negative then "-" else ""

/-- An exponent with its sign and two digits at least. -/
def exponentText (letter : Char) (exponent : Int) : String :=
  let digits := toString exponent.natAbs
  String.singleton letter ++ (if exponent < 0 then "-" else "+") ++
    (if digits.length < 2 then "0" ++ digits else digits)

/-- Digits as a decimal in the shortest natural form: positional from 10⁻⁴ to below 10¹⁶. -/
def Decimal.write (decimal : Decimal) (keepPoint : Bool) : String :=
  let text (digits : List Char) : String := String.ofList digits
  let zeros (count : Nat) : List Char := List.replicate count '0'
  let size := decimal.digits.length
  if size = 0 then if keepPoint then "0.0" else "0"
  else if -4 < decimal.point && decimal.point ≤ 16 then
    if decimal.point ≤ 0 then text (['0', '.'] ++ zeros (-decimal.point).toNat ++ decimal.digits)
    else if size ≤ decimal.point.toNat then
      text (decimal.digits ++ zeros (decimal.point.toNat - size)) ++ (if keepPoint then ".0" else "")
    else
      let whole := decimal.point.toNat
      text (decimal.digits.take whole ++ ['.'] ++ decimal.digits.drop whole)
  else
    let rest := decimal.digits.drop 1
    text (decimal.digits.take 1 ++ (if rest.isEmpty then [] else '.' :: rest)) ++
      exponentText 'e' (decimal.point - 1)

/-- The number that a decimal reads as. -/
def Decimal.read (decimal : Decimal) (negative : Bool) : Float :=
  let value := decimal.digits.foldl (fun value digit => value * 10 + (digit.toNat - 48)) 0
  nearestDecimal negative value (decimal.point - decimal.digits.length)

def writeReal (keepPoint : Bool) (number : Float) : String :=
  match BinaryValue.of? number with
  | none => if number.isNaN then "nan" else signText (isNegative number) ++ "inf"
  | some value =>
      let decimal := if value.significand = 0 then ⟨[], 0⟩ else shortest value
      signText value.negative ++ decimal.write keepPoint

/-- A number as the shell shows it: the fewest digits that read back, and always a point or an exponent. -/
def realText (number : Float) : String := writeReal true number

/-- A complex number: in brackets unless the real part is zero and not negative. -/
def complexText (real imaginary : Float) : String :=
  if real == 0.0 && !isNegative real then writeReal false imaginary ++ "j"
  else
    let second := writeReal false imaginary
    let sign := if second.startsWith "-" then "" else "+"
    "(" ++ writeReal false real ++ sign ++ second ++ "j)"

end LiveShell.Number
