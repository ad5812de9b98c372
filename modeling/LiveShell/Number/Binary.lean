/-!
Binary numbers of double width: their exact value, and the number nearest to an exact quotient. A tie goes to
the even significand; a quotient past the largest number rounds to infinity.
-/

namespace LiveShell.Number

/-- A finite number, `significand * 2 ^ exponent` with a sign. -/
structure BinaryValue where
  negative : Bool
  significand : Nat
  exponent : Int
deriving DecidableEq, Repr, Inhabited

/-- The exact value of a number, unless it is infinite or no number. -/
def BinaryValue.of? (number : Float) : Option BinaryValue :=
  let bits := number.toBits.toNat
  let field : Nat := bits / Nat.pow 2 52 % Nat.pow 2 11
  let fraction := bits % Nat.pow 2 52
  let negative : Bool := bits / Nat.pow 2 63 = 1
  if field = 2047 then none
  else if field = 0 then some ⟨negative, fraction, -1074⟩
  else some ⟨negative, fraction + Nat.pow 2 52, (field : Int) - 1075⟩

/-- The value as a quotient of naturals, without the sign. -/
def BinaryValue.quotient (value : BinaryValue) : Nat × Nat :=
  if 0 ≤ value.exponent then (value.significand * Nat.pow 2 value.exponent.toNat, 1)
  else (value.significand, Nat.pow 2 (-value.exponent).toNat)

/-- A quotient of naturals rounded to the nearest natural, a tie to the even one. -/
def roundQuotient (numerator denominator : Nat) : Nat :=
  let whole := numerator / denominator
  let rest := numerator % denominator
  if 2 * rest < denominator then whole
  else if denominator < 2 * rest then whole + 1
  else if whole % 2 = 0 then whole else whole + 1

/-- A quotient over a power, whose exponent may be negative. -/
def scaled (numerator denominator base : Nat) (exponent : Int) : Nat × Nat :=
  if 0 ≤ exponent then (numerator, denominator * Nat.pow base exponent.toNat)
  else (numerator * Nat.pow base (-exponent).toNat, denominator)

/-- The exponent of the greatest power of two that is not above a quotient. -/
def binaryOrder (numerator denominator : Nat) : Int :=
  let guess := (Nat.log2 numerator : Int) - Nat.log2 denominator
  let (top, bottom) := scaled numerator denominator 2 guess
  if bottom ≤ top then guess else guess - 1

def signBit (negative : Bool) : Nat := if negative then Nat.pow 2 63 else 0

def infinite (negative : Bool) : Float :=
  Float.ofBits (UInt64.ofNat (signBit negative + 2047 * Nat.pow 2 52))

def notANumber : Float := Float.ofBits (UInt64.ofNat (2047 * Nat.pow 2 52 + Nat.pow 2 51))

/-- The number nearest to a quotient. -/
def nearest (negative : Bool) (numerator denominator : Nat) : Float :=
  if numerator = 0 then Float.ofBits (UInt64.ofNat (signBit negative))
  else
    let exponent := max (binaryOrder numerator denominator - 52) (-1074)
    let (top, bottom) := scaled numerator denominator 2 exponent
    let rounded := roundQuotient top bottom
    let (significand, exponent) :=
      if rounded = Nat.pow 2 53 then (Nat.pow 2 52, exponent + 1) else (rounded, exponent)
    if 971 < exponent then infinite negative
    else if significand < Nat.pow 2 52 then Float.ofBits (UInt64.ofNat (signBit negative + significand))
    else
      let field := (exponent + 1075).toNat
      Float.ofBits (UInt64.ofNat (signBit negative + field * Nat.pow 2 52 + (significand - Nat.pow 2 52)))

/-- The number nearest to `digits * 10 ^ exponent`. Exponents that decide alone are not raised. -/
def nearestDecimal (negative : Bool) (digits : Nat) (exponent : Int) : Float :=
  let size := (Nat.toDigits 10 digits).length
  if digits = 0 || exponent + size < -330 then nearest negative 0 1
  else if 310 < exponent + size then infinite negative
  else
    let (numerator, denominator) := scaled digits 1 10 (-exponent)
    nearest negative numerator denominator

def isFinite (number : Float) : Bool := (BinaryValue.of? number).isSome

def isNegative (number : Float) : Bool := number.toBits.toNat / Nat.pow 2 63 = 1

/-- The number nearest to an integer, unless the integer is too large. -/
def ofWhole? (value : Int) : Option Float :=
  let number := nearest (value < 0) value.natAbs 1
  if isFinite number then some number else none

/-- The integer that a finite number is cut to. -/
def truncated? (number : Float) : Option Int :=
  (BinaryValue.of? number).map fun value =>
    let (numerator, denominator) := value.quotient
    let size : Int := (numerator / denominator : Nat)
    if value.negative then -size else size

/-- Whether a number has no fractional part. -/
def isWhole (number : Float) : Bool :=
  match BinaryValue.of? number with
  | some value => let (numerator, denominator) := value.quotient; numerator % denominator = 0
  | none => false

/-- What is left of a number after taking another as often as it fits, with the sign of the first. -/
def remainder (number divisor : Float) : Float :=
  match BinaryValue.of? number, BinaryValue.of? divisor with
  | some a, some b =>
      if b.significand = 0 then notANumber
      else
        let exponent := min a.exponent b.exponent
        let left := a.significand * Nat.pow 2 (a.exponent - exponent).toNat
        let right := b.significand * Nat.pow 2 (b.exponent - exponent).toNat
        let (numerator, denominator) := scaled (left % right) 1 2 (-exponent)
        nearest a.negative numerator denominator
  | some _, none => if divisor.isNaN then notANumber else number
  | none, _ => notANumber

/-- The quotient rounded down and the remainder with the sign of the divisor, which is not zero. -/
def floorDivide (number divisor : Float) : Float × Float :=
  let rest := remainder number divisor
  let quotient := (number - rest) / divisor
  let (rest, quotient) :=
    if rest != 0.0 && (isNegative divisor != isNegative rest) then (rest + divisor, quotient - 1.0)
    else (rest, quotient)
  let rest := if rest == 0.0 then nearest (isNegative divisor) 0 1 else rest
  let whole :=
    if quotient == 0.0 then nearest (isNegative (number / divisor)) 0 1
    else
      let down := quotient.floor
      if 0.5 < quotient - down then down + 1.0 else down
  (whole, rest)

/-- Compares an integer with a number exactly; nothing when the number is none. -/
def compareWhole? (value : Int) (number : Float) : Option Ordering :=
  match BinaryValue.of? number with
  | some exact =>
      let (numerator, denominator) := exact.quotient
      let signed : Int := if exact.negative then -(numerator : Int) else numerator
      some (compare (value * denominator) signed)
  | none => if number.isNaN then none else some (if isNegative number then .gt else .lt)

end LiveShell.Number
