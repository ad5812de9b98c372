import LiveShell.Number.Shortest
import LiveShell.Text.CharacterClass

/-!
Numbers read from texts. Blanks around a number are skipped, digits of every script count, and a single
underscore may stand between two digits.
-/

namespace LiveShell.Number

open Text

def strip (text : List Char) : List Char :=
  ((text.dropWhile isSpace).reverse.dropWhile isSpace).reverse

/-- Digits of every script as ASCII digits. -/
def plainDigit (character : Char) : Char :=
  match decimalValue? character with
  | some value => Char.ofNat (48 + value)
  | none => character

def readSign (text : List Char) : Bool × List Char :=
  match text with
  | '-' :: rest => (true, rest)
  | '+' :: rest => (false, rest)
  | text => (false, text)

/-- The value of a character as a digit, letters counting on from ten. -/
def digitValue? (character : Char) : Option Nat :=
  let code := character.toNat
  if '0' ≤ character && character ≤ '9' then some (code - 48)
  else if 'a' ≤ character && character ≤ 'z' then some (code - 87)
  else if 'A' ≤ character && character ≤ 'Z' then some (code - 55)
  else none

/-- Takes underscores out, if each stands between two digits. -/
def withoutUnderscores? (holds : Char → Bool) (text : List Char) : Option (List Char) :=
  let rec go (afterDigit : Bool) : List Char → Option (List Char)
    | [] => some []
    | '_' :: next :: rest =>
        if afterDigit && holds next then (go true rest).map (next :: ·) else none
    | ['_'] => none
    | character :: rest => (go (holds character) rest).map (character :: ·)
  go false text

/-- Digits of a base as a natural; there is at least one. -/
def readDigits? (base : Nat) (text : List Char) : Option Nat := do
  let isDigit (character : Char) : Bool := match digitValue? character with
    | some value => value < base
    | none => false
  let digits ← withoutUnderscores? isDigit text
  if digits.isEmpty || !digits.all isDigit then none
  else some (digits.foldl (fun value digit => value * base + (digitValue? digit).getD 0) 0)

def prefixBase? : List Char → Option (Nat × List Char)
  | '0' :: letter :: rest =>
      let rest := match rest with
        | '_' :: rest => rest
        | rest => rest
      if letter = 'x' || letter = 'X' then some (16, rest)
      else if letter = 'o' || letter = 'O' then some (8, rest)
      else if letter = 'b' || letter = 'B' then some (2, rest)
      else none
  | _ => none

/-- An integer in a base. Base zero takes the base from the prefix of the text, and then a decimal one does not
start with a zero unless it is zero. -/
def readWhole? (base : Nat) (text : String) : Option Int := do
  let text := (strip text.toList).map plainDigit
  let (negative, text) := readSign text
  let size ← match prefixBase? text with
    | some (own, rest) =>
        if base = 0 || base = own then readDigits? own rest else readDigits? base text
    | none =>
        if base = 0 then do
          let value ← readDigits? 10 text
          if text.head? = some '0' && value ≠ 0 then none else some value
        else readDigits? base text
  some (if negative then -(size : Int) else size)

/-- How many digits a text of an integer has. -/
def countDigits (text : String) : Nat :=
  (text.toList.filter fun character => (decimalValue? character).isSome).length

def lowerAscii (text : List Char) : String := String.ofList (text.map Char.toLower)

/-- A decimal number with a fraction or an exponent, without sign or underscores. -/
def readDecimal? (negative : Bool) (text : List Char) : Option Float := do
  let isDigit (character : Char) : Bool := '0' ≤ character && character ≤ '9'
  let whole := text.takeWhile isDigit
  let rest := text.dropWhile isDigit
  let (places, rest) := match rest with
    | '.' :: rest => (rest.takeWhile isDigit, rest.dropWhile isDigit)
    | rest => ([], rest)
  if whole.isEmpty && places.isEmpty then none
  else
    let value := (whole ++ places).foldl (fun value digit => value * 10 + (digit.toNat - 48)) 0
    let exponent ← match rest with
      | [] => some 0
      | letter :: rest =>
          if letter = 'e' || letter = 'E' then do
            let (down, digits) := readSign rest
            if digits.isEmpty || !digits.all isDigit then none
            else
              let size : Int := (digits.foldl (fun value digit => value * 10 + (digit.toNat - 48)) 0 : Nat)
              some (if down then -size else size)
          else none
    some (nearestDecimal negative value (exponent - places.length))

/-- A real number, infinities and the lack of a number included. -/
def readReal? (text : String) : Option Float := do
  let text := (strip text.toList).map plainDigit
  let text ← withoutUnderscores? (fun character => '0' ≤ character && character ≤ '9') text
  let (negative, text) := readSign text
  match lowerAscii text with
  | "inf" | "infinity" => some (infinite negative)
  | "nan" => some notANumber
  | _ => readDecimal? negative text

end LiveShell.Number
