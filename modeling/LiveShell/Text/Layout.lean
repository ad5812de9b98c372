import LiveShell.Number.Shortest

/-!
Layouts of a value in a text: fill, alignment, sign, width, grouping, precision and kind, and what a number
or a text looks like laid out.
-/

namespace LiveShell.Text

open Number

/-- Where the fill goes. `inner` puts it between sign and digits. -/
inductive Alignment
  | left
  | right
  | center
  | inner
deriving DecidableEq, Repr, Inhabited

structure Layout where
  fill : Char := ' '
  alignment : Alignment := .right
  sign : Option Char := none
  dropNegativeZero : Bool := false
  alternate : Bool := false
  width : Nat := 0
  grouping : Option Char := none
  precision : Option Nat := none
  kind : Option Char := none
deriving DecidableEq, Repr, Inhabited

/-- Why a layout cannot be read, or does not suit a value. -/
inductive LayoutFault
  | unreadable (spec : String)
  | missingPrecision
  | tooManyDigits
  | bothGroupings
  | grouping (mark kind : Char)
  | unknownKind (kind : Char)
  | textSign (blank : Bool)
  | textNegativeZero
  | textAlternate
  | textInner
  | wholePrecision
  | wholeNegativeZero
  | characterSign
  | characterAlternate
  | characterRange
  | tooLarge
deriving DecidableEq, Repr, Inhabited

/-- The words for a fault about a value of a named type. -/
def LayoutFault.message (typeName : String) : LayoutFault → String
  | unreadable spec => "Invalid format specifier '" ++ spec ++ "' for object of type '" ++ typeName ++ "'"
  | missingPrecision => "Format specifier missing precision"
  | tooManyDigits => "Too many decimal digits in format string"
  | bothGroupings => "Cannot specify both ',' and '_'."
  | grouping mark kind =>
      "Cannot specify '" ++ String.singleton mark ++ "' with '" ++ String.singleton kind ++ "'."
  | unknownKind kind =>
      "Unknown format code '" ++ String.singleton kind ++ "' for object of type '" ++ typeName ++ "'"
  | textSign true => "Space not allowed in string format specifier"
  | textSign false => "Sign not allowed in string format specifier"
  | textNegativeZero => "Negative zero coercion (z) not allowed in string format specifier"
  | textAlternate => "Alternate form (#) not allowed in string format specifier"
  | textInner => "'=' alignment not allowed in string format specifier"
  | wholePrecision => "Precision not allowed in integer format specifier"
  | wholeNegativeZero => "Negative zero coercion (z) not allowed in integer format specifier"
  | characterSign => "Sign not allowed with integer format specifier 'c'"
  | characterAlternate => "Alternate form (#) not allowed with integer format specifier 'c'"
  | characterRange => "%c arg not in range(0x110000)"
  | tooLarge => "int too large to convert to float"

namespace Layout

def alignmentOf? : Char → Option Alignment
  | '<' => some .left
  | '>' => some .right
  | '^' => some .center
  | '=' => some .inner
  | _ => none

def isDigit (character : Char) : Bool := '0' ≤ character && character ≤ '9'

def readCount (text : List Char) : Except LayoutFault (Option Nat × List Char) :=
  let digits := text.takeWhile isDigit
  let value := digits.foldl (fun value digit => value * 10 + (digit.toNat - 48)) 0
  if digits.isEmpty then pure (none, text)
  else if Nat.pow 2 63 ≤ value then throw .tooManyDigits
  else pure (some value, text.drop digits.length)

/-- The fill and alignment that a layout opens with. -/
def readAlignment (standard : Alignment) (text : List Char) : Option Char × Option Alignment × List Char :=
  match text with
  | fill :: mark :: rest =>
      match alignmentOf? mark with
      | some alignment => (some fill, some alignment, rest)
      | none =>
          match alignmentOf? fill with
          | some alignment => (none, some alignment, mark :: rest)
          | none => (none, none, text)
  | [mark] => (none, alignmentOf? mark, if (alignmentOf? mark).isSome then [] else text)
  | [] => (none, none, if standard = .left then [] else [])

def readFlag (mark : Char) (text : List Char) : Bool × List Char :=
  match text with
  | first :: rest => if first = mark then (true, rest) else (false, text)
  | [] => (false, [])

def readSign (text : List Char) : Option Char × List Char :=
  match text with
  | first :: rest =>
      if first = ' ' || first = '+' || first = '-' then (some first, rest) else (none, text)
  | [] => (none, [])

def readGrouping (text : List Char) : Except LayoutFault (Option Char × List Char) :=
  match text with
  | ',' :: '_' :: _ | '_' :: ',' :: _ => throw .bothGroupings
  | ',' :: rest => pure (some ',', rest)
  | '_' :: rest => pure (some '_', rest)
  | text => pure (none, text)

def readPrecision (text : List Char) : Except LayoutFault (Option Nat × List Char) := do
  match text with
  | '.' :: rest =>
      match ← readCount rest with
      | (some precision, rest) => pure (some precision, rest)
      | (none, _) => throw .missingPrecision
  | text => pure (none, text)

/-- Reads a layout. Texts stand left by default and numbers right. -/
def read (spec : String) (standard : Alignment) : Except LayoutFault Layout := do
  let (fill, alignment, rest) := readAlignment standard spec.toList
  let (sign, rest) := readSign rest
  let (dropNegativeZero, rest) := readFlag 'z' rest
  let (alternate, rest) := readFlag '#' rest
  let (zero, rest) := if fill.isNone then readFlag '0' rest else (false, rest)
  let (width, rest) ← readCount rest
  let (grouping, rest) ← readGrouping rest
  let (precision, rest) ← readPrecision rest
  let kind ← match rest with
    | [] => pure none
    | [kind] => pure (some kind)
    | _ => throw (.unreadable spec)
  match grouping, kind with
  | some mark, some kind =>
      if !("deEfFgG%".toList.contains kind) && !(mark = '_' && "boxX".toList.contains kind) then
        throw (.grouping mark kind)
  | _, _ => pure ()
  let usual := if zero && standard = .right then .inner else standard
  pure { fill := fill.getD (if zero then '0' else ' '), alignment := alignment.getD usual, sign,
         dropNegativeZero, alternate, width := width.getD 0, grouping, precision, kind }

/-- Fills a body up to the width. `lead` is the sign that inner fill comes after. -/
def fillUp (layout : Layout) (lead body : List Char) : String :=
  let missing := layout.width - (lead.length + body.length)
  let pad (count : Nat) : List Char := List.replicate count layout.fill
  String.ofList <| match layout.alignment with
    | .left => lead ++ body ++ pad missing
    | .right => pad missing ++ lead ++ body
    | .center => pad (missing / 2) ++ lead ++ body ++ pad (missing - missing / 2)
    | .inner => lead ++ pad missing ++ body

/-- Puts marks between groups of digits, counted from the right. The digits are brought to a least width
with zeros, marks included. -/
def group (mark : Char) (size least : Nat) (digits : List Char) : List Char :=
  let rec go : Nat → Nat → List Char → List Char → List Char
    | 0, _, done, rest => rest.reverse ++ done
    | fuel + 1, used, done, rest =>
        if rest.isEmpty && least ≤ done.length then done
        else
          let next := rest.head?.getD '0'
          if used = size then
            if rest.isEmpty && least ≤ done.length + 1 then next :: (mark :: done)
            else go fuel 1 (next :: mark :: done) (rest.drop 1)
          else go fuel (used + 1) (next :: done) (rest.drop 1)
  go (2 * (digits.length + least) + 2) 0 [] digits.reverse

def signOf (layout : Layout) (negative : Bool) : List Char :=
  if negative then ['-']
  else match layout.sign with
    | some '+' => ['+']
    | some ' ' => [' ']
    | _ => []

/-- Lays out the digits of a number: `whole` may be grouped, `tail` follows as it is. -/
def finish (layout : Layout) (lead whole tail : List Char) (groupSize : Nat) : String :=
  let least :=
    if layout.alignment = .inner && layout.fill = '0' then layout.width - lead.length - tail.length else 0
  let whole := match layout.grouping with
    | some mark => group mark groupSize least whole
    | none => whole
  fillUp layout lead (whole ++ tail)

def writeText (layout : Layout) (text : String) : Except LayoutFault String := do
  match layout.kind with
  | none | some 's' => pure ()
  | some kind => throw (.unknownKind kind)
  match layout.sign with
  | some mark => throw (.textSign (mark = ' '))
  | none => pure ()
  if layout.dropNegativeZero then throw .textNegativeZero
  if layout.alternate then throw .textAlternate
  if layout.alignment = .inner then throw .textInner
  match layout.grouping with
  | some mark => throw (.grouping mark 's')
  | none => pure ()
  let characters := text.toList
  pure (layout.fillUp [] (match layout.precision with
    | some count => characters.take count
    | none => characters))

/-- The digits of a finite number with a fixed count of places. -/
def fixedDigits (value : BinaryValue) (places : Nat) : List Char × List Char :=
  let digits := digitsOf (roundedTo value (-(places : Int)))
  let digits := List.replicate (places + 1 - digits.length) '0' ++ digits
  (digits.take (digits.length - places), digits.drop (digits.length - places))

def withPoint (alternate : Bool) (places : List Char) : List Char :=
  if places.isEmpty && !alternate then [] else '.' :: places

/-- One digit, the rest after the point, and an exponent. -/
def scientific (letter : Char) (digits : List Char) (order : Int) (alternate : Bool) :
    List Char × List Char :=
  (digits.take 1,
    withPoint alternate (digits.drop 1) ++ (exponentText letter (order - 1)).toList)

/-- The general form: positional while the exponent is small, without trailing zeros. -/
def general (letter : Char) (value : BinaryValue) (count : Nat) (alternate keepPoint : Bool) :
    List Char × List Char :=
  let count := max count 1
  let (digits, order) := leadingDigits value count
  let trim (digits : List Char) : List Char := if alternate then digits else dropTrailingZeros digits
  let limit : Int := if keepPoint then count - 1 else count
  if -4 < order && order ≤ limit then
    if order ≤ 0 then
      (['0'], withPoint alternate (trim (List.replicate (-order).toNat '0' ++ digits)))
    else
      let places := trim (digits.drop order.toNat)
      (digits.take order.toNat, if keepPoint && places.isEmpty then ['.', '0'] else withPoint alternate places)
  else
    let digits := if alternate then digits else
      match digits with
      | first :: rest => first :: dropTrailingZeros rest
      | [] => []
    scientific letter digits order alternate

def shortForm (value : BinaryValue) : List Char × List Char :=
  let decimal := if value.significand = 0 then ⟨[], 0⟩ else shortest value
  let text := (decimal.write true).toList
  (text.takeWhile isDigit, text.dropWhile isDigit)

def writeReal (layout : Layout) (number : Float) : Except LayoutFault String := do
  let kind := layout.kind.getD ' '
  if !(" eEfFgGn%".toList.contains kind) then throw (.unknownKind kind)
  let percent : Bool := kind = '%'
  let number := if percent then number * 100.0 else number
  let capital : Bool := kind = 'E' || kind = 'F' || kind = 'G'
  let suffix : List Char := if percent then ['%'] else []
  match BinaryValue.of? number with
  | none =>
      let word := if number.isNaN then "nan" else "inf"
      let word := if capital then word.toUpper else word
      let negative := !number.isNaN && isNegative number
      let plain := { layout with grouping := none }
      pure (plain.finish (layout.signOf negative) [] (word.toList ++ suffix) 3)
  | some value =>
      let precision := layout.precision.getD 6
      let letter := if capital then 'E' else 'e'
      let (whole, tail) := match kind with
        | 'e' | 'E' =>
            let (digits, order) := leadingDigits value (precision + 1)
            scientific letter digits order layout.alternate
        | 'f' | 'F' | '%' =>
            let (whole, places) := fixedDigits value precision
            (whole, withPoint layout.alternate places)
        | 'g' | 'G' | 'n' => general letter value precision layout.alternate false
        | _ => match layout.precision with
            | some precision => general 'e' value precision layout.alternate true
            | none => shortForm value
      let isZero := (whole ++ tail.takeWhile (· ≠ 'e')).all fun character => !isDigit character || character = '0'
      let negative := value.negative && !(layout.dropNegativeZero && isZero)
      pure (layout.finish (layout.signOf negative) whole (tail ++ suffix) 3)

def writeWhole (layout : Layout) (value : Int) : Except LayoutFault String := do
  let kind := layout.kind.getD 'd'
  if "eEfFgG%".toList.contains kind then
    match Number.ofWhole? value with
    | some number => layout.writeReal number
    | none => throw .tooLarge
  else if !("bcdnoxX".toList.contains kind) then throw (.unknownKind kind)
  else if layout.precision.isSome then throw .wholePrecision
  else if layout.dropNegativeZero then throw .wholeNegativeZero
  else if kind = 'c' then
    if layout.sign.isSome then throw .characterSign
    else if layout.alternate then throw .characterAlternate
    else if value < 0 || 0x10FFFF < value then throw .characterRange
    else
      let layout := if layout.alignment = .inner then { layout with alignment := .right } else layout
      pure (layout.fillUp [] [Char.ofNat value.toNat])
  else
    let base := match kind with
      | 'b' => 2
      | 'o' => 8
      | 'x' | 'X' => 16
      | _ => 10
    let digits := Nat.toDigits base value.natAbs
    let digits := if kind = 'X' then digits.map Char.toUpper else digits
    let mark : List Char := if layout.alternate && base ≠ 10 then ['0', kind] else []
    pure (layout.finish (layout.signOf (value < 0) ++ mark) digits [] (if base = 10 then 3 else 4))

end Layout

end LiveShell.Text
