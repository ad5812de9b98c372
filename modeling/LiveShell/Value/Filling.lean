import LiveShell.Value.Arguments
import LiveShell.Value.Attribute

/-!
Texts with places to fill in: places marked with a percent sign, and fields in braces.
-/

namespace LiveShell

open Text (Layout)

namespace Run

/-- The form of a value that code could read, kept to ASCII. -/
def shownInAscii (engine : Engine) (value : Value) : Run String := do
  return String.ofList ((← shown engine value).toList.flatMap fun character =>
    if character.toNat < 0x80 then [character] else Text.escapeByCode character.toNat)

/-! Places marked with a percent sign. -/

/-- What stands between the percent sign and the letter of a place. -/
structure PlaceForm where
  left : Bool := false
  plus : Bool := false
  blank : Bool := false
  alternate : Bool := false
  zero : Bool := false
  width : Nat := 0
  precision : Option Nat := none
deriving Inhabited

/-- Where the values for places come from. -/
structure PlaceValues where
  rest : List Value
  /-- A mapping that places may take values from by name. -/
  mapping : Option Value
deriving Inhabited

def nextPlaceValue (values : PlaceValues) : Run (Value × PlaceValues) := do
  match values.rest with
  | value :: rest => return (value, { values with rest := rest })
  | [] => typeError "not enough arguments for format string"

def takeFlags : Nat → PlaceForm → List Char → PlaceForm × List Char
  | 0, form, text => (form, text)
  | fuel + 1, form, text =>
      match text with
      | '-' :: rest => takeFlags fuel { form with left := true } rest
      | '+' :: rest => takeFlags fuel { form with plus := true } rest
      | ' ' :: rest => takeFlags fuel { form with blank := true } rest
      | '#' :: rest => takeFlags fuel { form with alternate := true } rest
      | '0' :: rest => takeFlags fuel { form with zero := true } rest
      | text => (form, text)

/-- A number in a place: digits, or a star that takes the next value. -/
def takeAmount (values : PlaceValues) (text : List Char) :
    Run (Option Int × PlaceValues × List Char) := do
  match text with
  | '*' :: rest =>
      let (value, values) ← nextPlaceValue values
      match (← plain value).whole? with
      | some number => return (some number, values, rest)
      | none => typeError "* wants int"
  | text =>
      let digits := text.takeWhile Char.isDigit
      if digits.isEmpty then return (none, values, text)
      return (some (digits.foldl (fun number digit => number * 10 + (digit.toNat - 48 : Nat)) 0 : Int), values,
        text.drop digits.length)

/-- The name of a place in brackets; brackets inside of it are counted. -/
def takePlaceName : Nat → List Char → List Char → Option (List Char × List Char)
  | _, _, [] => none
  | depth, done, ')' :: rest =>
      if depth = 0 then some (done.reverse, rest) else takePlaceName (depth - 1) (')' :: done) rest
  | depth, done, '(' :: rest => takePlaceName (depth + 1) ('(' :: done) rest
  | depth, done, character :: rest => takePlaceName depth (character :: done) rest

/-- Blanks around a text up to the width. -/
def padPlace (form : PlaceForm) (text : List Char) : List Char :=
  let blanks := List.replicate (form.width - text.length) ' '
  if form.left then text ++ blanks else blanks ++ text

def signMark (form : PlaceForm) (negative : Bool) : List Char :=
  if negative then ['-'] else if form.plus then ['+'] else if form.blank then [' '] else []

/-- A number with its sign and mark; zeros may fill the width. -/
def padNumber (form : PlaceForm) (lead body : List Char) : List Char :=
  if form.zero && !form.left then
    lead ++ List.replicate (form.width - lead.length - body.length) '0' ++ body
  else padPlace form (lead ++ body)

def wholePlace (form : PlaceForm) (letter : Char) (number : Int) : List Char :=
  let base := match letter with
    | 'o' => 8
    | 'x' | 'X' => 16
    | _ => 10
  let digits := Nat.toDigits base number.natAbs
  let digits := List.replicate (form.precision.getD 0 - digits.length) '0' ++ digits
  let digits := if letter = 'X' then digits.map Char.toUpper else digits
  let mark := if form.alternate && base ≠ 10 then ['0', letter] else []
  padNumber form (signMark form (number < 0) ++ mark) digits

def realPlace (form : PlaceForm) (letter : Char) (number : Float) : Run (List Char) := do
  let layout : Layout :=
    { alternate := form.alternate, precision := some (form.precision.getD 6), kind := some letter }
  match layout.writeReal number with
  | .ok text =>
      match text.toList with
      | '-' :: body => return padNumber form ['-'] body
      | body => return padNumber form (signMark form false) body
  | .error _ => return []

/-- A value as a real number. -/
def realOf (engine : Engine) (value : Value) : Run Float := do
  match (← plain value).numeric? with
  | some (.whole number) => toReal number
  | some (.real number) => return number
  | _ =>
      match ← callOwn? engine value "__float__" [] with
      | some (.real number) => return number
      | some other =>
          typeError ((← typeName value) ++ ".__float__ returned non-float (type " ++ (← typeName other) ++ ")")
      | none =>
          match ← toIndex? engine value with
          | some number => toReal number
          | none => typeError ("must be real number, not " ++ (← typeName value))

def wholeForPlace (engine : Engine) (letter : Char) (value : Value) : Run Int := do
  match ← plain value with
  | .real number =>
      if letter = 'd' || letter = 'i' || letter = 'u' then
        match Number.truncated? number with
        | some number => return number
        | none =>
            if number.isNaN then valueError "cannot convert float NaN to integer"
            else fail "OverflowError" "cannot convert float infinity to integer"
      else
        typeError ("%" ++ String.singleton letter ++ " format: an integer is required, not float")
  | _ =>
      match ← toIndex? engine value with
      | some number => return number
      | none =>
          let wanted := if letter = 'd' || letter = 'i' || letter = 'u' then "a real number" else "an integer"
          typeError ("%" ++ String.singleton letter ++ " format: " ++ wanted ++ " is required, not " ++
            (← typeName value))

def characterPlace (engine : Engine) (value : Value) : Run (List Char) := do
  match ← plain value with
  | .text text =>
      if text.length = 1 then return text.toList else typeError "%c requires int or char"
  | _ =>
      match ← toIndex? engine value with
      | some number =>
          if 0 ≤ number && number < 0x110000 then return [Char.ofNat number.toNat]
          else fail "OverflowError" "%c arg not in range(0x110000)"
      | none => typeError "%c requires int or char"

/-- A value written as the letter of a place asks. -/
def writePlace (engine : Engine) (form : PlaceForm) (letter : Char) (index : Nat) (value : Value) :
    Run (List Char) := do
  let limited (text : String) : List Char :=
    padPlace form (match form.precision with
      | some count => text.toList.take count
      | none => text.toList)
  match letter with
  | 's' => return limited (← textOf engine value)
  | 'r' => return limited (← shown engine value)
  | 'a' => return limited (← shownInAscii engine value)
  | 'c' => return padPlace form (← characterPlace engine value)
  | 'd' | 'i' | 'u' | 'o' | 'x' | 'X' =>
      return wholePlace form letter (← wholeForPlace engine letter value)
  | 'e' | 'E' | 'f' | 'F' | 'g' | 'G' => realPlace form letter (← realOf engine value)
  | letter =>
      let code := String.ofList (Nat.toDigits 16 letter.toNat)
      let shownLetter := if 32 ≤ letter.toNat && letter.toNat < 127 then letter else '?'
      valueError ("unsupported format character '" ++ String.singleton shownLetter ++ "' (0x" ++ code ++
        ") at index " ++ toString index)

/-- Fills in the places of a text, from some distance to its end on. -/
def fillPlaces (engine : Engine) (length : Nat) : Nat → PlaceValues → List Char →
    Run (List Char × PlaceValues)
  | 0, values, text => return (text, values)
  | _, values, [] => return ([], values)
  | fuel + 1, values, '%' :: text => do
      let (named, text) ← (match text with
        | '(' :: rest => do
            match values.mapping with
            | none => typeError "format requires a mapping"
            | some mapping =>
                match takePlaceName 0 [] rest with
                | none => valueError "incomplete format key"
                | some (name, rest) =>
                    pure (some (← itemOf engine mapping (.text (String.ofList name))), rest)
        | text => pure (none, text))
      let values := match named with
        | some value => { values with rest := [value] }
        | none => values
      let (form, text) := takeFlags text.length {} text
      let (width, values, text) ← takeAmount values text
      let form := match width with
        | some number => { form with width := number.natAbs, left := form.left || number < 0 }
        | none => form
      let (form, values, text) ← (match text with
        | '.' :: rest => do
            let (precision, values, rest) ← takeAmount values rest
            pure ({ form with precision := some ((precision.getD 0).toNat) }, values, rest)
        | text => pure (form, values, text))
      let text := match text with
        | 'h' :: rest | 'l' :: rest | 'L' :: rest => rest
        | text => text
      match text with
      | [] => valueError "incomplete format"
      | '%' :: rest =>
          let (filled, values) ← fillPlaces engine length fuel values rest
          return ('%' :: filled, values)
      | letter :: rest =>
          let (value, values) ← nextPlaceValue values
          let written ← writePlace engine form letter (length - rest.length - 1) value
          let (filled, values) ← fillPlaces engine length fuel values rest
          return (written ++ filled, values)
  | fuel + 1, values, character :: text => do
      let (filled, values) ← fillPlaces engine length fuel values text
      return (character :: filled, values)

/-- Whether a value can be asked for parts by key, texts and tuples left out. -/
def servesAsMapping (value : Value) : Run Bool := do
  if (← ownMember? value "__getitem__").isSome then return true
  match ← plain value with
  | .bytes _ | .range .. => return true
  | .ref address =>
      match ← cellAt? address with
      | some (.list _) | some (.dict ..) => return true
      | _ => return false
  | _ => return false

/-- A text with a value, or the values of a tuple, in its places. -/
def fillIn (engine : Engine) (text value : Value) : Run Value := do
  let inBytes := text matches .bytes _
  let characters := match text with
    | .text text => text.toList
    | .bytes bytes => bytes.map fun byte => Char.ofNat byte.toNat
    | _ => []
  let mapping ← (do if ← servesAsMapping value then pure (some value) else pure none : Run (Option Value))
  let given := match ← plain value with
    | .tuple items => items
    | _ => [value]
  let length := characters.length
  let (filled, rest) ← fillPlaces engine length (length + 1) ⟨given, mapping⟩ characters
  if mapping.isNone && !rest.rest.isEmpty then
    typeError ("not all arguments converted during " ++ (if inBytes then "bytes" else "string") ++
      " formatting")
  return if inBytes then .bytes (filled.map fun character => UInt8.ofNat character.toNat)
    else .text (String.ofList filled)

/-! Fields in braces. -/

/-- A piece of a text with fields. -/
structure FieldPiece where
  literal : List Char
  field : Option (List Char × Option Char × List Char)
deriving Inhabited

/-- The name of a field and the character that ends it. -/
def takeFieldName : Nat → List Char → List Char → Run (List Char × Option Char × List Char)
  | 0, done, rest => return (done.reverse, none, rest)
  | _, done, [] => return (done.reverse, none, [])
  | fuel + 1, done, character :: rest => do
      if character = '\x7b' then valueError "unexpected '\x7b' in field name"
      else if character = '[' then
        let inside := rest.takeWhile (· ≠ ']')
        takeFieldName fuel (inside.reverse ++ '[' :: done) (rest.drop inside.length)
      else if character = '\x7d' || character = ':' || character = '!' then
        return (done.reverse, some character, rest)
      else takeFieldName fuel (character :: done) rest

/-- The layout of a field, up to the brace that ends it. -/
def takeFieldLayout : Nat → List Char → List Char → Run (List Char × List Char)
  | _, _, [] => valueError "unmatched '\x7b' in format spec"
  | depth, done, '\x7b' :: rest => takeFieldLayout (depth + 1) ('\x7b' :: done) rest
  | 0, done, '\x7d' :: rest => return (done.reverse, rest)
  | depth + 1, done, '\x7d' :: rest => takeFieldLayout depth ('\x7d' :: done) rest
  | depth, done, character :: rest => takeFieldLayout depth (character :: done) rest

def takeField (text : List Char) : Run ((List Char × Option Char × List Char) × List Char) := do
  let (name, mark, rest) ← takeFieldName (text.length + 1) [] text
  match mark with
  | none => valueError "expected '\x7d' before end of string"
  | some '!' =>
      match rest with
      | [] => valueError "end of string while looking for conversion specifier"
      | conversion :: '\x7d' :: rest => return ((name, some conversion, []), rest)
      | conversion :: ':' :: rest =>
          let (layout, rest) ← takeFieldLayout 0 [] rest
          return ((name, some conversion, layout), rest)
      | [_] => valueError "unmatched '\x7b' in format spec"
      | _ => valueError "expected ':' after conversion specifier"
  | some ':' =>
      let (layout, rest) ← takeFieldLayout 0 [] rest
      return ((name, none, layout), rest)
  | some _ => return ((name, none, []), rest)

/-- The text up to the next field, the field, and what follows. -/
def takeFieldPiece : List Char → List Char → Run (FieldPiece × List Char)
  | done, [] => return (⟨done.reverse, none⟩, [])
  | done, '\x7b' :: '\x7b' :: rest => return (⟨('\x7b' :: done).reverse, none⟩, rest)
  | done, '\x7d' :: '\x7d' :: rest => return (⟨('\x7d' :: done).reverse, none⟩, rest)
  | _, '\x7d' :: _ => valueError "Single '\x7d' encountered in format string"
  | _, ['\x7b'] => valueError "Single '\x7b' encountered in format string"
  | done, '\x7b' :: rest => do
      let (field, rest) ← takeField rest
      return (⟨done.reverse, some field⟩, rest)
  | done, character :: rest => takeFieldPiece (character :: done) rest

/-- Where the values of fields come from: arguments by place and by name, or a mapping. -/
structure FieldValues where
  given : Given
  mapping : Option Value := none
  /-- The number for the next field without a name; nothing once fields have numbers of their own. -/
  next : Option Nat := some 0
  numbered : Bool := false
deriving Inhabited

def wholeName? (name : List Char) : Option Nat :=
  if name.isEmpty || !name.all Char.isDigit then none
  else some (name.foldl (fun number digit => number * 10 + (digit.toNat - 48)) 0)

/-- What follows the first part of the name of a field: attributes and keys. -/
def followField (engine : Engine) : Nat → Value → List Char → Run Value
  | 0, value, _ => return value
  | _, value, [] => return value
  | fuel + 1, value, '.' :: rest => do
      let name := rest.takeWhile fun character => character ≠ '.' && character ≠ '['
      if name.isEmpty then valueError "Empty attribute in format string"
      followField engine fuel (← attributeOf engine value (String.ofList name)) (rest.drop name.length)
  | fuel + 1, value, '[' :: rest => do
      let key := rest.takeWhile (· ≠ ']')
      match rest.drop key.length with
      | ']' :: rest =>
          if key.isEmpty then valueError "Empty attribute in format string"
          let key := match wholeName? key with
            | some number => Value.whole number
            | none => .text (String.ofList key)
          followField engine fuel (← itemOf engine value key) rest
      | _ => valueError "Missing ']' in format string"
  | _ + 1, _, _ => valueError "Only '.' or '[' may follow ']' in format field specifier"

/-- The value of a field by its name. -/
def fieldValue (engine : Engine) (name : List Char) (values : FieldValues) : Run (Value × FieldValues) := do
  let first := name.takeWhile fun character => character ≠ '.' && character ≠ '['
  let rest := name.drop first.length
  let number := wholeName? first
  let (number, values) ← (do
    if first.isEmpty then
      if values.numbered then
        valueError "cannot switch from manual field specification to automatic field numbering"
      let next := values.next.getD 0
      pure (some next, { values with next := some (next + 1) })
    else match number with
      | some number =>
          if values.next ≠ some 0 && !values.numbered then
            valueError "cannot switch from automatic field numbering to manual field specification"
          pure (some number, { values with numbered := true })
      | none => pure (none, values)
    : Run (Option Nat × FieldValues))
  let value ← (do
    match values.mapping, number with
    | some mapping, none => itemOf engine mapping (.text (String.ofList first))
    | some _, some _ => valueError "Format string contains positional fields"
    | none, some number =>
        match values.given.positional[number]? with
        | some value => return value
        | none =>
            fail "IndexError" ("Replacement index " ++ toString number ++
              " out of range for positional args tuple")
    | none, none =>
        match values.given.named.lookup (String.ofList first) with
        | some value => return value
        | none => missingKey (.text (String.ofList first))
    : Run Value)
  return (← followField engine (rest.length + 1) value rest, values)

def convertField (engine : Engine) (conversion : Option Char) (value : Value) : Run Value := do
  match conversion with
  | none => return value
  | some 's' => return .text (← textOf engine value)
  | some 'r' => return .text (← shown engine value)
  | some 'a' => return .text (← shownInAscii engine value)
  | some letter =>
      let written := if 32 < letter.toNat && letter.toNat < 127 then String.singleton letter
        else "\\x" ++ String.ofList (Nat.toDigits 16 letter.toNat)
      valueError ("Unknown conversion specifier '" ++ written ++ "'")

/-- Fills in the fields of a text. Fields may stand in the layouts of fields, but not deeper. -/
def fillFields (engine : Engine) : Nat → Nat → FieldValues → List Char → Run (List Char × FieldValues)
  | 0, _, values, _ => return ([], values)
  | _, _, values, [] => return ([], values)
  | fuel + 1, depth, values, text => do
      if depth = 0 then valueError "Max string recursion exceeded"
      let (piece, rest) ← takeFieldPiece [] text
      let (written, values) ← (match piece.field with
        | none => pure ([], values)
        | some (name, conversion, layout) => do
            let (value, values) ← fieldValue engine name values
            let value ← convertField engine conversion value
            let (layout, values) ← (do
              if layout.contains '\x7b' then fillFields engine fuel (depth - 1) values layout
              else pure (layout, values) : Run (List Char × FieldValues))
            pure ((← layOut engine value (String.ofList layout)).toList, values))
      let (filled, values) ← fillFields engine fuel depth values rest
      return (piece.literal ++ written ++ filled, values)

/-- A text with values in its fields. -/
def fillFieldsOf (engine : Engine) (text : String) (values : FieldValues) : Run String := do
  let characters := text.toList
  return String.ofList (← fillFields engine (characters.length + 2) 2 values characters).1

end Run

end LiveShell
