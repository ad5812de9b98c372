import LiveShell.Toml.Document

/-!
The values of a document that hold no others: texts in four kinds of quotes, numbers, dates and times. A
reader gives the value and the characters after it.
-/

namespace LiveShell.Toml

/-- Why a document cannot be read. -/
inductive Fault
  | malformed
  /-- A whole number with more digits than can be read. -/
  | tooManyDigits (count : Nat)
deriving DecidableEq, Repr, Inhabited

/-- Control characters, which only appear escaped. -/
def isControl (character : Char) : Bool :=
  (character.toNat < 32 || character.toNat = 127) && character ≠ '\t'

def skipSpaces (text : List Char) : List Char := text.dropWhile fun c => c = ' ' || c = '\t'

def skipSpacesAndBreaks (text : List Char) : List Char :=
  text.dropWhile fun c => c = ' ' || c = '\t' || c = '\n'

def isDigit (character : Char) : Bool := '0' ≤ character && character ≤ '9'

def hexValue? (character : Char) : Option Nat :=
  if isDigit character then some (character.toNat - 48)
  else if 'a' ≤ character && character ≤ 'f' then some (character.toNat - 87)
  else if 'A' ≤ character && character ≤ 'F' then some (character.toNat - 55)
  else none

/-- The character behind an escape of a number of hexadecimal digits. -/
def readCode (count : Nat) (text : List Char) : Except Fault (Char × List Char) := do
  let digits := (text.take count).filterMap hexValue?
  let code := digits.foldl (fun value digit => value * 16 + digit) 0
  if digits.length ≠ count || 0x10FFFF < code || (0xD800 ≤ code && code < 0xE000) then throw .malformed
  pure (Char.ofNat code, text.drop count)

def simpleEscape? : Char → Option Char
  | 'b' => some '\x08'
  | 't' => some '\t'
  | 'n' => some '\n'
  | 'f' => some '\x0c'
  | 'r' => some '\r'
  | '\x22' => some '\x22'
  | '\\' => some '\\'
  | _ => none

/-- What follows a backslash: some characters, or none for a line break and the blanks after it. -/
def readEscape (manyLines : Bool) (text : List Char) : Except Fault (List Char × List Char) :=
  match text with
  | [] => throw .malformed
  | character :: rest =>
      if manyLines && (character = ' ' || character = '\t' || character = '\n') then
        if character = '\n' then pure ([], skipSpacesAndBreaks rest)
        else match skipSpaces rest with
          | [] => pure ([], [])
          | '\n' :: rest => pure ([], skipSpacesAndBreaks rest)
          | _ => throw .malformed
      else if character = 'u' then (fun (found, rest) => ([found], rest)) <$> readCode 4 rest
      else if character = 'U' then (fun (found, rest) => ([found], rest)) <$> readCode 8 rest
      else match simpleEscape? character with
        | some found => pure ([found], rest)
        | none => throw .malformed

/-- The rest of a text in double quotes, one or three. -/
def readEscaped (manyLines : Bool) : Nat → List Char → List Char → Except Fault (List Char × List Char)
  | 0, _, _ => throw .malformed
  | fuel + 1, done, text =>
      match text with
      | [] => throw .malformed
      | '\x22' :: rest =>
          if !manyLines then pure (done.reverse, rest)
          else match rest with
            | '\x22' :: '\x22' :: rest => pure (done.reverse, rest)
            | _ => readEscaped manyLines fuel ('\x22' :: done) rest
      | '\\' :: rest => do
          let (found, rest) ← readEscape manyLines rest
          readEscaped manyLines fuel (found.reverse ++ done) rest
      | character :: rest =>
          if isControl character && !(manyLines && character = '\n') then throw .malformed
          else readEscaped manyLines fuel (character :: done) rest

/-- The rest of a text in single quotes, one or three, where nothing is escaped. -/
def readLiteral (manyLines : Bool) (done : List Char) : List Char → Except Fault (List Char × List Char)
  | [] => throw .malformed
  | character :: rest =>
      if character = '\x27' && !manyLines then pure (done.reverse, rest)
      else if character = '\x27' && ['\x27', '\x27'].isPrefixOf rest then pure (done.reverse, rest.drop 2)
      else if isControl character && !(manyLines && character = '\n') then throw .malformed
      else readLiteral manyLines (character :: done) rest

/-- One or two more quotes right after the closing three belong to the text. -/
def extraQuotes (quote : Char) (text rest : List Char) : List Char × List Char :=
  match rest with
  | first :: second :: later =>
      if first = quote && second = quote then (text ++ [quote, quote], later)
      else if first = quote then (text ++ [quote], second :: later)
      else (text, rest)
  | [first] => if first = quote then (text ++ [quote], []) else (text, rest)
  | [] => (text, [])

/-- A text that starts with a quote. Only a value may go over several lines. -/
def readText (oneLine : Bool) (text : List Char) : Except Fault (String × List Char) :=
  let dropBreak (text : List Char) : List Char := match text with
    | '\n' :: rest => rest
    | text => text
  let finish (quote : Char) (found : List Char × List Char) : String × List Char :=
    let (body, rest) := extraQuotes quote found.1 found.2
    (String.ofList body, rest)
  let whole (found : List Char × List Char) : String × List Char := (String.ofList found.1, found.2)
  match text with
  | '\x22' :: rest =>
      if !oneLine && ['\x22', '\x22'].isPrefixOf rest then
        finish '\x22' <$> readEscaped true (text.length + 1) [] (dropBreak (rest.drop 2))
      else whole <$> readEscaped false (text.length + 1) [] rest
  | '\x27' :: rest =>
      if !oneLine && ['\x27', '\x27'].isPrefixOf rest then
        finish '\x27' <$> readLiteral true [] (dropBreak (rest.drop 2))
      else whole <$> readLiteral false [] rest
  | _ => throw .malformed

/-- A run of digits in which single underscores may stand between two digits. -/
def digitRun (belongs : Char → Bool) : List Char → List Char × List Char
  | [] => ([], [])
  | '_' :: digit :: rest =>
      if belongs digit then
        let (digits, rest) := digitRun belongs rest
        (digit :: digits, rest)
      else ([], '_' :: digit :: rest)
  | character :: rest =>
      if belongs character then
        let (digits, rest) := digitRun belongs rest
        (character :: digits, rest)
      else ([], character :: rest)

/-- A run of digits that starts with one. -/
def digits (belongs : Char → Bool) (text : List Char) : List Char × List Char :=
  match text with
  | first :: _ => if belongs first then digitRun belongs text else ([], text)
  | [] => ([], [])

def valueInBase (base : Nat) (digits : List Char) : Nat :=
  digits.foldl (fun value digit => value * base + (hexValue? digit).getD 0) 0

/-- A number in another base than ten: hexadecimal, binary or octal. -/
def readBased? (text : List Char) : Option (Value × List Char) :=
  let based (base : Nat) (belongs : Char → Bool) (rest : List Char) : Option (Value × List Char) :=
    match digits belongs rest with
    | ([], _) => none
    | (found, rest) => some (.whole (valueInBase base found), rest)
  match text with
  | '0' :: 'x' :: rest => based 16 (fun c => (hexValue? c).isSome) rest
  | '0' :: 'b' :: rest => based 2 (fun c => c = '0' || c = '1') rest
  | '0' :: 'o' :: rest => based 8 (fun c => '0' ≤ c && c ≤ '7') rest
  | _ => none

/-- How many digits a whole number may have. -/
def digitLimit : Nat := 4300

/-- A number in base ten, whole or with a fraction or an exponent. -/
def readDecimal? (text : List Char) : Option (Except Fault (Value × List Char)) :=
  let (negative, unsigned) := match text with
    | '-' :: rest => (true, rest)
    | '+' :: rest => (false, rest)
    | text => (false, text)
  let (whole, rest) := match unsigned with
    | '0' :: rest => (['0'], rest)
    | text => digits isDigit text
  if whole.isEmpty then none
  else
    let (places, rest, pointed) := match rest with
      | '.' :: later => match digits isDigit later with
          | ([], _) => ([], rest, false)
          | (found, later) => (found, later, true)
      | rest => ([], rest, false)
    let (exponent, rest, scaled) := match rest with
      | mark :: later =>
          if mark = 'e' || mark = 'E' then
            let (down, later) := match later with
              | '-' :: later => (true, later)
              | '+' :: later => (false, later)
              | later => (false, later)
            match digits isDigit later with
            | ([], _) => ((0 : Int), rest, false)
            | (found, later) =>
                let size : Int := valueInBase 10 found
                (if down then -size else size, later, true)
          else (0, rest, false)
      | [] => (0, [], false)
    let size := valueInBase 10 (whole ++ places)
    if pointed || scaled then
      let power := exponent - places.length
      let magnitude :=
        if size = 0 || power < -100000 then 0.0
        else Float.ofScientific size (power < 0) (min power.natAbs 100000)
      some (pure (.real (if negative then -magnitude else magnitude), rest))
    else if digitLimit < whole.length then some (throw (.tooManyDigits whole.length))
    else some (pure (.whole (if negative then -(size : Int) else size), rest))

def twoDigits? (text : List Char) (low high : Nat) : Option (Nat × List Char) :=
  match text with
  | first :: second :: rest =>
      let value := valueInBase 10 [first, second]
      if isDigit first && isDigit second && low ≤ value && value ≤ high then some (value, rest) else none
  | _ => none

def mark? (mark : Char) : List Char → Option (List Char)
  | character :: rest => if character = mark then some rest else none
  | [] => none

/-- The characters after a time of day, fractions of a second included. -/
def afterTime? (text : List Char) : Option (List Char) := do
  let (_, rest) ← twoDigits? text 0 23
  let (_, rest) ← twoDigits? (← mark? ':' rest) 0 59
  let (_, rest) ← twoDigits? (← mark? ':' rest) 0 59
  match rest with
  | '.' :: later =>
      if (later.head?.any isDigit) then some (later.dropWhile isDigit) else some rest
  | rest => some rest

/-- The characters after a distance from universal time, if one stands there. -/
def afterOffset (text : List Char) : List Char :=
  match text with
  | 'Z' :: rest | 'z' :: rest => rest
  | sign :: rest =>
      let found := do
        let (_, rest) ← twoDigits? rest 0 23
        let (_, rest) ← twoDigits? (← mark? ':' rest) 0 59
        pure rest
      if sign = '+' || sign = '-' then found.getD text else text
  | [] => []

def daysIn (year month : Nat) : Nat :=
  if month = 2 then
    if year % 4 = 0 && (year % 100 ≠ 0 || year % 400 = 0) then 29 else 28
  else if [4, 6, 9, 11].contains month then 30 else 31

/-- A date, alone or with a time of day. A day that no calendar has is a fault, not another value. -/
def readDate? (text : List Char) : Option (Except Fault (Value × List Char)) := do
  let year := text.take 4
  if year.length ≠ 4 || !year.all isDigit then none
  let (month, rest) ← twoDigits? (← mark? '-' (text.drop 4)) 1 12
  let (day, rest) ← twoDigits? (← mark? '-' rest) 1 31
  let year := valueInBase 10 year
  let clock := match rest with
    | gap :: rest => if gap = 'T' || gap = 't' || gap = ' ' then afterTime? rest else none
    | [] => none
  if year = 0 || daysIn year month < day then some (throw .malformed)
  else match clock with
    | some rest => some (pure (.moment .dateTime, afterOffset rest))
    | none => some (pure (.moment .date, rest))

/-- A value that holds no others and stands in no quotes. -/
def readBare (text : List Char) : Except Fault (Value × List Char) :=
  let starts (word : String) : Bool := word.toList.isPrefixOf text
  if starts "true" then pure (.boolean true, text.drop 4)
  else if starts "false" then pure (.boolean false, text.drop 5)
  else match readDate? text with
    | some found => found
    | none => match afterTime? text with
      | some rest => pure (.moment .time, rest)
      | none => match readBased? text with
        | some found => pure found
        | none => match readDecimal? text with
          | some found => found
          | none =>
              let infinity : Float := 1.0 / 0.0
              let undefinedNumber : Float := 0.0 / 0.0
              if starts "inf" then pure (.real infinity, text.drop 3)
              else if starts "nan" then pure (.real undefinedNumber, text.drop 3)
              else if starts "-inf" then pure (.real (-infinity), text.drop 4)
              else if starts "+inf" then pure (.real infinity, text.drop 4)
              else if starts "-nan" || starts "+nan" then pure (.real undefinedNumber, text.drop 4)
              else throw .malformed

end LiveShell.Toml
