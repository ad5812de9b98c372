/-!
JSON values, read and written. Objects keep the order of their keys, and a number is whole or fractional as
it is spelled. Written text is ASCII: any other character becomes one or two `\u` escapes.
-/

namespace LiveShell.Text

inductive Json
  | null
  | bool (value : Bool)
  | whole (value : Int)
  | fraction (value : Float)
  | string (value : String)
  | list (items : List Json)
  | object (entries : List (String × Json))
deriving Inhabited

namespace Json

def find? (json : Json) (key : String) : Option Json :=
  match json with
  | object entries => entries.lookup key
  | _ => none

/-! Writing. -/

def hexDigit (value : Nat) : Char := "0123456789abcdef".toList.getD value '0'

def hexUnit (unit : Nat) : List Char :=
  ['\\', 'u', hexDigit (unit / 4096 % 16), hexDigit (unit / 256 % 16), hexDigit (unit / 16 % 16),
   hexDigit (unit % 16)]

def escape (character : Char) : List Char :=
  let code := character.toNat
  if character = '\x22' then ['\\', '\x22']
  else if character = '\\' then ['\\', '\\']
  else if 32 ≤ code && code < 127 then [character]
  else if character = '\n' then ['\\', 'n']
  else if character = '\r' then ['\\', 'r']
  else if character = '\t' then ['\\', 't']
  else if code < 0x10000 then hexUnit code
  else
    let offset := code - 0x10000
    hexUnit (0xD800 + offset / 1024) ++ hexUnit (0xDC00 + offset % 1024)

def writeString (text : String) : String :=
  String.ofList (['\x22'] ++ text.toList.flatMap escape ++ ['\x22'])

mutual

/-- One line, no blanks. -/
def write : Json → String
  | null => "null"
  | bool true => "true"
  | bool false => "false"
  | whole value => toString value
  | fraction value => toString value
  | string value => writeString value
  | list items => "[" ++ ",".intercalate (writeItems items) ++ "]"
  | object entries => "\x7b" ++ ",".intercalate (writeEntries entries) ++ "\x7d"

def writeItems : List Json → List String
  | [] => []
  | item :: items => item.write :: writeItems items

def writeEntries : List (String × Json) → List String
  | [] => []
  | (key, value) :: entries => (writeString key ++ ":" ++ value.write) :: writeEntries entries

end

mutual

/-- Two blanks more for every level, one item to a line. -/
def writeIndented (margin : String) : Json → String
  | list [] => "[]"
  | object [] => "\x7b\x7d"
  | list items =>
      "[\n" ++ ",\n".intercalate (writeIndentedItems (margin ++ "  ") items) ++ "\n" ++ margin ++ "]"
  | object entries =>
      "\x7b\n" ++ ",\n".intercalate (writeIndentedEntries (margin ++ "  ") entries) ++ "\n" ++
        margin ++ "\x7d"
  | json => json.write

def writeIndentedItems (margin : String) : List Json → List String
  | [] => []
  | item :: items => (margin ++ item.writeIndented margin) :: writeIndentedItems margin items

def writeIndentedEntries (margin : String) : List (String × Json) → List String
  | [] => []
  | (key, value) :: entries =>
      (margin ++ writeString key ++ ": " ++ value.writeIndented margin) ::
        writeIndentedEntries margin entries

end

/-! Reading. -/

def skipBlanks (text : List Char) : List Char :=
  text.dropWhile fun character =>
    character = ' ' || character = '\n' || character = '\r' || character = '\t'

def hexValue? (character : Char) : Option Nat :=
  let code := character.toNat
  if '0' ≤ character && character ≤ '9' then some (code - 48)
  else if 'a' ≤ character && character ≤ 'f' then some (code - 87)
  else if 'A' ≤ character && character ≤ 'F' then some (code - 55)
  else none

def readUnit? : List Char → Option (Nat × List Char)
  | a :: b :: c :: d :: rest => do
      let a ← hexValue? a
      let b ← hexValue? b
      let c ← hexValue? c
      let d ← hexValue? d
      some (a * 4096 + b * 256 + c * 16 + d, rest)
  | _ => none

/-- The rest of a string after its opening quote. Half of a surrogate pair reads as the replacement
character. -/
def readString? : Nat → List Char → List Char → Option (String × List Char)
  | 0, _, _ => none
  | fuel + 1, done, text => match text with
      | '\x22' :: rest => some (String.ofList done.reverse, rest)
      | '\\' :: 'u' :: rest => do
          let (unit, rest) ← readUnit? rest
          if 0xD800 ≤ unit && unit < 0xDC00 then
            match rest with
            | '\\' :: 'u' :: later => do
                let (low, later) ← readUnit? later
                if 0xDC00 ≤ low && low < 0xE000 then
                  let code := 0x10000 + (unit - 0xD800) * 1024 + (low - 0xDC00)
                  readString? fuel (Char.ofNat code :: done) later
                else readString? fuel ('\ufffd' :: done) rest
            | _ => readString? fuel ('\ufffd' :: done) rest
          else if 0xDC00 ≤ unit && unit < 0xE000 then readString? fuel ('\ufffd' :: done) rest
          else readString? fuel (Char.ofNat unit :: done) rest
      | '\\' :: 'n' :: rest => readString? fuel ('\n' :: done) rest
      | '\\' :: 't' :: rest => readString? fuel ('\t' :: done) rest
      | '\\' :: 'r' :: rest => readString? fuel ('\r' :: done) rest
      | '\\' :: 'b' :: rest => readString? fuel ('\x08' :: done) rest
      | '\\' :: 'f' :: rest => readString? fuel ('\x0c' :: done) rest
      | '\\' :: character :: rest => readString? fuel (character :: done) rest
      | character :: rest => readString? fuel (character :: done) rest
      | [] => none

def digitsValue (digits : List Char) : Nat :=
  digits.foldl (fun value digit => value * 10 + (digit.toNat - 48)) 0

def readNumber? (text : List Char) : Option (Json × List Char) :=
  let isDigit (character : Char) : Bool := '0' ≤ character && character ≤ '9'
  let negative := text.head? = some '-'
  let text := if negative then text.drop 1 else text
  let whole := text.takeWhile isDigit
  let text := text.dropWhile isDigit
  let (places, text, pointed) := match text with
    | '.' :: rest => (rest.takeWhile isDigit, rest.dropWhile isDigit, true)
    | text => ([], text, false)
  let (exponent, text, scaled) := match text with
    | letter :: rest =>
        if letter = 'e' || letter = 'E' then
          let down := rest.head? = some '-'
          let rest := if down || rest.head? = some '+' then rest.drop 1 else rest
          let size := (digitsValue (rest.takeWhile isDigit) : Int)
          (if down then -size else size, rest.dropWhile isDigit, true)
        else (0, letter :: rest, false)
    | [] => (0, [], false)
  if whole.isEmpty then none
  else if pointed || scaled then
    let power := exponent - places.length
    let size := Float.ofScientific (digitsValue (whole ++ places)) (power < 0) power.natAbs
    some (fraction (if negative then -size else size), text)
  else
    let size := (digitsValue whole : Int)
    some (Json.whole (if negative then -size else size), text)

mutual

def readValue? : Nat → List Char → Option (Json × List Char)
  | 0, _ => none
  | fuel + 1, text => match skipBlanks text with
      | 'n' :: 'u' :: 'l' :: 'l' :: rest => some (null, rest)
      | 't' :: 'r' :: 'u' :: 'e' :: rest => some (bool true, rest)
      | 'f' :: 'a' :: 'l' :: 's' :: 'e' :: rest => some (bool false, rest)
      | '\x22' :: rest => (readString? (rest.length + 1) [] rest).map fun (text, rest) => (string text, rest)
      | '[' :: rest => match skipBlanks rest with
          | ']' :: rest => some (list [], rest)
          | rest => readItems? fuel [] rest
      | '\x7b' :: rest => match skipBlanks rest with
          | '\x7d' :: rest => some (object [], rest)
          | rest => readEntries? fuel [] rest
      | rest => readNumber? rest

def readItems? : Nat → List Json → List Char → Option (Json × List Char)
  | 0, _, _ => none
  | fuel + 1, done, text => do
      let (item, rest) ← readValue? fuel text
      match skipBlanks rest with
      | ',' :: rest => readItems? fuel (item :: done) rest
      | ']' :: rest => some (list (item :: done).reverse, rest)
      | _ => none

def readEntries? : Nat → List (String × Json) → List Char → Option (Json × List Char)
  | 0, _, _ => none
  | fuel + 1, done, text => match skipBlanks text with
      | '\x22' :: rest => do
          let (key, rest) ← readString? (rest.length + 1) [] rest
          match skipBlanks rest with
          | ':' :: rest => do
              let (value, rest) ← readValue? fuel rest
              match skipBlanks rest with
              | ',' :: rest => readEntries? fuel ((key, value) :: done) rest
              | '\x7d' :: rest => some (object ((key, value) :: done).reverse, rest)
              | _ => none
          | _ => none
      | _ => none

end

/-- Reads one value that fills a text. -/
def read? (text : String) : Option Json :=
  let characters := text.toList
  match readValue? (characters.length + 1) characters with
  | some (json, rest) => if (skipBlanks rest).isEmpty then some json else none
  | none => none

end Json

end LiveShell.Text
