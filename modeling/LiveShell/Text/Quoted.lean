import LiveShell.Text.CharacterClass

/-!
Texts and bytes in quotes, as the shell shows them: single quotes unless only a single quote stands inside,
and an escape for every character that would not print.
-/

namespace LiveShell.Text

def hexDigits : Nat → Nat → List Char
  | 0, _ => []
  | count + 1, value => hexDigits count (value / 16) ++ ["0123456789abcdef".toList.getD (value % 16) '0']

/-- The quote to put around a text: the double one only when that saves escapes. -/
def quoteFor (text : List Char) : Char :=
  if text.contains '\x27' && !text.contains '\x22' then '\x22' else '\x27'

/-- Two, four or eight hexadecimal digits, as few as hold the code point. -/
def escapeByCode (code : Nat) : List Char :=
  if code < 0x100 then ['\\', 'x'] ++ hexDigits 2 code
  else if code < 0x10000 then ['\\', 'u'] ++ hexDigits 4 code
  else ['\\', 'U'] ++ hexDigits 8 code

def escapeIn (quote : Char) (character : Char) : List Char :=
  if character = quote || character = '\\' then ['\\', character]
  else if character = '\n' then ['\\', 'n']
  else if character = '\r' then ['\\', 'r']
  else if character = '\t' then ['\\', 't']
  else if isPrintable character then [character]
  else escapeByCode character.toNat

def quotedCharacters (text : List Char) : List Char :=
  let quote := quoteFor text
  [quote] ++ text.flatMap (escapeIn quote) ++ [quote]

/-- A text in quotes. -/
def quoted (text : String) : String := String.ofList (quotedCharacters text.toList)

/-- A text in quotes that keeps to ASCII. -/
def quotedInAscii (text : String) : String :=
  String.ofList ((quotedCharacters text.toList).flatMap fun character =>
    if character.toNat < 0x80 then [character] else escapeByCode character.toNat)

def escapeByteIn (quote : Char) (byte : Nat) : List Char :=
  let character := Char.ofNat byte
  if character = quote || character = '\\' then ['\\', character]
  else if character = '\n' then ['\\', 'n']
  else if character = '\r' then ['\\', 'r']
  else if character = '\t' then ['\\', 't']
  else if 32 ≤ byte && byte < 127 then [character]
  else ['\\', 'x'] ++ hexDigits 2 byte

/-- Bytes in quotes, with the letter that marks them. -/
def quotedBytes (bytes : List Nat) : String :=
  let quote := quoteFor (bytes.map Char.ofNat)
  String.ofList (['b', quote] ++ bytes.flatMap (escapeByteIn quote) ++ [quote])

end LiveShell.Text
