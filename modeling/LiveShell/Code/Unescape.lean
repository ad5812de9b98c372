import LiveShell.Code.Tree
import LiveShell.Number.Reading

/-!
What a text literal stands for: escapes replaced, and a formatted text cut into pieces of text and fields.
-/

namespace LiveShell.Code

/-! Escapes. -/

def simpleEscape? : Char → Option Char
  | '\\' => some '\\'
  | '\x27' => some '\x27'
  | '\x22' => some '\x22'
  | 'a' => some '\x07'
  | 'b' => some '\x08'
  | 'f' => some '\x0c'
  | 'n' => some '\n'
  | 'r' => some '\r'
  | 't' => some '\t'
  | 'v' => some '\x0b'
  | _ => none

def isOctalDigit (character : Char) : Bool := '0' ≤ character && character ≤ '7'

/-- A value of exactly `count` hexadecimal digits. -/
def takeHex? (count : Nat) (text : List Char) : Option (Nat × List Char) := do
  let digits := text.take count
  let values ← digits.mapM Number.digitValue?
  if digits.length = count && values.all (· < 16) then
    some (values.foldl (fun value digit => value * 16 + digit) 0, text.drop count)
  else none

def octalValue (digits : List Char) : Nat :=
  digits.foldl (fun value digit => value * 8 + (digit.toNat - 48)) 0

/-- A code point as a character; what is none becomes the replacement character. -/
def characterOf (code : Nat) : Char :=
  if 0xD800 ≤ code && code < 0xE000 then '\ufffd' else Char.ofNat code

/-- The character that an escape stands for, or nothing when the escape is left as it is. The text starts
after the backslash. -/
def readEscape (inBytes : Bool) : List Char → Except Fault (List Char × List Char)
  | '\n' :: rest => pure ([], rest)
  | letter :: rest =>
      match simpleEscape? letter with
      | some character => pure ([character], rest)
      | none =>
          if isOctalDigit letter then
            let digits := ((letter :: rest).take 3).takeWhile isOctalDigit
            let value := octalValue digits
            pure ([characterOf (if inBytes then value % 256 else value)], (letter :: rest).drop digits.length)
          else
            let wide : Option Nat :=
              if letter = 'x' then some 2
              else if inBytes then none
              else if letter = 'u' then some 4
              else if letter = 'U' then some 8
              else none
            match wide with
            | some count =>
                match takeHex? count rest with
                | some (value, rest) =>
                    if value ≤ 0x10FFFF then pure ([characterOf value], rest) else throw .malformed
                | none => throw .malformed
            | none =>
                if letter = 'N' && !inBytes then throw .malformed else pure (['\\', letter], rest)
  | [] => pure (['\\'], [])

def unescape (inBytes : Bool) : Nat → List Char → Except Fault (List Char)
  | 0, _ => pure []
  | _ + 1, [] => pure []
  | fuel + 1, '\\' :: rest => do
      let (characters, rest) ← readEscape inBytes rest
      pure (characters ++ (← unescape inBytes fuel rest))
  | fuel + 1, character :: rest => do pure (character :: (← unescape inBytes fuel rest))

/-- The characters of the body of a literal. -/
def literalText (letters body : List Char) : Except Fault (List Char) :=
  let inBytes := letters.contains 'b'
  if inBytes && body.any fun character => 0x80 ≤ character.toNat then throw .malformed
  else if letters.contains 'r' then pure body
  else unescape inBytes (body.length + 1) body

/-! Formatted texts. -/

/-- A piece of a formatted text, before its expression is read. -/
inductive Piece
  | text (characters : List Char)
  | field (code : List Char) (shown : Option (List Char)) (conversion : Option Char)
      (layout : Option (List Piece))
deriving Repr, Inhabited

namespace Piece

def isAsciiBlank (character : Char) : Bool :=
  character = ' ' || (9 ≤ character.toNat && character.toNat ≤ 13)

/-- The text before the next brace. Doubled braces stand for one, but not inside a layout. -/
def takeText (outer : Bool) : List Char → Except Fault (List Char × List Char)
  | '\x7b' :: '\x7b' :: rest =>
      if outer then do
        let (found, rest) ← takeText outer rest
        pure ('\x7b' :: found, rest)
      else pure ([], '\x7b' :: '\x7b' :: rest)
  | '\x7d' :: '\x7d' :: rest =>
      if outer then do
        let (found, rest) ← takeText outer rest
        pure ('\x7d' :: found, rest)
      else pure ([], '\x7d' :: '\x7d' :: rest)
  | '\x7b' :: rest => pure ([], '\x7b' :: rest)
  | '\x7d' :: rest => if outer then throw .malformed else pure ([], '\x7d' :: rest)
  | character :: rest => do
      let (found, rest) ← takeText outer rest
      pure (character :: found, rest)
  | [] => pure ([], [])

/-- The code of a field up to the mark that ends it. `quote` is the open quote with its size. -/
def takeCode : Nat → Option (Char × Nat) → List Char → List Char → List Char →
    Except Fault (List Char × List Char)
  | 0, _, _, _, _ => throw .malformed
  | _ + 1, _, _, _, [] => throw .malformed
  | fuel + 1, quote, brackets, done, character :: rest =>
      if character = '\\' then throw .malformed
      else match quote with
        | some (mark, size) =>
            if character = mark then
              if size = 1 then takeCode fuel none brackets (character :: done) rest
              else if rest.take 2 = [mark, mark] then
                takeCode fuel none brackets (mark :: mark :: character :: done) (rest.drop 2)
              else takeCode fuel quote brackets (character :: done) rest
            else takeCode fuel quote brackets (character :: done) rest
        | none =>
            if character = '\x27' || character = '\x22' then
              if rest.take 2 = [character, character] then
                takeCode fuel (some (character, 3)) brackets
                  (character :: character :: character :: done) (rest.drop 2)
              else takeCode fuel (some (character, 1)) brackets (character :: done) rest
            else if "([\x7b".toList.contains character then
              takeCode fuel none (character :: brackets) (character :: done) rest
            else if character = '#' then throw .malformed
            else if brackets.isEmpty && "!:\x7d=<>".toList.contains character then
              if rest.head? = some '=' && "!=<>".toList.contains character then
                takeCode fuel none brackets ('=' :: character :: done) (rest.drop 1)
              else if character = '<' || character = '>' then
                takeCode fuel none brackets (character :: done) rest
              else pure (done.reverse, character :: rest)
            else if ")]\x7d".toList.contains character then
              match brackets with
              | opener :: brackets =>
                  let closer := if opener = '(' then ')' else if opener = '[' then ']' else '\x7d'
                  if closer = character then takeCode fuel none brackets (character :: done) rest
                  else throw .malformed
              | [] => throw .malformed
            else takeCode fuel none brackets (character :: done) rest

def takeConversion : List Char → Except Fault (Option Char × List Char)
  | '!' :: letter :: rest =>
      if "sra".toList.contains letter then pure (some letter, rest) else throw .malformed
  | ['!'] => throw .malformed
  | rest => pure (none, rest)

/-- The pieces of a formatted text; inside a layout, up to the brace that ends it. -/
def takePieces (raw : Bool) : Nat → Nat → List Char → Except Fault (List Piece × List Char)
  | 0, _, _ => throw .malformed
  | fuel + 1, depth, body => do
      let outer : Bool := depth = 0
      let (characters, rest) ← takeText outer body
      let characters ← if raw then pure characters else unescape false (characters.length + 1) characters
      let before : List Piece := if characters.isEmpty then [] else [.text characters]
      match rest with
      | '\x7b' :: rest =>
          if 2 ≤ depth then throw .malformed
          let (code, rest) ← takeCode (rest.length + 1) none [] [] rest
          if code.all isAsciiBlank then throw .malformed
          let (shown, rest) := match rest with
            | '=' :: rest =>
                let blanks := rest.takeWhile isAsciiBlank
                (some (code ++ '=' :: blanks), rest.drop blanks.length)
            | rest => (none, rest)
          let (conversion, rest) ← takeConversion rest
          let (layout, rest) ← match rest with
            | ':' :: rest => do
                let (pieces, rest) ← takePieces raw fuel (depth + 1) rest
                pure (some pieces, rest)
            | rest => pure (none, rest)
          let conversion :=
            if shown.isSome && layout.isNone && conversion.isNone then some 'r' else conversion
          match rest with
          | '\x7d' :: rest => do
              let (pieces, rest) ← takePieces raw fuel depth rest
              pure (before ++ .field code shown conversion layout :: pieces, rest)
          | _ => throw .malformed
      | rest => pure (before, rest)

end Piece

/-- The pieces of the body of a formatted text. -/
def pieces (raw : Bool) (body : List Char) : Except Fault (List Piece) := do
  let (found, rest) ← Piece.takePieces raw (body.length + 2) 0 body
  if rest.isEmpty then pure found else throw .malformed

end LiveShell.Code
