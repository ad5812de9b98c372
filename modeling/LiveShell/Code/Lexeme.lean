import LiveShell.Code.Tree
import LiveShell.Number.Reading
import LiveShell.Source.Token

/-!
Lexemes of complete code, with the marks for the ends of lines and for blocks. Reading stops at the first
fault; the lexemes before it are kept, because a reader of the lexemes may fail earlier.
-/

namespace LiveShell.Code

inductive Lexeme
  | name (text : String)
  | number (value : Literal)
  /-- A text literal: the letters before its quotes in lower case, and what stands between the quotes. -/
  | quoted (letters : List Char) (body : List Char)
  | operator (text : String)
  | newline
  | indent
  | dedent
  | finish
deriving Repr, Inhabited

namespace Lexeme

def isAsciiLetter (character : Char) : Bool :=
  ('a' ≤ character && character ≤ 'z') || ('A' ≤ character && character ≤ 'Z')

def isAsciiDigit (character : Char) : Bool := '0' ≤ character && character ≤ '9'

/-- Characters that a name may seem to hold. -/
def mayContinueName (character : Char) : Bool :=
  isAsciiLetter character || isAsciiDigit character || character = '_' || 0x80 ≤ character.toNat

def operators : List String :=
  ["**=", "//=", ">>=", "<<=", "...", "==", "!=", "<=", ">=", "->", ":=", "+=", "-=", "*=", "/=", "%=",
   "&=", "|=", "^=", "@=", "**", "//", "<<", ">>", "<>", "+", "-", "*", "/", "%", "@", "&", "|", "^", "~",
   "<", ">", "(", ")", "[", "]", "\x7b", "\x7d", ",", ":", ".", ";", "="]

def operatorAt? (text : List Char) : Option (String × List Char) :=
  operators.findSome? fun operator =>
    let characters := operator.toList
    if characters.isPrefixOf text then some (operator, text.drop characters.length) else none

/-! Numbers. -/

/-- Words that may follow a number at once, by the letter they start with. -/
def wordsAfterNumber : List (List Char) :=
  ["and", "else", "for", "in", "if", "is", "or", "not"].map String.toList

/-- Whether a number may end before a text. -/
def numberEnds (text : List Char) : Bool :=
  match text with
  | character :: _ =>
      !mayContinueName character || wordsAfterNumber.any fun word => word.isPrefixOf text
  | [] => true

/-- Digits of a base with single underscores between them. -/
def takeDigits (isDigit : Char → Bool) : List Char → Option (List Char × List Char)
  | '_' :: digit :: rest =>
      if isDigit digit then (takeDigits isDigit rest).map fun (digits, rest) => (digit :: digits, rest)
      else none
  | ['_'] => none
  | character :: rest =>
      if isDigit character then
        (takeDigits isDigit rest).map fun (digits, rest) => (character :: digits, rest)
      else some ([], character :: rest)
  | [] => some ([], [])

def digitsValue (base : Nat) (digits : List Char) : Nat :=
  digits.foldl (fun value digit => value * base + (Number.digitValue? digit).getD 0) 0

def basedNumber? (base : Nat) (text : List Char) : Option (Literal × List Char) := do
  let isDigit (character : Char) : Bool := match Number.digitValue? character with
    | some value => value < base
    | none => false
  let text ← match text with
    | '_' :: rest => if (rest.head?.map isDigit).getD false then some rest else none
    | text => some text
  if !(text.head?.map isDigit).getD false then none
  let (digits, rest) ← takeDigits isDigit text
  if numberEnds rest && !(rest.head?.map isAsciiDigit).getD false then
    some (.whole (digitsValue base digits), rest)
  else none

/-- An exponent, unless the letter begins a word. -/
def takeExponent (text : List Char) : Option (Option (List Char) × List Char) :=
  match text with
  | letter :: rest =>
      if letter = 'e' || letter = 'E' then
        let (sign, digits) := match rest with
          | '-' :: rest => (['-'], rest)
          | '+' :: rest => ([], rest)
          | rest => ([], rest)
        if (digits.head?.map isAsciiDigit).getD false then
          (takeDigits isAsciiDigit digits).map fun (digits, rest) => (some ('e' :: sign ++ digits), rest)
        else some (none, text)
      else some (none, text)
  | [] => some (none, [])

/-- The most digits that a decimal integer may have. -/
def mostDigits : Nat := 4300

def decimalNumber? (text : List Char) : Option (Literal × List Char) := do
  let (whole, rest) ←
    if (text.head?.map isAsciiDigit).getD false then takeDigits isAsciiDigit text else some ([], text)
  let (places, rest) ← match rest with
    | '.' :: rest =>
        if (rest.head?.map isAsciiDigit).getD false then
          (takeDigits isAsciiDigit rest).map fun (digits, rest) => (some digits, rest)
        else some (some [], rest)
    | rest => some (none, rest)
  let (exponent, rest) ← takeExponent rest
  let real : Float := (Number.readDecimal? false
    ((if whole.isEmpty then ['0'] else whole) ++ '.' :: places.getD [] ++ exponent.getD [])).getD 0.0
  match rest with
  | letter :: after =>
      if (letter = 'j' || letter = 'J') then
        if numberEnds after then return (.imaginary real, after) else none
  | [] => pure ()
  if !numberEnds rest then none
  else if places.isSome || exponent.isSome then some (.real real, rest)
  else
    let value := digitsValue 10 whole
    if whole.head? = some '0' && value ≠ 0 then none
    else if mostDigits < whole.length then none
    else some (.whole value, rest)

def numberAt? (text : List Char) : Option (Literal × List Char) :=
  match text with
  | '0' :: letter :: rest =>
      if letter = 'x' || letter = 'X' then basedNumber? 16 rest
      else if letter = 'o' || letter = 'O' then basedNumber? 8 rest
      else if letter = 'b' || letter = 'B' then basedNumber? 2 rest
      else decimalNumber? text
  | text => decimalNumber? text

/-! Text literals. -/

/-- The body of a literal and what follows its closing quotes. -/
def takeBody (quote : Char) (tripled : Bool) : List Char → List Char → Option (List Char × List Char)
  | _, [] => none
  | done, '\\' :: character :: rest => takeBody quote tripled (character :: '\\' :: done) rest
  | done, character :: rest =>
      if character = quote then
        if !tripled then some (done.reverse, rest)
        else match rest with
          | second :: third :: after =>
              if second = quote && third = quote then some (done.reverse, after)
              else takeBody quote tripled (character :: done) rest
          | _ => none
      else if character = '\n' && !tripled then none
      else takeBody quote tripled (character :: done) rest

def literalLetters : List (List Char) :=
  ["", "r", "u", "b", "f", "br", "rb", "fr", "rf"].map String.toList

/-- The letters that open a text literal here, if one opens here. -/
def literalAt? (text : List Char) : Option (List Char × Char × List Char) :=
  let letters := (text.takeWhile isAsciiLetter).map Char.toLower
  match text.drop letters.length with
  | quote :: rest =>
      if (quote = '\x27' || quote = '\x22') && literalLetters.contains letters then
        some (letters, quote, rest)
      else none
  | [] => none

def quotedAt? (letters : List Char) (quote : Char) (rest : List Char) : Option (Lexeme × List Char) :=
  let (tripled, rest) := match rest with
    | second :: third :: after =>
        if second = quote && third = quote then (true, after) else (false, rest)
    | rest => (false, rest)
  (takeBody quote tripled [] rest).map fun (body, rest) => (.quoted letters body, rest)

/-! The whole text. -/

structure State where
  rest : List Char
  /-- The brackets that are open, the innermost first. -/
  brackets : List Char := []
  /-- The widths of the open blocks, with tabs of eight and of one, the innermost first. -/
  blocks : List (Nat × Nat) := []
  atLineStart : Bool := true
  done : List Lexeme := []

/-- The indentation of a line, and what follows it. -/
def takeIndentation : Nat → Nat → List Char → Option ((Nat × Nat) × List Char)
  | wide, narrow, ' ' :: rest => takeIndentation (wide + 1) (narrow + 1) rest
  | wide, narrow, '\t' :: rest => takeIndentation ((wide / 8 + 1) * 8) (narrow + 1) rest
  | _, _, '\x0c' :: rest => takeIndentation 0 0 rest
  | wide, narrow, '\\' :: '\n' :: rest =>
      (takeIndentation 0 0 rest).map fun (_, rest) => ((wide, narrow), rest)
  | wide, narrow, rest => some ((wide, narrow), rest)

def widthOf (blocks : List (Nat × Nat)) : Nat × Nat := blocks.headD (0, 0)

def mostBlocks : Nat := 100

/-- Closes the blocks that are wider than a line. -/
def closeBlocks (wide narrow : Nat) : List (Nat × Nat) → List Lexeme → Except Fault (List (Nat × Nat) × List Lexeme)
  | [], done =>
      if wide ≠ 0 then throw .indentation else if narrow ≠ 0 then throw .tabs else pure ([], done)
  | block :: blocks, done =>
      if wide < block.1 then closeBlocks wide narrow blocks (.dedent :: done)
      else if wide ≠ block.1 then throw .indentation
      else if narrow ≠ block.2 then throw .tabs
      else pure (block :: blocks, done)

def dropComment (text : List Char) : List Char :=
  match text with
  | '#' :: _ => text.dropWhile (· ≠ '\n')
  | text => text

def beginLine (state : State) : Except Fault State := do
  match takeIndentation 0 0 state.rest with
  | none => throw .malformed
  | some ((wide, narrow), rest) =>
      match dropComment rest with
      | [] => pure { state with rest := [] }
      | '\n' :: after => pure { state with rest := after }
      | _ =>
          let (topWide, topNarrow) := widthOf state.blocks
          let begun := { state with rest := rest, atLineStart := false }
          if wide = topWide then
            if narrow = topNarrow then pure begun else throw .tabs
          else if topWide < wide then
            if mostBlocks ≤ state.blocks.length + 1 then throw .indentation
            else if narrow ≤ topNarrow then throw .tabs
            else pure { begun with blocks := (wide, narrow) :: state.blocks, done := .indent :: state.done }
          else
            let (blocks, done) ← closeBlocks wide narrow state.blocks state.done
            pure { begun with blocks, done }

def closerOf : Char → Char
  | '(' => ')'
  | '[' => ']'
  | _ => '\x7d'

def mostBrackets : Nat := 200

/-- Keeps count of brackets for an operator. -/
def trackBrackets (brackets : List Char) (operator : String) : Except Fault (List Char) :=
  match operator.toList with
  | [character] =>
      if "([\x7b".toList.contains character then
        if mostBrackets ≤ brackets.length then throw .malformed else pure (character :: brackets)
      else if ")]\x7d".toList.contains character then
        match brackets with
        | opener :: brackets => if closerOf opener = character then pure brackets else throw .malformed
        | [] => throw .malformed
      else pure brackets
  | _ => pure brackets

def isNameText (characters : List Char) : Bool := Text.isName characters

/-- Reads the lexeme that starts here, after blanks. -/
def readLexeme (state : State) : Except Fault State := do
  let push (lexeme : Lexeme) (rest : List Char) : State :=
    { state with rest := rest, done := lexeme :: state.done }
  match state.rest with
  | [] => pure state
  | '\\' :: rest =>
      match rest with
      | ['\n'] | [] => throw .malformed
      | '\n' :: rest => pure { state with rest := rest }
      | _ => throw .malformed
  | '\n' :: rest =>
      if state.brackets.isEmpty then pure { push .newline rest with atLineStart := true }
      else pure { state with rest := rest }
  | character :: rest =>
      if character = ' ' || character = '\t' || character = '\x0c' then pure { state with rest := rest }
      else if character = '#' then pure { state with rest := dropComment state.rest }
      else match literalAt? state.rest with
        | some (letters, quote, after) =>
            match quotedAt? letters quote after with
            | some (lexeme, rest) => pure (push lexeme rest)
            | none => throw .malformed
        | none =>
            let pointed : Bool := character = '.' && (rest.head?.map isAsciiDigit).getD false
            if isAsciiDigit character || pointed then
              match numberAt? state.rest with
              | some (value, rest) => pure (push (.number value) rest)
              | none => throw .malformed
            else if mayContinueName character then
              let characters := state.rest.takeWhile mayContinueName
              if isNameText characters then
                pure (push (.name (String.ofList characters)) (state.rest.drop characters.length))
              else throw .malformed
            else match operatorAt? state.rest with
              | some (sign, rest) =>
                  let brackets ← trackBrackets state.brackets sign
                  pure { push (.operator sign) rest with brackets }
              | none => throw .malformed

/-- The marks that end the last line and every open block. -/
def finishLexemes (state : State) : List Lexeme :=
  let ended := if state.atLineStart then state.done else .newline :: state.done
  (.finish :: (state.blocks.map fun _ => Lexeme.dedent) ++ ended).reverse

/-- Steps until the text is used up. Every step takes a character or leaves the start of a line. -/
def readAll : Nat → State → List Lexeme × Option Fault
  | 0, state => (state.done.reverse, some .malformed)
  | fuel + 1, state =>
      if state.rest.isEmpty then
        if state.brackets.isEmpty then (finishLexemes state, none) else (state.done.reverse, some .malformed)
      else
        let stepped := if state.atLineStart then beginLine state else readLexeme state
        match stepped with
        | .ok next => readAll fuel next
        | .error fault => (state.done.reverse, some fault)

end Lexeme

/-- Every line break as a single line feed. -/
def unifyBreaks : List Char → List Char
  | '\r' :: '\n' :: rest => '\n' :: unifyBreaks rest
  | '\r' :: rest => '\n' :: unifyBreaks rest
  | character :: rest => character :: unifyBreaks rest
  | [] => []

/-- The lexemes of a text, and the fault that reading them stopped at. -/
def lexemes (text : String) : List Lexeme × Option Fault :=
  let characters := unifyBreaks text.toList
  Lexeme.readAll (2 * characters.length + 2) { rest := characters }

end LiveShell.Code
