import LiveShell.Source.Token
import LiveShell.Text.CharacterClass

/-!
The scanner: one pass over the lines of a source, each kept with its break. What a line may start is told
by small matchers, each giving the end of the longest piece of its class. Inside a formatted string
literal the text between the replacement fields is scanned apart, and a literal that is not closed on its
line gives up its brackets, so that one missing quote does not swallow the lines below it.
-/

namespace LiveShell.Source

/-! Matchers: from a column, the column where a piece of a class ends. -/

def isBlank (character : Char) : Bool :=
  character = ' ' || character = '\t' || character = '\x0c'

def isDigit (character : Char) : Bool := '0' ≤ character && character ≤ '9'

def isHexDigit (character : Char) : Bool :=
  isDigit character || ('a' ≤ character && character ≤ 'f') || ('A' ≤ character && character ≤ 'F')

/-- Every character outside ASCII counts here; `splitAtStrays` tells the names in such a run. -/
def isNameCharacter (character : Char) : Bool :=
  isDigit character || character = '_' || ('a' ≤ character && character ≤ 'z') ||
    ('A' ≤ character && character ≤ 'Z') || '\x80' ≤ character

/-- The end of the longest run of a class. -/
def runEnd (row : Array Char) (belongs : Char → Bool) (column : Nat) : Nat :=
  if h : column < row.size then
    if belongs row[column] then runEnd row belongs (column + 1) else column
  else column
termination_by row.size - column

def startsWith (row : Array Char) (column : Nat) (text : List Char) : Bool :=
  (row.extract column (column + text.length)).toList = text

def holdsAt (row : Array Char) (column : Nat) (belongs : Char → Bool) : Bool :=
  match row[column]? with
  | some character => belongs character
  | none => false

/-- The end of a run of digits in which single underscores may stand between two digits. -/
def moreDigitsEnd (row : Array Char) (belongs : Char → Bool) (column : Nat) : Nat :=
  if h : column < row.size then
    if belongs row[column] then moreDigitsEnd row belongs (column + 1)
    else if row[column] = '_' && holdsAt row (column + 1) belongs then
      moreDigitsEnd row belongs (column + 2)
    else column
  else column
termination_by row.size - column

def decimalEnd? (row : Array Char) (column : Nat) : Option Nat :=
  if holdsAt row column isDigit then some (moreDigitsEnd row isDigit (column + 1)) else none

def exponentEnd? (row : Array Char) (column : Nat) : Option Nat :=
  if holdsAt row column (fun character => character = 'e' || character = 'E') then
    if holdsAt row (column + 1) (fun character => character = '-' || character = '+') then
      decimalEnd? row (column + 2)
    else decimalEnd? row (column + 1)
  else none

/-- A number with a point, or digits with an exponent. -/
def fractionEnd? (row : Array Char) (column : Nat) : Option Nat :=
  let withExponent (stop : Nat) := (exponentEnd? row stop).getD stop
  match decimalEnd? row column with
  | some whole =>
      if holdsAt row whole (· = '.') then
        some (withExponent ((decimalEnd? row (whole + 1)).getD (whole + 1)))
      else exponentEnd? row whole
  | none =>
      if holdsAt row column (· = '.') then (decimalEnd? row (column + 1)).map withExponent else none

/-- A whole number in base sixteen, two, eight or ten. A zero starts only zeros. -/
def wholeEnd? (row : Array Char) (column : Nat) : Option Nat :=
  let based (letters : List Char) (belongs : Char → Bool) : Option Nat :=
    if holdsAt row (column + 1) letters.contains then
      if holdsAt row (column + 2) belongs ||
          (holdsAt row (column + 2) (· = '_') && holdsAt row (column + 3) belongs) then
        some (moreDigitsEnd row belongs (column + 2))
      else none
    else none
  if holdsAt row column (· = '0') then
    some (((based ['x', 'X'] isHexDigit).orElse fun _ =>
      (based ['b', 'B'] fun character => character = '0' || character = '1').orElse fun _ =>
      based ['o', 'O'] fun character => '0' ≤ character && character ≤ '7').getD
        (moreDigitsEnd row (· = '0') (column + 1)))
  else decimalEnd? row column

def numberEnd? (row : Array Char) (column : Nat) : Option Nat :=
  let imaginary (stop : Option Nat) : Option Nat :=
    stop.bind fun stop =>
      if holdsAt row stop (fun character => character = 'j' || character = 'J') then some (stop + 1)
      else none
  (imaginary (decimalEnd? row column)).orElse fun _ =>
    (imaginary (fractionEnd? row column)).orElse fun _ =>
      (fractionEnd? row column).orElse fun _ => wholeEnd? row column

/-- Operators, longest first. -/
def operators : List (List Char) :=
  ["**=", "**", ">>=", ">>", "<<=", "<<", "//=", "//", "->",
   "+=", "-=", "*=", "/=", "%=", "&=", "@=", "\x60=", "|=", "^=", "!=", "==", "<=", ">=",
   "+", "-", "*", "/", "%", "&", "@", "\x60", "|", "^", "!", "=", "<", ">",
   "~", "]", "[", "(", ")", "\x7b", "\x7d", ":=", ":", "...", "\r\n", "\r", "\n", ";", ".", ","].map
    String.toList

def operatorEnd? (row : Array Char) (column : Nat) : Option Nat :=
  (operators.find? (startsWith row column)).map (column + ·.length)

def nameEnd? (row : Array Char) (column : Nat) : Option Nat :=
  if holdsAt row column isNameCharacter then some (runEnd row isNameCharacter column) else none

/-- The letters that may stand before the quote of a plain or bytes literal. -/
def literalLetters : List (List Char) := ["", "b", "r", "u", "br", "rb"].map String.toList

def formattedLetters : List (List Char) := ["f", "fr", "rf"].map String.toList

def lowerLetters (letters : List Char) : List Char := letters.map Char.toLower

def isQuote (character : Char) : Bool := character = '\x27' || character = '\x22'

/-- The letters before a quote at a column, if one follows at most two letters on. -/
def lettersBeforeQuote? (row : Array Char) (column : Nat) : Option (List Char) :=
  [0, 1, 2].findSome? fun count =>
    if holdsAt row (column + count) isQuote then
      some (lowerLetters (row.extract column (column + count)).toList)
    else none

def tripleAt? (row : Array Char) (column : Nat) : Option (List Char) :=
  match row[column]? with
  | some quote =>
      let triple := [quote, quote, quote]
      if isQuote quote && startsWith row column triple then some triple else none
  | none => none

/-- The end of a literal's tail: past its closing quote. A backslash takes the next character along,
but never a line feed. -/
def closingEnd? (quote : List Char) (row : Array Char) (column : Nat) : Option Nat :=
  if h : column < row.size then
    if row[column] = '\\' then
      if holdsAt row (column + 1) (· ≠ '\n') then closingEnd? quote row (column + 2) else none
    else if startsWith row column quote then some (column + quote.length)
    else closingEnd? quote row (column + 1)
  else none
termination_by row.size - column

/-- The end of a single-quoted literal on this line: past its closing quote, or past the line break that a
backslash continues. -/
def singleEnd? (quote : Char) (row : Array Char) (column : Nat) : Option Nat :=
  if h : column < row.size then
    if row[column] = quote then some (column + 1)
    else if row[column] = '\\' then
      if startsWith row (column + 1) ['\r', '\n'] then some (column + 3)
      else if holdsAt row (column + 1) (fun next => next = '\r' || next = '\n') then some (column + 2)
      else if column + 1 < row.size then singleEnd? quote row (column + 2)
      else none
    else if row[column] = '\r' || row[column] = '\n' then none
    else singleEnd? quote row (column + 1)
  else none
termination_by row.size - column

inductive PieceKind
  | ending
  | continuation
  | comment
  | tripleStart
  | formattedStart
  | number
  | operator
  | single
  | name
deriving DecidableEq, Repr

/-- A piece of a line: what it is and where it ends. -/
structure Piece where
  kind : PieceKind
  start : Nat
  stop : Nat

/-- The piece after the blanks at a column, if any class matches there. -/
def pieceAt? (row : Array Char) (column : Nat) : Option Piece :=
  let start := runEnd row isBlank column
  let piece (kind : PieceKind) (stop : Nat) : Option Piece := some ⟨kind, start, stop⟩
  if startsWith row start ['\\', '\r', '\n'] then piece .continuation (start + 3)
  else if holdsAt row start (· = '\\') &&
      holdsAt row (start + 1) (fun next => next = '\r' || next = '\n') then
    piece .continuation (start + 2)
  else if start = row.size then piece .ending start
  else if holdsAt row start (· = '#') then
    piece .comment (runEnd row (fun character => character ≠ '\r' && character ≠ '\n') start)
  else
    let letters := lettersBeforeQuote? row start
    let quoteAt := start + (letters.map List.length).getD 0
    let plain := letters.filter literalLetters.contains
    let formatted := letters.filter formattedLetters.contains
    match plain.bind fun _ => tripleAt? row quoteAt with
    | some triple => piece .tripleStart (quoteAt + triple.length)
    | none =>
    if formatted.isSome then
      piece .formattedStart (quoteAt + ((tripleAt? row quoteAt).map List.length).getD 1)
    else
      match numberEnd? row start with
      | some stop => piece .number stop
      | none =>
      match operatorEnd? row start with
      | some stop => piece .operator stop
      | none =>
      match plain.bind fun _ => singleEnd? (row.getD quoteAt ' ') row (quoteAt + 1) with
      | some stop => piece .single stop
      | none => (nameEnd? row start).bind (piece .name)

/-! Formatted string literals. -/

/-- A formatted string literal that is open: its quote, how many brackets are open inside it, in how many
format specifications the scanner stands, and text of earlier lines not yet given out. -/
structure OpenFormatted where
  quote : List Char
  brackets : Int
  specifications : Int
  pending : List Char
  pendingLine : Nat
  pendingColumn : Nat
deriving Inhabited

def OpenFormatted.inField (literal : OpenFormatted) : Bool :=
  literal.brackets > literal.specifications

def OpenFormatted.inSpecification (literal : OpenFormatted) : Bool :=
  !literal.inField && literal.specifications ≠ 0

def OpenFormatted.spansLines (literal : OpenFormatted) : Bool := literal.quote.length = 3

def OpenFormatted.openBracket (literal : OpenFormatted) : OpenFormatted :=
  { literal with brackets := literal.brackets + 1 }

/-- With the last bracket every format specification ends as well. -/
def OpenFormatted.closeBracket (literal : OpenFormatted) : OpenFormatted :=
  { literal with
    brackets := literal.brackets - 1
    specifications := if literal.brackets = 1 then 0 else literal.specifications }

/-- The end of a character name in braces, as in `\N{DIGIT ONE}`. -/
def characterNameEnd? (row : Array Char) (column : Nat) : Option Nat :=
  let belongs (character : Char) : Bool :=
    isDigit character || character = '-' || ('a' ≤ character && character ≤ 'z') ||
      ('A' ≤ character && character ≤ 'Z')
  let rec words (fuel column : Nat) : Option Nat :=
    match fuel with
    | 0 => none
    | fuel + 1 =>
        let stop := runEnd row belongs column
        if stop = column then none
        else if holdsAt row stop (· = ' ') then words fuel (stop + 1)
        else if holdsAt row stop (· = '\x7d') then some (stop + 1)
        else none
  if startsWith row column ['\\', 'N', '\x7b'] then words row.size (column + 3) else none

/-- The end of one unit of literal text inside a formatted string: a doubled brace, an escape or a plain
character. -/
def textUnitEnd? (spansLines : Bool) (row : Array Char) (column : Nat) : Option Nat :=
  if startsWith row column ['\x7b', '\x7b'] || startsWith row column ['\x7d', '\x7d'] then
    some (column + 2)
  else match row[column]? with
    | none => none
    | some '\x7b' => none
    | some '\x7d' => none
    | some '\\' =>
        match characterNameEnd? row column, row[column + 1]? with
        | some stop, _ => some stop
        | none, none => none
        | none, some 'N' => none
        | none, some '\r' =>
            if !spansLines && startsWith row (column + 2) ['\n'] then some (column + 3)
            else some (column + 2)
        | none, some _ => some (column + 2)
    | some character =>
        if !spansLines && (character = '\r' || character = '\n') then none else some (column + 1)

/-- The end of one unit of a format specification. -/
def specificationUnitEnd? (spansLines : Bool) (row : Array Char) (column : Nat) : Option Nat :=
  match row[column]? with
  | none => none
  | some '\x7b' => none
  | some '\x7d' => none
  | some '\\' =>
      if spansLines then some (column + 1)
      else if startsWith row (column + 1) ['\r', '\n'] then some (column + 3)
      else if holdsAt row (column + 1) (fun next => next = '\r' || next = '\n') then some (column + 2)
      else some (column + 1)
  | some character =>
      if !spansLines && (character = '\r' || character = '\n') then none else some (column + 1)

def unitsEnd (unit : Nat → Option Nat) : Nat → Nat → Nat
  | 0, column => column
  | fuel + 1, column => match unit column with
      | some stop => unitsEnd unit fuel stop
      | none => column

/-- Literal text at a column, cut before the first quote that would close an open literal. -/
def formattedTextAt (literals : List OpenFormatted) (literal : OpenFormatted) (row : Array Char)
    (column : Nat) : List Char :=
  let unit := if literal.inSpecification then specificationUnitEnd? literal.spansLines row
    else textUnitEnd? literal.spansLines row
  let text := (row.extract column (unitsEnd unit row.size column)).toList
  literals.foldl (fun text other =>
    match closingEnd? other.quote text.toArray 0 with
    | some stop => text.take (stop - other.quote.length)
    | none => text) text

/-! The scanner proper. -/

/-- A string literal that goes on over the line break. -/
structure OpenString where
  text : List Char
  line : Nat
  column : Nat
  quote : List Char

structure ScanState where
  tokens : Array Token
  /-- Open indentation levels, the innermost first; the last is zero. -/
  levels : List Nat
  brackets : Nat
  /-- No token of this logical line has been seen. -/
  fresh : Bool
  spacing : List Char
  /-- Spacing that belongs to the next token. -/
  carried : List Char
  /-- Open formatted literals, the outermost first. -/
  literals : List OpenFormatted
  openString : Option OpenString
deriving Inhabited

def ScanState.start : ScanState :=
  { tokens := #[], levels := [0], brackets := 0, fresh := true, spacing := [], carried := []
    literals := [], openString := none }

def ScanState.emit (state : ScanState) (kind : TokenKind) (text : List Char) (line column : Nat)
    (spacing : List Char) : ScanState :=
  { state with tokens := state.tokens.push ⟨kind, text, line, column, spacing⟩ }

/-- Closes the levels deeper than a column. A column between two levels takes the place of the deeper. -/
def ScanState.dedentTo (state : ScanState) (line tokenColumn column : Nat) : ScanState :=
  let rec close (levels : List Nat) (tokens : Array Token) : List Nat × Array Token :=
    match levels with
    | deep :: outer :: rest =>
        if column < deep then
          if outer < column then
            (column :: outer :: rest, tokens.push ⟨.misindent, [], line, column, []⟩)
          else close (outer :: rest) (tokens.push ⟨.dedent, [], line, tokenColumn, []⟩)
        else (deep :: outer :: rest, tokens)
    | levels => (levels, tokens)
  let (levels, tokens) := close state.levels state.tokens
  { state with levels := levels, tokens := tokens }

def ScanState.indentTo (state : ScanState) (line column : Nat) : ScanState :=
  let deepened :=
    if state.levels.headD 0 < column then
      { state.emit .indent [] line column [] with levels := column :: state.levels }
    else state
  deepened.dedentTo line column column

def ScanState.updateInnermost (state : ScanState) (change : OpenFormatted → OpenFormatted) : ScanState :=
  { state with literals := match state.literals.getLast? with
      | some literal => state.literals.dropLast ++ [change literal]
      | none => state.literals }

/-- Words that no bracket or formatted literal may hold: they start a statement, so whatever is open
before them has been left open by mistake. -/
def breakingWords : List (List Char) :=
  ["import", "class", "def", "try", "except", "finally", "while", "with", "return", "continue", "break",
   "del", "pass", "global", "assert", "nonlocal"].map String.toList

/-- What one round of the scanner leaves: more of the line from a column, or a finished line. -/
inductive Round
  | more (state : ScanState) (column : Nat)
  | lineDone (state : ScanState)

/-- The literal that a quote right after the blanks at a column closes, with the literals outside it. -/
def closedLiteral? (row : Array Char) (column : Nat) (outside : List OpenFormatted) :
    List OpenFormatted → Option (List OpenFormatted × OpenFormatted × Nat)
  | [] => none
  | literal :: inside =>
      let quoteAt := runEnd row Text.isSpace column
      if startsWith row quoteAt literal.quote then some (outside, literal, quoteAt)
      else closedLiteral? row column (outside ++ [literal]) inside

/-- The part of a line that the innermost replacement field may use: up to the first quote that closes an
open literal. -/
def fieldLine (literals : List OpenFormatted) (row : Array Char) (column : Nat) : Array Char :=
  literals.foldl (fun cut literal =>
    match closingEnd? literal.quote row column with
    | some stop =>
        if stop - literal.quote.length < cut.size then row.extract 0 (stop - literal.quote.length)
        else cut
    | none => cut) row

/-- Takes a piece that starts a string literal over more than one line, or ends one. -/
def ScanState.takeTriple (state : ScanState) (number : Nat) (row : Array Char) (piece : Piece) : Round :=
  let quote := (row.extract (piece.stop - 3) piece.stop).toList
  match closingEnd? quote row piece.stop with
  | some stop =>
      .more (state.emit .string (row.extract piece.start stop).toList number piece.start state.spacing) stop
  | none =>
      .lineDone { state with
        openString := some ⟨(row.extract piece.start row.size).toList, number, piece.start, quote⟩ }

def ScanState.takeSingle (state : ScanState) (number : Nat) (row : Array Char) (piece : Piece) : Round :=
  let text := (row.extract piece.start piece.stop).toList
  if text.getLast?.any fun character => character = '\r' || character = '\n' then
    let quote := (text.find? isQuote).toList
    .lineDone { state with
      openString := some ⟨(row.extract piece.start row.size).toList, number, piece.start, quote⟩ }
  else .more (state.emit .string text number piece.start state.spacing) piece.stop

/-- What goes on with the piece that a character starts: a name with name characters, a stray piece with all
that starts no name. -/
def joinsRun (first character : Char) : Bool :=
  if Text.isNameStart first then Text.isNameContinue character else !Text.isNameStart character

/-- Cuts a run of name characters into names and stray pieces, each with its column. -/
def splitAtStrays (column : Nat) (text : List Char) : List (TokenKind × List Char × Nat) :=
  match text with
  | [] => []
  | first :: rest =>
      let piece := first :: rest.takeWhile (joinsRun first)
      (if Text.isNameStart first then .name else .stray, piece, column) ::
        splitAtStrays (column + piece.length) (rest.dropWhile (joinsRun first))
termination_by text.length
decreasing_by
  have := (List.dropWhile_suffix (l := rest) (joinsRun first)).length_le
  simp only [List.length_cons]
  omega

/-- Emits the names and stray pieces of a run; only the first has spacing before it. -/
def ScanState.emitRun (state : ScanState) (text : List Char) (line column : Nat) : ScanState :=
  (splitAtStrays column text).foldl (fun state (kind, piece, start) =>
    state.emit kind piece line start (if start = column then state.spacing else [])) state

def ScanState.takeName (state : ScanState) (number : Nat) (row : Array Char) (piece : Piece) : Round :=
  let text := (row.extract piece.start piece.stop).toList
  let state :=
    if breakingWords.contains text && (!state.literals.isEmpty || 0 < state.brackets) then
      let state := { state with literals := [], brackets := 0 }
      if runEnd row isBlank 0 = piece.start then state.dedentTo number piece.start piece.start else state
    else state
  .more (state.emitRun text number piece.start) piece.stop

def ScanState.takeLineBreak (state : ScanState) (number : Nat) (text : List Char) (piece : Piece) : Round :=
  let literals := if state.literals.any fun literal => !literal.spansLines then [] else state.literals
  let state := { state with literals := literals }
  let state :=
    if !state.fresh && state.brackets = 0 && literals.isEmpty then
      state.emit .newline text number piece.start state.spacing
    else { state with carried := state.spacing ++ text }
  .more { state with fresh := true } piece.stop

def ScanState.takeOperator (state : ScanState) (number : Nat) (text : List Char) (piece : Piece) : Round :=
  let opens := text = ['('] || text = ['['] || text = ['\x7b']
  let closes := text = [')'] || text = [']'] || text = ['\x7d']
  match state.literals.getLast? with
  | none =>
      let brackets := if opens then state.brackets + 1
        else if closes then state.brackets - 1 else state.brackets
      .more ({ state with brackets := brackets }.emit .operator text number piece.start state.spacing)
        piece.stop
  | some literal =>
      let emit (state : ScanState) := state.emit .operator text number piece.start state.spacing
      if opens then .more (emit (state.updateInnermost .openBracket)) piece.stop
      else if closes then .more (emit (state.updateInnermost .closeBracket)) piece.stop
      else if text.head? = some ':' && literal.brackets - literal.specifications = 1 then
        let state := state.updateInnermost fun literal =>
          { literal with specifications := literal.specifications + 1 }
        .more (state.emit .operator [':'] number piece.start state.spacing) (piece.start + 1)
      else .more (emit state) piece.stop

def ScanState.takePiece (state : ScanState) (number : Nat) (row : Array Char) (piece : Piece) : Round :=
  let text := (row.extract piece.start piece.stop).toList
  match piece.kind with
  | .number => .more (state.emit .number text number piece.start state.spacing) piece.stop
  | .name => state.takeName number row piece
  | .comment =>
      if state.literals.getLast?.any OpenFormatted.inField then
        .more (state.emit .stray ['#'] number piece.start state.spacing) (piece.start + 1)
      else .more { state with carried := state.spacing ++ text } piece.stop
  | .tripleStart => state.takeTriple number row piece
  | .single => state.takeSingle number row piece
  | .formattedStart =>
      let quote := text.dropWhile fun character => !isQuote character
      let state := state.emit .formattedStart text number piece.start state.spacing
      .more { state with literals := state.literals ++ [⟨quote, 0, 0, [], 0, 0⟩] } piece.stop
  | .continuation =>
      if piece.stop = row.size then
        .lineDone { state with
          carried := state.carried ++ state.spacing ++ (row.extract piece.start row.size).toList }
      else .more (state.emit .operator text number piece.start state.spacing) piece.stop
  | .ending => .lineDone { state with carried := state.spacing }
  | .operator =>
      if text.head?.any fun character => character = '\r' || character = '\n' then
        state.takeLineBreak number text piece
      else state.takeOperator number text piece

/-- One round outside literal text: the next piece of the line, or one stray character. -/
def ScanState.takeNext (state : ScanState) (number : Nat) (row : Array Char) (column : Nat) : Round :=
  let visible := if state.literals.isEmpty then row else fieldLine state.literals row column
  let settle (state : ScanState) (start : Nat) : ScanState :=
    if state.brackets = 0 && state.literals.isEmpty then state.indentTo number start else state
  match pieceAt? visible column with
  | some piece =>
      let spacing := state.carried ++ (row.extract column piece.start).toList
      let state := { state with spacing := spacing, carried := [] }
      if piece.kind = .ending then state.takePiece number visible piece
      else
        let opensLine := holdsAt row piece.start fun character =>
          character ≠ '\r' && character ≠ '\n' && character ≠ '#' && character ≠ '\\'
        let state := if state.fresh && opensLine then settle { state with fresh := false } piece.start
          else state
        state.takePiece number row piece
  | none =>
      let start := runEnd row isBlank column
      let state := if state.fresh then settle { state with fresh := false } start else state
      let spacing := state.carried ++ (row.extract column start).toList
      let state := state.emit .stray (row.extract start (start + 1)).toList number start spacing
      .more { state with carried := [], fresh := false } (start + 1)

/-- One round behind literal text: the quote that closes a formatted string, or a piece. -/
def ScanState.afterText (state : ScanState) (number : Nat) (row : Array Char) (column : Nat) : Round :=
  match closedLiteral? row column [] state.literals with
  | some (outside, literal, quoteAt) =>
      let spacing := state.carried ++ (row.extract column quoteAt).toList
      let state := state.emit .formattedEnd literal.quote number quoteAt spacing
      .more { state with literals := outside, carried := [] } (quoteAt + literal.quote.length)
  | none => state.takeNext number row column

/-- One round: literal text of the innermost formatted string, the quote that closes one, or a piece. -/
def ScanState.round (state : ScanState) (number : Nat) (row : Array Char) (column : Nat) : Round :=
  match state.literals.getLast? with
  | none => state.takeNext number row column
  | some literal =>
      if literal.inField then state.afterText number row column
      else
        let text := formattedTextAt state.literals literal row column
        let stop := column + text.length
        let (pendingLine, pendingColumn) :=
          if literal.pending.isEmpty && !text.isEmpty then (number, column)
          else (literal.pendingLine, literal.pendingColumn)
        let broken := text.getLast?.any fun character => character = '\r' || character = '\n'
        let pending := literal.pending ++ text
        let keep (pending : List Char) : ScanState :=
          state.updateInnermost fun literal =>
            { literal with pending := pending, pendingLine := pendingLine, pendingColumn := pendingColumn }
        let state :=
          if broken then keep pending
          else if pending.isEmpty then keep []
          else (keep []).emit .formattedText pending pendingLine pendingColumn []
        if stop = row.size then .lineDone state else state.afterText number row stop

def ScanState.rounds (number : Nat) (row : Array Char) : Nat → ScanState → Nat → ScanState
  | 0, state, _ => state
  | fuel + 1, state, column =>
      if column < row.size then
        match state.round number row column with
        | .more state column => rounds number row fuel state column
        | .lineDone state => state
      else state

def ScanState.scanLine (state : ScanState) (number : Nat) (row : Array Char) : ScanState :=
  let fuel := 2 * row.size + 2
  match state.openString with
  | none => ScanState.rounds number row fuel state 0
  | some literal =>
      match closingEnd? literal.quote row 0 with
      | none => { state with openString := some { literal with text := literal.text ++ row.toList } }
      | some stop =>
          let text := literal.text ++ (row.extract 0 stop).toList
          let state := state.emit .string text literal.line literal.column state.spacing
          ScanState.rounds number row fuel { state with openString := none } stop

/-- Gives out what is still open at the end of the text. -/
def ScanState.giveOpen (state : ScanState) : ScanState :=
  let state := match state.openString with
    | some literal => state.emit .stray literal.text literal.line literal.column state.spacing
    | none => state
  match state.literals.getLast? with
  | some literal =>
      if literal.pending.isEmpty then state
      else state.emit .formattedText literal.pending literal.pendingLine literal.pendingColumn []
  | none => state

/-- The closing tokens: what is still open at the end of the text, a dedent for every level, the end. -/
def ScanState.finish (state : ScanState) (row column : Nat) : Array Token :=
  let state := state.giveOpen
  let state := (state.levels.dropLast).foldl (fun state _ => state.emit .dedent [] row column []) state
  (state.emit .finish [] row column state.carried).tokens

/-- The mark that may stand before a text to tell its encoding; it belongs to the first spacing. -/
def byteOrderMark : Char := '\ufeff'

/-- The tokens of rows that are scanned one after another. -/
def ScanState.scanRows (start : ScanState) (rows : List (List Char)) : Array Token :=
  let (state, number) := rows.foldl (fun (state, number) row =>
    (ScanState.scanLine state (number + 1) row.toArray, number + 1)) (start, 0)
  state.finish number (rows.getLastD []).length

/-- The tokens of a source given by its lines. Columns of the first line do not count a leading byte order
mark. -/
def scan (lines : List (List Char)) : Array Token :=
  if (lines.head?.bind List.head?) = some byteOrderMark then
    { ScanState.start with carried := [byteOrderMark] }.scanRows ((lines.headD []).drop 1 :: lines.drop 1)
  else ScanState.start.scanRows lines

end LiveShell.Source
