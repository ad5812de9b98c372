import LiveShell.Text.CharacterClass

/-!
Texts cut to a width. Blanks collapse to one; then the text is cut into chunks, runs of blanks and pieces
of words that may end after a hyphen, and as many chunks as fit stay, with a mark for what was left out.
-/

namespace LiveShell.Text

/-- A letter or underscore: a word character that is no digit. -/
def isWordLetter (character : Char) : Bool :=
  isWordCharacter character && !isDecimalDigit character

/-- What may stand before a dash between two words. -/
def isBeforeDash (character : Char) : Bool :=
  isWordCharacter character || ['!', '\x22', '\x27', '&', '.', ',', '?'].contains character

/-- The words of a text, without any blanks. -/
def words (text : List Char) : List (List Char) :=
  let rec gather (word : List Char) : List Char → List (List Char)
    | [] => if word.isEmpty then [] else [word.reverse]
    | character :: rest =>
        if isSpace character then
          if word.isEmpty then gather [] rest else word.reverse :: gather [] rest
        else gather (character :: word) rest
  gather [] text

def spaced (words : List (List Char)) : List Char := (words.intersperse [' ']).flatten

def runOf (belongs : Char → Bool) (text : Array Char) (place : Nat) : Nat :=
  if h : place < text.size then
    if belongs text[place] then runOf belongs text (place + 1) else place
  else place
termination_by text.size - place

def holdsAtPlace (text : Array Char) (place : Int) (belongs : Char → Bool) : Bool :=
  if place < 0 then false
  else match text[place.toNat]? with
    | some character => belongs character
    | none => false

/-- Where two or more dashes that lead to a word end. -/
def dashesEnd? (text : Array Char) (place : Nat) : Option Nat :=
  let stop := runOf (· = '-') text place
  if place + 2 ≤ stop && holdsAtPlace text stop isWordCharacter then some stop else none

/-- Whether the hyphen at a place stands inside a compound word, so that a line may end after it. -/
def breaksAfterHyphen (text : Array Char) (place : Nat) : Bool :=
  let near (offset : Int) (belongs : Char → Bool) : Bool := holdsAtPlace text (place + offset) belongs
  let before := (near (-2) isWordLetter && near (-1) isWordLetter) ||
    (near (-3) isWordLetter && near (-2) (· = '-') && near (-1) isBeforeDash)
  let after := near 1 isWordLetter && (near 2 isWordLetter || (near 2 (· = '-') && near 3 isWordLetter))
  near 0 (· = '-') && before && after

/-- The end of the piece of a word whose first character lies before a place. -/
def wordPieceEnd (text : Array Char) (place : Nat) : Nat :=
  if h : place < text.size then
    if breaksAfterHyphen text place then place + 1
    else if text[place] = ' ' then place
    else if holdsAtPlace text (place - 1) isBeforeDash && (dashesEnd? text place).isSome then place
    else wordPieceEnd text (place + 1)
  else place
termination_by text.size - place

/-- The end of the chunk that starts at a place. -/
def chunkEnd (text : Array Char) (place : Nat) : Nat :=
  if holdsAtPlace text place (· = ' ') then runOf (· = ' ') text place
  else match dashesEnd? text place with
    | some stop =>
        if holdsAtPlace text (place - 1) isBeforeDash then stop else wordPieceEnd text (place + 1)
    | none => wordPieceEnd text (place + 1)

def chunksFrom (text : Array Char) : Nat → Nat → List (List Char)
  | 0, _ => []
  | fuel + 1, place =>
      if place < text.size then
        let stop := max (chunkEnd text place) (place + 1)
        (text.extract place stop).toList :: chunksFrom text fuel stop
      else []

def chunks (text : List Char) : List (List Char) := chunksFrom text.toArray text.length 0

/-- The longest run of chunks within a width, last chunk first, and the chunks after it. -/
def takeFitting (width : Nat) (taken : List (List Char)) (length : Nat) :
    List (List Char) → List (List Char) × Nat × List (List Char)
  | [] => (taken, length, [])
  | chunk :: rest =>
      if length + chunk.length ≤ width then takeFitting width (chunk :: taken) (length + chunk.length) rest
      else (taken, length, chunk :: rest)

/-- Where to cut a chunk that is wider than a whole line: after the last hyphen in the room left, if there
is one after something else than hyphens, else at its end. -/
def cutWithin (room : Nat) (chunk : List Char) : Nat :=
  let inside := chunk.take room
  let afterLast := (inside.reverse.dropWhile (· ≠ '-')).length
  if room < chunk.length && 1 < afterLast && (inside.take (afterLast - 1)).any (· ≠ '-') then afterLast
  else room

/-- Drops chunks from the end until a word is last and the mark fits after it. -/
def markAfter (width : Nat) (mark : List Char) : Nat → List (List Char) → List Char
  | _, [] => mark
  | length, chunk :: before =>
      if chunk ≠ [' '] && length + mark.length ≤ width then
        (chunk :: before).reverse.flatten ++ mark
      else markAfter width mark (length - chunk.length) before

/-- A text on one line of at most some width, blanks collapsed, with a mark in place of what does not
fit. -/
def shorten (width : Nat) (mark : List Char) (text : List Char) : List Char :=
  let (taken, length, rest) := takeFitting width [] 0 (chunks (spaced (words text)))
  let (taken, length, rest) := match rest with
    | chunk :: later =>
        if width < chunk.length then
          let cut := cutWithin (width - length) chunk
          let piece := chunk.take cut
          (piece :: taken, length + piece.length, chunk.drop cut :: later)
        else (taken, length, rest)
    | [] => (taken, length, [])
  let (taken, length) := match taken with
    | [' '] :: before => (before, length - 1)
    | taken => (taken, length)
  if rest.isEmpty || (rest = [[' ']] && length ≤ width) then taken.reverse.flatten
  else markAfter width mark length taken

end LiveShell.Text
