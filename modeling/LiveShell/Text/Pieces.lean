/-!
Pieces of texts: finding one, cutting a text at them, and putting others in their place. All of it works on
lists of characters, or of anything else that can be compared.
-/

namespace LiveShell.Text

variable {α : Type} [BEq α]

/-- The first place from which a piece stands in a text. -/
def findPiece? (piece : List α) : Nat → List α → Option Nat
  | place, [] => if piece.isEmpty then some place else none
  | place, character :: rest =>
      if piece.isPrefixOf (character :: rest) then some place else findPiece? piece (place + 1) rest

/-- The last place from which a piece stands in a text. -/
def findLastPiece? (piece text : List α) : Option Nat :=
  (findPiece? piece.reverse 0 text.reverse).map fun place => text.length - piece.length - place

/-- A text cut at a piece, at most so many times. -/
def cutAt (piece : List α) : Nat → Option Nat → List α → List α → List (List α)
  | 0, _, done, text => [done.reverse ++ text]
  | _ + 1, _, done, [] => [done.reverse]
  | fuel + 1, limit, done, character :: rest =>
      if limit = some 0 then [done.reverse ++ character :: rest]
      else if piece.isPrefixOf (character :: rest) then
        done.reverse :: cutAt piece fuel (limit.map (· - 1)) [] ((character :: rest).drop piece.length)
      else cutAt piece fuel limit (character :: done) rest

def cut (piece : List α) (limit : Option Nat) (text : List α) : List (List α) :=
  cutAt piece (text.length + 1) limit [] text

/-- Cut from the end. -/
def cutFromEnd (piece : List α) (limit : Option Nat) (text : List α) : List (List α) :=
  ((cut piece.reverse limit text.reverse).map List.reverse).reverse

/-- How often a piece stands in a text, overlaps left out. -/
def countPieces (piece text : List α) : Nat :=
  if piece.isEmpty then text.length + 1 else (cut piece none text).length - 1

/-- A text between other texts. -/
def joinWith (between : List α) : List (List α) → List α
  | [] => []
  | [single] => single
  | first :: rest => first ++ between ++ joinWith between rest

/-- A text put before every character and at the end, at most so many times. -/
def spread (between : List α) : Option Nat → List α → List α
  | some 0, text => text
  | _, [] => between
  | limit, character :: rest => between ++ character :: spread between (limit.map (· - 1)) rest

def replacePieces (piece replacement : List α) (limit : Option Nat) (text : List α) : List α :=
  if piece.isEmpty then spread replacement limit text
  else joinWith replacement (cut piece limit text)

/-- A text cut at runs of blanks; those at its ends are dropped. -/
def cutAtBlanksBy (isBlank : α → Bool) : Nat → Option Nat → List α → List (List α)
  | 0, _, _ => []
  | fuel + 1, limit, text =>
      match text.dropWhile isBlank with
      | [] => []
      | rest =>
          if limit = some 0 then [rest]
          else rest.takeWhile (fun character => !isBlank character) ::
            cutAtBlanksBy isBlank fuel (limit.map (· - 1)) (rest.dropWhile fun character => !isBlank character)

def cutAtBlanks (isBlank : α → Bool) (limit : Option Nat) (text : List α) : List (List α) :=
  cutAtBlanksBy isBlank (text.length + 1) limit text

def dropEnd (drops : α → Bool) (text : List α) : List α := (text.reverse.dropWhile drops).reverse

/-- Cut at blanks from the end. -/
def cutAtBlanksFromEnd (isBlank : α → Bool) (limit : Option Nat) (text : List α) : List (List α) :=
  ((cutAtBlanks isBlank limit text.reverse).map List.reverse).reverse

/-- The text before a piece, the piece, and the text after it. -/
def partitionAt? (piece text : List α) : Option (List α × List α) :=
  (findPiece? piece 0 text).map fun place => (text.take place, text.drop (place + piece.length))

def partitionAtLast? (piece text : List α) : Option (List α × List α) :=
  (findLastPiece? piece text).map fun place => (text.take place, text.drop (place + piece.length))

/-- The characters that end a line of text. -/
def breaksLine (character : Char) : Bool :=
  ['\n', '\r', '\x0b', '\x0c', '\x1c', '\x1d', '\x1e', '\u0085', '\u2028', '\u2029'].contains character

/-- The lines of a text, with or without the characters that end them. -/
def cutLines (breaks : Char → Bool) (keep : Bool) : List Char → List Char → List (List Char)
  | done, [] => if done.isEmpty then [] else [done.reverse]
  | done, '\r' :: '\n' :: rest =>
      (done.reverse ++ if keep then ['\r', '\n'] else []) :: cutLines breaks keep [] rest
  | done, character :: rest =>
      if breaks character then
        (done.reverse ++ if keep then [character] else []) :: cutLines breaks keep [] rest
      else cutLines breaks keep (character :: done) rest

/-- Tabs as blanks up to the next column that is a multiple of a width. -/
def expandTabs (width : Nat) : Nat → List Char → List Char
  | _, [] => []
  | column, '\t' :: rest =>
      let count := if width = 0 then 0 else width - column % width
      List.replicate count ' ' ++ expandTabs width (column + count) rest
  | column, character :: rest =>
      character :: expandTabs width (if character = '\n' || character = '\r' then 0 else column + 1) rest

/-- A text in the middle of a wider field. -/
def center (width : Nat) (fill : Char) (text : List Char) : List Char :=
  let space := width - text.length
  let left := space / 2 + (space % 2) * (width % 2)
  List.replicate left fill ++ text ++ List.replicate (space - left) fill

/-- Zeros before a text, after its sign. -/
def zeroFill (width : Nat) (text : List Char) : List Char :=
  let zeros := List.replicate (width - text.length) '0'
  match text with
  | sign :: rest => if sign = '+' || sign = '-' then sign :: zeros ++ rest else zeros ++ text
  | [] => zeros

end LiveShell.Text
