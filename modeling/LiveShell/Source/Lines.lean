/-!
Lines of a source text and the two ways to name a place in it: a character offset, and a line with a
column. A line keeps its break; the last line has none, so the lines always concatenate to the text.
-/

namespace LiveShell.Source

/-- Cuts text after every `\n`, `\r\n` and lone `\r`. The last piece has no break and may be empty. -/
def linesOf : List Char → List (List Char)
  | [] => [[]]
  | '\r' :: '\n' :: rest => ['\r', '\n'] :: linesOf rest
  | character :: rest =>
      if character = '\n' ∨ character = '\r' then [character] :: linesOf rest
      else match linesOf rest with
        | [] => [[character]]
        | line :: lines => (character :: line) :: lines

/-- Offsets at which the lines start, the first one at `start`. -/
def lineStarts (start : Nat) : List (List Char) → List Nat
  | [] => []
  | line :: lines => start :: lineStarts (start + line.length) lines

/-- A line without its break. -/
def dropBreak (line : List Char) : List Char :=
  (line.reverse.dropWhile fun character => character = '\n' ∨ character = '\r').reverse

/-- Line numbers start at one; columns count characters from zero. -/
structure Position where
  line : Int
  column : Int
deriving DecidableEq, Repr, Inhabited

/-- The lines of a text with the offset of every line's first character. -/
structure Lines where
  texts : Array (List Char)
  starts : Array Nat
  length : Nat
deriving Inhabited

def Lines.of (text : List Char) : Lines :=
  let lines := linesOf text
  { texts := lines.toArray
    starts := (lineStarts 0 lines).toArray
    length := text.length }

/-- The index of a line in the tables. Numbers below one count back from the last line. -/
def Lines.index? (lines : Lines) (line : Int) : Option Nat :=
  let index := line - 1
  let index := if index < 0 then index + lines.starts.size else index
  if 0 ≤ index ∧ index < lines.starts.size then some index.toNat else none

/-- The offset of a place; a place past the end stands for the end. No line of that number, no offset. -/
def Lines.offset? (lines : Lines) (place : Position) : Option Int :=
  (lines.index? place.line).map fun index =>
    min (lines.starts.getD index 0 + place.column) lines.length

/-- The number of lines that start at or before an offset. -/
def Lines.countUpTo (lines : Lines) (offset : Int) : Nat :=
  (lines.starts.toList.takeWhile fun (start : Nat) => decide ((start : Int) ≤ offset)).length

/-- The line and column of an offset. An offset before the text is told from the last line's start. -/
def Lines.position (lines : Lines) (offset : Int) : Position :=
  let line := lines.countUpTo offset
  let start := if line = 0 then lines.starts.back?.getD 0 else lines.starts.getD (line - 1) 0
  { line := line, column := offset - start }

/-- The offset of the end of a line, before its break. -/
def Lines.lineEnd? (lines : Lines) (line : Int) : Option Nat :=
  (lines.index? line).map fun index =>
    lines.starts.getD index 0 + (dropBreak (lines.texts.getD index [])).length

/-- The offset of a line and column inside the text, the end of the text for any other. -/
def Lines.offsetAt (lines : Lines) (line column : Nat) : Nat :=
  match lines.starts[line - 1]? with
  | some start => min (start + column) lines.length
  | none => lines.length

/-- The number of the line that holds an offset. -/
def Lines.lineAt (lines : Lines) (offset : Nat) : Nat := lines.countUpTo offset

end LiveShell.Source
