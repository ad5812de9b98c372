import LiveShell.Text.CharacterClass
import LiveShell.Text.Pieces

/-!
Text on a console of a given width. Widths count cells: a character of the wide scripts fills two, a mark on
another character none. Lines break at blanks, and inside a word only when no line could hold it.
-/

namespace LiveShell.Text

/-- Characters that fill two cells. -/
def wideRanges : Ranges :=
  Ranges.ofText
    "3cw 2n 3i3 1 e 1 5b 3 4 0 3 0 ei 1 m 1 1f b 18 0 k 0 e 0 9 1 i 1 6 1 9 0 6 0 m 0 8 1 2 0 5 0 3 0 8 0
     5 1 t 0 10 0 2 0 5 2 2 0 1q 2 p 0 f 0 nw 1 1g 0 5 0 mj p 2 2g d 5x r b 5 15 5 g 3 2d 5 2s 6 16 2 2l
     2 2b d 1a 2 13 9 5f3 1t h3g 4 1i wq s hw 8mb 6l9 a5 3 2x mv 9 n y 2 i 2 3 46 2n 3k 6 m4a 3 d 1 f 4qf
     9 yd 17 8 6w8 3 2 6 2 1 2 82 1a 2 i 3 9 az c21 0 5n 0 5b 0 3 9 2u 2 e 17 5 8 8 1 f 5 4b w d 8 2 1x 2
     l d 16 5 4 d g 4 0 4 1y 2 0 2 56 3 1q e 3 2 n j 0 r 1 e 0 2f 2c 1d 1x 7 0 4 2 3 2 6 2 c 1 8 8 6c b 5
     0 7w 1a 2 9 2 54 35 4 4 4 4 6 a s 4 a 6 5 b 9 7 7 9 6 zu wyn x 37c 8 65 3 4g1 f 5rk 2e8 f1 15v 3t6"

/-- Characters that fill no cell. -/
def markRanges : Ranges :=
  Ranges.ofText
    "lc 33 7o 6 7c 18 2 0 2 1 2 1 2 0 21 a 1d k h 0 2u 6 3 5 3 1 2 3 10 0 v q 2k a 1n 8 a 0 p 3 2 8 2 2 2
     4 18 2 1p 7 17 n 2 v 1k 0 2 0 5 7 5 0 4 6 b 1 u 0 1n 0 5 3 9 0 l 1 r 0 3 1 1m 0 5 1 5 1 3 2 4 0 v 1
     4 0 c 1 1m 0 5 4 2 1 5 0 l 1 n 5 2 0 1n 0 3 0 2 3 9 0 8 1 c 1 v 0 1q 0 d 0 1f 0 4 0 1k 0 2 2 6 2 2 3
     8 1 c 1 u 0 1n 0 3 0 7 0 6 1 l 1 t 1 1m 1 5 3 9 0 l 1 u 0 21 0 8 2 2 0 2j 0 3 6 d 7 2r 0 3 8 c 5 23
     1 s 0 2 0 2 0 1k d 2 4 2 1 6 a 2 z a 0 2v 3 2 5 2 1 3 1 q 1 5 2 h 3 e 0 3 1 7 0 g 0 jk 2 qb 2 u 1 v
     1 v 1 1t 1 2 6 9 0 3 a a 0 1a 2 2 0 3a 1 z 0 3b 2 5 1 a 0 7 2 64 1 3 0 1n 0 2 6 2 0 2 0 3 7 7 9 3 0
     1d u 1e 3 1d 0 2 4 2 0 6 0 15 8 d 1 x 3 3 1 2 2 1l 0 2 1 4 0 2 2 1n 7 3 1 49 2 2 c 2 6 5 0 7 0 4 1
     5j 1r ek 4 p 6 1e 3 31 w 2db 2 3y 0 2p v ff 3 30 1 n9x 3 2 9 x 1 29 1 7l 0 4 0 5 0 q 1 6 0 48 1 r h
     e 0 13 7 q a 1b 2 1d 0 3 3 3 1 14 0 1w 5 3 1 3 1 d 0 9 0 1c 0 1g 0 2 2 3 1 6 1 2 0 17 1 9 0 6n 0 3 0
     5 0 fn5 0 ki f h f r2 0 6b 0 46 4 1af 2 2 1 6 3 15 2 5 0 4m 1 fy 3 as 1 4a a 1e 3 3g 0 1j e 16 0 3 1
     b 2 1e 3 3 1 8 0 1q 2 11 4 2 7 1r 0 d 1 1h 8 b 3 3 0 2o 2 3 0 2 1 7 0 4h 0 4 7 m 1 1m 1 4 0 12 6 4 4
     5g 7 3 2 2 0 o 0 2d 5 2 0 5 1 2 1 6n 3 7 1 2 1 s 1 2e 7 3 0 2 1 2z 0 2 0 3 5 2 0 2u 2 3 3 2 4 78 8 2
     1 75 1 2 0 5 0 41 3 3 1 5 0 x 9 15 5 3 3 9 0 a 5 3 2 1b c 2 1 bb 6 2 5 2 0 2b l 3 6 2 1 2 1 3f 5 4 0
     2 1 2 6 2 0 21 1 4 0 2 0 9o 1 f0c 4 1o 6 t5 0 1s 3 2a 0 f5l 1 3mq 19 3 m f5 2 i 7 3 6 v 3 45 2 1j0
     1i 5 1d 9 0 f 0 n 4 2 e 11t 6 2 g 3 6 2 1 2 4 7a 6 ag 0 1q 3 15t 6 32 6 gzhy 6n"

def cellsOf (character : Char) : Nat :=
  if character.toNat < 0x300 then 1
  else if markRanges.contains character.toNat then 0
  else if wideRanges.contains character.toNat then 2
  else 1

def cellCount (text : List Char) : Nat := text.foldl (fun count character => count + cellsOf character) 0

/-- The words of a text, each with the blanks around it; blanks before a word belong to it only at the
start. -/
def spacedWords (text : List Char) : List (List Char) :=
  let lead := text.takeWhile isSpace
  match splitWords [] (text.dropWhile isSpace) with
  | [] => []
  | word :: words => (lead ++ word) :: words
where
  splitWords : List Char → List Char → List (List Char)
    | done, [] => if done.isEmpty then [] else [done.reverse]
    | done, character :: rest =>
        if !isSpace character && (done.head?.any isSpace) then done.reverse :: splitWords [character] rest
        else splitWords (character :: done) rest

/-- A word in pieces that each fit a width. -/
def foldWord (width : Nat) : List Char → Nat → List Char → List (List Char)
  | done, _, [] => if done.isEmpty then [] else [done.reverse]
  | done, filled, character :: rest =>
      if width < filled + cellsOf character && !done.isEmpty then
        done.reverse :: foldWord width [character] (cellsOf character) rest
      else foldWord width (character :: done) (filled + cellsOf character) rest

/-- Puts words on lines: `line` is the line being filled, the last one of those already full is first. -/
def fillLines (width : Nat) : List (List Char) → List Char → List (List Char) → List (List Char)
  | full, line, [] => (line :: full).reverse
  | full, line, word :: words =>
      let size := cellCount (dropEnd isSpace word)
      if cellCount line + size ≤ width then fillLines width full (line ++ word) words
      else
        let full := if line.isEmpty then full else line :: full
        if size ≤ width then fillLines width full word words
        else
          let pieces := (foldWord width [] 0 word).reverse
          fillLines width (pieces.drop 1 ++ full) (pieces.headD []) words

/-- A line without the blanks at its end that lie behind a width. -/
def trimBehind (width : Nat) (line : List Char) : List Char :=
  let blanks := (line.reverse.takeWhile isSpace).length
  line.take (line.length - min blanks (cellCount line - width))

/-- One line as the lines that it takes. -/
def wrapLine (width : Nat) (line : List Char) : List (List Char) :=
  let words := spacedWords line
  let lines := if words.isEmpty then [line] else fillLines width [] [] words
  lines.map (trimBehind width)

/-- The characters that a console does not show. -/
def isConsoleControl (character : Char) : Bool :=
  ['\x07', '\x08', '\x0b', '\x0c', '\r'].contains character

/-- A text as a console shows it, with a line break at the end. -/
def onConsole (width : Nat) (text : String) : String :=
  let characters := text.toList.filter fun character => !isConsoleControl character
  let lines := (splitAtEach '\n' characters).flatMap fun line => wrapLine width (expandTabs 8 0 line)
  String.ofList (lines.flatMap (· ++ ['\n']))

end LiveShell.Text
