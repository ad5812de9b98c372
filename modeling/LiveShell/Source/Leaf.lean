import LiveShell.Source.Lines
import LiveShell.Source.Token

/-!
Leaves: the tokens of a source as the parser has placed them. A token that fits the grammar becomes a leaf
of its class, any other a stray leaf. Leaves are told apart by their offsets in the source.
-/

namespace LiveShell.Source

inductive LeafKind
  | name
  | keyword
  | operator
  | number
  | string
  | newline
  | finish
  | formattedStart
  | formattedText
  /-- The closing quote of a formatted string that starts `back` leaves earlier. -/
  | formattedEnd (back : Nat)
  /-- A token that fits nowhere. -/
  | stray (kind : TokenKind)
deriving DecidableEq, Repr, Inhabited

/-- A leaf covers the source from `start` to `stop`; `stopLine` is the number of the line it ends on. -/
structure Leaf where
  kind : LeafKind
  text : String
  spacing : String
  start : Nat
  stop : Nat
  stopLine : Nat
deriving Repr, Inhabited

/-- A source with its lines and its leaves in order; the last leaf is the end. -/
structure Parsed where
  text : Array Char
  lines : Lines
  leaves : Array Leaf
deriving Inhabited

def Parsed.slice (parsed : Parsed) (start stop : Nat) : String :=
  String.ofList (parsed.text.extract start stop).toList

/-- The first leaf that ends at or after an offset, if the leaves reach that far. -/
def Parsed.leafAt? (parsed : Parsed) (offset : Nat) : Option Nat :=
  parsed.leaves.findIdx? fun leaf => offset ≤ leaf.stop

/-- A leaf of some class made of a token. -/
def Token.leaf (lines : Lines) (kind : LeafKind) (token : Token) : Leaf :=
  let pieces := linesOf token.text
  let breaks := pieces.length - 1
  let lastColumn := (pieces.getLastD []).length + if breaks = 0 then token.column else 0
  { kind := kind
    text := String.ofList token.text
    spacing := String.ofList token.spacing
    start := lines.offsetAt token.line token.column
    stop := lines.offsetAt (token.line + breaks) lastColumn
    stopLine := token.line + breaks }

end LiveShell.Source
