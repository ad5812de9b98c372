import LiveShell.Locate.Build
import LiveShell.Source.Recovery

/-!
From a cursor to a node. An unterminated string literal owns the rest of its line; otherwise the leaf that
the cursor touches, or the one before it when nothing has been typed yet, decides.
-/

namespace LiveShell.Locate

open Source

/-- Whether a leaf is the opening of a string literal that is never closed. -/
def isOpenQuote (leaf : Leaf) : Bool :=
  leaf.kind = .stray .stray && !(Literal.opening leaf.text.toList).2.isEmpty

/-- The leftmost open quote at or before a place whose leaf starts no later than the cursor, among the
leaves that end on a line or below it. -/
def openQuoteFrom (leaves : Array Leaf) (line cursor : Nat) : Nat → Option Nat → Option Nat
  | place, found =>
      let leaf := leafAt leaves place
      if leaf.stopLine < line then found
      else
        let found := if isOpenQuote leaf && leaf.start ≤ cursor then some place else found
        match place with
        | 0 => found
        | place + 1 => openQuoteFrom leaves line cursor place found

/-- Letters that may stand before a quote that the scanner took apart from them. -/
def onlyLiteralLetters (text : String) : Bool :=
  text.toList.all ['r', 'R', 'u', 'U', 'b', 'B'].contains

/-- Where the literal starts that a lone open quote opens: with its letters, if those stand right before it. -/
def openStart (leaves : Array Leaf) (found : Nat) : Nat :=
  let quote := leafAt leaves found
  match found with
  | 0 => quote.start
  | before + 1 =>
      let letters := leafAt leaves before
      if letters.kind = .name && quote.spacing = "" && onlyLiteralLetters letters.text then letters.start
      else quote.start

/-- The unterminated string literal that holds the cursor, if any. A lone quote owns the rest of the line; a
longer one, over several lines, runs to its own end. -/
def openString (parsed : Parsed) (cursor place : Nat) : Except Fault (Option Node) :=
  let line := parsed.lines.lineAt cursor
  match openQuoteFrom parsed.leaves line cursor place none with
  | none => pure none
  | some found =>
      let quote := leafAt parsed.leaves found
      if 1 < quote.text.length then some <$> stringNode parsed (leafSpan quote) false
      else
        let stop := (parsed.lines.lineEnd? line).getD parsed.text.size
        some <$> stringNode parsed ⟨openStart parsed.leaves found, stop⟩ false

/-- The node for a cursor after a leaf, with nothing typed yet. -/
def afterLeaf (parsed : Parsed) (cursor : Nat) : Option Nat → Except Fault (Option Node)
  | none => pure none
  | some place =>
      let leaf := leafAt parsed.leaves place
      let missing : Node := .identifier ⟨cursor, cursor⟩ placeholder
      if leaf.kind = .newline then pure none
      else if isDot leaf then attributeNode (expressionNode parsed) parsed place missing
      else if expectsOperand leaf then pure (some missing)
      else match enclosingOpener? parsed.leaves place with
        | none => pure none
        | some opener => some <$> groupNode (expressionNode parsed) parsed opener

/-- Between an operator that ends at the cursor and an operand that starts there, the operand counts. -/
def settleTie (parsed : Parsed) (cursor place : Nat) : Nat :=
  let leaf := leafAt parsed.leaves place
  if isOperator leaf && cursor = leaf.stop && !isCloser leaf then
    match next? parsed.leaves place with
    | some following =>
        let next := leafAt parsed.leaves following
        if next.start = cursor && (isName next || next.kind = .string || next.kind = .number) then following
        else place
    | none => place
  else place

/-- The node of the leaf that the cursor touches. -/
def touched (parsed : Parsed) (cursor place : Nat) : Except Fault (Option Node) := do
  let leaf := leafAt parsed.leaves place
  let before := previous? parsed.leaves place
  if isName leaf || isKeywordLeaf leaf then
    let name ← leafNode parsed place
    match isName leaf && holds parsed.leaves isDot before, before with
    | true, some dot =>
        let access ← attributeNode (expressionNode parsed) parsed dot name
        pure (some (access.getD name))
    | _, _ => pure (some name)
  else if isCloser leaf then
    if cursor = leaf.start then afterLeaf parsed cursor before
    else match matchingOpener? parsed.leaves place with
      | some opener => some <$> groupNode (expressionNode parsed) parsed opener
      | none => pure none
  else if isOperator leaf then
    if cursor = leaf.start then afterLeaf parsed cursor before
    else afterLeaf parsed cursor (some place)
  else some <$> leafNode parsed place

/-- The smallest node that encloses a cursor inside the source. -/
def locateIn (parsed : Parsed) (cursor : Nat) : Except Fault (Option Node) :=
  match parsed.leafAt? cursor with
  | none => throw .pastEnd
  | some place => do
      match ← openString parsed cursor place with
      | some node => pure (some node)
      | none =>
          let leaf := leafAt parsed.leaves place
          let before := previous? parsed.leaves place
          if leaf.text = "" || cursor < leaf.start then afterLeaf parsed cursor before
          else if leaf.kind = .newline then
            afterLeaf parsed cursor (if cursor = leaf.stop then some place else before)
          else touched parsed cursor (settleTie parsed cursor place)

/-- The nearest offset inside a source of some length. -/
def clampCursor (length : Nat) (cursor : Int) : Nat := (max 0 (min cursor length)).toNat

/-- The smallest node that encloses a cursor, or none. Any cursor is taken to the nearest offset inside. -/
def locate (source : String) (cursor : Int) : Except Fault (Option Node) :=
  let parsed := parse source
  locateIn parsed (clampCursor parsed.text.size cursor)

end LiveShell.Locate
