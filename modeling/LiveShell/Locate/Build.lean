import LiveShell.Locate.Brackets
import LiveShell.Locate.Literal
import LiveShell.Node

/-!
Nodes rebuilt from leaves. The grammar has no say here: a primary is read off the brackets and dots around
its last leaf, so that broken source gives nodes as well.
-/

namespace LiveShell.Locate

open Source

/-- Faults that only a source with a leading byte order mark can cause, because its first line is one
character longer than its leaves tell. -/
inductive Fault
  /-- The cursor lies past the last leaf. -/
  | pastEnd
  /-- A string leaf does not start with letters and a quote. -/
  | noQuote
deriving DecidableEq, Repr

def Fault.message : Fault → String
  | pastEnd => "Please provide a position that exists within this node."
  | noQuote => "'NoneType' object has no attribute 'group'"

/-- A string literal from its span; an unterminated one has no closing quote to leave out. -/
def stringNode (parsed : Parsed) (span : Span) (closed : Bool) : Except Fault Node :=
  let raw := (parsed.text.extract span.start span.stop).toList
  let (letters, quote) := Literal.opening raw
  if quote.isEmpty then throw .noQuote
  else if !Literal.isPlain letters then pure (.other span)
  else
    let payload := raw.drop (letters.length + quote.length)
    let kept := raw.length - quote.length - (letters.length + quote.length)
    let value := if closed then payload.take kept else payload
    pure (.string span (String.ofList value) (String.ofList raw))

def leafSpan (leaf : Leaf) : Span := ⟨leaf.start, leaf.stop⟩

def leafNode (parsed : Parsed) (place : Nat) : Except Fault Node :=
  let leaf := leafAt parsed.leaves place
  if isName leaf || isKeywordLeaf leaf then pure (.identifier (leafSpan leaf) leaf.text)
  else if leaf.kind = .string then stringNode parsed (leafSpan leaf) true
  else pure (.other (leafSpan leaf))

/-- The node of the leaves from a first to a last one. -/
def spanNode (parsed : Parsed) (first last : Nat) : Except Fault Node :=
  if first = last then leafNode parsed first
  else pure (.other ⟨(leafAt parsed.leaves first).start, (leafAt parsed.leaves last).stop⟩)

/-- Scans the arguments of a call: pieces between commas at depth zero. `piece` is the first and the last
leaf of the piece under way. -/
def argumentsFrom (parsed : Parsed) (closer : Option Nat) :
    Nat → Nat → Int → Option (Nat × Nat) → Except Fault (List Node)
  | 0, _, _, piece => finishPiece piece
  | count + 1, place, depth, piece =>
      let leaf := leafAt parsed.leaves place
      if closer = some place || leaf.kind = .finish then finishPiece piece
      else if isEmpty leaf then argumentsFrom parsed closer count (place + 1) depth piece
      else if depth = 0 && isOneOf [","] leaf then do
        let before ← finishPiece piece
        let rest ← argumentsFrom parsed closer count (place + 1) depth none
        pure (before ++ rest)
      else if leaf.kind = .newline then argumentsFrom parsed closer count (place + 1) depth piece
      else
        let depth := if isOpener leaf then depth + 1 else if isCloser leaf then depth - 1 else depth
        argumentsFrom parsed closer count (place + 1) depth (some ((piece.map Prod.fst).getD place, place))
where
  finishPiece : Option (Nat × Nat) → Except Fault (List Node)
    | some (first, last) => do
        let node ← spanNode parsed first last
        pure [node]
    | none => pure []

/-- The arguments between an opening bracket and its closer, or the end of the source. -/
def argumentNodes (parsed : Parsed) (opener : Nat) (closer : Option Nat) : Except Fault (List Node) :=
  argumentsFrom parsed closer (parsed.leaves.size - (opener + 1)) (opener + 1) 0 none

/-- The access through a dot: the primary before it and a property. -/
def attributeNode (expression : Nat → Nat → Except Fault Node) (parsed : Parsed) (dot : Nat)
    (property : Node) : Except Fault (Option Node) :=
  match previous? parsed.leaves dot with
  | none => pure none
  | some last =>
      if endsOperand (leafAt parsed.leaves last) then
        match primaryStart? parsed.leaves last with
        | none => pure none
        | some first => do
            let object ← expression first last
            pure (some (.member ⟨object.start, property.stop⟩ object property false))
      else pure none

/-- The call, computed access or plain group that an opening bracket starts. An unclosed group runs to the
end of the source. -/
def groupNode (expression : Nat → Nat → Except Fault Node) (parsed : Parsed) (opener : Nat) :
    Except Fault Node :=
  let leaf := leafAt parsed.leaves opener
  let closer := matchingCloser? parsed.leaves opener
  let stop := (closer.map fun place => (leafAt parsed.leaves place).stop).getD parsed.text.size
  let plain : Except Fault Node := pure (.other ⟨leaf.start, stop⟩)
  match previous? parsed.leaves opener with
  | none => plain
  | some before =>
      if opensTrailer leaf && endsOperand (leafAt parsed.leaves before) then
        match primaryStart? parsed.leaves before with
        | none => plain
        | some first => do
            let target ← expression first before
            if leaf.text = "(" then
              let arguments ← argumentNodes parsed opener closer
              pure (.call ⟨target.start, stop⟩ target arguments)
            else
              let innerStop :=
                (closer.map fun place => (leafAt parsed.leaves place).start).getD stop
              pure (.member ⟨target.start, stop⟩ target (.other ⟨leaf.stop, innerStop⟩) true)
      else plain

/-- The access or the group that the last leaf of a primary ends, if it ends one that starts after the first
leaf. -/
def trailerNode (expression : Nat → Nat → Except Fault Node) (parsed : Parsed) (first last : Nat) :
    Except Fault (Option Node) :=
  let leaf := leafAt parsed.leaves last
  let before := previous? parsed.leaves last
  if isName leaf && holds parsed.leaves isDot before then
    match before with
    | some dot => do
        let property ← leafNode parsed last
        attributeNode expression parsed dot property
    | none => pure none
  else if isOneOf [")", "]"] leaf then
    match matchingOpener? parsed.leaves last with
    | some opener =>
        if opener = first then pure none
        else some <$> groupNode expression parsed opener
    | none => pure none
  else pure none

/-- The node of the primary from a first to a last leaf. The last trailer decides its kind; every step down
moves to the left of it, so the number of leaves bounds the depth. -/
def expressionWithin (parsed : Parsed) : Nat → Nat → Nat → Except Fault Node
  | 0, first, last => spanNode parsed first last
  | depth + 1, first, last =>
      if first = last then leafNode parsed last
      else do
        match ← trailerNode (expressionWithin parsed depth) parsed first last with
        | some node =>
            if node.start = (leafAt parsed.leaves first).start then pure node
            else spanNode parsed first last
        | none => spanNode parsed first last

def expressionNode (parsed : Parsed) (first last : Nat) : Except Fault Node :=
  expressionWithin parsed (last + 1) first last

end LiveShell.Locate
