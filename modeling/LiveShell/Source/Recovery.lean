import LiveShell.Source.Grammar
import LiveShell.Source.Leaf
import LiveShell.Source.Scan

/-!
The parser that never fails. It keeps a stack of the phrases under way. A token that fits nowhere closes
every phrase up to the nearest block or the file, and is tried again there; if even that fails it becomes a
stray leaf. Only the leaves are kept, since all that is asked of the tree is which leaves there are, of what
class, and where a formatted string begins.
-/

namespace LiveShell.Source

/-- A phrase under way: what may still follow, the leaves so far and from how many parts they come. -/
structure Frame where
  phrase : Phrase
  rest : Pattern
  leaves : Array Leaf
  parts : Nat
deriving Inhabited

/-- The innermost phrase comes first. -/
abbrev Stack := List Frame

/-- How a pattern takes a symbol: what follows it, and the phrases that start with it, outermost first. -/
def descend : Nat → Symbol → Pattern → Option (Pattern × List (Phrase × Pattern))
  | 0, _, _ => none
  | depth + 1, symbol, pattern =>
      let starts := pattern.starts
      if starts.contains symbol then some (pattern.after symbol, [])
      else starts.findSome? fun start =>
        match start with
        | .phrase phrase =>
            if phrase.first.contains symbol then
              (descend depth symbol phrase.pattern).map fun (rest, inner) =>
                (pattern.after start, (phrase, rest) :: inner)
            else none
        | _ => none

/-- The leaves of a finished phrase. The marks of a block's indentation are no leaves of the tree. -/
def Frame.finished (frame : Frame) : Array Leaf :=
  if frame.phrase = .suite && 1 < frame.parts then
    frame.leaves.extract 0 1 ++ frame.leaves.extract 2 (frame.leaves.size - 1)
  else frame.leaves

def Frame.addPart (frame : Frame) (leaves : Array Leaf) : Frame :=
  { frame with leaves := frame.leaves ++ leaves, parts := frame.parts + 1 }

/-- Closes finished phrases until one can take a symbol. -/
def closeFinished (symbol : Symbol) : Stack → Stack × Option (Pattern × List (Phrase × Pattern))
  | [] => ([], none)
  | frame :: below =>
      match descend phraseDepth symbol frame.rest with
      | some plan => (frame :: below, some plan)
      | none =>
          if frame.rest.accepts then
            match below with
            | [] => ([frame], none)
            | outer :: below => closeFinished symbol (outer.addPart frame.finished :: below)
          else (frame :: below, none)
termination_by stack => stack.length

def leafKind (token : Token) (leavesBefore : Nat) : LeafKind :=
  match token.kind with
  | .name => if isKeyword token.text then .keyword else .name
  | .number => .number
  | .string => .string
  | .newline => .newline
  | .finish => .finish
  | .formattedStart => .formattedStart
  | .formattedText => .formattedText
  | .formattedEnd => .formattedEnd leavesBefore
  | _ => .operator

def Stack.addLeaf (lines : Lines) (token : Token) : Stack → Stack
  | [] => []
  | frame :: below => frame.addPart #[token.leaf lines (leafKind token frame.leaves.size)] :: below

/-- Puts a phrase that starts on the stack. -/
def Stack.begin (stack : Stack) (start : Phrase × Pattern) : Stack := ⟨start.1, start.2, #[], 0⟩ :: stack

/-- Puts the phrases that start with a token on the stack, and the token's leaf on the innermost. -/
def Stack.accept (lines : Lines) (token : Token) (plan : Pattern × List (Phrase × Pattern)) : Stack → Stack
  | [] => []
  | frame :: below =>
      Stack.addLeaf lines token (plan.2.foldl Stack.begin ({ frame with rest := plan.1 } :: below))

/-- A statement at the end of the text or of a block may lack its line break. -/
def lacksOnlyNewline (token : Token) : Stack → Option Stack
  | [] => none
  | frame :: below =>
      let endsLine := (frame.leaves.back?.map fun leaf =>
        leaf.text.endsWith "\n" || leaf.text.endsWith "\r").getD false
      let asked := token.kind = .finish || (token.kind = .dedent && !endsLine)
      if asked && frame.phrase = .simpleStatement then
        let symbol := Symbol.token .newline
        let rest := frame.rest.after symbol
        if frame.rest.starts.contains symbol && rest.accepts then
          some ({ frame with rest := rest } :: below)
        else none
      else none

/-- The phrases above the nearest block or the file, and the stack from there down. A block that has only
its line break counts as none. -/
def splitAtBlock : Stack → Stack × Stack
  | [] => ([], [])
  | frame :: below =>
      let isBase := frame.phrase = .file || below.isEmpty || (frame.phrase = .suite && frame.parts ≠ 1)
      if isBase then ([], frame :: below)
      else
        let (above, base) := splitAtBlock below
        (frame :: above, base)

/-- A block that got a leaf by recovery needs no further statement. -/
def Stack.settleBlock : Stack → Stack
  | [] => []
  | frame :: below =>
      let symbol := Symbol.phrase .statement
      if frame.phrase = .suite && frame.rest.starts.contains symbol then
        { frame with rest := frame.rest.after symbol } :: below
      else frame :: below

/-- The parser's state: the stack, how deep the indentation is, and the depths whose closing mark has to be
left out because the opening one did not fit. -/
structure ParserState where
  stack : Stack
  depth : Int
  omitted : List Int
deriving Inhabited

def ParserState.addToken (lines : Lines) (token : Token) : Nat → ParserState → ParserState
  | 0, state => state
  | fuel + 1, state =>
      match closeFinished token.symbol state.stack with
      | (stack, some plan) => { state with stack := stack.accept lines token plan }
      | (stack, none) =>
          match lacksOnlyNewline token stack with
          | some stack => addToken lines token fuel { state with stack := stack }
          | none =>
              let (above, base) := splitAtBlock stack
              let removed := above.foldl (fun leaves frame => frame.leaves ++ leaves) #[]
              let state :=
                if removed.isEmpty then
                  let omitted := if token.kind = .indent then state.depth :: state.omitted else state.omitted
                  let leaf := token.leaf lines (.stray token.kind)
                  { state with
                    omitted := omitted
                    stack := match base with
                      | [] => []
                      | frame :: below => frame.addPart #[leaf] :: below }
                else
                  let stack := match base with
                    | [] => []
                    | frame :: below => frame.addPart removed :: below
                  addToken lines token fuel { state with stack := stack }
              { state with stack := state.stack.settleBlock }

/-- Counts the indentation and leaves out the closing marks of omitted blocks. -/
def ParserState.step (lines : Lines) (state : ParserState) (token : Token) : ParserState :=
  let fuel := 2 * state.stack.length + 4
  match token.kind with
  | .dedent =>
      match state.omitted with
      | depth :: omitted =>
          if depth = state.depth then { state with omitted := omitted, depth := state.depth - 1 }
          else ParserState.addToken lines token fuel { state with depth := state.depth - 1 }
      | [] => ParserState.addToken lines token fuel { state with depth := state.depth - 1 }
  | .indent => ParserState.addToken lines token fuel { state with depth := state.depth + 1 }
  | _ => ParserState.addToken lines token fuel state

/-- Closes all phrases and gives the leaves of the file. -/
def Stack.leaves : Stack → Array Leaf
  | [] => #[]
  | frame :: below => below.foldl (fun inner outer => outer.leaves ++ inner) frame.finished

/-- The leaves of a source: every token has its leaf, in order. -/
def parse (text : String) : Parsed :=
  let characters := text.toList
  let lines := Lines.of characters
  let start : ParserState := { stack := [⟨.file, Phrase.file.pattern, #[], 0⟩], depth := 0, omitted := [] }
  let state := (scan lines.texts.toList).foldl (ParserState.step lines) start
  { text := characters.toArray, lines := lines, leaves := state.stack.leaves }

end LiveShell.Source
