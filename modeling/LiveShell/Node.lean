/-!
What a cursor can sit in: the piece of a partially typed source that completion works on. Spans are
half-open and count characters from the start of the source.
-/

namespace LiveShell

/-- A name that has not been typed yet. It stands for the empty beginning of a name. -/
def placeholder : String := "__incomplete__"

structure Span where
  start : Nat
  stop : Nat
deriving DecidableEq, Repr, Inhabited

inductive Node
  /-- A string literal; `raw` is the whole literal, `value` what stands between its quotes. -/
  | string (span : Span) (value raw : String)
  | identifier (span : Span) (name : String)
  /-- `object.property`, or `object[property]` when `computed`. -/
  | member (span : Span) (object property : Node) (computed : Bool)
  | call (span : Span) (callee : Node) (arguments : List Node)
  | other (span : Span)
deriving Repr, Inhabited

namespace Node

def span : Node → Span
  | string span _ _ | identifier span _ | member span _ _ _ | call span _ _ | other span => span

def start (node : Node) : Nat := node.span.start

def stop (node : Node) : Nat := node.span.stop

/-- The name as typed: empty for the placeholder and for a node without a name. -/
def typedName : Node → String
  | identifier _ name => if name = placeholder then "" else name
  | _ => ""

/-- The word for a node's kind. -/
def kindName : Node → String
  | string .. => "string"
  | identifier .. => "identifier"
  | member .. => "attribute"
  | call .. => "call"
  | other .. => "other"

/-- The piece of the source that a node covers. -/
def text (source : List Char) (node : Node) : String :=
  String.ofList ((source.take node.stop).drop node.start)

end Node

end LiveShell
