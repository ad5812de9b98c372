/-!
Code as a tree: expressions and statements after reading. Parts that cannot stand alone (pairs of a mapping,
keyword arguments, loop clauses, parameters, fields of a formatted text) are nodes as well, so that a walk
over a tree meets every one of them.
-/

namespace LiveShell.Code

inductive UnaryOperator
  | negate
  | plus
  | invert
  | not
deriving DecidableEq, Repr, Inhabited

inductive BinaryOperator
  | add
  | subtract
  | multiply
  | matrix
  | divide
  | modulo
  | power
  | shiftLeft
  | shiftRight
  | bitOr
  | bitXor
  | bitAnd
  | floorDivide
deriving DecidableEq, Repr, Inhabited

inductive Relation
  | equal
  | notEqual
  | less
  | lessEqual
  | greater
  | greaterEqual
  | same
  | notSame
  | member
  | notMember
deriving DecidableEq, Repr, Inhabited

inductive Literal
  | nothing
  | ellipsis
  | boolean (value : Bool)
  | whole (value : Int)
  | real (value : Float)
  | imaginary (value : Float)
  | text (value : String)
  | bytes (value : List UInt8)
deriving Repr, Inhabited

inductive ParameterKind
  | positionalOnly
  | positional
  | variadic
  | keywordOnly
  | keywords
deriving DecidableEq, Repr, Inhabited

inductive Gathering
  | list
  | set
  | generator
deriving DecidableEq, Repr, Inhabited

/-- An expression, or a part of one. -/
inductive Expr
  | name (name : String)
  | literal (value : Literal)
  /-- A formatted text; the pieces are literals and fields. -/
  | joined (pieces : List Expr)
  | field (value : Expr) (conversion : Option Char) (layout : Option Expr)
  /-- `and` when `every`, else `or`. -/
  | logical (every : Bool) (operands : List Expr)
  | bind (target : Expr) (value : Expr)
  | binary (left : Expr) (operator : BinaryOperator) (right : Expr)
  | unary (operator : UnaryOperator) (operand : Expr)
  | lambda (parameters : List Expr) (body : Expr)
  | parameter (name : String) (kind : ParameterKind) (annotated default : Option Expr)
  | conditional (test yes no : Expr)
  | mapping (entries : List Expr)
  /-- An entry of a mapping; without a key its value is a mapping to take in. -/
  | entry (key : Option Expr) (value : Expr)
  | set (items : List Expr)
  | list (items : List Expr)
  | tuple (items : List Expr)
  | gather (gathering : Gathering) (element : Expr) (clauses : List Expr)
  | gatherMapping (key value : Expr) (clauses : List Expr)
  | clause (target source : Expr) (conditions : List Expr) (isAsync : Bool)
  | await (value : Expr)
  | yield (value : Option Expr)
  | yieldFrom (value : Expr)
  | compare (first : Expr) (relations : List Relation) (rest : List Expr)
  | call (callee : Expr) (arguments keywords : List Expr)
  /-- A keyword argument; without a name its value is a mapping of such arguments. -/
  | keyword (name : Option String) (value : Expr)
  | member (object : Expr) (name : String)
  | subscript (object index : Expr)
  | starred (value : Expr)
  | slice (lower upper step : Option Expr)
deriving Repr, Inhabited

/-- A statement, or a part of one. -/
inductive Stmt
  | expression (value : Expr)
  | assign (targets : List Expr) (value : Expr)
  | augment (target : Expr) (operator : BinaryOperator) (value : Expr)
  | annotate (target annotated : Expr) (value : Option Expr)
  | delete (targets : List Expr)
  | pass
  | leave
  | next
  | give (value : Option Expr)
  | raise (error cause : Option Expr)
  | assert (test : Expr) (message : Option Expr)
  | load (modules : List (String × Option String))
  | loadFrom (module : String) (level : Nat) (names : List (String × Option String))
  | global (names : List String)
  | nonlocal (names : List String)
  | choose (test : Expr) (body otherwise : List Stmt)
  | whileLoop (test : Expr) (body otherwise : List Stmt)
  | forLoop (target source : Expr) (body otherwise : List Stmt) (isAsync : Bool)
  | within (items : List (Expr × Option Expr)) (body : List Stmt) (isAsync : Bool)
  | guard (body handlers otherwise last : List Stmt) (isGroup : Bool)
  | handler (kind : Option Expr) (name : Option String) (body : List Stmt)
  | define (name : String) (parameters : List Expr) (result : Option Expr) (decorators : List Expr)
      (body : List Stmt) (isAsync : Bool)
  | classDefinition (name : String) (bases keywords decorators : List Expr) (body : List Stmt)
deriving Repr, Inhabited

/-- Why a text is no code. -/
inductive Fault
  | malformed
  | indentation
  | tabs
deriving DecidableEq, Repr, Inhabited

/-- The word for a node's kind. -/
def Expr.kindName : Expr → String
  | name _ => "Name"
  | literal _ => "Constant"
  | joined _ => "JoinedStr"
  | field .. => "FormattedValue"
  | logical .. => "BoolOp"
  | bind .. => "NamedExpr"
  | binary .. => "BinOp"
  | unary .. => "UnaryOp"
  | lambda .. => "Lambda"
  | parameter .. => "arg"
  | conditional .. => "IfExp"
  | mapping _ => "Dict"
  | entry .. => "Dict"
  | set _ => "Set"
  | list _ => "List"
  | tuple _ => "Tuple"
  | gather .list .. => "ListComp"
  | gather .set .. => "SetComp"
  | gather .generator .. => "GeneratorExp"
  | gatherMapping .. => "DictComp"
  | clause .. => "comprehension"
  | await _ => "Await"
  | yield _ => "Yield"
  | yieldFrom _ => "YieldFrom"
  | compare .. => "Compare"
  | call .. => "Call"
  | keyword .. => "keyword"
  | member .. => "Attribute"
  | subscript .. => "Subscript"
  | starred _ => "Starred"
  | slice .. => "Slice"

end LiveShell.Code
