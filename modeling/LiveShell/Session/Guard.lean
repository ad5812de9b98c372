import LiveShell.Evaluation.Engine

/-!
The guard of silent evaluation: it goes over an expression and refuses what could change something. Parts that
are accepted already are evaluated, to see what is iterated, indexed and computed with. How parts are evaluated
is left open here.
-/

namespace LiveShell

open Code (Expr)

namespace Guard

/-- What the guard asks of its surroundings. -/
structure Watch where
  /-- The value of a part that was accepted. -/
  value : Expr → Run Value
  /-- Whether a built-in name stands for something else here. -/
  isShadowed : String → Run Bool

/-- The built-in functions that change nothing and take nothing out of iterators. -/
def pureNames : List String :=
  ["abs", "bool", "chr", "complex", "dir", "divmod", "float", "format", "getattr", "hasattr", "hash", "hex",
   "id", "int", "isinstance", "issubclass", "len", "oct", "ord", "range", "repr", "round", "slice", "str",
   "type", "vars"]

/-- The kinds whose iteration and membership tests run no code. -/
def plainContainers : List Kind :=
  [.list, .tuple, .text, .dict, .set, .frozenSet, .range, .bytes]

/-- The kinds whose items may be asked for. -/
def subscriptable : List Kind := [.list, .tuple, .text, .dict]

def sequences : List Kind := [.list, .tuple, .text, .bytes]

def mostBits : Nat := 4096

def mostExponent : Nat := 64

def mostItems : Nat := 100000

/-- Refuses a part of an expression, named by its kind. -/
def refuse {α : Type} (part : Expr) : Run α :=
  Run.fail "SideEffectError" ("possible side effect: " ++ part.kindName)

/-- The value of an accepted part. A part that fails counts as refused. -/
def valueOf (watch : Watch) (part : Expr) : Run Value :=
  tryCatch (watch.value part) fun error => do
    if ← Run.isError error "Exception" then refuse part else throw error

/-- Whether a value is of one of some kinds itself, not of a class derived from them. -/
def isOneOf (value : Value) (kinds : List Kind) : Run Bool := do
  match ← Run.classOf value with
  | .kind kind => return kinds.contains kind
  | _ => return false

def requirePlain (watch : Watch) (part : Expr) (kinds : List Kind) : Run Unit := do
  if !(← isOneOf (← valueOf watch part) kinds) then refuse part

/-- An integer, a truth value or a real number, and no value of a derived class. -/
def isPlainNumber : Value → Bool
  | .boolean _ | .whole _ | .real _ => true
  | _ => false

def isWholeNumber : Value → Bool
  | .boolean _ | .whole _ => true
  | _ => false

def bitLength (number : Nat) : Nat := if number = 0 then 0 else Nat.log2 number + 1

/-- The bits of an integer; a real number counts none. -/
def bitsOf (value : Value) : Nat := bitLength (value.whole?.getD 0).natAbs

/-- Whether a number lies within some distance of zero. -/
def isWithin (bound : Nat) : Value → Bool
  | .real number => number.abs ≤ bound.toFloat
  | value => (value.whole?.getD 0).natAbs ≤ bound

/-- How many items a container has. -/
def sizeOf (value : Value) : Run Nat := do
  match value with
  | .range start stop step => return rangeLength start stop step
  | value => return (← Run.plainLength? value).getD 0

/-- Whether an operation on two values stays small. -/
def isSmall (operator : Code.BinaryOperator) (left right : Value) : Run Bool := do
  match operator with
  | .power =>
      return isPlainNumber left && isPlainNumber right && isWithin mostExponent right &&
        bitsOf left ≤ mostExponent
  | .shiftLeft =>
      return isWholeNumber left && isWholeNumber right && right.whole?.getD 0 ≤ mostBits &&
        bitsOf left ≤ mostBits
  | .multiply =>
      if isPlainNumber left && isPlainNumber right then
        return bitsOf left ≤ mostBits && bitsOf right ≤ mostBits
      else
        let (sequence, count) := if isWholeNumber left then (right, left) else (left, right)
        if (← isOneOf sequence sequences) && isWholeNumber count then
          return (← sizeOf sequence) * (count.whole?.getD 0) ≤ mostItems
        else return false
  | _ => return true

def checkOperation (watch : Watch) (left : Expr) (operator : Code.BinaryOperator) (right whole : Expr) :
    Run Unit := do
  match operator with
  | .power | .shiftLeft | .multiply =>
      let leftValue ← valueOf watch left
      let rightValue ← valueOf watch right
      if !(← isSmall operator leftValue rightValue) then refuse whole
  | _ => return ()

def checkCall (watch : Watch) (callee whole : Expr) : Run Unit := do
  match callee with
  | .name name =>
      if !pureNames.contains name then refuse whole
      if ← watch.isShadowed name then refuse whole
  | _ => refuse whole

/-- The values that membership is asked of must be plain containers. -/
def checkMemberships (watch : Watch) : List Code.Relation → List Expr → Run Unit
  | relation :: relations, right :: rest => do
      if relation = .member || relation = .notMember then requirePlain watch right plainContainers
      checkMemberships watch relations rest
  | _, _ => return ()

/-- The values that clauses go through must be plain containers of no great size. -/
def checkSources (watch : Watch) : List Expr → Run Unit
  | [] => return ()
  | .clause _ source _ _ :: rest => do
      let value ← valueOf watch source
      if !(← isOneOf value plainContainers) then refuse source
      if mostItems < (← sizeOf value) then refuse source
      checkSources watch rest
  | _ :: rest => checkSources watch rest

mutual

/-- Goes over an expression; raises at the first part that is refused. What stands behind a star in a target
has no value to look at and is refused. -/
def inspect (watch : Watch) (isTarget : Bool) : Expr → Run Unit
  | .name _ | .literal _ => return ()
  | .joined pieces => inspectAll watch false pieces
  | .field value _ layout => do
      inspect watch false value
      inspectAny watch layout
  | .logical _ operands => inspectAll watch false operands
  | .bind target value => refuse (.bind target value)
  | .binary left operator right => do
      inspect watch false left
      inspect watch false right
      checkOperation watch left operator right (.binary left operator right)
  | .unary _ operand => inspect watch false operand
  | .lambda parameters body => do
      inspectDefaults watch true parameters
      inspectDefaults watch false parameters
      inspect watch false body
  | .parameter .. => return ()
  | .conditional test yes no => do
      inspect watch false test
      inspect watch false yes
      inspect watch false no
  | .mapping entries => do
      inspectKeys watch entries
      inspectValues watch entries
  | .entry _ value => inspect watch false value
  | .set items => inspectAll watch false items
  | .list items => inspectAll watch isTarget items
  | .tuple items => inspectAll watch isTarget items
  | .gather _ element clauses => do
      inspect watch false element
      inspectAll watch false clauses
      checkSources watch clauses
  | .gatherMapping key value clauses => do
      inspect watch false key
      inspect watch false value
      inspectAll watch false clauses
      checkSources watch clauses
  | .clause target source conditions _ => do
      inspect watch true target
      inspect watch false source
      inspectAll watch false conditions
  | .await value => refuse (.await value)
  | .yield value => refuse (.yield value)
  | .yieldFrom value => refuse (.yieldFrom value)
  | .compare first relations rest => do
      inspect watch false first
      inspectAll watch false rest
      checkMemberships watch relations rest
  | .call callee arguments keywords => do
      checkCall watch callee (.call callee arguments keywords)
      inspect watch false callee
      inspectAll watch false arguments
      inspectAll watch false keywords
  | .keyword _ value => inspect watch false value
  | .member object _ => inspect watch false object
  | .subscript object index => do
      inspect watch false object
      inspect watch false index
      requirePlain watch object subscriptable
  | .starred value => do
      inspect watch isTarget value
      if isTarget then refuse value
      requirePlain watch value plainContainers
  | .slice lower upper step => do
      inspectAny watch lower
      inspectAny watch upper
      inspectAny watch step

def inspectAny (watch : Watch) : Option Expr → Run Unit
  | none => return ()
  | some part => inspect watch false part

def inspectAll (watch : Watch) (isTarget : Bool) : List Expr → Run Unit
  | [] => return ()
  | part :: rest => do
      inspect watch isTarget part
      inspectAll watch isTarget rest

/-- The defaults of the parameters that are given by name only, or of the others. -/
def inspectDefaults (watch : Watch) (namedOnly : Bool) : List Expr → Run Unit
  | [] => return ()
  | .parameter _ kind _ (some default) :: rest => do
      if decide (kind = .keywordOnly) = namedOnly then inspect watch false default
      inspectDefaults watch namedOnly rest
  | _ :: rest => inspectDefaults watch namedOnly rest

def inspectKeys (watch : Watch) : List Expr → Run Unit
  | [] => return ()
  | .entry (some key) _ :: rest => do
      inspect watch false key
      inspectKeys watch rest
  | _ :: rest => inspectKeys watch rest

def inspectValues (watch : Watch) : List Expr → Run Unit
  | [] => return ()
  | .entry _ value :: rest => do
      inspect watch false value
      inspectValues watch rest
  | _ :: rest => inspectValues watch rest

end

end Guard

end LiveShell
