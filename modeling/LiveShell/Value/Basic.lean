import LiveShell.Code.Binding
import LiveShell.Files.Tree
import LiveShell.Pattern.Basic

/-!
The values that code works on, the cells that changing values live in, and the world of a run: the cells,
what was printed, the libraries that are loaded and the files around. Computations on values change the world
and may raise a value.
-/

namespace LiveShell

abbrev Address := Nat

/-- The kinds of values that are built in. -/
inductive Kind
  | object
  | type
  | nothing
  | ellipsis
  | notImplemented
  | boolean
  | whole
  | real
  | complex
  | text
  | bytes
  | tuple
  | list
  | dict
  | defaultDict
  | set
  | frozenSet
  | range
  | slice
  | function
  | routine
  | method
  | wrapper
  | descriptor
  | slotDescriptor
  | fieldDescriptor
  | module
  | generator
  | coroutine
  | property
  | staticMethod
  | classMethod
  | super
  | enumerate
  | zip
  | map
  | filter
  | reversed
  | pattern
  | matched
  | patternFlag
  | path
  | systemPath
  /-- An error, by its name. -/
  | error (name : String)
  /-- A kind that only its name tells apart. -/
  | named (name : String)
deriving DecidableEq, Repr, Inhabited

inductive Value
  | nothing
  | ellipsis
  | notImplemented
  | boolean (value : Bool)
  | whole (value : Int)
  | real (value : Float)
  | complex (real imaginary : Float)
  | text (value : String)
  | bytes (value : List UInt8)
  | tuple (items : List Value)
  | range (start stop step : Int)
  | slice (lower upper step : Value)
  | kind (kind : Kind)
  /-- A function that is built in; its name may start with the library that it belongs to. -/
  | routine (name : String)
  /-- A built-in function bound to a value. -/
  | method (self : Value) (name : String)
  /-- An operation of a value as a function. -/
  | wrapper (self : Value) (name : String)
  /-- A built-in function of a kind, not bound yet. -/
  | descriptor (kind : Kind) (name : String)
  | patternFlags (bits : Nat)
  | path (text : String)
  /-- A member of a library of which only the name matters. -/
  | foreign (library name : String)
  | ref (address : Address)
deriving Repr, Inhabited

/-- A frame keeps names; what they are bound to so far lives at its address. -/
structure Frame where
  address : Address
  names : List String
deriving Repr, Inhabited

/-- Which scope code sees: the frames of the functions around, the innermost first, then the globals. -/
structure Scope where
  frames : List Frame := []
  globals : Address
  /-- The namespace of the class body that the code stands in directly. -/
  classSpace : Option Address := none
  /-- Names that the function here takes from the globals. -/
  globalNames : List String := []
  /-- What the names of functions and classes made here start with. -/
  qualifier : String := ""
deriving Repr, Inhabited

inductive FunctionBody
  | expression (value : Code.Expr)
  | block (statements : List Code.Stmt)
deriving Repr, Inhabited

structure FunctionData where
  name : String
  qualified : String
  parameters : List Code.Expr
  defaults : List (String × Value) := []
  annotations : List (String × Value) := []
  body : FunctionBody
  scope : Scope
  locals : List String
  isAsync : Bool := false
  isGenerator : Bool := false
  space : Address
deriving Repr, Inhabited

/-- What a function of the surroundings does when it is called. -/
inductive HostAction
  | give (value : Value)
  | raise (error text : String)
  /-- A function of the shell, by its name. -/
  | perform (name : String)
  /-- Tells whether a pattern is found in a text. -/
  | search (pattern : Value)
deriving Inhabited

structure ClassData where
  name : String
  qualified : String
  module : Value
  bases : List Value
  /-- The class itself and all that it inherits from, in the order in which members are looked for. -/
  order : List Value
  space : Address
deriving Repr, Inhabited

structure GeneratorData where
  name : String
  element : Code.Expr
  clauses : List Code.Expr
  scope : Scope
  /-- The iterators of the clauses that are under way, the innermost first. -/
  iterators : List Value
  running : Bool := false
  finished : Bool := false
  /-- For a generator that is a function: its body has not run yet. -/
  pending : Option (FunctionData × Scope) := none
  /-- What the body gave that was not asked for yet. -/
  ready : List Value := []
  /-- What the body raised after that. -/
  failure : Option Value := none
deriving Repr, Inhabited

inductive Awaited
  | call (function : FunctionData) (scope : Scope)
  | ready (value : Value)
  | finished
deriving Repr, Inhabited

inductive ViewPart
  | keys
  | values
  | items
deriving DecidableEq, Repr, Inhabited

/-- Where an iterator stands. -/
inductive Cursor
  | list (source : Address) (index : Nat)
  | reversedList (source : Address) (left : Nat)
  | items (rest : List Value)
  | characters (rest : List Char)
  | range (next step : Int) (left : Nat)
  | entries (part : ViewPart) (source : Address) (index size : Nat)
  | members (source : Address) (size : Nat) (rest : List Value)
  | mapped (function : Value) (sources : List Value)
  | filtered (function source : Value)
  | zipped (sources : List Value) (strict : Bool)
  | counted (source : Value) (next : Int)
  | called (function sentinel : Value)
  | indexed (source : Value) (index : Int) (step : Int)
  | finished
deriving Repr, Inhabited

/-- What lives at an address. -/
inductive Cell
  | list (items : Array Value)
  | dict (entries : Array (Value × Value)) (factory : Option Value)
  | set (members : Array Value) (frozen : Bool)
  | frame (bindings : List (String × Value))
  | function (data : FunctionData)
  | host (name qualified : String) (action : HostAction) (counted : Bool)
  | bound (self function : Value)
  | classObject (data : ClassData)
  /-- An instance of a class, with the namespace of its attributes and the built-in value that it extends. -/
  | instanceOf (cls : Value) (space : Address) (payload : Option Value)
  | module (name : String) (space : Address)
  | generator (data : GeneratorData)
  | coroutine (name : String) (awaited : Awaited)
  | iterator (kind : Kind) (cursor : Cursor)
  | view (part : ViewPart) (source : Address)
  | property (getter setter deleter : Value)
  | wrapped (isClass : Bool) (function : Value)
  | superOf (start : Value) (object : Value)
  | pattern (compiled : Pattern.Compiled)
  | found (pattern : Address) (text : String) (groups : List (Option (Nat × Nat)))
deriving Inhabited

/-- All that a run can change. -/
structure World where
  cells : Array Cell := #[]
  output : String := ""
  /-- How often counted functions of the surroundings have run. -/
  counts : List (String × Nat) := []
  modules : List (String × Value) := []
  files : Files.Tree := ⟨[]⟩
  place : Files.Place := default
  /-- What the generator function under way has given so far. -/
  yielded : List Value := []
  /-- The errors that are being handled, the latest first. -/
  handled : List Value := []
deriving Inhabited

/-- A computation on values. It may raise a value. -/
abbrev Run := ExceptT Value (StateM World)

/-- What computations on values need of the rest: calling a value, and the next item of an iterator. -/
structure Engine where
  call : Value → List Value → List (String × Value) → Run Value
  next : Value → Run (Option Value)

namespace Run

def cellAt? (address : Address) : Run (Option Cell) := do return (← get).cells[address]?

def writeCell (address : Address) (cell : Cell) : Run Unit :=
  modify fun world => { world with cells := world.cells.setIfInBounds address cell }

def allocate (cell : Cell) : Run Address :=
  modifyGet fun world => (world.cells.size, { world with cells := world.cells.push cell })

def new (cell : Cell) : Run Value := do return .ref (← allocate cell)

def newList (items : Array Value) : Run Value := new (.list items)

def newDict (entries : Array (Value × Value)) : Run Address := allocate (.dict entries none)

/-- A new error with arguments. -/
def makeError (name : String) (arguments : List Value) : Run Value := do
  let space ← newDict #[]
  new (.instanceOf (.kind (.error name)) space (some (.tuple arguments)))

def raise {α : Type} (name : String) (arguments : List Value) : Run α := do
  throw (← makeError name arguments)

/-- Raises an error with a text. -/
def fail {α : Type} (name message : String) : Run α := raise name [.text message]

def typeError {α : Type} (message : String) : Run α := fail "TypeError" message

def valueError {α : Type} (message : String) : Run α := fail "ValueError" message

def print (text : String) : Run Unit := modify fun world => { world with output := world.output ++ text }

/-- Counts a run of a function of the surroundings. -/
def count (name : String) : Run Unit :=
  modify fun world =>
    let counts := world.counts
    { world with counts :=
        if counts.any (·.1 = name) then
          counts.map fun (known, number) => (known, if known = name then number + 1 else number)
        else counts ++ [(name, 1)] }

end Run

/-- How often a loop may turn before it counts as endless. -/
def patience : Nat := 100000000

/-- How deep calls may nest. -/
def depthLimit : Nat := 1000

/-- Carries a computation out in a world. -/
def Run.runIn {α : Type} (run : Run α) (world : World) : Except Value α × World :=
  (ExceptT.run run).run world

end LiveShell
