import LiveShell.Node

/-!
The requests that completion makes to a running environment, and a completion as a dialogue of such
requests. The environment may answer anything, and may fail at any request; it is told of values only by
descriptions, and asks for more about a value go through the handle that came with its description.
-/

namespace LiveShell.Completion

/-- The sorts of values that a description tells apart. -/
inductive ValueSort
  | text
  | number
  | boolean
  | nothing
  | function
  | object
  | undefined
  | named (name : String)
deriving DecidableEq, Repr, Inhabited

def ValueSort.name : ValueSort → String
  | .text => "string"
  | .number => "number"
  | .boolean => "boolean"
  | .nothing => "none"
  | .function => "function"
  | .object => "object"
  | .undefined => "undefined"
  | .named name => name

/-- The plain value that a description may carry. -/
inductive Plain
  | nothing
  | text (value : String)
  | boolean (value : Bool)
  | whole (value : Int)
  /-- An integer with a name of its own. -/
  | named (name : String)
  /-- A number of another kind, by how it is written. -/
  | number (written : String) (isZero : Bool)
  /-- A value that is none of these, and whether it counts as true. -/
  | compound (holds : Bool)
deriving DecidableEq, Repr, Inhabited

/-- Whether a plain value counts as true. -/
def Plain.holds : Plain → Bool
  | .nothing => false
  | .text value => value ≠ ""
  | .boolean value => value
  | .whole value => value ≠ 0
  | .named _ => true
  | .number _ isZero => !isZero
  | .compound holds => holds

/-- A value of the environment as it is told of. -/
structure Description where
  sort : ValueSort
  value : Plain := .nothing
  shown : Option String := none
  className : Option String := none
  handle : Option String := none
deriving DecidableEq, Repr, Inhabited

def Description.undefined : Description := { sort := .undefined }

/-- How an evaluation failed: its text and what was raised. -/
structure Failure where
  text : String
  raised : Description
deriving DecidableEq, Repr, Inhabited

structure Evaluation where
  result : Description
  failure : Option Failure := none
deriving DecidableEq, Repr, Inhabited

inductive Request
  | evaluate (expression : String) (silent : Bool)
  | globalNames
  | loadModule (specifier : String)
  | properties (handle : String)
  | hint (callee : Description) (site : Node) (line : String)
  | release (handle : String)
deriving Inhabited

/-- What a request is answered with. -/
def Request.Answer : Request → Type
  | .evaluate .. | .loadModule _ => Evaluation
  | .globalNames | .properties _ => List String
  | .hint .. => Description
  | .release _ => Unit

/-- How a request can go wrong: with an error, or with something that ends the whole program. -/
inductive Trouble (ε : Type)
  | failed
  | ended (reason : ε)
deriving Repr, Inhabited

/-- Remarks for the debug log, each with the part of the program that makes it. -/
structure Remark where
  source : String
  text : String
deriving DecidableEq, Repr, Inhabited

/-- A remark as a line of the log, without its time. -/
def Remark.line (remark : Remark) : String := "[" ++ remark.source ++ "] " ++ remark.text

/-- A computation that asks an environment, makes remarks and ends with a value or in trouble. -/
inductive Dialogue (ε α : Type)
  | finish (value : α)
  | trouble (trouble : Trouble ε)
  | remark (remark : Remark) (rest : Dialogue ε α)
  | ask (request : Request) (rest : Except (Trouble ε) request.Answer → Dialogue ε α)

namespace Dialogue

def bind (dialogue : Dialogue ε α) (next : α → Dialogue ε β) : Dialogue ε β :=
  match dialogue with
  | finish value => next value
  | trouble cause => trouble cause
  | remark made rest => remark made (rest.bind next)
  | ask request rest => ask request fun answer => (rest answer).bind next

instance : Monad (Dialogue ε) where
  pure := finish
  bind := bind

/-- Goes on with a second dialogue whether the first ends with a value or in trouble. -/
def handle (dialogue : Dialogue ε α) (next : Except (Trouble ε) α → Dialogue ε β) : Dialogue ε β :=
  match dialogue with
  | finish value => next (.ok value)
  | trouble cause => next (.error cause)
  | remark made rest => remark made (rest.handle next)
  | ask request rest => ask request fun answer => (rest answer).handle next

def request (request : Request) : Dialogue ε request.Answer :=
  ask request fun
    | .ok answer => finish answer
    | .error cause => trouble cause

def note (source text : String) : Dialogue ε Unit := remark ⟨source, text⟩ (finish ())

/-- Makes a last request after a dialogue, however it ends. Trouble with that request counts more. -/
def ending (dialogue : Dialogue ε α) (last : Dialogue ε Unit) : Dialogue ε α :=
  dialogue.handle fun
    | .ok value => last.bind fun _ => finish value
    | .error cause => last.bind fun _ => trouble cause

/-- Carries a dialogue out with a way to answer requests that keeps a state. -/
def run (answer : (request : Request) → σ → Except (Trouble ε) request.Answer × σ) :
    Dialogue ε α → σ → Except (Trouble ε) α × List Remark × σ
  | finish value, state => (.ok value, [], state)
  | trouble cause, state => (.error cause, [], state)
  | remark made rest, state =>
      let (result, remarks, state) := rest.run answer state
      (result, made :: remarks, state)
  | ask request rest, state =>
      let (reply, state) := answer request state
      (rest reply).run answer state

end Dialogue

end LiveShell.Completion
