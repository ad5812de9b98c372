import LiveShell.Code.Check
import LiveShell.Code.Program
import LiveShell.Evaluation.Name

/-!
What expressions give. Evaluation goes along the tree of an expression; calling values and taking items from
iterators is left to an engine.
-/

namespace LiveShell

open Code (Expr Stmt)

def literalValue : Code.Literal → Value
  | .nothing => .nothing
  | .ellipsis => .ellipsis
  | .boolean value => .boolean value
  | .whole value => .whole value
  | .real value => .real value
  | .imaginary value => .complex 0.0 value
  | .text value => .text value
  | .bytes value => .bytes value

namespace Run

/-! Taking values apart. -/

/-- Up to some number of items from an iterator. -/
def takeItems (engine : Engine) (iterator : Value) : Nat → Run (List Value)
  | 0 => return []
  | count + 1 => do
      match ← engine.next iterator with
      | none => return []
      | some item => return item :: (← takeItems engine iterator count)

/-- Whether a value has a way to go through its items. -/
def hasItems (value : Value) : Run Bool := do
  if (← ownMember? value "__iter__").isSome || (← ownMember? value "__getitem__").isSome then return true
  match (← plain value), (← snapshot? (← plain value)) with
  | _, some _ => return true
  | value, none => isIterator value

def iterateToUnpack (engine : Engine) (value : Value) : Run Value := do
  if !(← hasItems value) then
    typeError ("cannot unpack non-iterable " ++ (← typeName value) ++ " object")
  iterate engine value

/-- The items of a value that must have as many as there are targets. -/
def unpackExactly (engine : Engine) (value : Value) (count : Nat) : Run (List Value) := do
  let iterator ← iterateToUnpack engine value
  let items ← takeItems engine iterator (count + 1)
  if items.length < count then
    valueError ("not enough values to unpack (expected " ++ toString count ++ ", got " ++
      toString items.length ++ ")")
  if count < items.length then
    valueError ("too many values to unpack (expected " ++ toString count ++ ")")
  return items

/-- The items of a value for targets with a starred one among them, which gets a list of what is over. -/
def unpackAround (engine : Engine) (value : Value) (before after : Nat) : Run (List Value) := do
  let iterator ← iterateToUnpack engine value
  let first ← takeItems engine iterator before
  let refuse (count : Nat) : Run (List Value) :=
    valueError ("not enough values to unpack (expected at least " ++ toString (before + after) ++ ", got " ++
      toString count ++ ")")
  if first.length < before then refuse first.length
  else
    let others := (← collectFrom engine iterator patience #[]).toList
    if others.length < after then refuse (before + others.length)
    else
      let middle ← newList (others.take (others.length - after)).toArray
      return first ++ middle :: others.drop (others.length - after)

def isStarred : Expr → Bool
  | .starred _ => true
  | _ => false

def unpackFor (engine : Engine) (targets : List Expr) (value : Value) : Run (List Value) :=
  match targets.findIdx? isStarred with
  | some index => unpackAround engine value index (targets.length - index - 1)
  | none => unpackExactly engine value targets.length

/-- The items of a value behind a star. -/
def itemsBehindStar (engine : Engine) (value : Value) : Run (List Value) := do
  if !(← hasItems value) then
    typeError ("Value after * must be an iterable, not " ++ (← typeName value))
  return (← collect engine value).toList

/-! Calls. -/

/-- How a function is called in texts about its arguments. -/
def functionText (engine : Engine) (function : Value) : Run String := do
  match ← attributeIfAny? engine function "__qualname__" with
  | none => textOf engine function
  | some name =>
      let name ← textOf engine name
      match ← attributeIfAny? engine function "__module__" with
      | none | some .nothing | some (.text "builtins") => return name ++ "()"
      | some module => return (← textOf engine module) ++ "." ++ name ++ "()"

/-- The items of a mapping that is taken in whole. -/
def entriesToTakeIn (engine : Engine) (refusal : String) (value : Value) : Run (List (Value × Value)) := do
  match ← plain value with
  | .ref address =>
      match ← cellAt? address with
      | some (.dict entries _) => return entries.toList
      | _ => ask
  | _ => ask
where
  ask : Run (List (Value × Value)) := do
    match ← attributeIfAny? engine value "keys" with
    | none => typeError (refusal ++ (← typeName value))
    | some keys =>
        let keys ← collect engine (← engine.call keys [] [])
        keys.toList.mapM fun key => do return (key, ← itemOf engine value key)

/-- Adds keyword arguments to those that are there. -/
def joinKeywords (function : Run String) (named : List (String × Value)) :
    List (Value × Value) → Run (List (String × Value))
  | [] => return named
  | (.text name, value) :: rest => do
      if named.any (·.1 = name) then
        typeError ((← function) ++ " got multiple values for keyword argument '" ++ name ++ "'")
      joinKeywords function (named ++ [(name, value)]) rest
  | _ :: _ => typeError "keywords must be strings"

/-- Calls a value in a scope. Some built-in functions look at the scope. -/
def callIn (engine : Engine) (scope : Scope) (callee : Value) (given : Given) : Run Value := do
  let runHere (body : FunctionBody) (globals : Value) : Run Value := do
    let scope := match globals with
      | .ref address => { globals := address : Scope }
      | _ => scope
    let space ← newDict #[]
    let function ← new (.function
      { name := "<module>", qualified := "<module>", parameters := [], body, scope, locals := [], space })
    engine.call function [] []
  let codeText : Run String := do
    match ← plain (given.positional.headD .nothing) with
    | .text text => return text
    | .bytes bytes => return String.ofList (charactersOf bytes)
    | _ => typeError "eval() arg 1 must be a string, bytes or code object"
  let faulty (fault : Code.Fault) : Run Value :=
    match fault with
    | .malformed => raise "SyntaxError" []
    | .indentation => raise "IndentationError" []
    | .tabs => raise "TabError" []
  match callee, given.positional with
  | .routine "globals", [] => return .ref scope.globals
  | .routine "locals", [] | .routine "vars", [] => localSpace scope
  | .routine "dir", [] =>
      let space ← localSpace scope
      newList (← sortValues engine (← collect engine space))
  | .routine "eval", _ :: rest =>
      match Code.readExpression ((← codeText).trimAsciiStart.toString) with
      | .ok expression =>
          if expression.fits { mayWait := false } then runHere (.expression expression) (rest.headD .nothing)
          else faulty .malformed
      | .error fault => faulty fault
  | .routine "exec", _ :: rest =>
      match Code.readProgram (← codeText) with
      | .ok program =>
          if Code.programFits program then
            let _ ← runHere (.block program) (rest.headD .nothing)
            return .nothing
          else faulty .malformed
      | .error fault => faulty fault
  | .kind .super, [] =>
      match frameOf? "__class__" false scope.frames, scope.frames with
      | some (outer, _), inner :: _ =>
          match ← inFrame? outer "__class__", ← cellAt? inner.address with
          | some cls, some (.frame bindings) =>
              match inner.names.head?.bind fun name => bindings.lookup name with
              | some object => new (.superOf cls object)
              | none => fail "RuntimeError" "super(): no arguments"
          | _, _ => fail "RuntimeError" "super(): empty __class__ cell"
      | _, _ => fail "RuntimeError" "super(): no arguments"
  | .kind .type, [name, bases, .ref space] =>
      match ← cellAt? space with
      | some (.dict entries _) =>
          let copy ← newDict entries
          match ← nameIn? copy "__module__", ← nameIn? scope.globals "__name__" with
          | none, some module => setName copy "__module__" module
          | _, _ => pure ()
          engine.call callee [name, bases, .ref copy] given.named
      | _ => engine.call callee given.positional given.named
  | _, _ => engine.call callee given.positional given.named

/-! Waiting. -/

/-- Waits for a value: its engine carries a coroutine out. -/
def awaitValue (engine : Engine) (value : Value) : Run Value := do
  let refuse : Run Value := do
    typeError ("object " ++ (← typeName value) ++ " can't be used in 'await' expression")
  match value with
  | .ref address =>
      match ← cellAt? address with
      | some (.coroutine ..) => return (← engine.next value).getD .nothing
      | some (.instanceOf ..) =>
          match ← callOwn? engine value "__await__" [] with
          | some iterator =>
              let _ ← collect engine iterator
              return .nothing
          | none => refuse
      | _ => refuse
  | _ => refuse

/-! Functions and generators. -/

def makeFunction (scope : Scope) (name : String) (parameters : List Expr) (defaults : List (String × Value))
    (body : FunctionBody) (locals : List String) (isAsync isGenerator : Bool)
    (annotations : List (String × Value) := []) : Run Value := do
  let space ← newDict #[]
  new (.function
    { name, qualified := scope.qualifier ++ name, parameters, defaults, annotations, body, scope, locals,
      isAsync, isGenerator, space })

/-- The word for what gathers. -/
def gatheringWord : Code.Gathering → String
  | .list => "<listcomp>"
  | .set => "<setcomp>"
  | .generator => "<genexpr>"

/-- A scope for the clauses of a gathering. -/
def gatheringScope (scope : Scope) (word : String) (clauses : List Expr) : Run Scope :=
  innerScope scope (Code.clauseNames clauses) [] (scope.qualifier ++ word ++ ".")

/-! Pieces of evaluation that look at values only. -/

def relateBy (engine : Engine) (relation : Code.Relation) (a b : Value) : Run Value := do
  match relation with
  | .same => return .boolean (a.same b)
  | .notSame => return .boolean !(a.same b)
  | .member => return .boolean (← contains engine b a)
  | .notMember => return .boolean !(← contains engine b a)
  | relation => relate engine relation a b

def pushYielded (value : Value) : Run Unit :=
  modify fun world => { world with yielded := world.yielded ++ [value] }

/-- Puts something into what a gathering has gathered so far. -/
def addGathered (engine : Engine) (gathered : Address) (item : Value) : Run Unit := do
  match ← cellAt? gathered with
  | some (.list _) => modifyList gathered (·.push item)
  | some (.set members _) => writeMembers gathered (← withMember engine members item)
  | _ => return ()

/-- What the value of a callee has to pass before its arguments are looked at. A gate may turn it away by
raising. -/
abbrev Gate := Scope → Value → Run Unit

/-- Whatever is called passes. -/
def Gate.free : Gate := fun _ _ => return ()

namespace Gated

mutual

/-- The value of an expression. -/
def evaluate (engine : Engine) (gate : Gate) (scope : Scope) : Expr → Run Value
  | .name name => lookUp scope name
  | .literal value => return literalValue value
  | .joined pieces => return .text (← evaluatePieces engine gate scope pieces)
  | .field value conversion layout => do
      let value ← convertField engine conversion (← evaluate engine gate scope value)
      match ← evaluateAny engine gate scope layout with
      | some (.text spec) => return .text (← layOut engine value spec)
      | _ => return .text (← layOut engine value "")
  | .logical every operands => evaluateLogical engine gate scope every operands
  | .bind target value => do
      let value ← evaluate engine gate scope value
      assign engine gate scope value target
      return value
  | .binary left operator right => do
      let left ← evaluate engine gate scope left
      let right ← evaluate engine gate scope right
      operate engine (fillIn engine) operator false left right
  | .unary operator operand => do operateOn engine operator (← evaluate engine gate scope operand)
  | .lambda parameters body => do
      let defaults ← evaluateDefaults engine gate scope parameters
      makeFunction scope "<lambda>" parameters defaults (.expression body)
        (Code.parameterNames parameters ++ body.binds) false body.yields
  | .parameter .. => return .nothing
  | .conditional test yes no => do
      if ← holds engine (← evaluate engine gate scope test) then evaluate engine gate scope yes
      else evaluate engine gate scope no
  | .mapping entries => do
      let address ← newDict #[]
      evaluateEntries engine gate scope address entries
      return .ref address
  | .entry _ value => evaluate engine gate scope value
  | .set items => do
      newSet (← setOf engine (← evaluateItems engine gate scope items).toArray) false
  | .list items => do newList (← evaluateItems engine gate scope items).toArray
  | .tuple items => return .tuple (← evaluateItems engine gate scope items)
  | .gather .generator element clauses => do
      let source ← evaluateFirstSource engine gate scope clauses
      let inner ← gatheringScope scope (gatheringWord .generator) clauses
      new (.generator
        { name := scope.qualifier ++ gatheringWord .generator, element, clauses, scope := inner,
          iterators := [← iterate engine source] })
  | .gather gathering element clauses => do
      let isSet := match gathering with
        | .set => true
        | _ => false
      let gathered ← allocate (if isSet then .set #[] false else .list #[])
      let inner ← gatheringScope scope (gatheringWord gathering) clauses
      gather engine gate scope inner (do addGathered engine gathered (← evaluate engine gate inner element)) clauses
      return .ref gathered
  | .gatherMapping key value clauses => do
      let gathered ← newDict #[]
      let inner ← gatheringScope scope "<dictcomp>" clauses
      gather engine gate scope inner (do
        let key ← evaluate engine gate inner key
        let value ← evaluate engine gate inner value
        setEntry engine gathered key value) clauses
      return .ref gathered
  | .clause _ source _ _ => evaluate engine gate scope source
  | .await value => do awaitValue engine (← evaluate engine gate scope value)
  | .yield value => do
      pushYielded ((← evaluateAny engine gate scope value).getD .nothing)
      return .nothing
  | .yieldFrom value => do
      let items ← collect engine (← evaluate engine gate scope value)
      items.toList.forM pushYielded
      return .nothing
  | .compare first relations rest => do
      evaluateComparison engine gate scope (← evaluate engine gate scope first) relations rest
  | .call callee arguments keywords => do
      let callee ← evaluate engine gate scope callee
      gate scope callee
      let positional ← evaluateArguments engine gate scope callee arguments
      let named ← evaluateKeywords engine gate scope callee [] keywords
      callIn engine scope callee { positional, named }
  | .keyword _ value => evaluate engine gate scope value
  | .member object name => do attributeOf engine (← evaluate engine gate scope object) name
  | .subscript object index => do
      let object ← evaluate engine gate scope object
      let index ← evaluate engine gate scope index
      itemOf engine object index
  | .starred value => evaluate engine gate scope value
  | .slice lower upper step => do
      let lower ← evaluateAny engine gate scope lower
      let upper ← evaluateAny engine gate scope upper
      let step ← evaluateAny engine gate scope step
      return .slice (lower.getD .nothing) (upper.getD .nothing) (step.getD .nothing)

def evaluateAny (engine : Engine) (gate : Gate) (scope : Scope) : Option Expr → Run (Option Value)
  | none => return none
  | some expression => some <$> evaluate engine gate scope expression

/-- The pieces of a formatted text as one text. -/
def evaluatePieces (engine : Engine) (gate : Gate) (scope : Scope) : List Expr → Run String
  | [] => return ""
  | piece :: pieces => do
      let first ← textOf engine (← evaluate engine gate scope piece)
      return first ++ (← evaluatePieces engine gate scope pieces)

/-- The first operand that decides, or the last one. -/
def evaluateLogical (engine : Engine) (gate : Gate) (scope : Scope) (every : Bool) : List Expr → Run Value
  | [] => return .nothing
  | [last] => evaluate engine gate scope last
  | operand :: operands => do
      let value ← evaluate engine gate scope operand
      if (← holds engine value) = every then evaluateLogical engine gate scope every operands
      else return value

/-- Items of a list, a set or a tuple; those behind stars are taken out of their values. -/
def evaluateItems (engine : Engine) (gate : Gate) (scope : Scope) : List Expr → Run (List Value)
  | [] => return []
  | .starred value :: items => do
      let first ← itemsBehindStar engine (← evaluate engine gate scope value)
      return first ++ (← evaluateItems engine gate scope items)
  | item :: items => do
      let first ← evaluate engine gate scope item
      return first :: (← evaluateItems engine gate scope items)

def evaluateEntries (engine : Engine) (gate : Gate) (scope : Scope) (address : Address) : List Expr → Run Unit
  | [] => return ()
  | .entry (some key) value :: entries => do
      let key ← evaluate engine gate scope key
      let value ← evaluate engine gate scope value
      setEntry engine address key value
      evaluateEntries engine gate scope address entries
  | .entry none value :: entries => do
      let value ← evaluate engine gate scope value
      let name ← typeName value
      let taken ← tryCatch (entriesToTakeIn engine "" value) fun error => do
        if ← isError error "TypeError" then typeError ("'" ++ name ++ "' object is not a mapping")
        else throw error
      for (key, item) in taken do setEntry engine address key item
      evaluateEntries engine gate scope address entries
  | _ :: entries => evaluateEntries engine gate scope address entries

/-- The arguments of a call by place. -/
def evaluateArguments (engine : Engine) (gate : Gate) (scope : Scope) (callee : Value) : List Expr → Run (List Value)
  | [] => return []
  | [.starred value] => do
      let value ← evaluate engine gate scope value
      if !(← hasItems value) then
        typeError ((← functionText engine callee) ++ " argument after * must be an iterable, not " ++
          (← typeName value))
      return (← collect engine value).toList
  | .starred value :: rest => do
      let first ← itemsBehindStar engine (← evaluate engine gate scope value)
      return first ++ (← evaluateArguments engine gate scope callee rest)
  | argument :: rest => do
      let first ← evaluate engine gate scope argument
      return first :: (← evaluateArguments engine gate scope callee rest)

/-- The arguments of a call by name. -/
def evaluateKeywords (engine : Engine) (gate : Gate) (scope : Scope) (callee : Value) (named : List (String × Value)) :
    List Expr → Run (List (String × Value))
  | [] => return named
  | .keyword (some name) value :: rest => do
      let value ← evaluate engine gate scope value
      let named ← joinKeywords (functionText engine callee) named [(.text name, value)]
      evaluateKeywords engine gate scope callee named rest
  | .keyword none value :: rest => do
      let value ← evaluate engine gate scope value
      let function := functionText engine callee
      let entries ← entriesToTakeIn engine
        ((← function) ++ " argument after ** must be a mapping, not ") value
      evaluateKeywords engine gate scope callee (← joinKeywords function named entries) rest
  | _ :: rest => evaluateKeywords engine gate scope callee named rest

/-- A chain of comparisons, up to the first one that does not hold. -/
def evaluateComparison (engine : Engine) (gate : Gate) (scope : Scope) (left : Value) (relations : List Code.Relation) :
    List Expr → Run Value
  | [] => return left
  | [right] => do
      relateBy engine (relations.headD .equal) left (← evaluate engine gate scope right)
  | right :: rest => do
      let right ← evaluate engine gate scope right
      let result ← relateBy engine (relations.headD .equal) left right
      if ← holds engine result then evaluateComparison engine gate scope right (relations.drop 1) rest
      else return result

/-- The defaults of parameters that have one. -/
def evaluateDefaults (engine : Engine) (gate : Gate) (scope : Scope) : List Expr → Run (List (String × Value))
  | [] => return []
  | .parameter name _ _ (some default) :: rest => do
      let value ← evaluate engine gate scope default
      return (name, value) :: (← evaluateDefaults engine gate scope rest)
  | _ :: rest => evaluateDefaults engine gate scope rest

/-- The annotations of parameters that have one. -/
def evaluateAnnotations (engine : Engine) (gate : Gate) (scope : Scope) : List Expr → Run (List (String × Value))
  | [] => return []
  | .parameter name _ (some annotated) _ :: rest => do
      let value ← evaluate engine gate scope annotated
      return (name, value) :: (← evaluateAnnotations engine gate scope rest)
  | _ :: rest => evaluateAnnotations engine gate scope rest

def evaluateFirstSource (engine : Engine) (gate : Gate) (scope : Scope) : List Expr → Run Value
  | .clause _ source _ _ :: _ => evaluate engine gate scope source
  | _ => return .nothing

/-- Whether all conditions hold, up to the first one that does not. -/
def allHold (engine : Engine) (gate : Gate) (scope : Scope) : List Expr → Run Bool
  | [] => return true
  | condition :: rest => do
      if ← holds engine (← evaluate engine gate scope condition) then allHold engine gate scope rest else return false

/-- Goes through clauses and acts for every choice of items that meets the conditions. The source of the
first clause stands in the scope around. -/
def gather (engine : Engine) (gate : Gate) (outer inner : Scope) (action : Run Unit) : List Expr → Run Unit
  | [] => action
  | .clause target source conditions isAsync :: rest => do
      let source ← evaluate engine gate outer source
      if isAsync then
        typeError ("'async for' requires an object with __aiter__ method, got " ++ (← typeName source))
      let iterator ← iterate engine source
      forEachFrom engine iterator (fun item => do
        assign engine gate inner item target
        if ← allHold engine gate inner conditions then gather engine gate inner inner action rest
        return true) patience
  | _ :: rest => gather engine gate outer inner action rest

/-- Gives a value to a target. -/
def assign (engine : Engine) (gate : Gate) (scope : Scope) (value : Value) : Expr → Run Unit
  | .name name => bindName scope name value
  | .member object name => do setAttribute engine (← evaluate engine gate scope object) name value
  | .subscript object index => do
      let object ← evaluate engine gate scope object
      let index ← evaluate engine gate scope index
      setItem engine object index value
  | .starred target => assign engine gate scope value target
  | .tuple targets => do assignEach engine gate scope (← unpackFor engine targets value) targets
  | .list targets => do assignEach engine gate scope (← unpackFor engine targets value) targets
  | _ => return ()

def assignEach (engine : Engine) (gate : Gate) (scope : Scope) (values : List Value) : List Expr → Run Unit
  | [] => return ()
  | target :: targets => do
      assign engine gate scope (values.headD .nothing) target
      assignEach engine gate scope (values.drop 1) targets

end

end Gated

/-! Evaluation as code runs it: every call passes. -/

def evaluate (engine : Engine) : Scope → Expr → Run Value := Gated.evaluate engine .free

def evaluateAny (engine : Engine) : Scope → Option Expr → Run (Option Value) := Gated.evaluateAny engine .free

def evaluateItems (engine : Engine) : Scope → List Expr → Run (List Value) := Gated.evaluateItems engine .free

def evaluateKeywords (engine : Engine) :
    Scope → Value → List (String × Value) → List Expr → Run (List (String × Value)) :=
  Gated.evaluateKeywords engine .free

def evaluateDefaults (engine : Engine) : Scope → List Expr → Run (List (String × Value)) :=
  Gated.evaluateDefaults engine .free

def evaluateAnnotations (engine : Engine) : Scope → List Expr → Run (List (String × Value)) :=
  Gated.evaluateAnnotations engine .free

def allHold (engine : Engine) : Scope → List Expr → Run Bool := Gated.allHold engine .free

def assign (engine : Engine) : Scope → Value → Expr → Run Unit := Gated.assign engine .free

end Run

end LiveShell
