import LiveShell.Evaluation.Import

/-!
What statements do. A statement changes the world and tells how the code goes on after it.
-/

namespace LiveShell

open Code (Expr Stmt)

/-- How code goes on after a statement. -/
inductive Flow
  | normal
  | returned (value : Value)
  | broke
  | continued
deriving Inhabited

namespace Run

/-! Loops. -/

/-- Takes turns until none is left or one leaves the loop. -/
def takeTurns (turn : Run (Option Flow)) : Nat → Run Flow
  | 0 => raise "KeyboardInterrupt" []
  | turns + 1 => do
      match ← turn with
      | none => return .normal
      | some .normal | some .continued => takeTurns turn turns
      | some flow => return flow

/-- A whole loop, with what follows when it was not left. -/
def loop (turn : Run (Option Flow)) (otherwise : Run Flow) : Run Flow := do
  match ← takeTurns turn patience with
  | .normal => otherwise
  | .broke => return .normal
  | flow => return flow

/-! Errors. -/

/-- What came of a computation: its value, or what it raised. -/
def attempt {α : Type} (run : Run α) : Run (Except Value α) :=
  tryCatch (Except.ok <$> run) fun error => return .error error

def resume {α : Type} (outcome : Except Value α) : Run α :=
  match outcome with
  | .ok value => return value
  | .error error => throw error

/-- Runs something last, whatever came before. If it does not run through, that counts. -/
def finish (outcome : Except Value Flow) (last : Run Flow) : Run Flow := do
  match ← last with
  | .normal => resume outcome
  | flow => return flow

/-- A computation during which an error is being handled. -/
def whileHandling (error : Value) (run : Run Flow) : Run Flow := do
  modify fun world => { world with handled := error :: world.handled }
  let outcome ← attempt run
  modify fun world => { world with handled := world.handled.drop 1 }
  resume outcome

def errorBase : Value := .kind (.error "BaseException")

/-- The error to raise for a value: an error, or a class of errors. -/
def toError (engine : Engine) (value : Value) : Run Value := do
  let refuse : Run Value := typeError "exceptions must derive from BaseException"
  if ← isClass value then
    if ← isSubclass value errorBase then engine.call value [] [] else refuse
  else if ← isInstance value errorBase then return value
  else refuse

def raiseAgain : Run Flow := do
  match (← get).handled with
  | error :: _ => throw error
  | [] => fail "RuntimeError" "No active exception to reraise"

def requireCause (cause : Value) : Run Unit := do
  let suits ← (do
    if cause.same .nothing then pure true
    else if ← isClass cause then isSubclass cause errorBase
    else isInstance cause errorBase)
  if !suits then typeError "exception causes must derive from BaseException"

/-- Whether a handler for a class, or for several, takes an error. -/
def handles (error classes : Value) : Run Bool := do
  let classes := match classes with
    | .tuple items => items
    | single => [single]
  for cls in classes do
    if !((← isClass cls) && (← isSubclass cls errorBase)) then
      typeError "catching classes that do not inherit from BaseException is not allowed"
  classes.anyM (isInstance error)

/-! Managers of contexts. -/

/-- Runs a body within a context. -/
def withManager (engine : Engine) (manager : Value) (enter : Value → Run Unit) (body : Run Flow) :
    Run Flow := do
  let memberOf (name suffix : String) : Run Value := do
    match ← attributeIfAny? engine manager name with
    | some member => return member
    | none =>
        typeError ("'" ++ (← typeName manager) ++ "' object does not support the context manager protocol" ++
          suffix)
  let enterMember ← memberOf "__enter__" ""
  let leaveMember ← memberOf "__exit__" " (missed __exit__ method)"
  enter (← engine.call enterMember [] [])
  match ← attempt body with
  | .ok flow =>
      let _ ← engine.call leaveMember [.nothing, .nothing, .nothing] []
      return flow
  | .error error =>
      let answer ← engine.call leaveMember [← classOf error, error, .nothing] []
      if ← holds engine answer then return .normal else throw error

def withManagers (engine : Engine) (scope : Scope) (body : Run Flow) : List (Expr × Option Expr) → Run Flow
  | [] => body
  | (manager, target) :: rest => do
      let manager ← evaluate engine scope manager
      withManager engine manager (fun value => match target with
        | some target => assign engine scope value target
        | none => return ()) (withManagers engine scope body rest)

/-! Single statements. -/

mutual

def deleteTarget (engine : Engine) (scope : Scope) : Expr → Run Unit
  | .name name => unbindName scope name
  | .member object name => do deleteAttribute engine (← evaluate engine scope object) name
  | .subscript object index => do
      let object ← evaluate engine scope object
      let index ← evaluate engine scope index
      deleteItem engine object index
  | .tuple targets => deleteTargets engine scope targets
  | .list targets => deleteTargets engine scope targets
  | _ => return ()

def deleteTargets (engine : Engine) (scope : Scope) : List Expr → Run Unit
  | [] => return ()
  | target :: targets => do
      deleteTarget engine scope target
      deleteTargets engine scope targets

end

/-- Changes a target by an operator. What the target stands in is evaluated once. -/
def augment (engine : Engine) (scope : Scope) (operator : Code.BinaryOperator) (target value : Expr) :
    Run Unit := do
  let change (old : Value) : Run Value := do
    operate engine (fillIn engine) operator true old (← evaluate engine scope value)
  match target with
  | .name name => bindName scope name (← change (← lookUp scope name))
  | .member object name =>
      let object ← evaluate engine scope object
      setAttribute engine object name (← change (← attributeOf engine object name))
  | .subscript object index =>
      let object ← evaluate engine scope object
      let index ← evaluate engine scope index
      setItem engine object index (← change (← itemOf engine object index))
  | _ => return ()

/-- The mapping of annotations of a scope, made if it is not there. -/
def annotationsOf (scope : Scope) : Run (Option Address) := do
  let space := match scope.classSpace, scope.frames with
    | some space, _ => some space
    | none, [] => some scope.globals
    | none, _ => none
  match space with
  | none => return none
  | some space =>
      match ← nameIn? space "__annotations__" with
      | some (.ref address) => return some address
      | _ =>
          let address ← newDict #[]
          setName space "__annotations__" (.ref address)
          return some address

def annotate (engine : Engine) (scope : Scope) (target annotated : Expr) (value : Option Expr) : Run Unit := do
  match value with
  | some value => assign engine scope (← evaluate engine scope value) target
  | none => pure ()
  match ← annotationsOf scope, target with
  | some address, .name name => setEntry engine address (.text name) (← evaluate engine scope annotated)
  | some _, _ => let _ ← evaluate engine scope annotated
  | none, _ => return ()

/-- Makes the mapping of annotations ready if code adds to it. -/
def prepareAnnotations (scope : Scope) (body : List Stmt) : Run Unit := do
  if Code.annotatesInBlock body then let _ ← annotationsOf scope

/-- Applies decorators to a value, the last one first. -/
def decorate (engine : Engine) (decorators : List Value) (value : Value) : Run Value :=
  decorators.foldrM (fun decorator value => engine.call decorator [value] []) value

def defineFunction (engine : Engine) (scope : Scope) (name : String) (parameters : List Expr)
    (result : Option Expr) (decorators : List Expr) (body : List Stmt) (isAsync : Bool) : Run Unit := do
  let decorators ← decorators.mapM (evaluate engine scope)
  let defaults ← evaluateDefaults engine scope parameters
  let annotations ← evaluateAnnotations engine scope parameters
  let resultNotes ← (match result with
    | some annotated => do pure [("return", ← evaluate engine scope annotated)]
    | none => pure [])
  let function ← makeFunction scope name parameters defaults (.block body) (Code.localNames parameters body)
    isAsync (Code.yieldsInBlock body) (annotations ++ resultNotes)
  bindName scope name (← decorate engine decorators function)

/-- Makes a class around the run of its body. -/
def defineClass (engine : Engine) (scope : Scope) (name : String) (bases keywords decorators : List Expr)
    (globalNames : List String) (doc : Option String) (body : Scope → Run Flow) : Run Unit := do
  let decorators ← decorators.mapM (evaluate engine scope)
  let bases ← evaluateItems engine scope bases
  let named ← evaluateKeywords engine scope .nothing [] keywords
  let qualified := scope.qualifier ++ name
  let module := (← nameIn? scope.globals "__name__").getD (.text "builtins")
  let space ← newDict #[(.text "__module__", module), (.text "__qualname__", .text qualified)]
  match doc with
  | some text => setName space "__doc__" (.text text)
  | none => pure ()
  let frame ← allocate (.frame [])
  let inner : Scope :=
    { scope with frames := ⟨frame, ["__class__"]⟩ :: scope.frames, classSpace := some space, globalNames,
                 qualifier := qualified ++ "." }
  let _ ← body inner
  let cls ← makeClass engine name bases space (named.filter (·.1 ≠ "metaclass"))
  bindInFrame frame "__class__" cls
  bindName scope name (← decorate engine decorators cls)

mutual

/-- Runs a statement. -/
def runStatement (engine : Engine) (scope : Scope) : Stmt → Run Flow
  | .expression value => do
      let _ ← evaluate engine scope value
      return .normal
  | .assign targets value => do
      let value ← evaluate engine scope value
      targets.forM (assign engine scope value)
      return .normal
  | .augment target operator value => do
      augment engine scope operator target value
      return .normal
  | .annotate target annotated value => do
      annotate engine scope target annotated value
      return .normal
  | .delete targets => do
      deleteTargets engine scope targets
      return .normal
  | .pass | .global _ | .nonlocal _ => return .normal
  | .leave => return .broke
  | .next => return .continued
  | .give value => return .returned ((← evaluateAny engine scope value).getD .nothing)
  | .raise none _ => raiseAgain
  | .raise (some error) cause => do
      let value ← evaluate engine scope error
      let cause ← evaluateAny engine scope cause
      let error ← toError engine value
      match cause with
      | some cause => requireCause cause
      | none => pure ()
      throw error
  | .assert test message => do
      if !(← holds engine (← evaluate engine scope test)) then
        match message with
        | some message => raise "AssertionError" [← evaluate engine scope message]
        | none => raise "AssertionError" []
      return .normal
  | .load modules => do
      for (name, binding) in modules do importInto engine scope name binding
      return .normal
  | .loadFrom module level names => do
      importFrom engine scope module level names
      return .normal
  | .choose test body otherwise => do
      if ← holds engine (← evaluate engine scope test) then runBlock engine scope body
      else runBlock engine scope otherwise
  | .whileLoop test body otherwise =>
      loop (do
        if ← holds engine (← evaluate engine scope test) then some <$> runBlock engine scope body
        else return none) (runBlock engine scope otherwise)
  | .forLoop target source body otherwise isAsync => do
      let source ← evaluate engine scope source
      if isAsync then
        typeError ("'async for' requires an object with __aiter__ method, got " ++ (← typeName source))
      let iterator ← iterate engine source
      loop (do
        match ← engine.next iterator with
        | none => return none
        | some item =>
            assign engine scope item target
            some <$> runBlock engine scope body) (runBlock engine scope otherwise)
  | .within items body _ => withManagers engine scope (runBlock engine scope body) items
  | .guard body handlers otherwise last _ => do
      let outcome ← attempt (do
        match ← attempt (runBlock engine scope body) with
        | .ok .normal => runBlock engine scope otherwise
        | .ok flow => return flow
        | .error error => whileHandling error (runHandlers engine scope error handlers))
      finish outcome (runBlock engine scope last)
  | .handler _ _ body => runBlock engine scope body
  | .define name parameters result decorators body isAsync => do
      defineFunction engine scope name parameters result decorators body isAsync
      return .normal
  | .classDefinition name bases keywords decorators body => do
      defineClass engine scope name bases keywords decorators (Code.declaredIn true body) (leadingText? body)
        fun inner => do
          prepareAnnotations inner body
          runBlock engine inner body
      return .normal

def runBlock (engine : Engine) (scope : Scope) : List Stmt → Run Flow
  | [] => return .normal
  | statement :: rest => do
      match ← runStatement engine scope statement with
      | .normal => runBlock engine scope rest
      | flow => return flow

/-- Runs the first handler that takes an error. The name it gives the error is gone afterwards. -/
def runHandlers (engine : Engine) (scope : Scope) (error : Value) : List Stmt → Run Flow
  | [] => throw error
  | .handler kind name body :: rest => do
      let takes ← (match kind with
        | none => pure true
        | some kind => do handles error (← evaluate engine scope kind))
      if takes then
        match name with
        | none => runBlock engine scope body
        | some name =>
            bindName scope name error
            let outcome ← attempt (runBlock engine scope body)
            let _ ← attempt (unbindName scope name)
            resume outcome
      else runHandlers engine scope error rest
  | _ :: rest => runHandlers engine scope error rest

end

end Run

end LiveShell
