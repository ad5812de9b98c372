import LiveShell.Value.Routine

/-!
Names in a scope: what a name stands for, binding it and taking it away. A name belongs to the innermost frame
that keeps it; a class body keeps its names in the namespace of the class; all others are global.
-/

namespace LiveShell

namespace Run

/-- Where a name is kept. -/
inductive Keeper
  | frame (address : Address) (isInnermost : Bool)
  | classSpace (address : Address)
  | globals

/-- The innermost frame that keeps a name. -/
def frameOf? (name : String) (isInnermost : Bool) : List Frame → Option (Address × Bool)
  | [] => none
  | frame :: rest =>
      if frame.names.contains name then some (frame.address, isInnermost) else frameOf? name false rest

def keeperOf (scope : Scope) (name : String) : Keeper :=
  if scope.globalNames.contains name then .globals
  else match scope.classSpace with
    | some space => .classSpace space
    | none =>
        match frameOf? name true scope.frames with
        | some (address, isInnermost) => .frame address isInnermost
        | none => .globals

def inFrame? (address : Address) (name : String) : Run (Option Value) := do
  match ← cellAt? address with
  | some (.frame bindings) => return bindings.lookup name
  | _ => return none

def bindInFrame (address : Address) (name : String) (value : Value) : Run Unit :=
  modify fun world =>
    { world with cells := world.cells.modify address fun cell => match cell with
        | .frame bindings => .frame ((name, value) :: bindings.filter (·.1 ≠ name))
        | cell => cell }

def unbindInFrame (address : Address) (name : String) : Run Unit :=
  modify fun world =>
    { world with cells := world.cells.modify address fun cell => match cell with
        | .frame bindings => .frame (bindings.filter (·.1 ≠ name))
        | cell => cell }

def undefinedName {α : Type} (name : String) : Run α :=
  fail "NameError" ("name '" ++ name ++ "' is not defined")

/-- Raises for a name that is kept by a frame but not bound there. -/
def unboundInFrame {α : Type} (name : String) (isInnermost : Bool) : Run α :=
  if isInnermost then
    fail "UnboundLocalError"
      ("cannot access local variable '" ++ name ++ "' where it is not associated with a value")
  else
    fail "NameError" ("cannot access free variable '" ++ name ++
      "' where it is not associated with a value in enclosing scope")

/-- The entry of a namespace that tells where built-in names are found. -/
def builtinsName : String := "__builtins__"

/-- A built-in name, as code in a namespace finds it: a mapping or a module in that entry stands in for all of
them. -/
def builtinIn? (globals : Address) (name : String) : Run (Option Value) := do
  match ← nameIn? globals builtinsName with
  | some (.ref address) =>
      match ← cellAt? address with
      | some (.module _ space) => nameIn? space name
      | _ => nameIn? address name
  | _ => return builtinValue? name

/-- The value of a global name, or else of a built-in one. -/
def globalValue? (globals : Address) (name : String) : Run (Option Value) := do
  match ← nameIn? globals name with
  | some value => return some value
  | none => builtinIn? globals name

def lookUpGlobal (globals : Address) (name : String) : Run Value := do
  match ← globalValue? globals name with
  | some value => return value
  | none => undefinedName name

/-- What a name stands for in a scope. -/
def lookUp (scope : Scope) (name : String) : Run Value := do
  match keeperOf scope name with
  | .globals => lookUpGlobal scope.globals name
  | .frame address isInnermost =>
      match ← inFrame? address name with
      | some value => return value
      | none => unboundInFrame name isInnermost
  | .classSpace space =>
      match ← nameIn? space name with
      | some value => return value
      | none =>
          match frameOf? name false scope.frames with
          | some (address, _) =>
              match ← inFrame? address name with
              | some value => return value
              | none => unboundInFrame name false
          | none => lookUpGlobal scope.globals name

def bindName (scope : Scope) (name : String) (value : Value) : Run Unit := do
  match keeperOf scope name with
  | .globals => setName scope.globals name value
  | .frame address _ => bindInFrame address name value
  | .classSpace space => setName space name value

def unbindName (scope : Scope) (name : String) : Run Unit := do
  match keeperOf scope name with
  | .globals => if !(← removeName scope.globals name) then undefinedName name
  | .frame address isInnermost =>
      if (← inFrame? address name).isSome then unbindInFrame address name
      else unboundInFrame name isInnermost
  | .classSpace space => if !(← removeName space name) then undefinedName name

/-- The names of the scope that code stands in directly, with their values. -/
def localSpace (scope : Scope) : Run Value := do
  match scope.classSpace, scope.frames with
  | some space, _ => return .ref space
  | none, frame :: _ =>
      match ← cellAt? frame.address with
      | some (.frame bindings) =>
          dictOfTexts (frame.names.eraseDups.filterMap fun name =>
            (bindings.lookup name).map fun value => (name, value))
      | _ => return .ref scope.globals
  | none, [] => return .ref scope.globals

/-- A scope inside of another one, with a frame for names of its own. -/
def innerScope (scope : Scope) (names : List String) (bindings : List (String × Value))
    (qualifier : String) : Run Scope := do
  let address ← allocate (.frame bindings)
  return { scope with
    frames := ⟨address, names⟩ :: scope.frames, classSpace := none, globalNames := [], qualifier }

end Run

end LiveShell
