import LiveShell.Value.Arguments

/-!
Fitting the arguments of a call to the parameters of a function written in code.
-/

namespace LiveShell

/-- A parameter as a call sees it. -/
structure Slot where
  name : String
  kind : Code.ParameterKind
  default : Option Value := none
deriving Inhabited

namespace Run

/-- Words in quotes, the last one joined with an "and". -/
def enumerated (names : List String) : String :=
  let quoted := names.map fun name => "'" ++ name ++ "'"
  match quoted with
  | [] => ""
  | [single] => single
  | [first, second] => first ++ " and " ++ second
  | several => ", ".intercalate several.dropLast ++ ", and " ++ several.getLastD ""

def isPlaced (slot : Slot) : Bool := slot.kind = .positional || slot.kind = .positionalOnly

/-- Raises for more arguments by place than there are parameters for them. -/
def tooMany {α : Type} (function : String) (slots : List Slot) (count namedOnly : Nat) : Run α :=
  let placed := slots.filter isPlaced
  let optional := (placed.filter fun slot => slot.default.isSome).length
  let takes :=
    if optional = 0 then toString placed.length
    else "from " ++ toString (placed.length - optional) ++ " to " ++ toString placed.length
  let several := optional ≠ 0 || placed.length ≠ 1
  let extra :=
    if namedOnly = 0 then ""
    else " positional argument" ++ plural count ++ " (and " ++ toString namedOnly ++ " keyword-only argument" ++
      plural namedOnly ++ ")"
  typeError (function ++ "() takes " ++ takes ++ " positional argument" ++ (if several then "s" else "") ++
    " but " ++ toString count ++ extra ++ " " ++ (if count = 1 && namedOnly = 0 then "was" else "were") ++
    " given")

/-- Puts the arguments that are given by name where they belong. -/
def placeNamed (function : String) (slots : List Slot) (bound : List (String × Value)) :
    List (String × Value) → Run (List (String × Value) × List (String × Value))
  | [] => return (bound, [])
  | (name, value) :: rest => do
      let known := slots.any fun slot =>
        slot.name = name && (slot.kind = .positional || slot.kind = .keywordOnly)
      if known then
        if (bound.lookup name).isSome then
          typeError (function ++ "() got multiple values for argument '" ++ name ++ "'")
        placeNamed function slots (bound ++ [(name, value)]) rest
      else if slots.any fun slot => slot.kind = .keywords then
        let (bound, extra) ← placeNamed function slots bound rest
        return (bound, (name, value) :: extra)
      else
        let misnamed := ((name, value) :: rest).filter fun (other, _) =>
          slots.any fun slot => slot.name = other && slot.kind = .positionalOnly
        if misnamed.isEmpty then
          typeError (function ++ "() got an unexpected keyword argument '" ++ name ++ "'")
        else
          typeError (function ++ "() got some positional-only arguments passed as keyword arguments: '" ++
            ", ".intercalate (misnamed.map (·.1)) ++ "'")

def requireBound (function word : String) (slots : List Slot) (bound : List (String × Value)) : Run Unit := do
  let missing := slots.filter fun slot => slot.default.isNone && (bound.lookup slot.name).isNone
  if !missing.isEmpty then
    typeError (function ++ "() missing " ++ toString missing.length ++ " required " ++ word ++ " argument" ++
      plural missing.length ++ ": " ++ enumerated (missing.map (·.name)))

/-- What each parameter gets from the arguments of a call. -/
def fitArguments (function : String) (slots : List Slot) (given : Given) : Run (List (String × Value)) := do
  let placed := slots.filter isPlaced
  let first := (placed.map (·.name)).zip given.positional
  let extra := given.positional.drop placed.length
  let (bound, named) ← placeNamed function slots first given.named
  let variadic := slots.find? fun slot => slot.kind = .variadic
  let namedOnly := slots.filter fun slot => slot.kind = .keywordOnly
  if !extra.isEmpty && variadic.isNone then
    tooMany function slots given.positional.length
      (namedOnly.filter fun slot => (bound.lookup slot.name).isSome).length
  requireBound function "positional" placed bound
  requireBound function "keyword-only" namedOnly bound
  let whole ← slots.filterMapM fun slot => do
    match slot.kind with
    | .variadic => return some (slot.name, Value.tuple extra)
    | .keywords =>
        return some (slot.name, .ref (← newDict (named.map fun (name, value) => (.text name, value)).toArray))
    | _ =>
        match bound.lookup slot.name with
        | some value => return some (slot.name, value)
        | none => return slot.default.map fun value => (slot.name, value)
  return whole

def slotsOf (data : FunctionData) : List Slot :=
  data.parameters.filterMap fun parameter => match parameter with
    | .parameter name kind _ _ => some { name, kind, default := data.defaults.lookup name }
    | _ => none

end Run

end LiveShell
