import LiveShell.Value.Arithmetic

/-!
What a built-in function takes: how many arguments, which of them by name, and what is said when others come.
-/

namespace LiveShell

/-- The arguments of a call. -/
structure Given where
  positional : List Value
  named : List (String × Value) := []
deriving Inhabited

/-- What a built-in function takes. -/
inductive Shape
  /-- Nothing. -/
  | none
  /-- Exactly one argument. -/
  | one
  /-- Between two numbers of arguments. -/
  | between (least most : Nat)
  /-- Between two numbers of arguments, said in the way of functions that take a list of formats. -/
  | listed (least most : Nat)
  /-- Arguments by place or by name; the first `placed` ones by place only. -/
  | named (least placed : Nat) (names : List String)
  /-- Anything. -/
  | any
deriving Repr, Inhabited

def plural (count : Nat) : String := if count = 1 then "" else "s"

namespace Run

def refuseNamed (function : String) (given : Given) : Run Unit := do
  if !given.named.isEmpty then typeError (function ++ "() takes no keyword arguments")

def requireBetween (function : String) (least most : Nat) (given : Given) : Run Unit := do
  let count := given.positional.length
  let exact : Bool := least = most
  if count < least then
    typeError (function ++ " expected " ++ (if exact then "" else "at least ") ++ toString least ++
      " argument" ++ plural least ++ ", got " ++ toString count)
  if most < count then
    typeError (function ++ " expected " ++ (if exact then "" else "at most ") ++ toString most ++
      " argument" ++ plural most ++ ", got " ++ toString count)

def requireListed (function : String) (least most : Nat) (given : Given) : Run Unit := do
  let count := given.positional.length
  let exact : Bool := least = most
  let say (word : String) (bound : Nat) : Run Unit :=
    typeError (function ++ "() takes " ++ (if exact then "exactly" else word) ++ " " ++ toString bound ++
      " argument" ++ plural bound ++ " (" ++ toString count ++ " given)")
  if count < least then say "at least" least
  if most < count then say "at most" most

/-- Arguments in the order of their names; those left out are missing. -/
def orderNamed (function : String) (least placed : Nat) (names : List String) (given : Given) :
    Run (List (Option Value)) := do
  let count := given.positional.length
  let total := count + given.named.length
  if names.length < total then
    typeError (function ++ "() takes " ++ (if least = names.length then "exactly " else "at most ") ++
      toString names.length ++ " " ++ (if count = 0 then "keyword " else "") ++ "argument" ++
      plural names.length ++ " (" ++ toString total ++ " given)")
  for (name, _) in given.named do
    if !(names.drop placed).contains name then
      typeError ("'" ++ name ++ "' is an invalid keyword argument for " ++ function ++ "()")
    if (names.take count).contains name then
      typeError ("argument for " ++ function ++ "() given by name ('" ++ name ++ "') and position (" ++
        toString ((names.takeWhile (· ≠ name)).length + 1) ++ ")")
  let values := names.zipIdx.map fun (name, index) =>
    match given.positional[index]? with
    | some value => some value
    | Option.none => given.named.lookup name
  for (value, index) in (values.take least).zipIdx do
    if value.isNone then
      if index < placed then
        typeError (function ++ "() takes at least " ++ toString least ++ " positional argument" ++
          plural least ++ " (" ++ toString count ++ " given)")
      else
        typeError (function ++ "() missing required argument '" ++ (names[index]?).getD "" ++ "' (pos " ++
          toString (index + 1) ++ ")")
  return values

/-- Checks arguments against a shape and puts them in order. The owner is part of some texts only. -/
def orderArguments (owner function : String) (shape : Shape) (given : Given) :
    Run (List (Option Value)) := do
  let full := if owner = "" then function else owner ++ "." ++ function
  let placed := given.positional.map some
  match shape with
  | .none =>
      refuseNamed full given
      let count := given.positional.length
      if count ≠ 0 then typeError (full ++ "() takes no arguments (" ++ toString count ++ " given)")
      return []
  | .one =>
      refuseNamed full given
      let count := given.positional.length
      if count ≠ 1 then
        typeError (full ++ "() takes exactly one argument (" ++ toString count ++ " given)")
      return placed
  | .between least most =>
      refuseNamed full given
      requireBetween function least most given
      return placed
  | .listed least most =>
      refuseNamed full given
      requireListed function least most given
      return placed
  | .named least first names => orderNamed function least first names given
  | .any => return placed

/-! Readers of single arguments. -/

def textArgument (refusal : String → String) (value : Value) : Run String := do
  match ← plain value with
  | .text text => return text
  | _ => typeError (refusal (← typeName value))

/-- A count or a place. Numbers that are too large are refused. -/
def sizeArgument (engine : Engine) (value : Value) : Run Int := do
  let number ← toIndex engine value
  if Nat.pow 2 63 ≤ number.natAbs then
    fail "OverflowError" "Python int too large to convert to C ssize_t"
  return number

/-- A place in a sequence where none may stand for an end. -/
def placeArgument (engine : Engine) (value : Option Value) (standard : Int) : Run Int := do
  match value with
  | none | some .nothing => return standard
  | some value =>
      match ← toIndex? engine value with
      | some number => return number
      | none => typeError "slice indices must be integers or None or have an __index__ method"

end Run

end LiveShell
