import LiveShell.Value.Making

/-!
Objects of the surroundings: classes whose members are given from outside, and functions that only give a
value or raise an error. How often they run is counted.
-/

namespace LiveShell

/-- A class as its surroundings describe it. -/
structure SuppliedClass where
  name : String
  attributes : List (String × Value) := []
  /-- Methods that take anything and give nothing. -/
  methods : List String := []
  /-- Members that raise an error when they are looked up, with its text. -/
  failing : List (String × String) := []
  /-- How its objects tell their names, when not as other objects do. -/
  listing : Option HostAction := none
  /-- How its objects show themselves, when not as other objects do. -/
  form : Option HostAction := none

namespace Run

/-- The namespace of a class that code would make at the top. -/
def topClassSpace : Run Address := newDict #[(.text "__module__", .text "__main__")]

/-- A function of the surroundings. -/
def newHost (name qualified : String) (action : HostAction) (counted : Bool) : Run Value :=
  new (.host name qualified action counted)

/-- Makes a class of the surroundings. -/
def supplyClass (engine : Engine) (supplied : SuppliedClass) : Run Value := do
  let space ← topClassSpace
  let add (name : String) (action : HostAction) (counted : Bool) : Run Value :=
    newHost name (supplied.name ++ "." ++ name) action counted
  for (name, value) in supplied.attributes do setName space name value
  for name in supplied.methods do setName space name (← add name (.give .nothing) true)
  for (name, message) in supplied.failing do
    setName space name (← new (.property (← add name (.raise "ValueError" message) true) .nothing .nothing))
  for action in supplied.listing do setName space "__dir__" (← add "__dir__" action true)
  for action in supplied.form do setName space "__repr__" (← add "__repr__" action false)
  makeClass engine supplied.name [] space []

/-- Makes a class that adds nothing to the one it stands on. -/
def supplySubclass (engine : Engine) (name : String) (base : Value) : Run Value := do
  makeClass engine name [base] (← topClassSpace) []

end Run

end LiveShell
