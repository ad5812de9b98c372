import LiveShell.Text.Wrapped
import LiveShell.Value.Show

/-!
Values spread over several lines. A container that fits a line stays on it; another one has its items on lines
of their own, one step further in.
-/

namespace LiveShell

/-- The form of a value with its containers still open. An item may have a key. -/
inductive Outline
  | leaf (text : String)
  /-- What stands around the items, what stands for no items, and whether a single item needs a comma. -/
  | branch (opening closing empty : String) (isTuple : Bool) (items : List (Option String × Outline))
deriving Inhabited

namespace Outline

def indented (margin : Nat) (line : String) : String := String.ofList (List.replicate margin ' ') ++ line

def keyText : Option String → String
  | some key => key ++ ": "
  | none => ""

mutual

/-- The form on one line. -/
def flat : Outline → String
  | leaf text => text
  | branch opening closing empty isTuple items =>
      match items with
      | [] => empty
      | [(key, item)] => opening ++ flatItem key item ++ (if isTuple then "," else "") ++ closing
      | items => opening ++ ", ".intercalate (flatItems items) ++ closing

def flatItem (key : Option String) (item : Outline) : String := keyText key ++ item.flat

def flatItems : List (Option String × Outline) → List String
  | [] => []
  | (key, item) :: items => flatItem key item :: flatItems items

end

/-- How much further in the items of a container stand. -/
def step : Nat := 4

mutual

/-- The form on lines of a width. `ending` follows it, and `reserved` cells are kept free behind it. -/
def spread (width margin : Nat) (key : Option String) (ending : String) (reserved : Nat) :
    Outline → List String
  | leaf text => [indented margin (keyText key ++ text ++ ending)]
  | branch opening closing empty isTuple items =>
      let line := keyText key ++ (branch opening closing empty isTuple items).flat
      if items.isEmpty || margin + Text.cellCount line.toList + reserved ≤ width then
        [indented margin (line ++ ending)]
      else
        let alone := isTuple && items.length = 1
        [indented margin (keyText key ++ opening)] ++ spreadItems width (margin + step) alone items ++
          [indented margin (closing ++ ending)]

/-- The items of a container, a comma behind each but the last. -/
def spreadItems (width margin : Nat) (alone : Bool) : List (Option String × Outline) → List String
  | [] => []
  | (key, item) :: items =>
      let ending := if alone || !items.isEmpty then "," else ""
      item.spread width margin key ending (if alone then 1 else 2) ++ spreadItems width margin alone items

end

/-- The lines of a form. -/
def lines (width : Nat) (outline : Outline) : List String := outline.spread width 0 none "" 0

end Outline

namespace Run

/-- The form of a value; an error in writing it is written in its place. -/
def leafOf (engine : Engine) (value : Value) : Run String := do
  tryCatch (shown engine value) fun error => do
    if ← isError error "Exception" then
      return "<repr-error " ++ Text.quoted (← textOf engine error) ++ ">"
    else throw error

/-- The container inside a value, with the place where it lives. -/
def containerIn? (value : Value) : Run (Option (Address × Cell)) := do
  match value with
  | .ref address =>
      match ← cellAt? address with
      | some (.instanceOf cls _ (some (.ref inner))) =>
          if ← isSubclass cls (.kind (.error "BaseException")) then return none
          return (← cellAt? inner).map fun cell => (address, cell)
      | some cell => return some (address, cell)
      | none => return none
  | _ => return none

/-- The open form of a value inside the containers of `within`. -/
def outlineAt (engine : Engine) : Nat → List Address → Value → Run Outline
  | 0, _, value => do return .leaf (← leafOf engine value)
  | depth + 1, within, value => do
      let items (inside : List Address) (values : List Value) : Run (List (Option String × Outline)) :=
        values.mapM fun item => do return (none, ← outlineAt engine depth inside item)
      match value with
      | .tuple values => return .branch "(" ")" "()" true (← items within values)
      | value =>
          match ← containerIn? value with
          | none => return .leaf (← leafOf engine value)
          | some (address, cell) =>
              let inside := address :: within
              match cell with
              | .list values =>
                  if within.contains address then return .leaf "..."
                  return .branch "[" "]" "[]" false (← items inside values.toList)
              | .set members frozen =>
                  if within.contains address then return .leaf "..."
                  let values ← items inside (setOrder members).toList
                  return if frozen then .branch "frozenset(\x7b" "\x7d)" "frozenset()" false values
                    else .branch "\x7b" "\x7d" "set()" false values
              | .dict entries factory =>
                  if within.contains address then return .leaf "..."
                  let pairs ← entries.toList.mapM fun (key, item) => do
                    return (some (← leafOf engine key), ← outlineAt engine depth inside item)
                  match factory with
                  | none => return .branch "\x7b" "\x7d" "\x7b\x7d" false pairs
                  | some factory =>
                      let opening := "defaultdict(" ++ (← leafOf engine factory) ++ ", \x7b"
                      return .branch opening "\x7d)" (opening ++ "\x7d)") false pairs
              | _ => return .leaf (← leafOf engine value)

/-- The open form of a value. -/
def outline (engine : Engine) (value : Value) : Run Outline := outlineAt engine depthLimit [] value

end Run

end LiveShell
