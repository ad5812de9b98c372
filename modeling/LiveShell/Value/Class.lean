import LiveShell.Value.Kind

/-!
Classes of values, and the namespaces in which members are looked for.
-/

namespace LiveShell

namespace Value

/-- Whether two values are one and the same. Values that never change are the same when they look the same. -/
def same : Value → Value → Bool
  | .nothing, .nothing | .ellipsis, .ellipsis | .notImplemented, .notImplemented => true
  | .boolean a, .boolean b => a = b
  | .whole a, .whole b => a = b
  | .real a, .real b => a.toBits == b.toBits
  | .complex a b, .complex c d => a.toBits == c.toBits && b.toBits == d.toBits
  | .text a, .text b => a = b
  | .bytes a, .bytes b => a = b
  | .tuple a, .tuple b => sameItems a b
  | .range a b c, .range d e f => a = d && b = e && c = f
  | .slice a b c, .slice d e f => a.same d && b.same e && c.same f
  | .kind a, .kind b => a = b
  | .routine a, .routine b => a = b
  | .method a b, .method c d => a.same c && b = d
  | .wrapper a b, .wrapper c d => a.same c && b = d
  | .descriptor a b, .descriptor c d => a = c && b = d
  | .patternFlags a, .patternFlags b => a = b
  | .path a, .path b => a = b
  | .foreign a b, .foreign c d => a = c && b = d
  | .ref a, .ref b => a = b
  | _, _ => false
where
  sameItems : List Value → List Value → Bool
    | [], [] => true
    | a :: as, b :: bs => a.same b && sameItems as bs
    | _, _ => false

def texts (names : List String) : List Value := names.map .text

end Value

/-- The kind of what lives in a cell. -/
def Cell.kind : Cell → Kind
  | .list _ => .list
  | .dict _ none => .dict
  | .dict _ (some _) => .defaultDict
  | .set _ frozen => if frozen then .frozenSet else .set
  | .frame .. => .named "cell"
  | .function _ | .host .. => .function
  | .bound .. => .method
  | .classObject _ => .type
  | .instanceOf .. => .object
  | .module .. => .module
  | .generator _ => .generator
  | .coroutine .. => .coroutine
  | .iterator kind _ => kind
  | .view .keys _ => .named "dict_keys"
  | .view .values _ => .named "dict_values"
  | .view .items _ => .named "dict_items"
  | .property .. => .property
  | .wrapped isClass _ => if isClass then .classMethod else .staticMethod
  | .superOf .. => .super
  | .pattern _ => .pattern
  | .found .. => .matched

/-- Members of libraries are told apart by how they are written: constants in upper case, classes in camel
case, functions in lower case. -/
def foreignKind (library name : String) : Kind :=
  if library = "builtins" then .named "Quitter"
  else if library = "types" then .named "GenericAlias"
  else match name.toList with
    | first :: rest =>
        if name.toList.all fun character => character.isUpper || character = '_' || character.isDigit then
          .whole
        else if first.isUpper || (first = '_' && (rest.head?.map Char.isUpper).getD false) then .type
        else .function
    | [] => .function

/-- Operations that the built-in kinds offer as plain functions, not as slots. -/
def isPlainOperation (kind : Kind) (name : String) : Bool :=
  ["__format__", "__sizeof__", "__reduce__", "__reduce_ex__", "__dir__", "__getnewargs__", "__reversed__",
   "__round__", "__trunc__", "__floor__", "__ceil__", "__bytes__", "__complex__", "__getstate__",
   "__setstate__", "__copy__", "__missing__", "__length_hint__", "__enter__", "__exit__", "__fspath__",
   "__deepcopy__"].contains name ||
    (name = "__getitem__" && (kind = .list || kind = .dict || kind = .defaultDict)) ||
    (name = "__contains__" && [Kind.dict, .defaultDict, .set, .frozenSet].contains kind)

def isOperationName (name : String) : Bool := name.startsWith "__" && name.endsWith "__"

/-- The kind of a value that is not an instance of a class made here. -/
def Value.kindOf : Value → Kind
  | .nothing => .nothing
  | .ellipsis => .ellipsis
  | .notImplemented => .notImplemented
  | .boolean _ => .boolean
  | .whole _ => .whole
  | .real _ => .real
  | .complex .. => .complex
  | .text _ => .text
  | .bytes _ => .bytes
  | .tuple _ => .tuple
  | .range .. => .range
  | .slice .. => .slice
  | .kind _ => .type
  | .routine _ | .method .. => .routine
  | .wrapper .. => .wrapper
  | .descriptor owner name =>
      if isOperationName name && !isPlainOperation owner name then .slotDescriptor
      else if ["real", "imag", "numerator", "denominator"].contains name then .fieldDescriptor
      else if ["start", "stop", "step"].contains name then .named "member_descriptor"
      else .descriptor
  | .patternFlags _ => .patternFlag
  | .path _ => .systemPath
  | .foreign library name => foreignKind library name
  | .ref _ => .object

namespace Run

/-- The class of a value. -/
def classOf (value : Value) : Run Value := do
  match value with
  | .ref address =>
      match ← cellAt? address with
      | some (.instanceOf cls _ _) => return cls
      | some cell => return .kind cell.kind
      | none => return .kind .object
  | value => return .kind value.kindOf

/-- A class and all that it inherits from, in order. -/
def orderOf (cls : Value) : Run (List Value) := do
  match cls with
  | .kind kind => return kind.order.map .kind
  | .ref address =>
      match ← cellAt? address with
      | some (.classObject data) => return data.order
      | _ => return [cls]
  | _ => return [cls]

def nameOfClass (cls : Value) : Run String := do
  match cls with
  | .kind kind => return kind.name
  | .ref address =>
      match ← cellAt? address with
      | some (.classObject data) => return data.name
      | _ => return "object"
  | .foreign _ name => return name
  | _ => return "object"

/-- The name of a value's class. -/
def typeName (value : Value) : Run String := do nameOfClass (← classOf value)

def isClass (value : Value) : Run Bool := do
  match value with
  | .kind _ => return true
  | .foreign library name => return foreignKind library name = .type
  | .ref address =>
      match ← cellAt? address with
      | some (.classObject _) => return true
      | _ => return false
  | _ => return false

def isSubclass (cls ancestor : Value) : Run Bool := do
  return (← orderOf cls).any (·.same ancestor)

def isInstance (value cls : Value) : Run Bool := do isSubclass (← classOf value) cls

def isKind (value : Value) (kind : Kind) : Run Bool := isInstance value (.kind kind)

/-- The built-in kind that a class extends: the first one in its order. -/
def baseKind (cls : Value) : Run Kind := do
  let kinds := (← orderOf cls).filterMap fun ancestor => match ancestor with
    | .kind kind => some kind
    | _ => none
  return kinds.headD .object

/-- The value that an instance of a class made here extends, or the value itself. -/
def plain (value : Value) : Run Value := do
  match value with
  | .ref address =>
      match ← cellAt? address with
      | some (.instanceOf _ _ (some payload)) => return payload
      | _ => return value
  | value => return value

/-- The entries of a mapping's cell. -/
def entriesAt (address : Address) : Run (Array (Value × Value)) := do
  match ← cellAt? address with
  | some (.dict entries _) => return entries
  | _ => return #[]

def writeEntries (address : Address) (entries : Array (Value × Value)) : Run Unit :=
  modify fun world =>
    { world with cells := world.cells.modify address fun cell => match cell with
        | .dict _ factory => .dict entries factory
        | cell => cell }

def isText (name : String) : Value → Bool
  | .text text => text = name
  | _ => false

/-- The value of a name in a namespace. -/
def nameIn? (space : Address) (name : String) : Run (Option Value) := do
  return ((← entriesAt space).find? fun (key, _) => isText name key).map (·.2)

/-- Binds a name in a namespace. A known name keeps its place. -/
def setName (space : Address) (name : String) (value : Value) : Run Unit :=
  modify fun world =>
    { world with cells := world.cells.modify space fun cell => match cell with
        | .dict entries factory =>
            match entries.findIdx? fun (key, _) => isText name key with
            | some index => .dict (entries.setIfInBounds index (.text name, value)) factory
            | none => .dict (entries.push (.text name, value)) factory
        | cell => cell }

/-- Takes a name out of a namespace, if it is there. -/
def removeName (space : Address) (name : String) : Run Bool := do
  let entries ← entriesAt space
  match entries.findIdx? fun (key, _) => isText name key with
  | some index =>
      writeEntries space (entries.eraseIdxIfInBounds index)
      return true
  | none => return false

/-- The names of a namespace that are texts. -/
def namesIn (space : Address) : Run (List String) := do
  return (← entriesAt space).toList.filterMap fun (key, _) => match key with
    | .text name => some name
    | _ => none

/-- Where a member of a class was found. -/
inductive Member
  | made (value : Value)
  | builtin (kind : Kind)
deriving Inhabited

/-- Looks for a member along an order of classes. -/
def memberAlong? (name : String) : List Value → Run (Option Member)
  | [] => return none
  | .kind kind :: rest =>
      if kind.ownMembers.contains name || (kind = .object && Members.object.contains name) then
        return some (.builtin kind)
      else memberAlong? name rest
  | .ref address :: rest => do
      match ← cellAt? address with
      | some (.classObject data) =>
          match ← nameIn? data.space name with
          | some value => return some (.made value)
          | none => memberAlong? name rest
      | _ => memberAlong? name rest
  | _ :: rest => memberAlong? name rest

def memberOf? (cls : Value) (name : String) : Run (Option Member) := do
  memberAlong? name (← orderOf cls)

/-- A member that a class made here defines for its instances, ahead of every built-in one. -/
def ownMember? (value : Value) (name : String) : Run (Option Value) := do
  match value with
  | .ref address =>
      match ← cellAt? address with
      | some (.instanceOf cls _ _) =>
          match ← memberOf? cls name with
          | some (.made member) => return some member
          | _ => return none
      | _ => return none
  | _ => return none

/-- Whether a value can be called. -/
def isCallable (value : Value) : Run Bool := do
  if ← isClass value then return true
  match value with
  | .routine _ | .method .. | .wrapper .. | .descriptor .. => return true
  | .foreign library name =>
      return foreignKind library name = .function || foreignKind library name = .named "Quitter"
  | .ref address =>
      match ← cellAt? address with
      | some (.function _) | some (.host ..) | some (.bound ..) => return true
      | some (.instanceOf ..) => return (← ownMember? value "__call__").isSome
      | _ => return false
  | _ => return false

/-- Binds a member to the value it was looked up for. -/
def bindMember (engine : Engine) (value cls member : Value) : Run Value := do
  match member with
  | .ref address =>
      match ← cellAt? address with
      | some (.function _) | some (.host ..) => new (.bound value member)
      | some (.wrapped true function) => new (.bound cls function)
      | some (.wrapped false function) => return function
      | some (.property getter _ _) => engine.call getter [value] []
      | _ => return member
  | .descriptor _ name => return .method value name
  | member => return member

/-- Calls an operation that a class made here defines, if it does. -/
def callOwn? (engine : Engine) (value : Value) (name : String) (arguments : List Value) :
    Run (Option Value) := do
  match ← ownMember? value name with
  | some .nothing => return none
  | some member =>
      let cls ← classOf value
      return some (← engine.call (← bindMember engine value cls member) arguments [])
  | none => return none

end Run

end LiveShell
