import LiveShell.Code.Binding
import LiveShell.Value.Library
import LiveShell.Value.Subscript

/-!
Attributes of values: what stands behind a name, setting and removing it, and the names that a value has.
-/

namespace LiveShell

/-- Members that belong to a kind itself and not to its values. -/
def kindOwned : List String :=
  ["__class_getitem__", "__init_subclass__", "__subclasshook__", "__new__", "fromkeys", "from_bytes",
   "fromhex", "maketrans", "__getformat__"]

/-- The first statement of a body when it is only a text. -/
def leadingText? : List Code.Stmt → Option String
  | .expression (.literal (.text text)) :: _ => some text
  | _ => none

namespace Run

/-- The base class of an order, when there is one. -/
def baseOf (order : List Value) : Value := (order.drop 1).headD .nothing

/-- A copy of a namespace as a mapping of its own. -/
def copyOfSpace (space : Address) : Run Value := do return .ref (← newDict (← entriesAt space))

def tupleOrNothing (values : List Value) : Value := if values.isEmpty then .nothing else .tuple values

def dictOfTexts (pairs : List (String × Value)) : Run Value := do
  return .ref (← newDict (pairs.map fun (name, value) => (Value.text name, value)).toArray)

/-- What a function knows about itself. -/
def functionField? (data : FunctionData) (name : String) : Run (Option Value) := do
  match name with
  | "__name__" => return some (.text data.name)
  | "__qualname__" => return some (.text data.qualified)
  | "__doc__" =>
      return some (match data.body with
        | .block statements => ((leadingText? statements).map Value.text).getD .nothing
        | .expression _ => .nothing)
  | "__module__" => return some ((← nameIn? data.scope.globals "__name__").getD .nothing)
  | "__dict__" => return some (.ref data.space)
  | "__globals__" => return some (.ref data.scope.globals)
  | "__builtins__" => return some ((← nameIn? data.scope.globals "__builtins__").getD .nothing)
  | "__defaults__" =>
      let positional := data.parameters.filterMap fun parameter => match parameter with
        | .parameter name .positional _ _ | .parameter name .positionalOnly _ _ => data.defaults.lookup name
        | _ => none
      return some (tupleOrNothing positional)
  | "__kwdefaults__" =>
      let named := data.parameters.filterMap fun parameter => match parameter with
        | .parameter name .keywordOnly _ _ => (data.defaults.lookup name).map fun value => (name, value)
        | _ => none
      if named.isEmpty then return some .nothing else return some (← dictOfTexts named)
  | "__annotations__" => return some (← dictOfTexts data.annotations)
  | "__closure__" => return some .nothing
  | "__code__" => return some (.foreign "code" data.name)
  | _ => return none

def hostField? (name qualified : String) (field : String) : Run (Option Value) := do
  match field with
  | "__name__" => return some (.text name)
  | "__qualname__" => return some (.text qualified)
  | "__doc__" | "__defaults__" | "__kwdefaults__" | "__closure__" => return some .nothing
  | "__dict__" | "__annotations__" => return some (.ref (← newDict #[]))
  | "__module__" => return some (.text "__main__")
  | "__code__" | "__globals__" | "__builtins__" => return some (.foreign "code" name)
  | _ => return none

/-- What a class knows about itself. -/
def classField? (cls : Value) (name : String) : Run (Option Value) := do
  match name with
  | "__name__" => return some (.text (← nameOfClass cls))
  | "__qualname__" => return some (.text (← qualifiedName cls))
  | "__mro__" => return some (.tuple (← orderOf cls))
  | "__base__" => return some (baseOf (← orderOf cls))
  | "__bases__" =>
      match cls with
      | .ref address =>
          match ← cellAt? address with
          | some (.classObject data) => return some (.tuple data.bases)
          | _ => return some (.tuple [])
      | cls => return some (.tuple (((← orderOf cls).drop 1).take 1))
  | "__module__" =>
      match cls with
      | .kind kind => return some (.text ((kind.library?).getD "builtins"))
      | .foreign library _ => return some (.text library)
      | _ => return none
  | "__dict__" =>
      match cls with
      | .ref address =>
          match ← cellAt? address with
          | some (.classObject data) => return some (← copyOfSpace data.space)
          | _ => return none
      | _ => return some (.ref (← newDict #[]))
  | "__doc__" =>
      match cls with
      | .ref _ => return none
      | _ => return some .nothing
  | _ => return none

/-- What an error knows about itself. -/
def errorField? (cls : Value) (arguments : List Value) (name : String) : Run (Option Value) := do
  let isA (error : String) : Run Bool := isSubclass cls (.kind (.error error))
  match name with
  | "args" => return some (.tuple (← errorArguments cls arguments))
  | "__cause__" | "__context__" | "__traceback__" => return some .nothing
  | "__suppress_context__" => return some (.boolean false)
  | "value" => if ← isA "StopIteration" then return some (arguments.headD .nothing) else return none
  | "code" =>
      if ← isA "SystemExit" then
        return some (match arguments with
          | [] => .nothing
          | [single] => single
          | several => .tuple several)
      else return none
  | "errno" | "strerror" | "filename" | "filename2" =>
      if ← isA "OSError" then
        let place := if name = "errno" then 0 else if name = "strerror" then 1 else 2
        let known := 2 ≤ arguments.length && name ≠ "filename2"
        return some (if known then (arguments[place]?).getD .nothing else .nothing)
      else return none
  | "msg" =>
      if (← isA "ImportError") || (← isA "SyntaxError") then return some (arguments.headD .nothing)
      else return none
  | "name" | "obj" | "path" | "lineno" | "offset" | "text" | "end_lineno" | "end_offset"
  | "print_file_and_line" | "characters_written" =>
      if Kind.hasMember (← baseKind cls) name then return some .nothing else return none
  | _ => return none

/-- The last part of a path without what follows its last dot, and that. -/
def stemAndSuffix (name : String) : String × String :=
  let characters := name.toList
  let after := (characters.reverse.takeWhile (· ≠ '.')).reverse
  let before := characters.take (characters.length - after.length - 1)
  if after.length = characters.length || before.isEmpty || after.isEmpty then (name, "")
  else (String.ofList before, String.ofList ('.' :: after))

def pathField? (text : String) (name : String) : Option Value :=
  let path := text.toList
  let last := String.ofList (Files.baseName path)
  match name with
  | "name" => some (.text last)
  | "stem" => some (.text (stemAndSuffix last).1)
  | "suffix" => some (.text (stemAndSuffix last).2)
  | "parent" =>
      let directory := Files.directoryName path
      some (.path (if directory.isEmpty then "." else String.ofList directory))
  | "root" | "anchor" => some (.text (if path.head? = some Files.separator then "/" else ""))
  | "drive" => some (.text "")
  | "parts" =>
      let parts := (Files.components path).map fun part => Value.text (String.ofList part)
      some (.tuple (if path.head? = some Files.separator then .text "/" :: parts else parts))
  | _ => none

/-- What a built-in value that no cell holds knows about itself. -/
def plainField? (value : Value) (name : String) : Run (Option Value) := do
  match value, name with
  | .boolean flag, "real" | .boolean flag, "numerator" => return some (.whole (if flag then 1 else 0))
  | .whole number, "real" | .whole number, "numerator" => return some (.whole number)
  | .patternFlags bits, "real" | .patternFlags bits, "numerator" | .patternFlags bits, "value"
  | .patternFlags bits, "_value_" => return some (.whole bits)
  | .patternFlags bits, "name" | .patternFlags bits, "_name_" =>
      return some (.text (((patternFlagText bits).splitOn "re.").getLastD ""))
  | .boolean _, "imag" | .whole _, "imag" | .patternFlags _, "imag" => return some (.whole 0)
  | .boolean _, "denominator" | .whole _, "denominator" | .patternFlags _, "denominator" =>
      return some (.whole 1)
  | .real number, "real" => return some (.real number)
  | .real _, "imag" => return some (.real 0.0)
  | .complex real _, "real" => return some (.real real)
  | .complex _ imaginary, "imag" => return some (.real imaginary)
  | .range start _ _, "start" => return some (.whole start)
  | .range _ stop _, "stop" => return some (.whole stop)
  | .range _ _ step, "step" => return some (.whole step)
  | .slice lower _ _, "start" => return some lower
  | .slice _ upper _, "stop" => return some upper
  | .slice _ _ step, "step" => return some step
  | .routine routine, "__name__" | .routine routine, "__qualname__" => return some (.text (lastPart routine))
  | .routine routine, "__module__" =>
      let parts := routine.splitOn "."
      return some (.text (if parts.length = 1 then "builtins" else ".".intercalate parts.dropLast))
  | .routine _, "__self__" => return some (.foreign "builtins" "module")
  | .routine _, "__text_signature__" => return some .nothing
  | .method _ method, "__name__" => return some (.text method)
  | .method self method, "__qualname__" => return some (.text ((← typeName self) ++ "." ++ method))
  | .method self _, "__self__" | .wrapper self _, "__self__" => return some self
  | .method .., "__module__" | .method .., "__text_signature__" => return some .nothing
  | .wrapper _ method, "__name__" => return some (.text method)
  | .wrapper self method, "__qualname__" => return some (.text ((← typeName self) ++ "." ++ method))
  | .descriptor _ method, "__name__" => return some (.text method)
  | .descriptor kind method, "__qualname__" => return some (.text (kind.name ++ "." ++ method))
  | .descriptor kind _, "__objclass__" => return some (.kind kind)
  | .descriptor _ _, "__text_signature__" => return some .nothing
  | .path text, name => return pathField? text name
  | .foreign library member, "__name__" | .foreign library member, "__qualname__" =>
      if foreignKind library member = .function || foreignKind library member = .type then
        return some (.text member)
      else return none
  | .foreign library _, "__module__" => return some (.text library)
  | _, _ => return none

/-- What lives in a cell knows about itself, classes and their instances left out. -/
def cellField? (cell : Cell) (name : String) : Run (Option Value) := do
  match cell, name with
  | .dict _ (some factory), "default_factory" => return some factory
  | .function data, name =>
      match ← functionField? data name with
      | some value => return some value
      | none => nameIn? data.space name
  | .host function qualified _ _, name => hostField? function qualified name
  | .bound self _, "__self__" => return some self
  | .bound _ function, "__func__" => return some function
  | .generator data, "__name__" | .generator data, "__qualname__" => return some (.text data.name)
  | .generator data, "gi_running" => return some (.boolean data.running)
  | .generator _, "gi_yieldfrom" => return some .nothing
  | .coroutine function _, "__name__" | .coroutine function _, "__qualname__" =>
      return some (.text function)
  | .coroutine .., "cr_await" | .coroutine .., "cr_origin" => return some .nothing
  | .coroutine .., "cr_running" => return some (.boolean false)
  | .view _ source, "mapping" => return some (.ref source)
  | .property getter _ _, "fget" => return some getter
  | .property _ setter _, "fset" => return some setter
  | .property _ _ deleter, "fdel" => return some deleter
  | .wrapped _ function, "__func__" | .wrapped _ function, "__wrapped__" => return some function
  | .superOf start _, "__thisclass__" => return some start
  | .superOf _ object, "__self__" => return some object
  | .superOf _ object, "__self_class__" => return some (← classOf object)
  | .pattern compiled, "pattern" => return some (.text compiled.source)
  | .pattern compiled, "flags" => return some (.whole (32 + flagBits compiled.flags))
  | .pattern compiled, "groups" => return some (.whole compiled.groupCount)
  | .pattern compiled, "groupindex" =>
      return some (← dictOfTexts (compiled.groupNames.map fun (name, group) => (name, .whole group)))
  | .found _ text _, "string" => return some (.text text)
  | .found pattern _ _, "re" => return some (.ref pattern)
  | .found .., "pos" => return some (.whole 0)
  | .found _ text _, "endpos" => return some (.whole text.length)
  | _, _ => return none

/-- A built-in member of a kind, bound to a value. -/
def builtinMember (value cls : Value) (kind : Kind) (name : String) : Value :=
  if kindOwned.contains name then .method cls name
  else if isOperationName name && !isPlainOperation kind name then .wrapper value name
  else .method value name

def isDataMember (member : Value) : Run Bool := do
  match member with
  | .ref address =>
      match ← cellAt? address with
      | some (.property ..) => return true
      | _ => return false
  | _ => return false

/-- An attribute of an instance: a property of its class, what it holds itself, another member of the class. -/
def instanceAttribute? (engine : Engine) (value cls : Value) (space : Address) (payload : Option Value)
    (name : String) : Run (Option Value) := do
  let found ← memberOf? cls name
  match found with
  | some (.made member) =>
      if ← isDataMember member then return some (← bindMember engine value cls member)
  | _ => pure ()
  if name = "__dict__" then return some (.ref space)
  match ← nameIn? space name with
  | some own => return some own
  | none =>
      match found with
      | some (.made member) => return some (← bindMember engine value cls member)
      | some (.builtin kind) =>
          if name = "__doc__" then return some .nothing
          match payload with
          | some (.tuple arguments) =>
              if ← isSubclass cls (.kind (.error "BaseException")) then
                match ← errorField? cls arguments name with
                | some field => return some field
                | none => return some (builtinMember value cls kind name)
              else return some (builtinMember value cls kind name)
          | some (.ref inner) =>
              match ← cellAt? inner with
              | some cell =>
                  match ← cellField? cell name with
                  | some field => return some field
                  | none => return some (builtinMember value cls kind name)
              | none => return some (builtinMember value cls kind name)
          | some payload =>
              match ← plainField? payload name with
              | some field => return some field
              | none => return some (builtinMember value cls kind name)
          | none => return some (builtinMember value cls kind name)
      | none =>
          match ← memberOf? cls "__getattr__" with
          | some (.made function) =>
              let function ← bindMember engine value cls function
              return some (← engine.call function [.text name] [])
          | _ => return none

/-- An attribute of a class: a member of it or of what it inherits from, then one of all classes. -/
def classAttribute? (cls : Value) (name : String) : Run (Option Value) := do
  match ← classField? cls name with
  | some field => return some field
  | none =>
      match ← memberOf? cls name with
      | some (.made member) =>
          match member with
          | .ref address =>
              match ← cellAt? address with
              | some (.wrapped true function) => return some (← new (.bound cls function))
              | some (.wrapped false function) => return some function
              | _ => return some member
          | member => return some member
      | some (.builtin kind) =>
          if name = "__doc__" then return some .nothing
          if kindOwned.contains name then return some (.method cls name)
          if kind = .object && Kind.type.ownMembers.contains name then
            return some (builtinMember cls (.kind .type) .type name)
          return some (.descriptor kind name)
      | none =>
          if Kind.type.hasMember name then return some (builtinMember cls (.kind .type) .type name)
          else return none

def moduleAttribute? (name : String) (space : Address) (member : String) : Run (Option Value) := do
  if member = "__dict__" then return some (.ref space)
  match ← nameIn? space member with
  | some value => return some value
  | none =>
      match Library.memberOf? name member with
      | some value => return some value
      | none =>
          if member = "__doc__" then return some .nothing
          if Kind.hasMember .module member then
            return some (builtinMember .nothing (.kind .module) .module member)
          return none

def superAttribute? (engine : Engine) (start object : Value) (name : String) : Run (Option Value) := do
  let objectClass ← (do if ← isClass object then pure object else classOf object)
  let after := ((← orderOf objectClass).dropWhile fun cls => !cls.same start).drop 1
  match ← memberAlong? name after with
  | some (.made member) =>
      if ← isClass object then
        match member with
        | .ref address =>
            match ← cellAt? address with
            | some (.wrapped true function) => return some (← new (.bound object function))
            | some (.wrapped false function) => return some function
            | _ => return some member
        | member => return some member
      else return some (← bindMember engine object objectClass member)
  | some (.builtin kind) => return some (builtinMember object objectClass kind name)
  | none => return none

/-- What stands behind a name of a value. -/
def attribute? (engine : Engine) (value : Value) (name : String) : Run (Option Value) := do
  if name = "__class__" then return some (← classOf value)
  if ← isClass value then return ← classAttribute? value name
  let kindMember (kind : Kind) : Option Value :=
    if name = "__doc__" then some .nothing
    else if kind.hasMember name then some (builtinMember value (.kind kind) kind name)
    else none
  match value with
  | .ref address =>
      match ← cellAt? address with
      | some (.instanceOf cls space payload) => instanceAttribute? engine value cls space payload name
      | some (.module library space) => moduleAttribute? library space name
      | some (.superOf start object) =>
          match ← superAttribute? engine start object name with
          | some found => return some found
          | none =>
              match ← cellField? (.superOf start object) name with
              | some field => return some field
              | none => return kindMember .super
      | some (.bound self function) =>
          match ← cellField? (.bound self function) name with
          | some field => return some field
          | none =>
              if Kind.method.ownMembers.contains name then return kindMember .method
              match function with
              | .ref inner =>
                  match ← cellAt? inner with
                  | some cell =>
                      match ← cellField? cell name with
                      | some field => return some field
                      | none => return kindMember .method
                  | none => return kindMember .method
              | _ => return kindMember .method
      | some cell =>
          match ← cellField? cell name with
          | some field => return some field
          | none => return kindMember cell.kind
      | none => return none
  | value =>
      match ← plainField? value name with
      | some field => return some field
      | none => return kindMember value.kindOf

/-- The text for a name that a value does not have. -/
def missingAttributeText (value : Value) (name : String) : Run String := do
  let quoted := "has no attribute '" ++ name ++ "'"
  if ← isClass value then return "type object '" ++ (← nameOfClass value) ++ "' " ++ quoted
  match value with
  | .ref address =>
      match ← cellAt? address with
      | some (.module library _) => return "module '" ++ library ++ "' " ++ quoted
      | _ => return "'" ++ (← typeName value) ++ "' object " ++ quoted
  | value => return "'" ++ (← typeName value) ++ "' object " ++ quoted

def attributeOf (engine : Engine) (value : Value) (name : String) : Run Value := do
  match ← attribute? engine value name with
  | some found => return found
  | none => fail "AttributeError" (← missingAttributeText value name)

/-- An attribute, or nothing when asking for it raises that it is missing. -/
def attributeIfAny? (engine : Engine) (value : Value) (name : String) : Run (Option Value) :=
  unlessRaised ["AttributeError"] (attributeOf engine value name)

/-! Setting and removing. -/

/-- The namespace that attributes of a value are set in. -/
def spaceOf? (value : Value) : Run (Option Address) := do
  match value with
  | .ref address =>
      match ← cellAt? address with
      | some (.instanceOf _ space _) | some (.module _ space) => return some space
      | some (.classObject data) => return some data.space
      | some (.function data) => return some data.space
      | _ => return none
  | _ => return none

/-- Raises for a value whose attributes do not change. -/
def refuseAttribute (engine : Engine) (value : Value) (name : String) : Run Unit := do
  let kind := (← classOf value)
  if ← isClass value then
    typeError ("cannot set '" ++ name ++ "' attribute of immutable type '" ++ (← nameOfClass value) ++ "'")
  let kindName ← nameOfClass kind
  match ← attribute? engine value name with
  | none => fail "AttributeError" ("'" ++ kindName ++ "' object has no attribute '" ++ name ++ "'")
  | some (.method ..) | some (.wrapper ..) =>
      fail "AttributeError" ("'" ++ kindName ++ "' object attribute '" ++ name ++ "' is read-only")
  | some _ =>
      if ["start", "stop", "step"].contains name then fail "AttributeError" "readonly attribute"
      else fail "AttributeError" ("attribute '" ++ name ++ "' of '" ++ kindName ++ "' objects is not writable")

def propertyOf? (value : Value) (name : String) : Run (Option (Value × Value)) := do
  match value with
  | .ref address =>
      match ← cellAt? address with
      | some (.instanceOf cls _ _) =>
          match ← memberOf? cls name with
          | some (.made (.ref member)) =>
              match ← cellAt? member with
              | some (.property _ setter deleter) => return some (setter, deleter)
              | _ => return none
          | _ => return none
      | _ => return none
  | _ => return none

def refuseProperty {α : Type} (value : Value) (name role : String) : Run α := do
  fail "AttributeError" ("property '" ++ name ++ "' of '" ++ (← typeName value) ++ "' object has no " ++ role)

/-- Changes what a function knows about itself. -/
def renameFunction? (address : Address) (name : String) (value : Value) : Run Bool := do
  match ← cellAt? address, name, value with
  | some (.function data), "__name__", .text text =>
      writeCell address (.function { data with name := text }); return true
  | some (.function data), "__qualname__", .text text =>
      writeCell address (.function { data with qualified := text }); return true
  | some (.classObject data), "__name__", .text text =>
      writeCell address (.classObject { data with name := text }); return true
  | some (.classObject data), "__qualname__", .text text =>
      writeCell address (.classObject { data with qualified := text }); return true
  | some (.dict entries (some _)), "default_factory", value =>
      writeCell address (.dict entries (some value)); return true
  | some (.generator data), "__name__", .text text =>
      writeCell address (.generator { data with name := text }); return true
  | _, _, _ => return false

/-- Sets an attribute without asking the class whether it wants to do it. -/
def setPlainAttribute (engine : Engine) (value : Value) (name : String) (item : Value) : Run Unit := do
  match ← propertyOf? value name with
  | some (.nothing, _) => refuseProperty value name "setter"
  | some (setter, _) => let _ ← engine.call setter [value, item] []
  | none =>
      let renamed ← (match value with
        | .ref address => renameFunction? address name item
        | _ => pure false)
      if renamed then return ()
      match ← spaceOf? value with
      | some space =>
          match name, item with
          | "args", .tuple _ =>
              match value with
              | .ref address =>
                  match ← cellAt? address with
                  | some (.instanceOf cls space (some (.tuple _))) =>
                      writeCell address (.instanceOf cls space (some item))
                  | _ => setName space name item
              | _ => setName space name item
          | _, _ => setName space name item
      | none => refuseAttribute engine value name

def setAttribute (engine : Engine) (value : Value) (name : String) (item : Value) : Run Unit := do
  match ← callOwn? engine value "__setattr__" [.text name, item] with
  | some _ => return ()
  | none => setPlainAttribute engine value name item

def deletePlainAttribute (engine : Engine) (value : Value) (name : String) : Run Unit := do
  match ← propertyOf? value name with
  | some (_, .nothing) => refuseProperty value name "deleter"
  | some (_, deleter) => let _ ← engine.call deleter [value] []
  | none =>
      match ← spaceOf? value with
      | some space => if !(← removeName space name) then raise "AttributeError" [.text name]
      | none => refuseAttribute engine value name

def deleteAttribute (engine : Engine) (value : Value) (name : String) : Run Unit := do
  match ← callOwn? engine value "__delattr__" [.text name] with
  | some _ => return ()
  | none => deletePlainAttribute engine value name

/-! The names that a value has. -/

/-- Names that a class made here gives its instances beyond what it holds, by the kind that it extends. -/
def impliedNames : Kind → List String
  | .whole | .tuple | .bytes | .set | .frozenSet | .boolean => ["__dict__"]
  | .error _ => ["__weakref__"]
  | _ => ["__dict__", "__weakref__"]

/-- The names of the members of classes in an order. -/
def namesAlong : List Value → Run (List String)
  | [] => return []
  | .kind kind :: rest => do
      return (if kind = .object then Members.object else kind.ownMembers) ++ (← namesAlong rest)
  | .ref address :: rest => do
      match ← cellAt? address with
      | some (.classObject data) =>
          let implied := impliedNames (← baseKind (.ref address))
          return (← namesIn data.space) ++ implied ++ (← namesAlong rest)
      | _ => namesAlong rest
  | _ :: rest => namesAlong rest

/-- The names a value has by itself, in order. -/
def plainNames (value : Value) : Run (List String) := do
  if ← isClass value then
    match value with
    | .foreign .. => return Kind.members .object
    | value => return sortedOnce (← namesAlong (← orderOf value))
  match value with
  | .ref address =>
      match ← cellAt? address with
      | some (.instanceOf cls space _) =>
          return sortedOnce ((← namesAlong (← orderOf cls)) ++ (← namesIn space))
      | some (.module name space) =>
          return sortedOnce ((Library.members? name).getD ["__doc__", "__loader__", "__name__",
            "__package__", "__spec__"] ++ (← namesIn space))
      | some (.function data) =>
          return sortedOnce (Kind.members .function ++ (← namesIn data.space))
      | some cell => return cell.kind.members
      | none => return []
  | value => return value.kindOf.members

end Run

end LiveShell
