import LiveShell.Value.ContainerMember
import LiveShell.Value.NumberMember
import LiveShell.Value.TextMember

/-!
Making values: of the built-in kinds from arguments, classes from their bases and members, and instances of
classes.
-/

namespace LiveShell

/-- Joins orders of classes into one that keeps each of them, if one does. The next class is the first head
that stands in no tail. -/
def joinOrders {α : Type} (same : α → α → Bool) : Nat → List (List α) → Option (List α)
  | 0, _ => none
  | fuel + 1, orders =>
      match orders.filter fun order => !order.isEmpty with
      | [] => some []
      | orders =>
          let heads := orders.filterMap List.head?
          match heads.find? fun head => !orders.any fun order => (order.drop 1).any (same head) with
          | none => none
          | some next =>
              (joinOrders same fuel (orders.map fun order => match order with
                | first :: rest => if same first next then rest else first :: rest
                | [] => [])).map (next :: ·)

namespace Run

/-! Values of the built-in kinds. -/

def toText (engine : Engine) (given : Given) : Run Value := do
  let arguments ← orderArguments "" "str" (.named 0 0 ["object", "encoding", "errors"]) given
  match arguments with
  | none :: none :: none :: _ => return .text ""
  | some object :: none :: none :: _ => return .text (← textOf engine object)
  | object :: coding :: errors :: _ =>
      match ← plain (object.getD (.bytes [])) with
      | .bytes bytes =>
          let coding ← codingArgument coding "encoding"
          let errors ← codingArgument errors "errors"
          return .text (← decodeBytes bytes coding errors)
      | .text _ => typeError "decoding str is not supported"
      | other => typeError ("decoding to str: need a bytes-like object, " ++ (← typeName other) ++ " found")
  | _ => return .text ""

def wholeOfText (text : String) (base : Nat) : Run Value := do
  match Number.readWhole? base text with
  | some value =>
      let digits := Number.countDigits text
      if mostWrittenDigits < digits && !([2, 4, 8, 16, 32].contains base) then
        valueError ("Exceeds the limit (4300 digits) for integer string conversion: value has " ++
          toString digits ++ " digits; use sys.set_int_max_str_digits() to increase the limit")
      return .whole value
  | none =>
      valueError ("invalid literal for int() with base " ++ toString base ++ ": " ++ Text.quoted text)

/-- An integer from a value alone. -/
def wholeOf (engine : Engine) (value : Value) : Run Value := do
  match ← callOwn? engine value "__int__" [] with
  | some result => return result
  | none =>
      match ← plain value with
      | .text text => wholeOfText text 10
      | .bytes bytes => wholeOfText (String.ofList (charactersOf bytes)) 10
      | .real number => return .whole (← truncateReal number)
      | plainValue =>
          match plainValue.whole? with
          | some number => return .whole number
          | none =>
              match ← toIndex? engine value with
              | some number => return .whole number
              | none =>
                  match ← callOwn? engine value "__trunc__" [] with
                  | some result => return result
                  | none =>
                      typeError ("int() argument must be a string, a bytes-like object or a real number, not '" ++
                        (← typeName value) ++ "'")

def toWhole (engine : Engine) (given : Given) : Run Value := do
  let arguments ← orderArguments "" "int" (.named 0 1 ["x", "base"]) given
  match argumentAt arguments 0, argumentAt arguments 1 with
  | none, none => return .whole 0
  | none, some _ => typeError "int() missing string argument"
  | some value, none => wholeOf engine value
  | some value, some base =>
      let base ← toIndex engine base
      if base ≠ 0 && (base < 2 || 36 < base) then valueError "int() base must be >= 2 and <= 36, or 0"
      match ← plain value with
      | .text text => wholeOfText text base.toNat
      | .bytes bytes => wholeOfText (String.ofList (charactersOf bytes)) base.toNat
      | _ => typeError "int() can't convert non-string with explicit base"

def toRealValue (engine : Engine) (given : Given) : Run Value := do
  let arguments ← orderArguments "" "float" (.between 0 1) given
  match argumentAt arguments 0 with
  | none => return .real 0.0
  | some value =>
      let read (text : String) : Run Value := do
        match Number.readReal? text with
        | some number => return .real number
        | none => valueError ("could not convert string to float: " ++ (← shown engine value))
      match ← plain value with
      | .text text => read text
      | .bytes bytes => read (String.ofList (charactersOf bytes))
      | plainValue =>
          let suits ← (match plainValue.numeric? with
            | some number => pure !number.isComplex
            | none => do
                return (← ownMember? value "__float__").isSome || (← ownMember? value "__index__").isSome)
          if suits then return .real (← realOf engine value)
          typeError ("float() argument must be a string or a real number, not '" ++ (← typeName value) ++ "'")

/-- A complex number from its text: two real numbers, the second before the letter j. -/
def readComplex? (text : String) : Option (Float × Float) :=
  let text := Number.strip text.toList
  let text := match text with
    | '(' :: rest =>
        match rest.getLast? with
        | some ')' => Number.strip rest.dropLast
        | _ => text
    | text => text
  let real? (text : List Char) : Option Float := Number.readReal? (String.ofList text)
  match text.getLast? with
  | some 'j' | some 'J' =>
      let body := text.dropLast
      let imaginary? (text : List Char) : Option Float :=
        if text = [] || text = ['+'] then some 1.0 else if text = ['-'] then some (-1.0) else real? text
      let cuts := (List.range body.length).filter fun place =>
        0 < place && ['+', '-'].contains (body.getD place ' ') &&
          !(['e', 'E'].contains (body.getD (place - 1) ' '))
      match cuts.getLast? with
      | some place => do
          let real ← real? (body.take place)
          let imaginary ← imaginary? (body.drop place)
          return (real, imaginary)
      | none => (imaginary? body).map fun imaginary => (0.0, imaginary)
  | _ => (real? text).map fun real => (real, 0.0)

def toComplex (engine : Engine) (given : Given) : Run Value := do
  let arguments ← orderArguments "" "complex" (.named 0 0 ["real", "imag"]) given
  let pairFrom (place : String) (value : Value) : Run Pair := do
    match ← callOwn? engine value "__complex__" [] with
    | some (.complex x y) => return (x, y)
    | _ =>
        match (← plain value).numeric? with
        | some number => toPair number
        | none =>
            if (← ownMember? value "__float__").isSome || (← ownMember? value "__index__").isSome then
              return (← realOf engine value, 0.0)
            if place = "first" then
              typeError ("complex() first argument must be a string or a number, not '" ++
                (← typeName value) ++ "'")
            else
              typeError ("complex() second argument must be a number, not '" ++ (← typeName value) ++ "'")
  match argumentAt arguments 0, argumentAt arguments 1 with
  | none, none => return .complex 0.0 0.0
  | first, second =>
      let isText (value : Option Value) : Run Bool := do
        match value with
        | some value =>
            match ← plain value with
            | .text _ => return true
            | _ => return false
        | none => return false
      if ← isText first then
        if second.isSome then typeError "complex() can't take second arg if first is a string"
        match ← plain (first.getD .nothing) with
        | .text text =>
            match readComplex? text with
            | some (x, y) => return .complex x y
            | none => valueError "complex() arg is a malformed string"
        | _ => return .nothing
      else
        if ← isText second then typeError "complex() second arg can't be a string"
        let a ← (match first with
          | some value => pairFrom "first" value
          | none => pure (0.0, 0.0))
        match second with
        | none => return .complex a.1 a.2
        | some value =>
            let b ← pairFrom "second" value
            return .complex (a.1 - b.2) (a.2 + b.1)

def byteOf (engine : Engine) (item : Value) : Run UInt8 := do
  let number ← toIndex engine item
  if 0 ≤ number && number < 256 then return UInt8.ofNat number.toNat
  else valueError "bytes must be in range(0, 256)"

def toBytes (engine : Engine) (given : Given) : Run Value := do
  let arguments ← orderArguments "" "bytes" (.named 0 0 ["source", "encoding", "errors"]) given
  match argumentAt arguments 0 with
  | none => return .bytes []
  | some source =>
      match ← plain source with
      | .text text =>
          if (argumentAt arguments 1).isNone then typeError "string argument without an encoding"
          encodeText text.toList (arguments.drop 1)
      | .bytes bytes => return .bytes bytes
      | plainValue =>
          match plainValue.whole? with
          | some count =>
              if count < 0 then valueError "negative count"
              if widestField ≤ count.toNat then raise "MemoryError" []
              return .bytes (List.replicate count.toNat 0)
          | none =>
              match ← callOwn? engine source "__bytes__" [] with
              | some result => return result
              | none =>
                  match ← unlessRaised ["TypeError"] (iterate engine source) with
                  | none => typeError ("cannot convert '" ++ (← typeName source) ++ "' object to bytes")
                  | some _ => return .bytes (← (← collect engine source).toList.mapM (byteOf engine))

def toRange (engine : Engine) (given : Given) : Run Value := do
  let _ ← orderArguments "" "range" (.between 1 3) given
  let bounds ← given.positional.mapM (toIndex engine)
  match bounds with
  | [stop] => return .range 0 stop 1
  | [start, stop] => return .range start stop 1
  | start :: stop :: step :: _ =>
      if step = 0 then valueError "range() arg 3 must not be zero"
      return .range start stop step
  | [] => return .range 0 0 1

def toSlice (given : Given) : Run Value := do
  let _ ← orderArguments "" "slice" (.between 1 3) given
  match given.positional with
  | [upper] => return .slice .nothing upper .nothing
  | [lower, upper] => return .slice lower upper .nothing
  | lower :: upper :: step :: _ => return .slice lower upper step
  | [] => return .slice .nothing .nothing .nothing

/-- The one argument that a container may be made from. -/
def sourceArgument? (name : String) (given : Given) : Run (Option Value) := do
  let arguments ← orderArguments "" name (.between 0 1) given
  return argumentAt arguments 0

def itemsFrom (engine : Engine) (source : Option Value) : Run (Array Value) := do
  match source with
  | none => return #[]
  | some source => collect engine source

/-- Fills a container that is empty from the arguments of its making. -/
def fillContainer (engine : Engine) (address : Address) (kind : Kind) (given : Given) : Run Unit := do
  match kind with
  | .list =>
      let items ← itemsFrom engine (← sourceArgument? "list" given)
      modifyList address fun _ => items
  | .set =>
      let items ← itemsFrom engine (← sourceArgument? "set" given)
      writeMembers address (← setOf engine items)
  | .dict => updateMapping engine "dict" address given
  | .defaultDict =>
      match given.positional with
      | factory :: rest =>
          let callable ← (match factory with
            | .nothing => pure true
            | factory => isCallable factory)
          if !callable then typeError "first argument must be callable or None"
          writeCell address (.dict (← entriesAt address) (some factory))
          updateMapping engine "defaultdict" address ⟨rest, given.named⟩
      | [] =>
          writeCell address (.dict (← entriesAt address) (some .nothing))
          updateMapping engine "defaultdict" address given
  | _ => return ()

def emptyContainer? (kind : Kind) : Option Cell :=
  match kind with
  | .list => some (.list #[])
  | .dict => some (.dict #[] none)
  | .defaultDict => some (.dict #[] (some .nothing))
  | .set => some (.set #[] false)
  | _ => none

/-- An iterator over a value from its end. -/
def iterateBack (engine : Engine) (value : Value) : Run Value := do
  match ← callOwn? engine value "__reversed__" [] with
  | some iterator => return iterator
  | none =>
      match ← plain value with
      | .text text => new (.iterator .reversed (.items (characterValues text).reverse))
      | .bytes bytes => new (.iterator .reversed (.items (byteValues bytes).reverse))
      | .tuple items => new (.iterator .reversed (.items items.reverse))
      | .range start stop step =>
          let size := rangeLength start stop step
          newIterator "range_iterator" (.range (start + step * ((size : Int) - 1)) (-step) size)
      | .ref address =>
          match ← cellAt? address with
          | some (.list items) => newIterator "list_reverseiterator" (.reversedList address items.size)
          | some (.dict entries _) =>
              newIterator "dict_reversekeyiterator" (.items (entries.toList.map (·.1)).reverse)
          | some (.view part source) =>
              let entries ← entriesAt source
              newIterator "dict_reversekeyiterator" (.items (entries.toList.map (partOf part)).reverse)
          | _ =>
              if (← ownMember? value "__getitem__").isSome && (← ownMember? value "__len__").isSome then
                let size ← lengthOf engine value
                new (.iterator .reversed (.indexed value ((size : Int) - 1) (-1)))
              else typeError ("'" ++ (← typeName value) ++ "' object is not reversible")
      | _ => typeError ("'" ++ (← typeName value) ++ "' object is not reversible")

def toIteratorKind (engine : Engine) (kind : Kind) (given : Given) : Run Value := do
  match kind with
  | .enumerate =>
      let arguments ← orderArguments "" "enumerate" (.named 1 0 ["iterable", "start"]) given
      let start ← (match argumentAt arguments 1 with
        | none => pure 0
        | some start => toIndex engine start)
      new (.iterator kind (.counted (← iterate engine (firstArgument arguments)) start))
  | .zip =>
      for (name, _) in given.named do
        if name ≠ "strict" then
          typeError ("'" ++ name ++ "' is an invalid keyword argument for zip()")
      let strict ← (match given.named.lookup "strict" with
        | none => pure false
        | some strict => holds engine strict)
      let sources ← given.positional.zipIdx.mapM fun (source, _) => iterate engine source
      new (.iterator kind (.zipped sources strict))
  | .map =>
      refuseNamed "map" given
      match given.positional with
      | function :: first :: rest =>
          let sources ← (first :: rest).mapM (iterate engine)
          new (.iterator kind (.mapped function sources))
      | _ => typeError "map() must have at least two arguments."
  | .filter =>
      let _ ← orderArguments "" "filter" (.between 2 2) given
      match given.positional with
      | function :: source :: _ => new (.iterator kind (.filtered function (← iterate engine source)))
      | _ => return .nothing
  | _ =>
      let _ ← orderArguments "" "reversed" (.between 1 1) given
      iterateBack engine (given.positional.headD .nothing)

/-- Faults of the system by their numbers. -/
def systemErrors : List (Int × String) :=
  [(1, "PermissionError"), (2, "FileNotFoundError"), (3, "ProcessLookupError"), (4, "InterruptedError"),
   (10, "ChildProcessError"), (11, "BlockingIOError"), (13, "PermissionError"), (17, "FileExistsError"),
   (20, "NotADirectoryError"), (21, "IsADirectoryError"), (32, "BrokenPipeError"),
   (103, "ConnectionAbortedError"), (104, "ConnectionResetError"), (110, "TimeoutError"),
   (111, "ConnectionRefusedError")]

/-- The names of arguments that an error takes. -/
def errorParameters (name : String) : List String :=
  if isErrorCase name "ImportError" then ["name", "path"]
  else if name = "AttributeError" then ["name", "obj"]
  else if isErrorCase name "NameError" then ["name"]
  else if name = "SideEffectError" then ["expression", "node"]
  else if isErrorCase name "ConchError" then ["cause"]
  else []

/-- The arguments by name that a new error keeps: those it was given, and the standard ones. -/
def errorFields (name : String) (given : Given) : List (String × Value) :=
  let standard :=
    if name = "SideEffectError" then
      (["expression", "node"].filter fun field => (given.named.lookup field).isNone).map fun field =>
        (field, Value.text "")
    else []
  given.named.map (fun (field, value) => (if field = "cause" then "__cause__" else field, value)) ++ standard

def newError (name : String) (given : Given) : Run Value := do
  for (argument, _) in given.named do
    if !(errorParameters name).contains argument then
      typeError (name ++ "() takes no keyword arguments")
  let given := match given.positional with
    | [message, cause] =>
        if (errorParameters name).contains "cause" then
          { positional := [message], named := given.named ++ [("cause", cause)] }
        else given
    | _ => given
  let name := match name, given.positional with
    | "OSError", (.whole number) :: _ :: _ => (systemErrors.lookup number).getD name
    | name, _ => name
  if (name = "UnicodeDecodeError" || name = "UnicodeEncodeError") && given.positional.length ≠ 5 then
    typeError ("function takes exactly 5 arguments (" ++ toString given.positional.length ++ " given)")
  let value ← makeError name given.positional
  match value with
  | .ref address =>
      match ← cellAt? address with
      | some (.instanceOf _ space _) =>
          for (field, item) in errorFields name given do setName space field item
      | _ => pure ()
  | _ => pure ()
  return value

def toPath (given : Given) : Run Value := do
  let parts ← given.positional.mapM fun part => do
    match ← plain part with
    | .text text | .path text => return text.toList
    | other =>
        typeError ("expected str, bytes or os.PathLike object, not " ++ (← typeName other))
  let joined := parts.foldl Files.join []
  let rooted : Bool := joined.head? = some Files.separator
  let pieces := (Files.components joined).filter (· ≠ ['.'])
  let body := [Files.separator].intercalate pieces
  let text := if rooted then Files.separator :: body else body
  return .path (if text.isEmpty then "." else String.ofList text)

/-- Makes a value of a built-in kind. -/
def construct (engine : Engine) (kind : Kind) (given : Given) : Run Value := do
  match emptyContainer? kind with
  | some cell =>
      let address ← allocate cell
      fillContainer engine address kind given
      return .ref address
  | none =>
      match kind with
      | .object =>
          if !given.positional.isEmpty || !given.named.isEmpty then typeError "object() takes no arguments"
          new (.instanceOf (.kind .object) (← newDict #[]) none)
      | .boolean =>
          let arguments ← orderArguments "" "bool" (.between 0 1) given
          match argumentAt arguments 0 with
          | none => return .boolean false
          | some value => return .boolean (← holds engine value)
      | .whole => toWhole engine given
      | .real => toRealValue engine given
      | .complex => toComplex engine given
      | .text => toText engine given
      | .bytes => toBytes engine given
      | .tuple => return .tuple (← itemsFrom engine (← sourceArgument? "tuple" given)).toList
      | .frozenSet =>
          let items ← itemsFrom engine (← sourceArgument? "frozenset" given)
          newSet (← setOf engine items) true
      | .range => toRange engine given
      | .slice => toSlice given
      | .nothing =>
          if given.positional.isEmpty then return .nothing else typeError "NoneType takes no arguments"
      | .ellipsis =>
          if given.positional.isEmpty then return .ellipsis else typeError "EllipsisType takes no arguments"
      | .notImplemented => return .notImplemented
      | .property =>
          let arguments ← orderArguments "" "property" (.named 0 0 ["fget", "fset", "fdel", "doc"]) given
          let part (index : Nat) : Value := (argumentAt arguments index).getD .nothing
          new (.property (part 0) (part 1) (part 2))
      | .staticMethod | .classMethod =>
          let arguments ← orderArguments "" kind.name (.between 1 1) given
          new (.wrapped (kind = .classMethod) (firstArgument arguments))
      | .super =>
          match given.positional with
          | [start, object] => new (.superOf start object)
          | _ => fail "RuntimeError" "super(): no arguments"
      | .enumerate | .zip | .map | .filter | .reversed => toIteratorKind engine kind given
      | .patternFlag =>
          match given.positional with
          | [value] => return .patternFlags (← toIndex engine value).toNat
          | _ => return .patternFlags 0
      | .path | .systemPath => toPath given
      | .error name => newError name given
      | kind => typeError ("cannot create '" ++ kind.fullName ++ "' instances")

/-! Classes. -/

/-- What a namespace holds as texts and values. -/
def bindingsIn (space : Address) : Run (List (String × Value)) := do
  return (← entriesAt space).toList.filterMap fun (key, value) => match key with
    | .text name => some (name, value)
    | _ => none

def requireBase (base : Value) : Run Unit := do
  match base with
  | .kind kind =>
      if kind.isFinal then typeError ("type '" ++ kind.fullName ++ "' is not an acceptable base type")
  | base => if !(← isClass base) then typeError "bases must be types"

def repeatedBase? : List Value → Option Value
  | [] => none
  | base :: rest => if rest.any (·.same base) then some base else repeatedBase? rest

/-- The order of a class over its bases. -/
def orderOver (bases : List Value) : Run (List Value) := do
  match repeatedBase? bases with
  | some base => typeError ("duplicate base class " ++ (← nameOfClass base))
  | none =>
      let orders ← bases.mapM orderOf
      let total := orders.foldl (fun count order => count + order.length) (bases.length + 1)
      match joinOrders Value.same total (orders ++ [bases]) with
      | some order => return order
      | none =>
          let names ← bases.mapM nameOfClass
          typeError ("Cannot create a consistent method resolution\norder (MRO) for bases " ++
            ", ".intercalate names)

/-- The errors that have fields of their own. -/
def errorsWithFields : List String :=
  ["AttributeError", "BaseExceptionGroup", "ImportError", "NameError", "OSError", "StopIteration", "SyntaxError",
   "SystemExit", "UnicodeDecodeError", "UnicodeEncodeError", "UnicodeTranslateError"]

/-- The kind that gives an instance of a kind its fields. -/
def layoutOf : Kind → Kind
  | .error name => .error (((errorOrder 8 name).find? errorsWithFields.contains).getD "BaseException")
  | kind => kind

/-- A new class. The namespace becomes its own. -/
def makeClass (engine : Engine) (name : String) (bases : List Value) (space : Address)
    (named : List (String × Value)) : Run Value := do
  let bases := if bases.isEmpty then [Value.kind .object] else bases
  for base in bases do requireBase base
  let order ← orderOver bases
  let kinds ← bases.mapM baseKind
  let layouts := (kinds.filter (· ≠ .object)).map layoutOf
  for kind in layouts do
    for other in layouts do
      if !kind.order.contains other && !other.order.contains kind then
        typeError "multiple bases have instance lay-out conflict"
  let qualified ← (match ← nameIn? space "__qualname__" with
    | some (.text qualified) => pure qualified
    | _ => pure name)
  let _ ← removeName space "__qualname__"
  let module := (← nameIn? space "__module__").getD (.text "builtins")
  setName space "__module__" module
  if (← nameIn? space "__doc__").isNone then setName space "__doc__" .nothing
  if (← nameIn? space "__eq__").isSome && (← nameIn? space "__hash__").isNone then
    setName space "__hash__" .nothing
  let address ← allocate (.classObject { name, qualified, module, bases, order := [], space })
  let cls := Value.ref address
  writeCell address (.classObject { name, qualified, module, bases, order := cls :: order, space })
  for (member, value) in ← bindingsIn space do
    match ← callOwn? engine value "__set_name__" [cls, .text member] with
    | _ => pure ()
  match ← memberAlong? "__init_subclass__" order with
  | some (.made function) =>
      let bound ← (match function with
        | .ref inner => do
            match ← cellAt? inner with
            | some (.wrapped _ function) => new (.bound cls function)
            | _ => new (.bound cls function)
        | function => pure function)
      let _ ← engine.call bound [] named
  | _ => if !named.isEmpty then typeError (name ++ ".__init_subclass__() takes no keyword arguments")
  return cls

/-! Instances. -/

/-- A new instance before it is set up. -/
def newInstance (engine : Engine) (cls : Value) (given : Given) : Run Value := do
  let kind ← baseKind cls
  let space ← newDict #[]
  match kind with
  | .object =>
      let own ← (do
        match ← memberOf? cls "__init__", ← memberOf? cls "__new__" with
        | some (.made _), _ | _, some (.made _) => return true
        | _, _ => return false : Run Bool)
      if !own && (!given.positional.isEmpty || !given.named.isEmpty) then
        typeError ((← nameOfClass cls) ++ "() takes no arguments")
      new (.instanceOf cls space none)
  | .error _ => new (.instanceOf cls space (some (.tuple given.positional)))
  | kind =>
      match emptyContainer? kind with
      | some cell =>
          let inner ← new cell
          new (.instanceOf cls space (some inner))
      | none =>
          let payload ← construct engine kind given
          new (.instanceOf cls space (some payload))

/-- Sets up an instance the way its built-in kind does. -/
def setUpPlain (engine : Engine) (value : Value) (given : Given) : Run Unit := do
  match value with
  | .ref address =>
      match ← cellAt? address with
      | some (.instanceOf cls _ (some (.ref inner))) =>
          fillContainer engine inner (← baseKind cls) given
      | some (.instanceOf cls space (some (.tuple _))) =>
          if ← isSubclass cls (.kind (.error "BaseException")) then
            if !given.named.isEmpty then
              match ← baseKind cls with
              | .error name =>
                  for (argument, item) in given.named do
                    if !(errorParameters name).contains argument then
                      typeError ((← nameOfClass cls) ++ "() takes no keyword arguments")
                    setName space argument item
              | _ => pure ()
            writeCell address (.instanceOf cls space (some (.tuple given.positional)))
      | _ => return ()
  | _ => return ()

def setUp (engine : Engine) (value cls : Value) (given : Given) : Run Unit := do
  match ← memberOf? cls "__init__" with
  | some (.made function) =>
      let result ← engine.call (← bindMember engine value cls function) given.positional given.named
      match result with
      | .nothing => return ()
      | result => typeError ("__init__() should return None, not '" ++ (← typeName result) ++ "'")
  | _ => setUpPlain engine value given

/-- Calls a class made here. -/
def instantiate (engine : Engine) (cls : Value) (given : Given) : Run Value := do
  match ← memberOf? cls "__new__" with
  | some (.made function) =>
      let function ← (match function with
        | .ref address => do
            match ← cellAt? address with
            | some (.wrapped _ inner) => pure inner
            | _ => pure function
        | function => pure function)
      let value ← engine.call function (cls :: given.positional) given.named
      if ← isInstance value cls then setUp engine value cls given
      return value
  | _ =>
      let value ← newInstance engine cls given
      setUp engine value cls given
      return value

end Run

end LiveShell
