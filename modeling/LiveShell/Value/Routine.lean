import LiveShell.Value.Method

/-!
The built-in functions, apart from those that look at the scope they are called in.
-/

namespace LiveShell

namespace Run

/-- What each built-in function takes. -/
def routineShape? (name : String) : Option Shape :=
  match name with
  | "abs" | "all" | "any" | "ascii" | "bin" | "callable" | "chr" | "hash" | "hex" | "id" | "len" | "oct"
  | "ord" | "repr" => some .one
  | "delattr" | "divmod" | "hasattr" | "isinstance" | "issubclass" => some (.between 2 2)
  | "format" | "iter" | "next" => some (.between 1 2)
  | "getattr" => some (.between 2 3)
  | "setattr" => some (.between 3 3)
  | "dir" | "vars" | "input" => some (.between 0 1)
  | "pow" => some (.named 2 0 ["base", "exp", "mod"])
  | "round" => some (.named 1 0 ["number", "ndigits"])
  | "sum" => some (.named 1 1 ["", "start"])
  | "max" | "min" | "print" | "sorted" | "open" => some .any
  | _ => none

def attributeName (value : Value) : Run String := do
  match ← plain value with
  | .text name => return name
  | _ => typeError ("attribute name must be string, not '" ++ (← typeName value) ++ "'")

/-- Whether one of the items that are left counts as `wanted`. -/
def anyHolds (engine : Engine) (iterator : Value) (wanted : Bool) : Nat → Run Bool
  | 0 => raise "KeyboardInterrupt" []
  | turns + 1 => do
      match ← engine.next iterator with
      | none => return false
      | some item =>
          if (← holds engine item) = wanted then return true
          else anyHolds engine iterator wanted turns

/-- Whether a test accepts a class, or one of the classes in nested tuples. -/
def testClasses (accepts : Value → Run Bool) (refusal : String) : Nat → Value → Run Bool
  | 0, _ => fail "RecursionError" "maximum recursion depth exceeded in __instancecheck__"
  | depth + 1, classes => do
      match classes with
      | .tuple items => anyOf depth items
      | cls => if ← isClass cls then accepts cls else typeError refusal
where
  anyOf (depth : Nat) : List Value → Run Bool
    | [] => return false
    | item :: items => do
        if ← testClasses accepts refusal depth item then return true else anyOf depth items

/-- The names that a value says it has, in order. -/
def namesOf (engine : Engine) (value : Value) : Run (Array Value) := do
  match ← callOwn? engine value "__dir__" [] with
  | some names => sortValues engine (← collect engine names)
  | none => return (Value.texts (← plainNames value)).toArray

/-- The greatest of the items, or the least one: the first of those that are alike. -/
def extreme (engine : Engine) (name : String) (given : Given) : Run Value := do
  for (argument, _) in given.named do
    if argument ≠ "key" && argument ≠ "default" then
      typeError ("'" ++ argument ++ "' is an invalid keyword argument for " ++ name ++ "()")
  let items ← (match given.positional with
    | [] => typeError (name ++ " expected at least 1 argument, got 0")
    | [source] => collect engine source
    | several => do
        if (given.named.lookup "default").isSome then
          typeError ("Cannot specify a default for " ++ name ++ "() with multiple positional arguments")
        pure several.toArray)
  let keyOf (item : Value) : Run Value := do
    match given.named.lookup "key" with
    | none | some .nothing => return item
    | some key => engine.call key [item] []
  match items.toList with
  | [] =>
      match given.named.lookup "default" with
      | some standard => return standard
      | none => valueError (name ++ "() arg is an empty sequence")
  | first :: rest =>
      let mut best := first
      let mut bestKey ← keyOf first
      for item in rest do
        let key ← keyOf item
        if ← holds engine (← relate engine (if name = "max" then .greater else .less) key bestKey) then
          best := item
          bestKey := key
      return best

def sumOf (engine : Engine) (source : Value) (start : Option Value) : Run Value := do
  match start with
  | some (.text _) => typeError "sum() can't sum strings [use ''.join(seq) instead]"
  | some (.bytes _) => typeError "sum() can't sum bytes [use b''.join(seq) instead]"
  | _ => pure ()
  let mut total := start.getD (.whole 0)
  for item in ← collect engine source do
    total ← operate engine (fillIn engine) .add false total item
  return total

/-- A text that stands between or after what is printed. -/
def printPart (name standard : String) (given : Given) : Run String := do
  match given.named.lookup name with
  | none | some .nothing => return standard
  | some value => textArgument (fun kind => name ++ " must be None or a string, not " ++ kind) value

def printAll (engine : Engine) (given : Given) : Run Value := do
  for (argument, _) in given.named do
    if !(["sep", "end", "file", "flush"].contains argument) then
      typeError ("'" ++ argument ++ "' is an invalid keyword argument for print()")
  let between ← printPart "sep" " " given
  let last ← printPart "end" "\n" given
  for (item, index) in given.positional.zipIdx do
    if 0 < index then print between
    print (← textOf engine item)
  print last
  return .nothing

def codeOf (value : Value) : Run Value := do
  let expected (count : Nat) : Run Value :=
    typeError ("ord() expected a character, but string of length " ++ toString count ++ " found")
  match ← plain value with
  | .text text =>
      match text.toList with
      | [character] => return .whole character.toNat
      | characters => expected characters.length
  | .bytes [byte] => return .whole byte.toNat
  | .bytes bytes => expected bytes.length
  | _ => typeError ("ord() expected string of length 1, but " ++ (← typeName value) ++ " found")

def characterOf (engine : Engine) (value : Value) : Run Value := do
  let code ← toIndex engine value
  if Nat.pow 2 31 ≤ code.natAbs then fail "OverflowError" "Python int too large to convert to C int"
  if code < 0 || 0x110000 ≤ code then valueError "chr() arg not in range(0x110000)"
  return .text (String.singleton (Char.ofNat code.toNat))

/-- A new iterator over a value, or over what a function gives until it gives `sentinel`. -/
def iteratorOver (engine : Engine) (value : Value) (sentinel : Option Value) : Run Value := do
  match sentinel with
  | none => iterate engine value
  | some sentinel =>
      if !(← isCallable value) then typeError "iter(v, w): v must be callable"
      newIterator "callable_iterator" (.called value sentinel)

def nextItem (engine : Engine) (iterator : Value) (standard : Option Value) : Run Value := do
  if !(← isIterator iterator) then
    typeError ("'" ++ (← typeName iterator) ++ "' object is not an iterator")
  match ← engine.next iterator, standard with
  | some item, _ => return item
  | none, some standard => return standard
  | none, none => raise "StopIteration" []

/-- The class of a value, or a new class. -/
def typeOf (engine : Engine) (given : Given) : Run Value := do
  match given.positional, given.named with
  | [value], [] => classOf value
  | [name, bases, space], named =>
      let refuse (place expected : String) (value : Value) : Run Value := do
        typeError ("type.__new__() argument " ++ place ++ " must be " ++ expected ++ ", not " ++
          (← typeName value))
      match ← plain name, ← plain bases, space with
      | .text name, .tuple bases, .ref address =>
          match ← cellAt? address with
          | some (.dict entries _) => makeClass engine name bases (← newDict entries) named
          | _ => refuse "3" "dict" space
      | .text _, .tuple _, _ => refuse "3" "dict" space
      | .text _, _, _ => refuse "2" "tuple" bases
      | _, _, _ => refuse "1" "str" name
  | _, _ => typeError "type() takes 1 or 3 arguments"

/-- Calls a built-in function. -/
def callRoutine (engine : Engine) (name : String) (given : Given) : Run Value := do
  let arguments ← (match routineShape? name with
    | some shape => orderArguments "" name shape given
    | none => pure (given.positional.map some))
  let first := firstArgument arguments
  let second? := argumentAt arguments 1
  let second := second?.getD .nothing
  match name with
  | "abs" => absoluteOf engine first
  | "all" => return .boolean !(← anyHolds engine (← iterate engine first) false patience)
  | "any" => return .boolean (← anyHolds engine (← iterate engine first) true patience)
  | "ascii" => return .text (← shownInAscii engine first)
  | "bin" => return .text (inBase 2 "0b" (← toIndex engine first))
  | "oct" => return .text (inBase 8 "0o" (← toIndex engine first))
  | "hex" => return .text (inBase 16 "0x" (← toIndex engine first))
  | "callable" => return .boolean (← isCallable first)
  | "chr" => characterOf engine first
  | "ord" => codeOf first
  | "hash" => return .whole (← hashOf engine first)
  | "id" =>
      match first with
      | .ref address => return .whole (139637976727552 + 64 * (address : Int))
      | _ => return .whole (139637976000000 + 32 * (((first.stableHash?).getD 0).natAbs % 65536 : Nat))
  | "len" => return .whole (← lengthOf engine first)
  | "repr" => return .text (← shown engine first)
  | "delattr" => deleteAttribute engine first (← attributeName second); return .nothing
  | "setattr" =>
      setAttribute engine first (← attributeName second) ((argumentAt arguments 2).getD .nothing)
      return .nothing
  | "hasattr" => return .boolean (← attributeIfAny? engine first (← attributeName second)).isSome
  | "getattr" =>
      let name ← attributeName second
      match argumentAt arguments 2 with
      | none => attributeOf engine first name
      | some standard => return (← attributeIfAny? engine first name).getD standard
  | "divmod" => divideBoth engine first second
  | "isinstance" =>
      return .boolean (← testClasses (isInstance first)
        "isinstance() arg 2 must be a type, a tuple of types, or a union" depthLimit second)
  | "issubclass" =>
      if !(← isClass first) then typeError "issubclass() arg 1 must be a class"
      return .boolean (← testClasses (isSubclass first)
        "issubclass() arg 2 must be a class, a tuple of classes, or a union" depthLimit second)
  | "format" =>
      let spec ← (match second? with
        | none => pure ""
        | some spec => textArgument (fun kind => "format() argument 2 must be str, not " ++ kind) spec)
      return .text (← layOut engine first spec)
  | "iter" => iteratorOver engine first second?
  | "next" => nextItem engine first second?
  | "dir" => newList (← namesOf engine first)
  | "vars" =>
      match ← attributeIfAny? engine first "__dict__" with
      | some space => return space
      | none => typeError "vars() argument must have __dict__ attribute"
  | "input" => fail "EOFError" "EOF when reading a line"
  | "pow" => powerOf engine first second (argumentAt arguments 2)
  | "round" => roundValue engine first second?
  | "sum" => sumOf engine first second?
  | "max" | "min" => extreme engine name given
  | "print" => printAll engine given
  | "sorted" =>
      if given.positional.length ≠ 1 then
        typeError ("sorted expected 1 argument, got " ++ toString given.positional.length)
      let items ← collect engine (given.positional.headD .nothing)
      let (key, descending) ← sortOrder engine "sort" given.named
      newList (← sortWith engine items key descending)
  | "open" =>
      raise "FileNotFoundError" [.whole 2, .text "No such file or directory", given.positional.headD .nothing]
  | _ => fail "RuntimeError" (name ++ "() cannot be called here")

end Run

end LiveShell
