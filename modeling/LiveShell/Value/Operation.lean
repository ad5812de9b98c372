import LiveShell.Value.Making

/-!
Operations called by their names, the way built-in kinds define them: a class that defines one of its own is
passed over, so that its definition can call the one it replaces.
-/

namespace LiveShell

open Code (BinaryOperator Relation)

/-- Binary operators by the words in the names of their operations. -/
def operatorWords : List (String × BinaryOperator) :=
  [("add", .add), ("sub", .subtract), ("mul", .multiply), ("matmul", .matrix), ("truediv", .divide),
   ("mod", .modulo), ("pow", .power), ("lshift", .shiftLeft), ("rshift", .shiftRight), ("or", .bitOr),
   ("xor", .bitXor), ("and", .bitAnd), ("floordiv", .floorDivide)]

def relationWords : List (String × Relation) :=
  [("eq", .equal), ("ne", .notEqual), ("lt", .less), ("le", .lessEqual), ("gt", .greater),
   ("ge", .greaterEqual)]

/-- The word between the underscores of an operation's name. -/
def operationWord (name : String) : String :=
  String.ofList ((name.toList.drop 2).dropLast.dropLast)

namespace Run

def expectCount (given : Given) (least most : Nat) : Run Unit := do
  let count := given.positional.length
  if count < least || most < count then
    let bound := if count < least then least else most
    let exact := if least = most then "" else if count < least then "at least " else "at most "
    typeError ("expected " ++ exact ++ toString bound ++ " argument" ++ plural bound ++ ", got " ++
      toString count)

/-- How an instance is shown when its class does not say so. -/
def showPlainly (engine : Engine) (value inner : Value) : Run String := do
  match value with
  | .ref address =>
      match ← cellAt? address with
      | some (.instanceOf cls _ none) => return objectText (← fullClassName cls)
      | some (.instanceOf cls _ (some (.tuple arguments))) =>
          if ← isSubclass cls (.kind (.error "BaseException")) then
            return (← nameOfClass cls) ++
              (← showArguments (shown engine) (← errorArguments cls arguments))
          else shown engine inner
      | some (.instanceOf ..) => shown engine inner
      | _ => shown engine value
  | value => shown engine value

def textPlainly (engine : Engine) (value inner : Value) : Run String := do
  match value with
  | .ref address =>
      match ← cellAt? address with
      | some (.instanceOf cls _ (some (.tuple arguments))) =>
          if ← isSubclass cls (.kind (.error "BaseException")) then
            errorText (textOf engine) (shown engine) cls arguments
          else textOf engine inner
      | some (.instanceOf _ _ none) => shown engine value
      | _ => textOf engine inner
  | value => textOf engine value

/-- An operation on two values as their kinds define it; `NotImplemented` when they do not. -/
def applyPlainly (engine : Engine) (operator : BinaryOperator) (a b : Value) : Run Value := do
  match ← onPlain? engine (fillIn engine) operator a b with
  | some result => return result
  | none => return .notImplemented

def relatePlainly (engine : Engine) (relation : Relation) (value inner other : Value) : Run Value := do
  let relate (relation : Relation) (a b : Value) : Run Bool := do
    holds engine (← Run.relate engine relation a b)
  match ← relatePlain? relate relation inner (← plain other) with
  | some answer => return .boolean answer
  | none =>
      match relation with
      | .equal => return if value.same other then .boolean true else .notImplemented
      | .notEqual =>
          match ← callOwn? engine value "__eq__" [other] with
          | some .notImplemented | none =>
              return if value.same other then .boolean false else .notImplemented
          | some result => return .boolean !(← holds engine result)
      | _ => return .notImplemented

/-- An operation of a value by its name, its class passed over. -/
def callOperation (engine : Engine) (value : Value) (name : String) (given : Given) : Run Value := do
  let inner ← plain value
  let first := given.positional.headD .nothing
  let second := (given.positional[1]?).getD .nothing
  let word := operationWord name
  match relationWords.lookup word with
  | some relation => expectCount given 1 1; return ← relatePlainly engine relation value inner first
  | none => pure ()
  match operatorWords.lookup word with
  | some operator =>
      if operator = .power then expectCount given 1 2 else expectCount given 1 1
      return ← applyPlainly engine operator inner (← plain first)
  | none => pure ()
  if word.startsWith "r" || word.startsWith "i" then
    match operatorWords.lookup (String.ofList (word.toList.drop 1)) with
    | some operator =>
        expectCount given 1 1
        if word.startsWith "r" then return ← applyPlainly engine operator (← plain first) inner
        match inner, ← operate engine (fillIn engine) operator true inner (← plain first) with
        | .ref address, .ref result =>
            match ← cellAt? result with
            | some cell => writeCell address cell; return value
            | none => return value
        | _, result => return result
    | none => pure ()
  match name with
  | "__len__" => expectCount given 0 0; return .whole (← lengthOf engine inner)
  | "__getitem__" => expectCount given 1 1; itemOf engine inner first
  | "__setitem__" => expectCount given 2 2; setItem engine inner first second; return .nothing
  | "__delitem__" => expectCount given 1 1; deleteItem engine inner first; return .nothing
  | "__contains__" => expectCount given 1 1; return .boolean (← contains engine inner first)
  | "__iter__" => expectCount given 0 0; iterate engine inner
  | "__reversed__" => expectCount given 0 0; iterateBack engine inner
  | "__next__" =>
      expectCount given 0 0
      match ← engine.next value with
      | some item => return item
      | none => raise "StopIteration" []
  | "__call__" => engine.call value given.positional given.named
  | "__repr__" => expectCount given 0 0; return .text (← showPlainly engine value inner)
  | "__str__" => expectCount given 0 0; return .text (← textPlainly engine value inner)
  | "__format__" =>
      expectCount given 1 1
      match first with
      | .text spec => return .text (← layOut engine inner spec)
      | other => typeError ("__format__() argument must be str, not " ++ (← typeName other))
  | "__hash__" => expectCount given 0 0; return .whole (← hashOf engine inner)
  | "__bool__" => expectCount given 0 0; return .boolean (← holds engine inner)
  | "__neg__" => operateOn engine .negate inner
  | "__pos__" => operateOn engine .plus inner
  | "__invert__" => operateOn engine .invert inner
  | "__abs__" => absoluteOf engine inner
  | "__int__" | "__trunc__" => wholeOf engine inner
  | "__index__" => return .whole (← toIndex engine inner)
  | "__float__" => return .real (← realOf engine inner)
  | "__complex__" => toComplex engine ⟨[inner], []⟩
  | "__bytes__" => toBytes engine ⟨[inner], []⟩
  | "__round__" => roundValue engine inner given.positional.head?
  | "__floor__" | "__ceil__" =>
      match inner with
      | .real number =>
          let whole ← truncateReal number
          let exact := Number.isWhole number
          let down := if number < 0.0 && !exact then whole - 1 else whole
          return .whole (if name = "__floor__" || exact then down else down + 1)
      | inner => wholeOf engine inner
  | "__divmod__" => expectCount given 1 1; divideBoth engine inner first
  | "__rdivmod__" => expectCount given 1 1; divideBoth engine first inner
  | "__getattribute__" | "__getattr__" =>
      expectCount given 1 1
      match first with
      | .text name => attributeOf engine value name
      | other => typeError ("attribute name must be string, not '" ++ (← typeName other) ++ "'")
  | "__setattr__" =>
      expectCount given 2 2
      match first with
      | .text name => setPlainAttribute engine value name second; return .nothing
      | other => typeError ("attribute name must be string, not '" ++ (← typeName other) ++ "'")
  | "__delattr__" =>
      expectCount given 1 1
      match first with
      | .text name => deletePlainAttribute engine value name; return .nothing
      | other => typeError ("attribute name must be string, not '" ++ (← typeName other) ++ "'")
  | "__dir__" => newList (Value.texts (← plainNames value)).toArray
  | "__init__" =>
      match value with
      | .ref address =>
          match ← cellAt? address with
          | some (.instanceOf _ _ none) =>
              if !given.positional.isEmpty || !given.named.isEmpty then
                typeError "object.__init__() takes exactly one argument (the instance to initialize)"
              return .nothing
          | _ => setUpPlain engine value given; return .nothing
      | _ => return .nothing
  | "__get__" =>
      match first with
      | .nothing => return value
      | object => bindMember engine object second value
  | "__sizeof__" => return .whole 56
  | "__getnewargs__" => return .tuple [inner]
  | "__getstate__" => return .nothing
  | "__enter__" => return value
  | "__exit__" => return .nothing
  | "__fspath__" => return .text (← textOf engine inner)
  | "__copy__" | "copy" =>
      match inner with
      | .ref address =>
          match ← cellAt? address with
          | some cell => new cell
          | none => return inner
      | inner => return inner
  | "__missing__" => expectCount given 1 1; missingKey first
  | "__instancecheck__" => return .boolean (← isInstance first value)
  | "__subclasscheck__" => return .boolean (← isSubclass first value)
  | _ => return .notImplemented

end Run

end LiveShell
