import LiveShell.Number.Shortest
import LiveShell.Text.Layout
import LiveShell.Text.Quoted
import LiveShell.Value.Iterate

/-!
How values are written: the form that code could read back, the form for readers, and the form in a layout.
-/

namespace LiveShell

/-- How many digits an integer may have when it is written. -/
def mostWrittenDigits : Nat := 4300

/-- Whether an integer has more digits than may be written. -/
def isTooLong (value : Int) : Bool :=
  14280 ≤ Nat.log2 value.natAbs && Nat.pow 10 mostWrittenDigits ≤ value.natAbs

/-- What a pattern flag is called. -/
def patternFlagNames : List (Nat × String) :=
  [(256, "ASCII"), (128, "DEBUG"), (2, "IGNORECASE"), (4, "LOCALE"), (8, "MULTILINE"), (16, "DOTALL"),
   (32, "UNICODE"), (64, "VERBOSE"), (1, "TEMPLATE")]

def patternFlagText (bits : Nat) : String :=
  let names := (patternFlagNames.filter fun (bit, _) => bits / bit % 2 = 1).mergeSort fun a b => a.1 ≤ b.1
  if names.isEmpty then "re.NOFLAG" else "|".intercalate (names.map fun (_, name) => "re." ++ name)

def flagBits (flags : Pattern.Flags) : Nat :=
  (if flags.ignoreCase then 2 else 0) + (if flags.manyLines then 8 else 0) +
    (if flags.dotMatchesAll then 16 else 0) + (if flags.verbose then 64 else 0) +
    (if flags.asciiOnly then 256 else 0)

/-- A text between marks with its items separated by commas. -/
def listed (opening : String) (items : List String) (closing : String) : String :=
  opening ++ ", ".intercalate items ++ closing

def lastPart (name : String) : String := (name.splitOn ".").getLastD name

namespace Run

def digitLimitMessage : String :=
  "Exceeds the limit (4300 digits) for integer string conversion; use sys.set_int_max_str_digits() to " ++
    "increase the limit"

def showWhole (value : Int) : Run String := do
  if isTooLong value then valueError digitLimitMessage else return toString value

/-- The qualified name of a function. -/
def qualifiedName (function : Value) : Run String := do
  match function with
  | .ref address =>
      match ← cellAt? address with
      | some (.function data) => return data.qualified
      | some (.host _ qualified _ _) => return qualified
      | some (.classObject data) => return data.qualified
      | _ => return "?"
  | .kind kind => return kind.name
  | .routine name => return lastPart name
  | _ => return "?"

/-- The name of a class with its module, unless that is the built-in one. -/
def fullClassName (cls : Value) : Run String := do
  match cls with
  | .kind kind => return kind.fullName
  | .ref address =>
      match ← cellAt? address with
      | some (.classObject data) =>
          match data.module with
          | .text "builtins" => return data.qualified
          | .text module => return module ++ "." ++ data.qualified
          | _ => return data.qualified
      | _ => return "object"
  | .foreign library name => return library ++ "." ++ name
  | _ => return "object"

def objectText (name : String) : String := "<" ++ name ++ " object at 0x>"

/-- A value that no cell holds. `shown` writes the values inside it. -/
def showPlain (shown : Value → Run String) (value : Value) : Run String := do
  match value with
  | .nothing => return "None"
  | .ellipsis => return "Ellipsis"
  | .notImplemented => return "NotImplemented"
  | .boolean value => return if value then "True" else "False"
  | .whole value => showWhole value
  | .real value => return Number.realText value
  | .complex real imaginary => return Number.complexText real imaginary
  | .text text => return Text.quoted text
  | .bytes bytes => return Text.quotedBytes (bytes.map UInt8.toNat)
  | .tuple [item] => return "(" ++ (← shown item) ++ ",)"
  | .tuple items => return listed "(" (← items.mapM shown) ")"
  | .range start stop step =>
      let bounds := [toString start, toString stop]
      return listed "range(" (if step = 1 then bounds else bounds ++ [toString step]) ")"
  | .slice lower upper step => return listed "slice(" (← [lower, upper, step].mapM shown) ")"
  | .kind kind => return "<class '" ++ kind.fullName ++ "'>"
  | .routine name => return "<built-in function " ++ lastPart name ++ ">"
  | .method self name =>
      return "<built-in method " ++ name ++ " of " ++ (← typeName self) ++ " object at 0x>"
  | .wrapper self name =>
      return "<method-wrapper '" ++ name ++ "' of " ++ (← typeName self) ++ " object at 0x>"
  | .descriptor kind name =>
      let word := match value.kindOf with
        | .slotDescriptor => "slot wrapper"
        | .fieldDescriptor => "attribute"
        | .named _ => "member"
        | _ => "method"
      return "<" ++ word ++ " '" ++ name ++ "' of '" ++ kind.fullName ++ "' objects>"
  | .patternFlags bits => return patternFlagText bits
  | .path text => return "PosixPath(" ++ Text.quoted text ++ ")"
  | .foreign library name =>
      match foreignKind library name with
      | .type => return "<class '" ++ library ++ "." ++ name ++ "'>"
      | .function => return "<function " ++ name ++ " at 0x>"
      | _ => return name
  | .ref _ => return ""

/-- Arguments of an error after its name. -/
def showArguments (shown : Value → Run String) (arguments : List Value) : Run String := do
  match arguments with
  | [single] => return "(" ++ (← shown single) ++ ")"
  | arguments => showPlain shown (.tuple arguments)

/-- What lives in a cell. `again` is what stands for the cell inside of itself. -/
def showCell (shown : Value → Run String) (value : Value) (cell : Cell) : Run String := do
  match cell with
  | .list items => return listed "[" (← items.toList.mapM shown) "]"
  | .dict entries factory =>
      let pairs ← entries.toList.mapM fun (key, value) => do
        return (← shown key) ++ ": " ++ (← shown value)
      let body := listed "\x7b" pairs "\x7d"
      match factory with
      | none => return body
      | some factory => return "defaultdict(" ++ (← shown factory) ++ ", " ++ body ++ ")"
  | .set members frozen =>
      let body := listed "\x7b" (← (setOrder members).toList.mapM shown) "\x7d"
      let name := if frozen then "frozenset" else "set"
      if members.isEmpty then return name ++ "()"
      return if frozen then name ++ "(" ++ body ++ ")" else body
  | .frame .. => return "<cell>"
  | .function data => return "<function " ++ data.qualified ++ " at 0x>"
  | .host _ qualified _ _ => return "<function " ++ qualified ++ " at 0x>"
  | .bound self function =>
      return "<bound method " ++ (← qualifiedName function) ++ " of " ++ (← shown self) ++ ">"
  | .classObject _ => return "<class '" ++ (← fullClassName value) ++ "'>"
  | .instanceOf cls _ _ => return objectText (← fullClassName cls)
  | .module name _ => return "<module '" ++ name ++ "'>"
  | .generator data => return "<generator object " ++ data.name ++ " at 0x>"
  | .coroutine name _ => return "<coroutine object " ++ name ++ " at 0x>"
  | .iterator kind _ => return objectText kind.name
  | .view part source =>
      let items ← (← entriesAt source).toList.mapM fun entry => shown (partOf part entry)
      return cell.kind.name ++ "(" ++ listed "[" items "]" ++ ")"
  | .property .. => return objectText "property"
  | .wrapped isClass function =>
      return (if isClass then "<classmethod(" else "<staticmethod(") ++ (← shown function) ++ ")>"
  | .superOf start object =>
      return "<super: " ++ (← shown start) ++ ", <" ++ (← typeName object) ++ " object>>"
  | .pattern compiled =>
      let flags := flagBits compiled.flags
      return "re.compile(" ++ Text.quoted compiled.source ++
        (if flags = 0 then "" else ", " ++ patternFlagText flags) ++ ")"
  | .found _ text groups =>
      match groups with
      | some (start, stop) :: _ =>
          let part := String.ofList ((text.toList.take stop).drop start)
          return "<re.Match object; span=(" ++ toString start ++ ", " ++ toString stop ++ "), match=" ++
            Text.quoted part ++ ">"
      | _ => return objectText "re.Match"

/-- What stands for a container inside of itself. -/
def selfText : Cell → String
  | .list _ => "[...]"
  | .dict .. => "\x7b...\x7d"
  | .set _ frozen => if frozen then "frozenset(...)" else "set(...)"
  | .view part _ => (Cell.view part 0).kind.name ++ "(...)"
  | _ => "..."

/-- The arguments that an error shows. A fault of the system keeps the files it is about to itself. -/
def errorArguments (cls : Value) (arguments : List Value) : Run (List Value) := do
  if 2 < arguments.length && arguments.length < 6 then
    if ← isSubclass cls (.kind (.error "OSError")) then return arguments.take 2
  return arguments

/-- A set that belongs to a class made here, by the name of the class. -/
def showOwnSet (shown : Value → Run String) (name : String) (members : Array Value) : Run String := do
  if members.isEmpty then return name ++ "()"
  return name ++ "(" ++ listed "\x7b" (← (setOrder members).toList.mapM shown) "\x7d" ++ ")"

/-- The written form of a value inside the containers of `within`. -/
def showAt (engine : Engine) : Nat → List Address → Value → Run String
  | 0, _, _ => fail "RecursionError" "maximum recursion depth exceeded while getting the repr of an object"
  | depth + 1, within, value => do
      match value with
      | .ref address =>
          match ← callOwn? engine value "__repr__" [] with
          | some result =>
              match ← plain result with
              | .text text => return text
              | _ => typeError ("__repr__ returned non-string (type " ++ (← typeName result) ++ ")")
          | none =>
              match ← cellAt? address with
              | some (.instanceOf cls _ (some payload)) =>
                  let shown := showAt engine depth within
                  let name ← nameOfClass cls
                  if ← isSubclass cls (.kind (.error "BaseException")) then
                    match payload with
                    | .tuple arguments =>
                        return name ++ (← showArguments shown (← errorArguments cls arguments))
                    | _ => return name
                  else match payload with
                    | .ref inner =>
                        match ← cellAt? inner with
                        | some (.set members _) => showOwnSet shown name members
                        | _ => shown payload
                    | _ => shown payload
              | some cell =>
                  if within.contains address then return selfText cell
                  showCell (showAt engine depth (address :: within)) value cell
              | none => return "?"
      | value => showPlain (showAt engine depth within) value

/-- The form of a value that code could read. -/
def shown (engine : Engine) (value : Value) : Run String := showAt engine depthLimit [] value

/-- The text of an error about characters or bytes that a coding has no form for. -/
def codingErrorText? (arguments : List Value) : Option String :=
  match arguments with
  | [.text coding, object, .whole start, .whole stop, .text reason] =>
      let single : Bool := stop = start + 1
      let place := if single then "position " ++ toString start
        else "position " ++ toString start ++ "-" ++ toString (stop - 1)
      let tail := " in " ++ place ++ ": " ++ reason
      match object with
      | .text text =>
          let character := text.toList.getD start.toNat '?'
          some ("'" ++ coding ++ "' codec can't encode character" ++
            (if single then " '" ++ String.ofList (Text.escapeByCode character.toNat) ++ "'" else "s") ++ tail)
      | .bytes bytes =>
          let byte := (bytes.getD start.toNat 0).toNat
          some ("'" ++ coding ++ "' codec can't decode byte" ++
            (if single then " 0x" ++ String.ofList (Text.hexDigits 2 byte) else "s") ++ tail)
      | _ => none
  | _ => none

/-- The text of an error. -/
def errorText (text : Value → Run String) (shown : Value → Run String) (cls : Value)
    (arguments : List Value) : Run String := do
  match arguments with
  | [] => return ""
  | [single] =>
      if ← isSubclass cls (.kind (.error "KeyError")) then shown single else text single
  | number :: reason :: rest =>
      if ← isSubclass cls (.kind (.error "OSError")) then
        let body := "[Errno " ++ (← text number) ++ "] " ++ (← text reason)
        match rest with
        | [] => return body
        | [file] | [file, _] => return body ++ ": " ++ (← shown file)
        | _ => showPlain shown (.tuple arguments)
      else if ← isSubclass cls (.kind (.error "UnicodeError")) then
        match codingErrorText? arguments with
        | some text => return text
        | none => showPlain shown (.tuple arguments)
      else showPlain shown (.tuple arguments)

/-- The form of a value for readers. -/
def textAt (engine : Engine) : Nat → Value → Run String
  | 0, _ => fail "RecursionError" "maximum recursion depth exceeded while getting the str of an object"
  | depth + 1, value => do
      match value with
      | .text text => return text
      | .path text => return text
      | .ref address =>
          match ← callOwn? engine value "__str__" [] with
          | some result =>
              match ← plain result with
              | .text text => return text
              | _ => typeError ("__str__ returned non-string (type " ++ (← typeName result) ++ ")")
          | none =>
              match ← cellAt? address with
              | some (.instanceOf cls _ (some payload)) =>
                  match payload with
                  | .text text => return text
                  | .tuple arguments =>
                      if ← isSubclass cls (.kind (.error "BaseException")) then
                        errorText (textAt engine depth) (shown engine) cls arguments
                      else shown engine value
                  | _ => shown engine value
              | _ => shown engine value
      | value => shown engine value

def textOf (engine : Engine) (value : Value) : Run String := textAt engine depthLimit value

/-- A value laid out as a layout asks. -/
def layOut (engine : Engine) (value : Value) (spec : String) : Run String := do
  match ← callOwn? engine value "__format__" [.text spec] with
  | some result =>
      match ← plain result with
      | .text text => return text
      | _ => typeError ("__format__ must return a str, not " ++ (← typeName result))
  | none =>
      if spec = "" then textOf engine value
      else
        let name ← typeName value
        let finish (laid : Except Text.LayoutFault String) : Run String := do
          match laid with
          | .ok text => return text
          | .error .tooLarge => fail "OverflowError" (Text.LayoutFault.message name .tooLarge)
          | .error .characterRange =>
              fail "OverflowError" (Text.LayoutFault.message name .characterRange)
          | .error fault => valueError (fault.message name)
        match ← plain value with
        | .text text => finish (do (← Text.Layout.read spec .left).writeText text)
        | .boolean value =>
            finish (do (← Text.Layout.read spec .right).writeWhole (if value then 1 else 0))
        | .whole value => finish (do (← Text.Layout.read spec .right).writeWhole value)
        | .patternFlags bits => finish (do (← Text.Layout.read spec .right).writeWhole bits)
        | .real value => finish (do (← Text.Layout.read spec .right).writeReal value)
        | .complex real imaginary =>
            finish (do (← Text.Layout.read spec .right).writeText (Number.complexText real imaginary))
        | _ => typeError ("unsupported format string passed to " ++ name ++ ".__format__")

end Run

end LiveShell
