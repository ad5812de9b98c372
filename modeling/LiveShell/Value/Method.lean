import LiveShell.Files.Candidates
import LiveShell.Pattern.Match
import LiveShell.Pattern.Reader
import LiveShell.Value.Operation

/-!
Calls of built-in methods: of the kinds with methods of their own, of patterns and their matches, of
generators, errors and properties, and of kinds themselves.
-/

namespace LiveShell

namespace Run

/-! Patterns. -/

def flagsOfBits (bits : Nat) : Pattern.Flags :=
  let has (bit : Nat) : Bool := bits / bit % 2 = 1
  { ignoreCase := has 2, manyLines := has 8, dotMatchesAll := has 16, verbose := has 64, asciiOnly := has 256,
    unicode := has 32 }

/-- A pattern from a text, or one that is there already. -/
def compilePattern (source flags : Value) : Run Address := do
  match ← plain source with
  | .text text =>
      match flags.whole? with
      | some bits =>
          match Pattern.compile text (flagsOfBits bits.toNat) with
          | .ok compiled => allocate (.pattern compiled)
          | .error fault => fail "error" (fault.message text)
      | none => typeError ("unsupported operand type(s) for &: '" ++ (← typeName flags) ++ "' and 'RegexFlag'")
  | .ref address =>
      match ← cellAt? address with
      | some (.pattern _) => return address
      | _ => typeError "first argument must be string or compiled pattern"
  | _ => typeError "first argument must be string or compiled pattern"

def newMatch (pattern : Address) (text : String) (groupCount : Nat) (found : Pattern.Found) : Run Value := do
  let groups := (List.range (groupCount + 1)).map fun group =>
    if group = 0 then some (found.start, found.stop) else found.captures.lookup group
  new (.found pattern text groups)

/-- All matches in a text that do not overlap. -/
def allMatches (compiled : Pattern.Compiled) (text : Array Char) : Nat → Nat → List Pattern.Found
  | 0, _ => []
  | fuel + 1, place =>
      match Pattern.searchFrom compiled text place with
      | none => []
      | some found =>
          found :: allMatches compiled text fuel
            (if found.stop = found.start then found.stop + 1 else found.stop)

def subjectText (value : Value) : Run String := do
  match ← plain value with
  | .text text => return text
  | .bytes _ => typeError "cannot use a string pattern on a bytes-like object"
  | _ => typeError ("expected string or bytes-like object, got '" ++ (← typeName value) ++ "'")

def spanText (text : String) (start stop : Nat) : String :=
  String.ofList ((text.toList.take stop).drop start)

/-- What a match of a list of all matches gives: its only group, or all of them. -/
def groupsOfMatch (text : String) (groupCount : Nat) (found : Pattern.Found) : Value :=
  let part (group : Nat) : Value := match found.captures.lookup group with
    | some (start, stop) => .text (spanText text start stop)
    | none => .text ""
  match groupCount with
  | 0 => .text (spanText text found.start found.stop)
  | 1 => part 1
  | count => .tuple ((List.range count).map fun group => part (group + 1))

/-- A text with every match replaced. A function gives the replacement for its match. -/
def substitute (engine : Engine) (pattern : Address) (compiled : Pattern.Compiled) (replacement : Value)
    (text : String) (limit : Nat) : Run String := do
  let matches_ := allMatches compiled text.toList.toArray (text.length + 2) 0
  let matches_ := if limit = 0 then matches_ else matches_.take limit
  let characters := text.toList
  let mut done : List Char := []
  let mut place := 0
  for found in matches_ do
    let written ← (match replacement with
      | .text text => pure text
      | function => do
          let made ← newMatch pattern text compiled.groupCount found
          textOf engine (← engine.call function [made] []))
    done := done ++ (characters.drop place).take (found.start - place) ++ written.toList
    place := found.stop
  return String.ofList (done ++ characters.drop place)

def splitByPattern (compiled : Pattern.Compiled) (text : String) : List Value :=
  let characters := text.toList
  let rec go (place : Nat) : List Pattern.Found → List Value
    | [] => [.text (String.ofList (characters.drop place))]
    | found :: rest =>
        let groups := (List.range compiled.groupCount).map fun group =>
          match found.captures.lookup (group + 1) with
          | some (start, stop) => Value.text (spanText text start stop)
          | none => .nothing
        .text (String.ofList ((characters.drop place).take (found.start - place))) :: groups ++
          go found.stop rest
  go 0 (allMatches compiled characters.toArray (characters.length + 2) 0)

def callPatternMember? (engine : Engine) (pattern : Address) (compiled : Pattern.Compiled) (name : String)
    (given : Given) : Run (Option Value) := do
  let first := given.positional.headD .nothing
  let found (result : Option Pattern.Found) (text : String) : Run (Option Value) := do
    match result with
    | some found => return some (← newMatch pattern text compiled.groupCount found)
    | none => return some .nothing
  match name with
  | "search" | "match" | "fullmatch" =>
      let text ← subjectText first
      let characters := text.toList.toArray
      if name = "search" then found (Pattern.searchFrom compiled characters 0) text
      else if name = "match" then found (Pattern.matchAt compiled characters 0) text
      else
        let whole := { compiled with body := compiled.body ++ [.anchor .textEnd] }
        found (Pattern.matchAt whole characters 0) text
  | "findall" | "finditer" =>
      let text ← subjectText first
      let all := allMatches compiled text.toList.toArray (text.length + 2) 0
      if name = "findall" then
        return some (← newList (all.map (groupsOfMatch text compiled.groupCount)).toArray)
      let items ← all.mapM (newMatch pattern text compiled.groupCount)
      return some (← newIterator "callable_iterator" (.items items))
  | "sub" =>
      let text ← subjectText ((given.positional[1]?).getD .nothing)
      let limit := ((given.positional[2]?).bind Value.whole?).getD 0
      return some (.text (← substitute engine pattern compiled first text limit.toNat))
  | "split" => return some (← newList (splitByPattern compiled (← subjectText first)).toArray)
  | _ => return none

def groupNumber (pattern : Address) (value : Value) : Run Nat := do
  match value with
  | .text name =>
      match ← cellAt? pattern with
      | some (.pattern compiled) =>
          match compiled.groupNames.lookup name with
          | some number => return number
          | none => indexError "no such group"
      | _ => indexError "no such group"
  | value =>
      match value.whole? with
      | some number => if 0 ≤ number then return number.toNat else indexError "no such group"
      | none => indexError "no such group"

def callMatchMember? (address pattern : Address) (groups : List (Option (Nat × Nat))) (name : String)
    (given : Given) : Run (Option Value) := do
  let span (value : Option Value) : Run (Int × Int) := do
    let number ← (match value with
      | none => pure 0
      | some value => groupNumber pattern value)
    match groups[number]? with
    | some (some (start, stop)) => return ((start : Int), (stop : Int))
    | some none => return (-1, -1)
    | none => indexError "no such group"
  match name with
  | "group" =>
      match given.positional with
      | [] => return some (← partOfMatch address 0)
      | [single] => return some (← partOfMatch address (← groupNumber pattern single))
      | several =>
          return some (.tuple (← several.mapM fun value => do
            partOfMatch address (← groupNumber pattern value)))
  | "groups" =>
      let others ← ((List.range groups.length).drop 1).mapM fun (group : Nat) => partOfMatch address group
      return some (.tuple others)
  | "start" => return some (.whole (← span given.positional.head?).1)
  | "end" => return some (.whole (← span given.positional.head?).2)
  | "span" =>
      let (start, stop) ← span given.positional.head?
      return some (.tuple [.whole start, .whole stop])
  | "groupdict" =>
      match ← cellAt? pattern with
      | some (.pattern compiled) =>
          let entries ← compiled.groupNames.mapM fun (name, (number : Nat)) => do
            return (name, ← partOfMatch address number)
          return some (← dictOfTexts entries)
      | _ => return none
  | _ => return none

/-! What lives in other cells. -/

def finishGenerator (address : Address) (data : GeneratorData) : Run Unit :=
  writeCell address (.generator { data with finished := true, iterators := [], pending := none, ready := [] })

def callCellMember? (engine : Engine) (value : Value) (address : Address) (cell : Cell) (name : String)
    (given : Given) : Run (Option Value) := do
  let first := given.positional.headD .nothing
  match cell, name with
  | .generator _, "send" =>
      match ← engine.next value with
      | some item => return some item
      | none => raise "StopIteration" []
  | .generator data, "close" => finishGenerator address data; return some .nothing
  | .generator data, "throw" =>
      finishGenerator address data
      if ← isClass first then throw (← engine.call first [] []) else throw first
  | .coroutine name _, "close" => writeCell address (.coroutine name .finished); return some .nothing
  | .property _ setter deleter, "getter" => return some (← new (.property first setter deleter))
  | .property getter _ deleter, "setter" => return some (← new (.property getter first deleter))
  | .property getter setter _, "deleter" => return some (← new (.property getter setter first))
  | .pattern compiled, name => callPatternMember? engine address compiled name given
  | .found pattern _ groups, name => callMatchMember? address pattern groups name given
  | .instanceOf _ _ (some (.tuple _)), "with_traceback" => return some value
  | .instanceOf _ space (some (.tuple _)), "add_note" =>
      let notes ← (match ← nameIn? space "__notes__" with
        | some notes => pure notes
        | none => newList #[])
      match notes with
      | .ref inner => modifyList inner (·.push first)
      | _ => pure ()
      setName space "__notes__" notes
      return some .nothing
  | _, _ => return none

def callPathMember? (text : String) (name : String) (given : Given) : Run (Option Value) := do
  let path := text.toList
  let world ← get
  let view := Files.View.ofTree world.files world.place
  match name with
  | "exists" =>
      return some (.boolean ((world.files.resolve world.place.current path).toOption.isSome))
  | "is_dir" => return some (.boolean (view.isDirectory path))
  | "is_file" => return some (.boolean (world.files.isFile world.place.current path))
  | "is_absolute" => return some (.boolean (path.head? = some Files.separator))
  | "as_posix" => return some (.text text)
  | "joinpath" => return some (← toPath ⟨.path text :: given.positional, []⟩)
  | "with_name" =>
      match given.positional with
      | [.text name] =>
          return some (.path (String.ofList (Files.join (Files.directoryName path) name.toList)))
      | _ => return none
  | "expanduser" =>
      match Files.expandHome view path with
      | .ok expanded => return some (.path (String.ofList expanded))
      | .error _ => return some (.path text)
  | "absolute" | "resolve" =>
      let here := Files.Tree.placeText world.place.current
      return some (.path (String.ofList (Files.join here path)))
  | "read_text" =>
      match world.files.read world.place.current path with
      | .ok text => return some (.text text)
      | .error fault =>
          raise ((systemErrors.lookup ((fault.number?.getD 2 : Nat) : Int)).getD "OSError")
            [.whole (fault.number?.getD 2 : Nat), .text fault.reason, .text text]
  | _ => return none

/-! Kinds. -/

/-- The kind that a class stands on. -/
def kindOfClass (cls : Value) : Run Kind := baseKind cls

/-- Calls a member that a kind owns itself; nothing when it has no such member. -/
def callKindMember? (engine : Engine) (cls : Value) (name : String) (given : Given) :
    Run (Option Value) := do
  let first := given.positional.headD .nothing
  match name with
  | "__new__" =>
      match given.positional with
      | target :: rest =>
          match target with
          | .kind kind => return some (← construct engine kind ⟨rest, given.named⟩)
          | target =>
              match ← baseKind target with
              | .object => return some (← new (.instanceOf target (← newDict #[]) none))
              | _ => return some (← newInstance engine target ⟨rest, given.named⟩)
      | [] => typeError ((← nameOfClass cls) ++ ".__new__(): not enough arguments")
  | "__init_subclass__" => return some .nothing
  | "__subclasshook__" => return some .notImplemented
  | "__class_getitem__" => return some (← classWithParameters engine cls (← kindOfClass cls) first)
  | "mro" => return some (← newList (← orderOf cls).toArray)
  | "__subclasses__" => return some (← newList #[])
  | "__prepare__" => return some (.ref (← newDict #[]))
  | "__sizeof__" => return some (.whole 400)
  | "__dir__" => return some (← newList (Value.texts (← plainNames cls)).toArray)
  | "fromkeys" =>
      let arguments ← orderArguments "dict" name (.between 1 2) given
      let keys ← collect engine (firstArgument arguments)
      let value := (argumentAt arguments 1).getD .nothing
      return some (← newDictOf engine (keys.toList.map fun key => (key, value)))
  | "from_bytes" =>
      let arguments ← orderArguments "int" name (.named 1 0 ["bytes", "byteorder", "signed"]) given
      return some (← wholeFromBytes engine arguments)
  | "maketrans" => return some (← translationTable engine given.positional)
  | "fromhex" =>
      match ← kindOfClass cls, first with
      | .bytes, .text text =>
          let digits := text.toList.filter fun character => !Text.isSpace character
          let values := digits.map Number.digitValue?
          if digits.length % 2 = 1 || values.any fun value => (value.getD 16) ≥ 16 then
            valueError "non-hexadecimal number found in fromhex() arg at position 0"
          let numbers := values.map fun value => value.getD 0
          let rec pairs : List Nat → List UInt8
            | high :: low :: rest => UInt8.ofNat (high * 16 + low) :: pairs rest
            | _ => []
          return some (.bytes (pairs numbers))
      | _, _ => return none
  | "cwd" => return some (.path (String.ofList (Files.Tree.placeText (← get).place.current)))
  | "home" => return some (.path (String.ofList (← get).place.home))
  | _ => return none

/-- Calls a built-in method of a value. -/
def callMethod (engine : Engine) (self : Value) (name : String) (given : Given) : Run Value := do
  let ofClass ← (do if ← isClass self then callKindMember? engine self name given else pure none)
  match ofClass with
  | some result => return result
  | none =>
      let inner ← plain self
      let special ← (match self with
        | .ref address => do
            match ← cellAt? address with
            | some cell => callCellMember? engine self address cell name given
            | none => pure none
        | .path text => callPathMember? text name given
        | _ => pure none)
      match special with
      | some result => return result
      | none =>
          let found ← (match inner with
            | .text text => callTextMember? engine .characters text.toList name given
            | .bytes bytes => callTextMember? engine .bytes (charactersOf bytes) name given
            | inner => do
                match ← callNumberMember? engine inner name given with
                | some result => return some result
                | none => callContainerMember? engine inner name given)
          match found with
          | some result => return result
          | none => callOperation engine self name given

/-- Calls a built-in function of a kind on the value it is given first. -/
def callDescriptor (engine : Engine) (kind : Kind) (name : String) (given : Given) : Run Value := do
  match given.positional with
  | [] =>
      if isOperationName name && !isPlainOperation kind name then
        typeError ("descriptor '" ++ name ++ "' of '" ++ kind.fullName ++ "' object needs an argument")
      else typeError ("unbound method " ++ kind.name ++ "." ++ name ++ "() needs an argument")
  | self :: rest =>
      if !(← isSubclass (← classOf self) (.kind kind)) then
        if isOperationName name && !isPlainOperation kind name then
          typeError ("descriptor '" ++ name ++ "' requires a '" ++ kind.fullName ++ "' object but received a '" ++
            (← typeName self) ++ "'")
        else
          typeError ("descriptor '" ++ name ++ "' for '" ++ kind.fullName ++
            "' objects doesn't apply to a '" ++ (← typeName self) ++ "' object")
      if isOperationName name then callOperation engine self name ⟨rest, given.named⟩
      else callMethod engine self name ⟨rest, given.named⟩

end Run

end LiveShell
