import LiveShell.Text.Coding
import LiveShell.Text.LetterCase
import LiveShell.Text.Pieces
import LiveShell.Value.Filling

/-!
The methods of texts and of bytes. Bytes are worked on as texts of their first 256 characters, with the classes
and the letter case of ASCII.
-/

namespace LiveShell

open Text

/-- Whether a method works on a text or on bytes. -/
inductive Flavor
  | characters
  | bytes
deriving DecidableEq, Repr, Inhabited

namespace Flavor

def wrap (flavor : Flavor) (text : List Char) : Value :=
  match flavor with
  | characters => .text (String.ofList text)
  | bytes => .bytes (text.map fun character => UInt8.ofNat character.toNat)

def typeName : Flavor → String
  | characters => "str"
  | bytes => "bytes"

end Flavor

/-- What the methods of texts take. -/
def textShape? (name : String) : Option Shape :=
  if ["capitalize", "casefold", "isalnum", "isalpha", "isascii", "isdecimal", "isdigit", "isidentifier",
      "islower", "isnumeric", "isprintable", "isspace", "istitle", "isupper", "lower", "swapcase", "title",
      "upper"].contains name then some .none
  else if ["join", "partition", "rpartition", "removeprefix", "removesuffix", "translate", "zfill",
      "format_map"].contains name then some .one
  else if ["center", "ljust", "rjust"].contains name then some (.between 1 2)
  else if ["strip", "lstrip", "rstrip"].contains name then some (.between 0 1)
  else if name = "replace" then some (.between 2 3)
  else if ["count", "find", "index", "rfind", "rindex", "startswith", "endswith"].contains name then
    some (.listed 1 3)
  else if name = "encode" || name = "decode" then some (.named 0 0 ["encoding", "errors"])
  else if name = "expandtabs" then some (.named 0 0 ["tabsize"])
  else if name = "split" || name = "rsplit" then some (.named 0 0 ["sep", "maxsplit"])
  else if name = "splitlines" then some (.named 0 0 ["keepends"])
  else if name = "hex" then some (.named 0 0 ["sep", "bytes_per_sep"])
  else if name = "format" then some .any
  else none

/-- The case maps for a flavor. -/
def changeCase (flavor : Flavor) (name : String) (text : List Char) : List Char :=
  match flavor with
  | .characters =>
      match name with
      | "lower" => lowerText text
      | "upper" => upperText text
      | "casefold" => foldText text
      | "title" => titleText text
      | "swapcase" => swapCaseText text
      | _ => capitalizeText text
  | .bytes =>
      let title : Bool → Char → Bool × Char := fun inside character =>
        (character.isAlpha, if inside then character.toLower else character.toUpper)
      match name with
      | "lower" => text.map Char.toLower
      | "upper" => text.map Char.toUpper
      | "swapcase" =>
          text.map fun character => if character.isLower then character.toUpper else character.toLower
      | "title" =>
          ((text.foldl (fun (inside, done) character =>
            let (inside, written) := title inside character
            (inside, written :: done)) (false, [])).2).reverse
      | _ =>
          match text with
          | first :: rest => first.toUpper :: rest.map Char.toLower
          | [] => []

/-- Whether upper case only starts words and lower case only goes on with them. -/
def isTitleCase (isUpper isLower isTitle : Char → Bool) : Bool → Bool → List Char → Bool
  | _, seen, [] => seen
  | inside, seen, character :: rest =>
      if isUpper character || isTitle character then
        if inside then false else isTitleCase isUpper isLower isTitle true true rest
      else if isLower character then
        if inside then isTitleCase isUpper isLower isTitle true true rest else false
      else isTitleCase isUpper isLower isTitle false seen rest

/-- The questions about a text. -/
def textHolds (flavor : Flavor) (name : String) (text : List Char) : Bool :=
  let ascii : Bool := flavor = .bytes
  let everyOne (holds : Char → Bool) : Bool := !text.isEmpty && text.all holds
  let alpha := if ascii then Char.isAlpha else isLetter
  let digit := if ascii then Char.isDigit else isDigitLike
  let lower := if ascii then Char.isLower else isLower
  let upper := if ascii then Char.isUpper else isUpper
  let title := if ascii then fun _ => false else isTitle
  let space := if ascii then fun character => [' ', '\t', '\n', '\r', '\x0b', '\x0c'].contains character
    else isSpace
  match name with
  | "isalnum" => everyOne fun character =>
      alpha character || if ascii then character.isDigit
        else isDecimalDigit character || isDigitLike character || isNumeric character
  | "isalpha" => everyOne alpha
  | "isascii" => text.all fun character => character.toNat < 0x80
  | "isdecimal" => everyOne isDecimalDigit
  | "isdigit" => everyOne digit
  | "isidentifier" => isName text
  | "isnumeric" => everyOne isNumeric
  | "isprintable" => text.all isPrintable
  | "isspace" => everyOne space
  | "islower" => text.any lower && !text.any fun character => upper character || title character
  | "isupper" => text.any upper && !text.any fun character => lower character || title character
  | _ => isTitleCase upper lower title false false text

namespace Run

def charactersOf (bytes : List UInt8) : List Char := bytes.map fun byte => Char.ofNat byte.toNat

/-- An argument that is a text for texts and bytes for bytes. -/
def pieceArgument (flavor : Flavor) (refusal : String → String) (value : Value) : Run (List Char) := do
  match flavor, ← plain value with
  | .characters, .text text => return text.toList
  | .bytes, .bytes bytes => return charactersOf bytes
  | .characters, _ => typeError (refusal (← typeName value))
  | .bytes, _ => typeError ("a bytes-like object is required, not '" ++ (← typeName value) ++ "'")

/-- A piece to look for; for bytes it may be a single number. -/
def soughtArgument (flavor : Flavor) (value : Value) : Run (List Char) := do
  match flavor, ← plain value with
  | .characters, .text text => return text.toList
  | .bytes, .bytes bytes => return charactersOf bytes
  | .characters, _ => typeError ("must be str, not " ++ (← typeName value))
  | .bytes, value =>
      match value.whole? with
      | some number =>
          if 0 ≤ number && number < 256 then return [Char.ofNat number.toNat]
          else valueError "byte must be in range(0, 256)"
      | none =>
          typeError ("argument should be integer or bytes-like object, not '" ++ (← typeName value) ++ "'")

/-- The part of a text between two places, and where it starts; nothing when it starts after the end. -/
def windowOf (engine : Engine) (text : List Char) (start stop : Option Value) :
    Run (Option (Nat × List Char)) := do
  let size : Int := text.length
  let start ← placeArgument engine start 0
  let stop ← placeArgument engine stop size
  let draw (place : Int) : Int := if place < 0 then max (place + size) 0 else place
  let start := draw start
  let stop := min (draw stop) size
  if stop < start then return none
  return some (start.toNat, (text.drop start.toNat).take (stop - start).toNat)

def findIn (engine : Engine) (flavor : Flavor) (name : String) (text : List Char)
    (arguments : List (Option Value)) : Run Value := do
  let piece ← soughtArgument flavor (((arguments.headD none).getD .nothing))
  let window ← windowOf engine text ((arguments[1]?).getD none) ((arguments[2]?).getD none)
  let fromEnd : Bool := name.startsWith "r"
  match name, window with
  | "count", none => return .whole 0
  | "count", some (_, part) => return .whole (countPieces piece part)
  | name, window =>
      let place := window.bind fun (start, part) =>
        (if fromEnd then findLastPiece? piece part else findPiece? piece 0 part).map (· + start)
      match place with
      | some place => return .whole place
      | none =>
          if name = "find" || name = "rfind" then return .whole (-1)
          else valueError (if flavor = .characters then "substring not found" else "subsection not found")

def startsOrEnds (engine : Engine) (flavor : Flavor) (name : String) (text : List Char)
    (arguments : List (Option Value)) : Run Value := do
  let window ← windowOf engine text ((arguments[1]?).getD none) ((arguments[2]?).getD none)
  let holds (piece : List Char) : Bool := match window with
    | none => false
    | some (_, part) =>
        if name = "startswith" then piece.isPrefixOf part else piece.reverse.isPrefixOf part.reverse
  let sought := (arguments.headD none).getD .nothing
  let word := flavor.typeName
  match flavor, ← plain sought with
  | .characters, .text text => return .boolean (holds text.toList)
  | .bytes, .bytes bytes => return .boolean (holds (charactersOf bytes))
  | _, .tuple items =>
      for item in items do
        match flavor, ← plain item with
        | .characters, .text text => if holds text.toList then return .boolean true
        | .bytes, .bytes bytes => if holds (charactersOf bytes) then return .boolean true
        | .characters, _ =>
            typeError ("tuple for " ++ name ++ " must only contain str, not " ++ (← typeName item))
        | .bytes, _ =>
            typeError ("a bytes-like object is required, not '" ++ (← typeName item) ++ "'")
      return .boolean false
  | _, _ =>
      typeError (name ++ " first arg must be " ++ word ++ " or a tuple of " ++ word ++ ", not " ++
        (← typeName sought))

def joinItems (engine : Engine) (flavor : Flavor) (between : List Char) (items : Value) : Run Value := do
  if (← plainIterator? (← plain items)).isNone && (← ownMember? items "__iter__").isNone then
    match flavor with
    | .characters => typeError "can only join an iterable"
    | .bytes => typeError "can only join an iterable"
  let items ← collect engine items
  let parts ← items.toList.zipIdx.mapM fun (item, index) => do
    match flavor, ← plain item with
    | .characters, .text text => return text.toList
    | .bytes, .bytes bytes => return charactersOf bytes
    | .characters, _ =>
        typeError ("sequence item " ++ toString index ++ ": expected str instance, " ++ (← typeName item) ++
          " found")
    | .bytes, _ =>
        typeError ("sequence item " ++ toString index ++ ": expected a bytes-like object, " ++
          (← typeName item) ++ " found")
  return flavor.wrap (joinWith between parts)

def splitLimit (engine : Engine) (value : Option Value) : Run (Option Nat) := do
  match value with
  | none => return none
  | some value =>
      let limit ← sizeArgument engine value
      return if limit < 0 then none else some limit.toNat

def splitText (engine : Engine) (flavor : Flavor) (name : String) (text : List Char)
    (arguments : List (Option Value)) : Run Value := do
  let limit ← splitLimit engine ((arguments[1]?).getD none)
  let fromEnd : Bool := name = "rsplit"
  let isBlank (character : Char) : Bool := textHolds flavor "isspace" [character]
  let pieces ← (match arguments.headD none with
    | none | some .nothing =>
        pure (if fromEnd then cutAtBlanksFromEnd isBlank limit text else cutAtBlanks isBlank limit text)
    | some separator => do
        let separator ← pieceArgument flavor (fun name => "must be str or None, not " ++ name) separator
        if separator.isEmpty then valueError "empty separator"
        pure (if fromEnd then cutFromEnd separator limit text else cut separator limit text))
  newList (pieces.map flavor.wrap).toArray

def stripText (flavor : Flavor) (name : String) (text : List Char) (arguments : List (Option Value)) :
    Run Value := do
  let drops ← (match arguments.headD none with
    | none | some .nothing => pure fun character => textHolds flavor "isspace" [character]
    | some set => do
        let given ← plain set
        let characters ← (match flavor, given with
          | .characters, .text text => pure text.toList
          | .bytes, .bytes bytes => pure (charactersOf bytes)
          | .characters, _ => typeError (name ++ " arg must be None or str")
          | .bytes, _ => do
              typeError ("a bytes-like object is required, not '" ++ (← typeName set) ++ "'"))
        pure fun character => characters.contains character)
  return flavor.wrap (match name with
    | "lstrip" => text.dropWhile drops
    | "rstrip" => dropEnd drops text
    | _ => dropEnd drops (text.dropWhile drops))

/-- The widest field that a text is put into. -/
def widestField : Nat := Nat.pow 2 32

def alignText (engine : Engine) (flavor : Flavor) (name : String) (text : List Char)
    (arguments : List (Option Value)) : Run Value := do
  let width ← sizeArgument engine ((arguments.headD none).getD .nothing)
  let fill ← (match (arguments[1]?).getD none with
    | none => pure ' '
    | some fill => do
        match flavor, ← plain fill with
        | .characters, .text text =>
            match text.toList with
            | [character] => pure character
            | _ => typeError "The fill character must be exactly one character long"
        | .bytes, .bytes [byte] => pure (Char.ofNat byte.toNat)
        | .characters, _ =>
            typeError ("The fill character must be a unicode character, not " ++ (← typeName fill))
        | .bytes, _ =>
            typeError (name ++ "() argument 2 must be a byte string of length 1, not " ++ (← typeName fill)))
  if widestField ≤ width.toNat then raise "MemoryError" []
  let width := width.toNat
  let pad := List.replicate (width - text.length) fill
  return flavor.wrap (match name with
    | "ljust" => text ++ pad
    | "rjust" => pad ++ text
    | _ => center width fill text)

def replaceText (engine : Engine) (flavor : Flavor) (text : List Char) (arguments : List (Option Value)) :
    Run Value := do
  let argument (index : Nat) : Value := ((arguments[index]?).getD none).getD .nothing
  let old ← pieceArgument flavor (fun name => "replace() argument 1 must be str, not " ++ name) (argument 0)
  let new ← pieceArgument flavor (fun name => "replace() argument 2 must be str, not " ++ name) (argument 1)
  let limit ← splitLimit engine ((arguments[2]?).getD none)
  return flavor.wrap (replacePieces old new limit text)

def partitionText (flavor : Flavor) (name : String) (text : List Char) (arguments : List (Option Value)) :
    Run Value := do
  let piece ← pieceArgument flavor (fun name => "must be str, not " ++ name)
    ((arguments.headD none).getD .nothing)
  if piece.isEmpty then valueError "empty separator"
  let triple (a b c : List Char) : Value := .tuple [flavor.wrap a, flavor.wrap b, flavor.wrap c]
  if name = "partition" then
    match partitionAt? piece text with
    | some (before, after) => return triple before piece after
    | none => return triple text [] []
  else
    match partitionAtLast? piece text with
    | some (before, after) => return triple before piece after
    | none => return triple [] [] text

def codingArgument (value : Option Value) (name : String) : Run String := do
  match value with
  | none => return if name = "encoding" then "utf-8" else "strict"
  | some value =>
      textArgument (fun type => "encode() argument '" ++ name ++ "' must be str, not " ++ type) value

def findCoding (name : String) : Run Coding := do
  match Coding.ofName? name with
  | some coding => return coding
  | none => fail "LookupError" ("unknown encoding: " ++ name)

def encodeText (text : List Char) (arguments : List (Option Value)) : Run Value := do
  let name ← codingArgument (arguments.headD none) "encoding"
  let errors ← codingArgument ((arguments[1]?).getD none) "errors"
  let coding ← findCoding name
  let reason := "ordinal not in range(" ++ toString coding.size ++ ")"
  let instead (place : Nat) (run : List Char) : Except CodingFault (List UInt8) :=
    match errors with
    | "ignore" => .ok []
    | "replace" => .ok (run.map fun _ => (63 : UInt8))
    | "backslashreplace" => .ok ((run.flatMap fun character => escapeByCode character.toNat).map fun character =>
        UInt8.ofNat character.toNat)
    | "xmlcharrefreplace" => .ok ((run.flatMap fun character =>
        ("&#" ++ toString character.toNat ++ ";").toList).map fun character => UInt8.ofNat character.toNat)
    | _ => .error ⟨place, place + run.length, reason⟩
  match encodeFrom coding instead (text.length + 1) 0 text with
  | .ok bytes => return .bytes bytes
  | .error fault =>
      if errors ≠ "strict" then fail "LookupError" ("unknown error handler name '" ++ errors ++ "'")
      raise "UnicodeEncodeError" [.text coding.name, .text (String.ofList text), .whole fault.start,
        .whole fault.stop, .text fault.reason]

def decodeBytes (bytes : List UInt8) (name errors : String) : Run String := do
  let coding ← findCoding name
  let instead (start stop : Nat) (reason : String) : Except CodingFault (List Char) :=
    match errors with
    | "ignore" => .ok []
    | "replace" => .ok ['\ufffd']
    | "backslashreplace" => .ok (((bytes.drop start).take (stop - start)).flatMap fun byte =>
        escapeByCode byte.toNat)
    | _ => .error ⟨start, stop, reason⟩
  match decodeFrom coding instead (bytes.length + 1) 0 bytes with
  | .ok characters => return String.ofList characters
  | .error fault =>
      if errors ≠ "strict" then fail "LookupError" ("unknown error handler name '" ++ errors ++ "'")
      raise "UnicodeDecodeError" [.text coding.name, .bytes bytes, .whole fault.start, .whole fault.stop,
        .text fault.reason]

/-- A text with its characters put through a table. -/
def translateText (engine : Engine) (text : List Char) (table : Value) : Run Value := do
  let parts ← text.mapM fun character => do
    match ← unlessRaised ["LookupError"] (itemOf engine table (.whole character.toNat)) with
    | none => return [character]
    | some .nothing => return []
    | some (.text replacement) => return replacement.toList
    | some other =>
        match other.whole? with
        | some code =>
            if 0 ≤ code && code < 0x110000 then return [Char.ofNat code.toNat]
            else valueError "character mapping must be in range(0x110000)"
        | none => typeError "character mapping must return integer, None or str"
  return .text (String.ofList parts.flatten)

/-- A table for putting the characters of a text through. -/
def translationTable (engine : Engine) (arguments : List Value) : Run Value := do
  match arguments with
  | [single] =>
      match ← plain single with
      | .ref address =>
          match ← cellAt? address with
          | some (.dict entries _) =>
              let pairs ← entries.toList.mapM fun (key, value) => do
                match key with
                | .text text =>
                    match text.toList with
                    | [character] => return (Value.whole character.toNat, value)
                    | _ => valueError "string keys in translate table must be of length 1"
                | key =>
                    if key.whole?.isSome then return (key, value)
                    else typeError "keys in translate table must be strings or integers"
              newDictOf engine pairs
          | _ => typeError "if you give only one argument to maketrans it must be a dict"
      | _ => typeError "if you give only one argument to maketrans it must be a dict"
  | first :: second :: rest =>
      let text (number : Nat) (value : Value) : Run (List Char) := do
        return (← textArgument (fun name => "maketrans() argument " ++ toString number ++
          " must be str, not " ++ name) value).toList
      let first ← (match first with
        | .text text => pure text.toList
        | _ => typeError "first maketrans argument must be a string if there is a second argument")
      let second ← text 2 second
      if first.length ≠ second.length then
        valueError "the first two maketrans arguments must have equal length"
      let dropped ← (match rest with
        | third :: _ => text 3 third
        | [] => pure [])
      newDictOf engine (((first.zip second).map fun (a, b) => (Value.whole a.toNat, Value.whole b.toNat)) ++
        dropped.map fun character => (Value.whole character.toNat, Value.nothing))
  | [] => return .nothing

def hexText (bytes : List UInt8) : String :=
  String.ofList (bytes.flatMap fun byte => hexDigits 2 byte.toNat)

/-- Calls a method of a text or of bytes; nothing when there is no such method. -/
def callTextMember? (engine : Engine) (flavor : Flavor) (text : List Char) (name : String) (given : Given) :
    Run (Option Value) := do
  match textShape? name with
  | none => return none
  | some shape =>
      let arguments ← orderArguments flavor.typeName name shape given
      let first := arguments.headD none
      match name with
      | "lower" | "upper" | "casefold" | "title" | "swapcase" | "capitalize" =>
          return some (flavor.wrap (changeCase flavor name text))
      | "join" => return some (← joinItems engine flavor text (first.getD .nothing))
      | "partition" | "rpartition" => return some (← partitionText flavor name text arguments)
      | "removeprefix" | "removesuffix" =>
          let piece ← pieceArgument flavor
            (fun type => name ++ "() argument must be str, not " ++ type) (first.getD .nothing)
          return some (flavor.wrap (if name = "removeprefix" then
              if piece.isPrefixOf text then text.drop piece.length else text
            else if !piece.isEmpty && piece.reverse.isPrefixOf text.reverse then
              text.take (text.length - piece.length)
            else text))
      | "translate" => return some (← translateText engine text (first.getD .nothing))
      | "zfill" =>
          let width ← sizeArgument engine (first.getD .nothing)
          if widestField ≤ width.toNat then raise "MemoryError" []
          return some (flavor.wrap (zeroFill width.toNat text))
      | "format" =>
          return some (.text (← fillFieldsOf engine (String.ofList text) { given := given }))
      | "format_map" =>
          return some (.text (← fillFieldsOf engine (String.ofList text)
            { given := ⟨[], []⟩, mapping := first }))
      | "center" | "ljust" | "rjust" => return some (← alignText engine flavor name text arguments)
      | "strip" | "lstrip" | "rstrip" => return some (← stripText flavor name text arguments)
      | "replace" => return some (← replaceText engine flavor text arguments)
      | "count" | "find" | "index" | "rfind" | "rindex" =>
          return some (← findIn engine flavor name text arguments)
      | "startswith" | "endswith" => return some (← startsOrEnds engine flavor name text arguments)
      | "split" | "rsplit" => return some (← splitText engine flavor name text arguments)
      | "splitlines" =>
          let keep ← (match first with
            | none => pure false
            | some keep => holds engine keep)
          let breaks (character : Char) : Bool := match flavor with
            | .characters => breaksLine character
            | .bytes => character = '\n' || character = '\r'
          return some (← newList ((cutLines breaks keep [] text).map flavor.wrap).toArray)
      | "expandtabs" =>
          let width ← (match first with
            | none => pure 8
            | some width => sizeArgument engine width)
          return some (flavor.wrap (expandTabs width.toNat 0 text))
      | "encode" => if flavor = .characters then return some (← encodeText text arguments) else return none
      | "decode" =>
          if flavor = .characters then return none
          let coding ← codingArgument first "encoding"
          let errors ← codingArgument ((arguments[1]?).getD none) "errors"
          let bytes := text.map fun character => UInt8.ofNat character.toNat
          return some (.text (← decodeBytes bytes coding errors))
      | "hex" =>
          if flavor = .characters then return none
          return some (.text (hexText (text.map fun character => UInt8.ofNat character.toNat)))
      | name => return some (.boolean (textHolds flavor name text))

end Run

end LiveShell
