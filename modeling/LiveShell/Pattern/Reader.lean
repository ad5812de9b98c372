import LiveShell.Pattern.Basic
import LiveShell.Text.Quoted

/-!
Reading a pattern from its text, with the faults a text can have and where they are.
-/

namespace LiveShell.Pattern

/-- Why a text is no pattern: the reason, and the place if there is one to tell. -/
inductive Fault
  | syntaxAt (reason : String) (place : Nat)
  | syntaxWhole (reason : String)
  | repetitionTooLarge
  | incompatibleFlags
deriving DecidableEq, Repr, Inhabited

def lineOf (text : List Char) (place : Nat) : Nat := ((text.take place).filter (· = '\n')).length + 1

/-- The column of a place, the first one of a line being one. -/
def columnOf (text : List Char) (place : Nat) : Nat :=
  ((text.take place).reverse.takeWhile (· ≠ '\n')).length + 1

def Fault.message (fault : Fault) (source : String) : String :=
  match fault with
  | .syntaxAt reason place =>
      let text := source.toList
      let where_ := reason ++ " at position " ++ toString place
      if text.contains '\n' then
        where_ ++ " (line " ++ toString (lineOf text place) ++ ", column " ++
          toString (columnOf text place) ++ ")"
      else where_
  | .syntaxWhole reason => reason
  | .repetitionTooLarge => "the repetition number is too large"
  | .incompatibleFlags => "ASCII and UNICODE flags are incompatible"

structure ReadState where
  place : Nat
  flags : Flags
  /-- The widths of the groups that are closed; an open group has none. -/
  groups : List (Nat × Option Width)
  names : List (String × Nat)
  /-- The number of groups when the outermost look behind began. -/
  behind : Option Nat
  /-- Groups that a condition named before they were read, with the places. -/
  awaited : List (Nat × Nat)
deriving Inhabited

abbrev Reader := ReaderT (Array Char) (StateT ReadState (Except Fault))

def failAt (reason : String) (place : Nat) : Reader α := throw (.syntaxAt reason place)

/-- The characters of the next token: one, or two after a backslash. -/
def peek : Reader (List Char) := do
  let text ← read
  let place := (← get).place
  match text[place]? with
  | none => pure []
  | some '\\' => pure (text.extract place (place + 2)).toList
  | some character => pure [character]

/-- A backslash at the very end escapes nothing. It is found as soon as it is the next token. -/
def checkEnd : Reader Unit := do
  let text ← read
  let place := (← get).place
  if text[place]? = some '\\' && place + 1 = text.size then failAt "bad escape (end of pattern)" place

def tell : Reader Nat := do pure (← get).place

def seek (place : Nat) : Reader Unit := do
  modify fun state => { state with place := place }
  checkEnd

/-- Takes the next token; none at the end. -/
def advance : Reader (List Char) := do
  let token ← peek
  seek ((← tell) + token.length)
  pure token

def accept (character : Char) : Reader Bool := do
  if (← peek) = [character] then
    let _ ← advance
    pure true
  else pure false

/-- Fails at a place counted back from the next token. -/
def failBack (reason : String) (offset : Nat) : Reader α := do failAt reason ((← tell) - offset)

def takeUpTo (belongs : Char → Bool) : Nat → Reader (List Char)
  | 0 => pure []
  | count + 1 => do
      match ← peek with
      | [character] =>
          if belongs character then
            let _ ← advance
            pure (character :: (← takeUpTo belongs count))
          else pure []
      | _ => pure []

def isAsciiDigit (character : Char) : Bool := '0' ≤ character && character ≤ '9'

def isOctalDigit (character : Char) : Bool := '0' ≤ character && character ≤ '7'

def digitValue (character : Char) : Nat :=
  if isAsciiDigit character then character.toNat - 48
  else if 'a' ≤ character && character ≤ 'f' then character.toNat - 87
  else character.toNat - 55

def isHexadecimalDigit (character : Char) : Bool :=
  isAsciiDigit character || ('a' ≤ character && character ≤ 'f') || ('A' ≤ character && character ≤ 'F')

def isAsciiLetter (character : Char) : Bool :=
  ('a' ≤ character && character ≤ 'z') || ('A' ≤ character && character ≤ 'Z')

def numberIn (base : Nat) (digits : List Char) : Nat :=
  digits.foldl (fun value digit => value * base + digitValue digit) 0

/-- A name up to a closing character. -/
def takeName (closing : Char) (what : String) : Reader (List Char) := do
  let text ← read
  let rec gather : Nat → List Char → Reader (List Char)
    | 0, name => pure name.reverse
    | fuel + 1, name => do
        match ← advance with
        | [] =>
            if name.isEmpty then failBack ("missing " ++ what) 0
            else failBack ("missing " ++ String.ofList [closing] ++ ", unterminated name") name.length
        | [character] =>
            if character = closing then
              if name.isEmpty then failBack ("missing " ++ what) 1 else pure name.reverse
            else gather fuel (character :: name)
        | token => gather fuel (token.reverse ++ name)
  gather (text.size + 1) []

def checkName (name : List Char) : Reader Unit := do
  if !Text.isName name then
    failBack ("bad character in group name " ++ Text.quoted (String.ofList name)) (name.length + 1)

def groupTotal : Reader Nat := do pure ((← get).groups.length + 1)

def isClosed (group : Nat) : Reader Bool := do
  pure (group = 0 || (((← get).groups.lookup group).bind id).isSome)

/-- Inside a look behind, only groups from before it can be referred to. -/
def checkBehind (group : Nat) : Reader Unit := do
  match (← get).behind with
  | none => pure ()
  | some outside =>
      if !(← isClosed group) then failBack "cannot refer to an open group" 0
      if outside ≤ group then
        failBack "cannot refer to group defined in the same lookbehind subpattern" 0

def openGroup (name : Option (List Char)) : Reader Nat := do
  let index ← groupTotal
  match name with
  | none => pure ()
  | some name =>
      let name := String.ofList name
      match (← get).names.lookup name with
      | some old =>
          failBack ("redefinition of group name " ++ Text.quoted name ++ " as group " ++ toString index ++
            "; was group " ++ toString old) (name.length + 1)
      | none => modify fun state => { state with names := state.names ++ [(name, index)] }
  modify fun state => { state with groups := state.groups ++ [(index, none)] }
  pure index

def knownWidths : Reader (List (Nat × Width)) := do
  pure ((← get).groups.filterMap fun (index, width) => width.map fun width => (index, width))

def closeGroup (index : Nat) (body : List Item) : Reader Unit := do
  let width := bodyWidth (← knownWidths) body
  modify fun state => { state with
    groups := state.groups.map fun (other, old) => (other, if other = index then some width else old) }

/-- The categories and anchors that a letter after a backslash stands for. -/
def categoryEscape? : Char → Option Item
  | 'A' => some (.anchor .textStart)
  | 'b' => some (.anchor .boundary)
  | 'B' => some (.anchor .noBoundary)
  | 'd' => some (.oneOf false [.category .digit false])
  | 'D' => some (.oneOf false [.category .digit true])
  | 's' => some (.oneOf false [.category .space false])
  | 'S' => some (.oneOf false [.category .space true])
  | 'w' => some (.oneOf false [.category .word false])
  | 'W' => some (.oneOf false [.category .word true])
  | 'Z' => some (.anchor .textEnd)
  | _ => none

def controlEscape? : Char → Option Nat
  | 'a' => some 7
  | 'b' => some 8
  | 'f' => some 12
  | 'n' => some 10
  | 'r' => some 13
  | 't' => some 9
  | 'v' => some 11
  | '\\' => some 92
  | _ => none

def escapeText (letters : List Char) : String := String.ofList ('\\' :: letters)

/-- A code of a fixed number of hexadecimal digits after a letter. -/
def takeCode (letter : Char) (count : Nat) : Reader Nat := do
  let digits ← takeUpTo isHexadecimalDigit count
  if digits.length ≠ count then
    failBack ("incomplete escape " ++ escapeText (letter :: digits)) (digits.length + 2)
  let code := numberIn 16 digits
  if 0x10FFFF < code then failBack ("bad escape " ++ escapeText (letter :: digits)) (digits.length + 2)
  pure code

/-- A character by its name. No names are known. -/
def takeNamed : Reader Nat := do
  if !(← accept '\x7b') then failBack "missing \x7b" 0
  let name ← takeName '\x7d' "character name"
  failBack ("undefined character name " ++ Text.quoted (String.ofList name)) (name.length + 4)

def octalTooLarge (digits : List Char) : Reader α :=
  failBack ("octal escape value " ++ escapeText digits ++ " outside of range 0-0o377") (digits.length + 1)

/-- A character after a backslash where only a single one is meant. -/
def plainEscape (character : Char) : Reader Nat := do
  if isAsciiLetter character then failBack ("bad escape " ++ escapeText [character]) 2
  else pure character.toNat

/-- What an escape inside a set of characters stands for. -/
def setEscape (character : Char) : Reader Member := do
  match controlEscape? character, categoryEscape? character with
  | some code, _ => pure (.single code)
  | none, some (.oneOf _ [member]) => pure member
  | none, _ =>
      if character = 'x' then .single <$> takeCode 'x' 2
      else if character = 'u' then .single <$> takeCode 'u' 4
      else if character = 'U' then .single <$> takeCode 'U' 8
      else if character = 'N' then .single <$> takeNamed
      else if isOctalDigit character then
        let digits := character :: (← takeUpTo isOctalDigit 2)
        if 255 < numberIn 8 digits then octalTooLarge digits else pure (.single (numberIn 8 digits))
      else if isAsciiDigit character then failBack ("bad escape " ++ escapeText [character]) 2
      else .single <$> plainEscape character

/-- A group by its number, after one or two digits. -/
def referTo (digits : List Char) : Reader Item := do
  let group := numberIn 10 digits
  if group < (← groupTotal) then
    if !(← isClosed group) then failBack "cannot refer to an open group" (digits.length + 1)
    checkBehind group
    pure (.reference group)
  else failBack ("invalid group reference " ++ toString group) digits.length

/-- What an escape outside sets stands for. -/
def bodyEscape (character : Char) : Reader Item := do
  match categoryEscape? character, controlEscape? character with
  | some item, _ => pure item
  | none, some code => pure (.single code)
  | none, none =>
      if character = 'x' then .single <$> takeCode 'x' 2
      else if character = 'u' then .single <$> takeCode 'u' 4
      else if character = 'U' then .single <$> takeCode 'U' 8
      else if character = 'N' then .single <$> takeNamed
      else if character = '0' then
        pure (.single (numberIn 8 (← takeUpTo isOctalDigit 2)))
      else if isAsciiDigit character then
        match ← takeUpTo isAsciiDigit 1 with
        | [second] =>
            let third ← if isOctalDigit character && isOctalDigit second then takeUpTo isOctalDigit 1
              else pure []
            if third.isEmpty then referTo [character, second]
            else
              let digits := [character, second] ++ third
              if 255 < numberIn 8 digits then octalTooLarge digits
              else pure (.single (numberIn 8 digits))
        | _ => referTo [character]
      else .single <$> plainEscape character

def memberOf (token : List Char) : Reader Member :=
  match token with
  | ['\\', character] => setEscape character
  | character :: _ => pure (.single character.toNat)
  | [] => pure (.single 0)

/-- The members of a set up to its closing bracket; one right at the start is a member. -/
def readMembers (start : Nat) : Nat → List Member → Reader (List Member)
  | 0, members => pure members
  | fuel + 1, members => do
      let unterminated {α : Type} : Reader α := failAt "unterminated character set" start
      let token ← advance
      if token.isEmpty then unterminated
      if token = [']'] && !members.isEmpty then return members
      let first ← memberOf token
      if ← accept '-' then
        let bound ← advance
        if bound.isEmpty then unterminated
        if bound = [']'] then return members ++ [first, .single '-'.toNat]
        let last ← memberOf bound
        let bad {α : Type} : Reader α :=
          failBack ("bad character range " ++ String.ofList (token ++ ['-'] ++ bound))
            (token.length + 1 + bound.length)
        match first, last with
        | .single low, .single high =>
            if high < low then bad else readMembers start fuel (members ++ [.range low high])
        | _, _ => bad
      else readMembers start fuel (members ++ [first])

def readSet (start : Nat) : Reader Item := do
  let negated ← accept '^'
  let members ← readMembers start ((← read).size + 1) []
  match members.eraseDups with
  | [.single code] => pure (if negated then .notSingle code else .single code)
  | members => pure (.oneOf negated members)

def flagOf? : Char → Option Flags
  | 'i' => some { ignoreCase := true }
  | 'L' => some {}
  | 'm' => some { manyLines := true }
  | 's' => some { dotMatchesAll := true }
  | 'x' => some { verbose := true }
  | 'a' => some { asciiOnly := true }
  | 't' => some {}
  | 'u' => some { unicode := true }
  | _ => none

/-- Flags that choose what letters and digits are. -/
def typeFlags : Flags := { asciiOnly := true, unicode := true }

def unknownFlag (token : List Char) (missing : String) : Reader α :=
  match token with
  | [] => failBack missing 0
  | token => failBack (if token.all Text.isLetter then "unknown flag" else missing) token.length

/-- Letters for flags to turn on, up to what ends them. -/
def readAddedFlags : Nat → Flags → List Char → Reader (Flags × Char)
  | 0, flags, _ => pure (flags, ')')
  | fuel + 1, flags, token => do
      match token with
      | [character] =>
          match flagOf? character with
          | none => unknownFlag token "missing -, : or )"
          | some flag =>
              if character = 'L' then
                failBack "bad inline flags: cannot use 'L' flag with a str pattern" 0
              let flags := flags.union flag
              if flag.meets typeFlags && flags.asciiOnly && flags.unicode then
                failBack "bad inline flags: flags 'a', 'u' and 'L' are incompatible" 0
              let next ← advance
              match next with
              | [closing] =>
                  if [')', '-', ':'].contains closing then pure (flags, closing)
                  else readAddedFlags fuel flags next
              | _ => readAddedFlags fuel flags next
      | token => unknownFlag token "missing -, : or )"

def readRemovedFlags : Nat → Flags → List Char → String → Reader Flags
  | 0, flags, _, _ => pure flags
  | fuel + 1, flags, token, missing => do
      match token with
      | [character] =>
          match flagOf? character with
          | none => unknownFlag token missing
          | some flag =>
              if flag.meets typeFlags || character = 'L' then
                failBack "bad inline flags: cannot turn off flags 'a', 'u' and 'L'" 0
              let flags := flags.union flag
              let next ← advance
              if next = [':'] then pure flags else readRemovedFlags fuel flags next "missing :"
      | token => unknownFlag token missing

/-- The flags at the start of a group: for the whole pattern, or on and off inside the group. -/
def readFlags (first : List Char) : Reader (Option (Flags × Flags)) := do
  let fuel := (← read).size + 1
  let (added, closing) ← if first = ['-'] then pure (({} : Flags), '-')
    else readAddedFlags fuel {} first
  if closing = ')' then
    modify fun state => { state with flags := state.flags.union added }
    return none
  let removed ← if closing = '-' then readRemovedFlags fuel {} (← advance) "missing flag" else pure {}
  if added.meets removed then failBack "bad inline flags: flag turned on and off" 1
  return some (added, removed)

/-- How often the next item is to be repeated, from the rest of a count in braces. -/
def readCount (here : Nat) : Reader (Option (Nat × Option Nat)) := do
  let size := (← read).size
  if (← peek) = ['\x7d'] then return none
  let low ← takeUpTo isAsciiDigit size
  let high ← if ← accept ',' then takeUpTo isAsciiDigit size else pure low
  if !(← accept '\x7d') then
    seek here
    return none
  let least := numberIn 10 low
  let greatest := if high.isEmpty then none else some (numberIn 10 high)
  if 4294967295 ≤ least || (greatest.any (4294967295 ≤ ·)) then throw .repetitionTooLarge
  if greatest.any (· < least) then failAt "min repeat greater than max repeat" here
  return some (least, greatest)

/-- Repeats the last item of a body. -/
def repeatLast (here width : Nat) (low : Nat) (high : Option Nat) (body : List Item) :
    Reader (List Item) := do
  let at_ := here - width
  match body.getLast? with
  | none | some (.anchor _) => failAt "nothing to repeat" at_
  | some (.repeated ..) => failAt "multiple repeat" at_
  | some item =>
      let inner := match item with
        | .group none added removed inner =>
            if added.isEmpty && removed.isEmpty then inner else [item]
        | item => [item]
      let greed ← if ← accept '?' then pure Greed.lazy
        else if ← accept '+' then pure Greed.possessive else pure Greed.greedy
      pure (body.dropLast ++ [.repeated greed low high inner])

/-- The group that a condition asks about. -/
def conditionGroup (name : List Char) : Reader Nat := do
  if Text.isName name then
    match (← get).names.lookup (String.ofList name) with
    | some group => pure group
    | none => failBack ("unknown group name " ++ Text.quoted (String.ofList name)) (name.length + 1)
  else if !name.all isAsciiDigit then
    failBack ("bad character in group name " ++ Text.quoted (String.ofList name)) (name.length + 1)
  else
    let group := numberIn 10 name
    if group = 0 then failBack "bad group number" (name.length + 1)
    if 1073741823 ≤ group then
      failBack ("invalid group reference " ++ toString group) (name.length + 1)
    let place := (← tell) - name.length - 1
    modify fun state => { state with
      awaited := if (state.awaited.lookup group).isSome then state.awaited
        else state.awaited ++ [(group, place)] }
    pure group

/-- Bodies without a meaning of their own stand for what they hold. -/
def unwrapGroups (body : List Item) : List Item :=
  body.flatMap fun item => match item with
    | .group none added removed inner => if added.isEmpty && removed.isEmpty then inner else [item]
    | item => [item]

def skipComment : Nat → Reader Unit
  | 0 => pure ()
  | fuel + 1 => do
      let token ← advance
      if token.isEmpty || token = ['\n'] then pure () else skipComment fuel

def skipRemark (start : Nat) : Nat → Reader Unit
  | 0 => pure ()
  | fuel + 1 => do
      if (← peek).isEmpty then failAt "missing ), unterminated comment" start
      if (← advance) = [')'] then pure () else skipRemark start fuel

mutual

/-- Alternatives between bars. -/
def readAlternatives : Nat → Bool → Bool → Reader (List Item)
  | 0, _, _ => pure []
  | fuel + 1, verbose, nested => do
      let first ← readBody fuel verbose (!nested) []
      match ← readFurther fuel verbose nested [first] with
      | [body] => pure body
      | bodies => pure [.branch bodies]

/-- The alternatives after those that have been read. -/
def readFurther : Nat → Bool → Bool → List (List Item) → Reader (List (List Item))
  | 0, _, _, found => pure found
  | fuel + 1, verbose, nested, found => do
      if ← accept '|' then
        let flags := (← get).flags
        let verbose := if nested then verbose else flags.verbose
        let body ← readBody fuel verbose false []
        readFurther fuel verbose nested (found ++ [body])
      else pure found

/-- Items up to a bar, a closing parenthesis or the end. -/
def readBody : Nat → Bool → Bool → List Item → Reader (List Item)
  | 0, _, _, body => pure body
  | fuel + 1, verbose, first, body => do
      let token ← peek
      if token.isEmpty || token = ['|'] || token = [')'] then return unwrapGroups body
      let start ← tell
      let _ ← advance
      match token with
      | ['\\', character] => readBody fuel verbose first (body ++ [← bodyEscape character])
      | [character] =>
          if verbose && [' ', '\t', '\n', '\r', '\x0b', '\x0c'].contains character then
            readBody fuel verbose first body
          else if verbose && character = '#' then
            skipComment ((← read).size + 1)
            readBody fuel verbose first body
          else match character with
            | '[' => readBody fuel verbose first (body ++ [← readSet start])
            | '?' => readBody fuel verbose first (← repeatLast (← tell) 1 0 (some 1) body)
            | '*' => readBody fuel verbose first (← repeatLast (← tell) 1 0 none body)
            | '+' => readBody fuel verbose first (← repeatLast (← tell) 1 1 none body)
            | '\x7b' =>
                let here ← tell
                match ← readCount here with
                | none => readBody fuel verbose first (body ++ [.single '\x7b'.toNat])
                | some (low, high) =>
                    readBody fuel verbose first (← repeatLast here 1 low high body)
            | '.' => readBody fuel verbose first (body ++ [.any])
            | '^' => readBody fuel verbose first (body ++ [.anchor .lineStart])
            | '$' => readBody fuel verbose first (body ++ [.anchor .lineEnd])
            | '(' =>
                let (items, verbose) ← readGroup fuel verbose (first && body.isEmpty) start
                readBody fuel verbose first (body ++ items)
            | character => readBody fuel verbose first (body ++ [.single character.toNat])
      | _ => readBody fuel verbose first body

/-- What a parenthesis opens. Flags for the whole pattern change how the rest of it is read. -/
def readGroup : Nat → Bool → Bool → Nat → Reader (List Item × Bool)
  | 0, verbose, _, _ => pure ([], verbose)
  | fuel + 1, verbose, first, start => do
      let close : Reader Unit := do
        if !(← accept ')') then failAt "missing ), unterminated subpattern" start
      let finish (name : Option (List Char)) : Reader (List Item × Bool) := do
        let index ← openGroup name
        let body ← readAlternatives fuel verbose true
        close
        closeGroup index body
        pure ([.group (some index) {} {} body], verbose)
      if !(← accept '?') then return ← finish none
      let token ← advance
      match token with
      | [] => failBack "unexpected end of pattern" 0
      | ['P'] =>
          if ← accept '<' then
            let name ← takeName '>' "group name"
            checkName name
            finish (some name)
          else if ← accept '=' then
            let name ← takeName ')' "group name"
            checkName name
            match (← get).names.lookup (String.ofList name) with
            | none =>
                failBack ("unknown group name " ++ Text.quoted (String.ofList name)) (name.length + 1)
            | some group =>
                if !(← isClosed group) then failBack "cannot refer to an open group" (name.length + 1)
                checkBehind group
                pure ([.reference group], verbose)
          else
            match ← advance with
            | [] => failBack "unexpected end of pattern" 0
            | token => failBack ("unknown extension ?P" ++ String.ofList token) (token.length + 2)
      | [':'] =>
          let body ← readAlternatives fuel verbose true
          close
          pure ([.group none {} {} body], verbose)
      | ['#'] =>
          skipRemark start ((← read).size + 1)
          pure ([], verbose)
      | ['='] | ['!'] =>
          let body ← readAlternatives fuel verbose true
          close
          pure ([.look true (token = ['!']) body], verbose)
      | ['<'] =>
          let kind ← advance
          if kind.isEmpty then failBack "unexpected end of pattern" 0
          if kind ≠ ['='] && kind ≠ ['!'] then
            failBack ("unknown extension ?<" ++ String.ofList kind) (kind.length + 2)
          let outside := (← get).behind
          if outside.isNone then
            let total ← groupTotal
            modify fun state => { state with behind := some total }
          let body ← readAlternatives fuel verbose true
          if outside.isNone then modify fun state => { state with behind := none }
          close
          pure ([.look false (kind = ['!']) body], verbose)
      | ['('] =>
          let group ← conditionGroup (← takeName ')' "group name")
          checkBehind group
          let yes ← readBody fuel verbose false []
          let no ← if ← accept '|' then
              let no ← readBody fuel verbose false []
              if (← peek) = ['|'] then
                failBack "conditional backref with more than two branches" 0
              pure no
            else pure []
          close
          pure ([.conditional group yes no], verbose)
      | ['>'] =>
          let body ← readAlternatives fuel verbose true
          close
          pure ([.atomic body], verbose)
      | token =>
          let isFlag := match token with
            | [character] => character = '-' || (flagOf? character).isSome
            | _ => false
          if !isFlag then failBack ("unknown extension ?" ++ String.ofList token) (token.length + 1)
          match ← readFlags token with
          | none =>
              if !first then failAt "global flags not at the start of the expression" start
              pure ([], (← get).flags.verbose)
          | some (added, removed) =>
              let inner := (verbose || added.verbose) && !removed.verbose
              let body ← readAlternatives fuel inner true
              close
              pure ([.group none added removed body], verbose)

end

mutual

/-- Whether every look behind in an item matches texts of one width only. -/
def behindIsFixed (groups : List (Nat × Width)) : Item → Bool
  | .look ahead _ body =>
      behindAllFixed groups body &&
        (ahead || (bodyWidth groups body).greatest = some (bodyWidth groups body).least)
  | .group _ _ _ body | .atomic body | .repeated _ _ _ body => behindAllFixed groups body
  | .branch alternatives => behindEachFixed groups alternatives
  | .conditional _ yes no => behindAllFixed groups yes && behindAllFixed groups no
  | _ => true

def behindAllFixed (groups : List (Nat × Width)) : List Item → Bool
  | [] => true
  | item :: rest => behindIsFixed groups item && behindAllFixed groups rest

def behindEachFixed (groups : List (Nat × Width)) : List (List Item) → Bool
  | [] => true
  | body :: rest => behindAllFixed groups body && behindEachFixed groups rest

end

def readAll : Reader (List Item) := do
  checkEnd
  let body ← readAlternatives (4 * (← read).size + 4) (← get).flags.verbose false
  let flags := (← get).flags
  if flags.asciiOnly && flags.unicode then throw .incompatibleFlags
  if !(← peek).isEmpty then failBack "unbalanced parenthesis" 0
  for (group, place) in (← get).awaited do
    if (← groupTotal) ≤ group then failAt ("invalid group reference " ++ toString group) place
  if !behindAllFixed (← knownWidths) body then
    throw (.syntaxWhole "look-behind requires fixed-width pattern")
  pure body

/-- Reads a pattern under flags. -/
def compile (source : String) (flags : Flags) : Except Fault Compiled := do
  let (body, state) ← (readAll.run source.toList.toArray).run
    { place := 0, flags := flags, groups := [], names := [], behind := none, awaited := [] }
  pure ⟨source, state.flags, body, state.groups.length, state.names⟩

end LiveShell.Pattern
