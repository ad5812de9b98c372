import LiveShell.Code.Lexeme
import LiveShell.Code.Unescape

/-!
Reading expressions from lexemes, by descent through the levels of binding strength.
-/

namespace LiveShell.Code

/-- A reader takes lexemes from the front and may fail. -/
abbrev Reader := StateT (List Lexeme) (Except Fault)

namespace Reader

def peek : Reader Lexeme := do return (← get).headD .finish

def peekNext : Reader Lexeme := do return ((← get).drop 1).headD .finish

def advance : Reader Unit := modify (·.drop 1)

/-- Fails at the next lexeme. A block that opens or closes out of place counts as bad indentation. -/
def refuse {α : Type} : Reader α := do
  match ← peek with
  | .indent | .dedent => throw .indentation
  | _ => throw .malformed

def isOperator (sign : String) : Lexeme → Bool
  | .operator found => found = sign
  | _ => false

def isWord (word : String) : Lexeme → Bool
  | .name found => found = word
  | _ => false

def atOperator (sign : String) : Reader Bool := do return isOperator sign (← peek)

def atWord (word : String) : Reader Bool := do return isWord word (← peek)

def takeOperator (sign : String) : Reader Bool := do
  if ← atOperator sign then advance; return true
  return false

def takeWord (word : String) : Reader Bool := do
  if ← atWord word then advance; return true
  return false

def expectOperator (sign : String) : Reader Unit := do if !(← takeOperator sign) then refuse

def expectWord (word : String) : Reader Unit := do if !(← takeWord word) then refuse

def isNameWord (text : String) : Bool := !Source.keywords.contains text

def expectName : Reader String := do
  match ← peek with
  | .name text => if isNameWord text then advance; return text else refuse
  | _ => refuse

/-- Whether an expression may start with a lexeme. -/
def startsExpression : Lexeme → Bool
  | .name text => isNameWord text || ["None", "True", "False", "not", "lambda", "await"].contains text
  | .number _ | .quoted .. => true
  | .operator sign => ["(", "[", "\x7b", "-", "+", "~", "..."].contains sign
  | _ => false

def startsItem (lexeme : Lexeme) : Bool := startsExpression lexeme || isOperator "*" lexeme

/-- The rest of a list after its first item: items after commas, and whether a comma was met. -/
def moreItems (item : Reader Expr) (starts : Lexeme → Bool) : Nat → Reader (List Expr × Bool)
  | 0 => refuse
  | fuel + 1 => do
      if ← takeOperator "," then
        if starts (← peek) then
          let next ← item
          let (items, _) ← moreItems item starts fuel
          return (next :: items, true)
        else return ([], true)
      else return ([], false)

/-- Operators of one level that bind to the left. -/
def chain (operand : Reader Expr) (operators : List (String × BinaryOperator)) : Nat → Expr → Reader Expr
  | 0, _ => refuse
  | fuel + 1, left => do
      match ← peek with
      | .operator sign =>
          match operators.lookup sign with
          | some operator => do
              advance
              let right ← operand
              chain operand operators fuel (.binary left operator right)
          | none => return left
      | _ => return left

def moreOperands (word : String) (operand : Reader Expr) : Nat → Reader (List Expr)
  | 0 => refuse
  | fuel + 1 => do
      if ← takeWord word then
        let next ← operand
        return next :: (← moreOperands word operand fuel)
      else return []

/-- Binary operators by level, the loosest first. -/
def binaryLevels : List (List (String × BinaryOperator)) :=
  [[("|", .bitOr)], [("^", .bitXor)], [("&", .bitAnd)], [("<<", .shiftLeft), (">>", .shiftRight)],
   [("+", .add), ("-", .subtract)],
   [("*", .multiply), ("/", .divide), ("//", .floorDivide), ("%", .modulo), ("@", .matrix)]]

def relations : List (String × Relation) :=
  [("==", .equal), ("!=", .notEqual), ("<", .less), ("<=", .lessEqual), (">", .greater),
   (">=", .greaterEqual)]

/-- The relation that comes next, if one does. -/
def takeRelation : Reader (Option Relation) := do
  match ← peek with
  | .operator sign =>
      match relations.lookup sign with
      | some relation => advance; return some relation
      | none => return none
  | .name "in" => advance; return some .member
  | .name "not" =>
      if isWord "in" (← peekNext) then advance; advance; return some .notMember else return none
  | .name "is" =>
      advance
      if ← takeWord "not" then return some .notSame else return some .same
  | _ => return none

def moreRelations (operand : Reader Expr) : Nat → Reader (List (Relation × Expr))
  | 0 => refuse
  | fuel + 1 => do
      match ← takeRelation with
      | some relation => do
          let next ← operand
          return (relation, next) :: (← moreRelations operand fuel)
      | none => return []

/-! Targets. -/

mutual

/-- Whether an expression can be assigned to. A star may stand on the items of a list of targets. -/
def isTarget : Expr → Bool
  | .name _ | .member .. | .subscript .. => true
  | .tuple items | .list items => areTargets items
  | _ => false

def areTargets : List Expr → Bool
  | [] => true
  | .starred (.starred _) :: _ => false
  | .starred value :: items => isTarget value && areTargets items
  | item :: items => isTarget item && areTargets items

end

def isPlainTarget : Expr → Bool
  | .name _ | .member .. | .subscript .. => true
  | _ => false

def isStarTarget : Expr → Bool
  | .starred (.starred _) => false
  | .starred value => isTarget value
  | target => isTarget target

def requireTarget (target : Expr) : Reader Expr := do
  if isStarTarget target then return target else refuse

/-! Parameters. -/

/-- Where a list of parameters stands: what may still come. -/
structure ParameterState where
  read : List Expr := []
  afterDefault : Bool := false
  afterStar : Bool := false
  needName : Bool := false
  afterSlash : Bool := false
  ended : Bool := false

def positionalOnly : Expr → Expr
  | .parameter name .positional annotated default => .parameter name .positionalOnly annotated default
  | other => other

/-- Parameters up to the sign that closes them. -/
def moreParameters (expression : Reader Expr) (annotated : Bool) (closer : String) :
    Nat → ParameterState → Reader (List Expr)
  | 0, _ => refuse
  | fuel + 1, state => do
      if ← atOperator closer then
        if state.needName then refuse else return state.read.reverse
      if state.ended then refuse
      let readType : Reader (Option Expr) := do
        if annotated then
          if ← takeOperator ":" then return some (← expression)
        return none
      let next ← (do
        if ← takeOperator "**" then
          if state.needName then refuse
          let name ← expectName
          let type ← readType
          pure { state with read := .parameter name .keywords type none :: state.read, ended := true }
        else if ← takeOperator "*" then
          if state.afterStar then refuse
          if ← atOperator "," then pure { state with afterStar := true, needName := true }
          else
            let name ← expectName
            let type ← readType
            pure { state with read := .parameter name .variadic type none :: state.read,
                              afterStar := true }
        else if ← takeOperator "/" then
          if state.afterSlash || state.afterStar || state.read.isEmpty then refuse
          pure { state with read := state.read.map positionalOnly, afterSlash := true }
        else
          let name ← expectName
          let type ← readType
          let default ← (do
            if ← takeOperator "=" then pure (some (← expression)) else pure none : Reader (Option Expr))
          if default.isNone && state.afterDefault && !state.afterStar then refuse
          let kind : ParameterKind := if state.afterStar then .keywordOnly else .positional
          pure { state with read := .parameter name kind type default :: state.read,
                            afterDefault := state.afterDefault || default.isSome, needName := false }
        : Reader ParameterState)
      if ← takeOperator "," then moreParameters expression annotated closer fuel next
      else if ← atOperator closer then
        if next.needName then refuse else return next.read.reverse
      else refuse

/-! Arguments. -/

structure ArgumentState where
  positional : List Expr := []
  keywords : List Expr := []
  afterSpread : Bool := false

/-- The clauses that follow an element, if any do. -/
abbrev ClauseReader := Reader (List Expr)

def atClause : Reader Bool := do
  if ← atWord "for" then return true
  if ← atWord "async" then return isWord "for" (← peekNext)
  return false

def moreArguments (named expression : Reader Expr) (clauses : ClauseReader) :
    Nat → ArgumentState → Reader (List Expr × List Expr)
  | 0, _ => refuse
  | fuel + 1, state => do
      if ← takeOperator ")" then return (state.positional.reverse, state.keywords.reverse)
      let next ← (do
        if ← takeOperator "**" then
          let value ← expression
          pure { state with keywords := .keyword none value :: state.keywords, afterSpread := true }
        else if ← takeOperator "*" then
          if state.afterSpread then refuse
          let value ← expression
          pure { state with positional := .starred value :: state.positional }
        else
          match ← peek, ← peekNext with
          | .name name, .operator "=" =>
              if !isNameWord name then refuse
              advance
              advance
              let value ← expression
              pure { state with keywords := .keyword (some name) value :: state.keywords }
          | _, _ =>
              let value ← named
              if ← atClause then
                let found ← clauses
                if !state.positional.isEmpty || !state.keywords.isEmpty || !(← atOperator ")") then refuse
                pure { state with positional := [.gather .generator value found] }
              else if !state.keywords.isEmpty then refuse
              else pure { state with positional := value :: state.positional }
        : Reader ArgumentState)
      if ← takeOperator "," then moreArguments named expression clauses fuel next
      else if ← takeOperator ")" then return (next.positional.reverse, next.keywords.reverse)
      else refuse

/-! Literals in a row. -/

def takeQuoted : Nat → Reader (List (List Char × List Char))
  | 0 => refuse
  | fuel + 1 => do
      match ← peek with
      | .quoted letters body => advance; return (letters, body) :: (← takeQuoted fuel)
      | _ => return []

/-- Pieces with neighbouring texts made one. -/
def joinTexts : List Expr → List Expr
  | .literal (.text first) :: rest =>
      match joinTexts rest with
      | .literal (.text second) :: rest => .literal (.text (first ++ second)) :: rest
      | rest => if first = "" then rest else .literal (.text first) :: rest
  | piece :: rest => piece :: joinTexts rest
  | [] => []

mutual

/-- A piece of a formatted text as expressions, with a reader for the code of fields. -/
def partsOfPiece (readCode : List Char → Except Fault Expr) : Piece → Except Fault (List Expr)
  | .text characters => pure [.literal (.text (String.ofList characters))]
  | .field code shown conversion layout => do
      let value ← readCode code
      let layout ← layoutOfPiece readCode layout
      let before : List Expr := match shown with
        | some characters => [.literal (.text (String.ofList characters))]
        | none => []
      pure (before ++ [.field value conversion layout])

def partsOfPieces (readCode : List Char → Except Fault Expr) : List Piece → Except Fault (List Expr)
  | [] => pure []
  | piece :: rest => do
      let first ← partsOfPiece readCode piece
      pure (first ++ (← partsOfPieces readCode rest))

def layoutOfPiece (readCode : List Char → Except Fault Expr) :
    Option (List Piece) → Except Fault (Option Expr)
  | none => pure none
  | some pieces => do pure (some (Expr.joined (joinTexts (← partsOfPieces readCode pieces))))

end

def readQuoted (readCode : List Char → Except Fault Expr) (found : List (List Char × List Char)) :
    Except Fault Expr := do
  let inBytes : Bool := found.any fun (letters, _) => letters.contains 'b'
  if inBytes && !(found.all fun (letters, _) => letters.contains 'b') then throw .malformed
  else if inBytes then
    let parts ← found.mapM fun (letters, body) => literalText letters body
    pure (.literal (.bytes (parts.flatten.map fun character => UInt8.ofNat character.toNat)))
  else
    let parts ← found.mapM fun (letters, body) =>
      if letters.contains 'f' then do partsOfPieces readCode (← pieces (letters.contains 'r') body)
      else do pure [Expr.literal (.text (String.ofList (← literalText letters body)))]
    if found.any fun (letters, _) => letters.contains 'f' then pure (.joined (joinTexts parts.flatten))
    else
      let texts := parts.flatten.map fun part => match part with
        | .literal (.text text) => text
        | _ => ""
      pure (.literal (.text (String.join texts)))

/-! Expressions. -/

/-- The levels of binding strength, and other places where an expression stands. -/
inductive Level
  /-- Expressions with commas, stars allowed. -/
  | stars
  /-- Expressions with commas, no stars. -/
  | commas
  | starItem
  | namedItem
  | named
  | expression
  | disjunction
  | conjunction
  | inversion
  | comparison
  | binary (level : Nat)
  | factor
  | power
  | primary
  | atom
  | yielding
  | targets
  | slice

/-- Reads the expression that stands alone in brackets of a field. -/
def asField (read : Level → Reader Expr) (code : List Char) : Except Fault Expr := do
  let (found, fault) := lexemes ("(" ++ String.ofList code ++ ")")
  match fault with
  | some fault => throw fault
  | none => do
      let (value, rest) ← (read .stars).run found
      match rest with
      | [.newline, .finish] => pure value
      | _ => throw .malformed

def bound : Reader Nat := do return (← get).length + 1

/-- Clauses of a gathering: a target, a source and conditions each. -/
def takeClauses (read : Level → Reader Expr) : Nat → Reader (List Expr)
  | 0 => refuse
  | fuel + 1 => do
      if !(← atClause) then return []
      let isAsync ← takeWord "async"
      expectWord "for"
      let target ← read .targets
      expectWord "in"
      let source ← read .disjunction
      let conditions ← moreOperands "if" (read .disjunction) fuel
      return .clause target source conditions isAsync :: (← takeClauses read fuel)

def takeTrailers (read : Level → Reader Expr) : Nat → Expr → Reader Expr
  | 0, _ => refuse
  | fuel + 1, value => do
      if ← takeOperator "." then
        let name ← expectName
        takeTrailers read fuel (.member value name)
      else if ← takeOperator "(" then
        let (arguments, keywords) ←
          moreArguments (read .named) (read .expression) (takeClauses read (← bound)) (← bound) {}
        takeTrailers read fuel (.call value arguments keywords)
      else if ← takeOperator "[" then
        let first ← read .slice
        let (rest, comma) ← moreItems (read .slice)
          (fun lexeme => startsItem lexeme || isOperator ":" lexeme) (← bound)
        expectOperator "]"
        let isStarred : Bool := match first with
          | .starred _ => true
          | _ => false
        takeTrailers read fuel
          (.subscript value (if comma || isStarred then .tuple (first :: rest) else first))
      else return value

/-- What follows an opening round bracket. -/
def afterRound (read : Level → Reader Expr) : Reader Expr := do
  if ← takeOperator ")" then return .tuple []
  if ← atWord "yield" then
    let value ← read .yielding
    expectOperator ")"
    return value
  let first ← read .namedItem
  if ← atClause then
    let clauses ← takeClauses read (← bound)
    expectOperator ")"
    match first with
    | .starred _ => refuse
    | first => return .gather .generator first clauses
  let (rest, comma) ← moreItems (read .namedItem) startsItem (← bound)
  expectOperator ")"
  match first with
  | .starred _ => if comma then return .tuple (first :: rest) else refuse
  | first => return if comma then .tuple (first :: rest) else first

def afterSquare (read : Level → Reader Expr) : Reader Expr := do
  if ← takeOperator "]" then return .list []
  let first ← read .namedItem
  if ← atClause then
    let clauses ← takeClauses read (← bound)
    expectOperator "]"
    match first with
    | .starred _ => refuse
    | first => return .gather .list first clauses
  let (rest, _) ← moreItems (read .namedItem) startsItem (← bound)
  expectOperator "]"
  return .list (first :: rest)

def takeEntry (read : Level → Reader Expr) : Reader Expr := do
  if ← takeOperator "**" then return .entry none (← read (.binary 0))
  let key ← read .expression
  expectOperator ":"
  return .entry (some key) (← read .expression)

def afterBrace (read : Level → Reader Expr) : Reader Expr := do
  if ← takeOperator "\x7d" then return .mapping []
  let startsEntry (lexeme : Lexeme) : Bool := startsExpression lexeme || isOperator "**" lexeme
  if ← atOperator "**" then
    let first ← takeEntry read
    let (rest, _) ← moreItems (takeEntry read) startsEntry (← bound)
    expectOperator "\x7d"
    return .mapping (first :: rest)
  let first ← read .namedItem
  match first with
  | .starred _ | .bind .. => pure ()
  | _ =>
      if ← takeOperator ":" then
        let value ← read .expression
        if ← atClause then
          let clauses ← takeClauses read (← bound)
          expectOperator "\x7d"
          return .gatherMapping first value clauses
        let (rest, _) ← moreItems (takeEntry read) startsEntry (← bound)
        expectOperator "\x7d"
        return .mapping (.entry (some first) value :: rest)
  if ← atClause then
    let clauses ← takeClauses read (← bound)
    expectOperator "\x7d"
    match first with
    | .starred _ => refuse
    | first => return .gather .set first clauses
  let (rest, _) ← moreItems (read .namedItem) startsItem (← bound)
  expectOperator "\x7d"
  return .set (first :: rest)

def readAtom (read : Level → Reader Expr) : Reader Expr := do
  match ← peek with
  | .name "None" => advance; return .literal .nothing
  | .name "True" => advance; return .literal (.boolean true)
  | .name "False" => advance; return .literal (.boolean false)
  | .name name => if isNameWord name then advance; return .name name else refuse
  | .number value => advance; return .literal value
  | .quoted .. =>
      let found ← takeQuoted (← bound)
      match readQuoted (asField read) found with
      | .ok value => return value
      | .error fault => throw fault
  | .operator "..." => advance; return .literal .ellipsis
  | .operator "(" => advance; afterRound read
  | .operator "[" => advance; afterSquare read
  | .operator "\x7b" => advance; afterBrace read
  | _ => refuse

def readSlice (read : Level → Reader Expr) : Reader Expr := do
  if ← takeOperator "*" then return .starred (← read (.binary 0))
  let ends : Reader Bool := do
    return (← atOperator ":") || (← atOperator ",") || (← atOperator "]")
  let part : Reader (Option Expr) := do
    if ← ends then return none else return some (← read .expression)
  let lower ← (do
    if ← atOperator ":" then pure none else pure (some (← read .named)) : Reader (Option Expr))
  if ← takeOperator ":" then
    let upper ← part
    let step ← (do if ← takeOperator ":" then part else pure none : Reader (Option Expr))
    return .slice lower upper step
  else match lower with
    | some value => return value
    | none => refuse

/-- Reads one level with a reader for the levels inside it. -/
def readLevel (read : Level → Reader Expr) : Level → Reader Expr
  | .stars => do
      let first ← read .starItem
      let (rest, comma) ← moreItems (read .starItem) startsItem (← bound)
      return if comma then .tuple (first :: rest) else first
  | .commas => do
      let first ← read .expression
      let (rest, comma) ← moreItems (read .expression) startsExpression (← bound)
      return if comma then .tuple (first :: rest) else first
  | .starItem => do
      if ← takeOperator "*" then return .starred (← read (.binary 0)) else read .expression
  | .namedItem => do
      if ← takeOperator "*" then return .starred (← read (.binary 0)) else read .named
  | .named => do
      match ← peek, ← peekNext with
      | .name name, .operator ":=" =>
          if !isNameWord name then refuse
          advance
          advance
          return .bind (.name name) (← read .expression)
      | _, _ => read .expression
  | .expression => do
      if ← takeWord "lambda" then
        let parameters ← moreParameters (read .expression) false ":" (← bound) {}
        expectOperator ":"
        return .lambda parameters (← read .expression)
      let value ← read .disjunction
      if ← takeWord "if" then
        let test ← read .disjunction
        expectWord "else"
        return .conditional test value (← read .expression)
      return value
  | .disjunction => do
      let first ← read .conjunction
      match ← moreOperands "or" (read .conjunction) (← bound) with
      | [] => return first
      | rest => return .logical false (first :: rest)
  | .conjunction => do
      let first ← read .inversion
      match ← moreOperands "and" (read .inversion) (← bound) with
      | [] => return first
      | rest => return .logical true (first :: rest)
  | .inversion => do
      if ← takeWord "not" then return .unary .not (← read .inversion) else read .comparison
  | .comparison => do
      let first ← read (.binary 0)
      match ← moreRelations (read (.binary 0)) (← bound) with
      | [] => return first
      | rest => return .compare first (rest.map (·.1)) (rest.map (·.2))
  | .binary level => do
      match binaryLevels[level]? with
      | some operators => do
          let first ← read (.binary (level + 1))
          chain (read (.binary (level + 1))) operators (← bound) first
      | none => read .factor
  | .factor => do
      if ← takeOperator "-" then return .unary .negate (← read .factor)
      if ← takeOperator "+" then return .unary .plus (← read .factor)
      if ← takeOperator "~" then return .unary .invert (← read .factor)
      read .power
  | .power => do
      let base ← (do
        if ← takeWord "await" then pure (.await (← read .primary)) else read .primary : Reader Expr)
      if ← takeOperator "**" then return .binary base .power (← read .factor)
      return base
  | .primary => do
      let value ← read .atom
      takeTrailers read (← bound) value
  | .atom => readAtom read
  | .yielding => do
      expectWord "yield"
      if ← takeWord "from" then return .yieldFrom (← read .expression)
      if startsItem (← peek) then return .yield (some (← read .stars))
      return .yield none
  | .targets => do
      let item : Reader Expr := do
        if ← takeOperator "*" then return .starred (← read (.binary 0)) else read (.binary 0)
      let first ← item
      let (rest, comma) ← moreItems item startsItem (← bound)
      requireTarget (if comma then .tuple (first :: rest) else first)
  | .slice => readSlice read

/-- Reads a level; the count bounds how deep levels nest. -/
def readAt : Nat → Level → Reader Expr
  | 0, _ => refuse
  | fuel + 1, level => readLevel (readAt fuel) level

end Reader

/-- How deep levels may nest in lexemes of some number: every bracket, sign or word opens at most all levels. -/
def levelBound (count : Nat) : Nat := 20 * count + 40

/-- The fault of a text that is no code, when a reader failed after reading lexemes up to a fault. An
indentation that the reader stumbles over counts before a fault later in the text. -/
def decideFault (stumbled : Fault) (later : Option Fault) : Fault :=
  match stumbled, later with
  | .indentation, _ => .indentation
  | fault, none => fault
  | _, some fault => fault

/-- Reads a text that is one expression. -/
def readExpression (text : String) : Except Fault Expr :=
  let (found, fault) := lexemes text
  let read : Reader Expr := do
    let value ← Reader.readAt (levelBound text.length) .commas
    match (← get).dropWhile fun lexeme => match lexeme with
      | .newline => true
      | _ => false with
    | [.finish] => return value
    | rest => set rest; Reader.refuse
  match read.run found with
  | .ok (value, _) => .ok value
  | .error stumbled => .error (decideFault stumbled fault)

end LiveShell.Code
