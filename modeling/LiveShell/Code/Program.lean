import LiveShell.Code.Reader

/-!
Reading programs: statements in lines and in indented blocks.
-/

namespace LiveShell.Code

namespace Reader

/-- Reads expressions inside statements. -/
abbrev ExprReader := Level → Reader Expr

def augmentations : List (String × BinaryOperator) :=
  [("+=", .add), ("-=", .subtract), ("*=", .multiply), ("/=", .divide), ("//=", .floorDivide),
   ("%=", .modulo), ("@=", .matrix), ("&=", .bitAnd), ("|=", .bitOr), ("^=", .bitXor),
   ("<<=", .shiftLeft), (">>=", .shiftRight), ("**=", .power)]

def yieldOrStars (read : ExprReader) : Reader Expr := do
  if ← atWord "yield" then read .yielding else read .stars

/-- The targets and the value of an assignment, after its first sign. -/
def moreAssigned (read : ExprReader) : Nat → List Expr → Reader Stmt
  | 0, _ => refuse
  | fuel + 1, targets => do
      let value ← yieldOrStars read
      if ← takeOperator "=" then
        moreAssigned read fuel ((← requireTarget value) :: targets)
      else return .assign targets.reverse value

def takeExpressionStatement (read : ExprReader) : Reader Stmt := do
  let first ← yieldOrStars read
  if ← takeOperator "=" then
    moreAssigned read (← bound) [← requireTarget first]
  else if ← takeOperator ":" then
    if !isPlainTarget first then refuse
    let annotated ← read .expression
    let value ← (do
      if ← takeOperator "=" then pure (some (← yieldOrStars read)) else pure none : Reader (Option Expr))
    return .annotate first annotated value
  else match ← peek with
    | .operator sign =>
        match augmentations.lookup sign with
        | some operator =>
            if !isPlainTarget first then refuse
            advance
            return .augment first operator (← yieldOrStars read)
        | none => return .expression first
    | _ => return .expression first

/-- Whether an expression can be deleted. -/
def isDeletable : Nat → Expr → Bool
  | 0, _ => false
  | _ + 1, .name _ | _ + 1, .member .. | _ + 1, .subscript .. => true
  | depth + 1, .tuple items | depth + 1, .list items => items.all (isDeletable depth)
  | _ + 1, _ => false

def takeDelete (read : ExprReader) : Reader Stmt := do
  let first ← read (.binary 0)
  let (rest, _) ← moreItems (read (.binary 0)) startsExpression (← bound)
  let targets := match first, rest with
    | .tuple items, [] => if items.isEmpty then [first] else items
    | _, _ => first :: rest
  if targets.all (isDeletable 100) then return .delete targets else refuse

def moreNames : Nat → Reader (List String)
  | 0 => refuse
  | fuel + 1 => do
      let name ← expectName
      if ← takeOperator "," then return name :: (← moreNames fuel) else return [name]

def dottedName : Nat → Reader String
  | 0 => refuse
  | fuel + 1 => do
      let name ← expectName
      if ← takeOperator "." then return name ++ "." ++ (← dottedName fuel) else return name

def takeAlias : Reader (Option String) := do
  if ← takeWord "as" then return some (← expectName) else return none

def moreModules : Nat → Reader (List (String × Option String))
  | 0 => refuse
  | fuel + 1 => do
      let name ← dottedName (← bound)
      let binding ← takeAlias
      if ← takeOperator "," then return (name, binding) :: (← moreModules fuel)
      else return [(name, binding)]

def moreImported (bracketed : Bool) : Nat → Reader (List (String × Option String))
  | 0 => refuse
  | fuel + 1 => do
      let name ← expectName
      let binding ← takeAlias
      if ← takeOperator "," then
        if bracketed && (← atOperator ")") then return [(name, binding)]
        return (name, binding) :: (← moreImported bracketed fuel)
      else return [(name, binding)]

def takeDots : Nat → Reader Nat
  | 0 => refuse
  | fuel + 1 => do
      if ← takeOperator "." then return (← takeDots fuel) + 1
      if ← takeOperator "..." then return (← takeDots fuel) + 3
      return 0

def takeLoadFrom : Reader Stmt := do
  let level ← takeDots (← bound)
  let module ← (do
    if 0 < level && (← atWord "import") then pure "" else dottedName (← bound) : Reader String)
  expectWord "import"
  if ← takeOperator "*" then return .loadFrom module level [("*", none)]
  if ← takeOperator "(" then
    let names ← moreImported true (← bound)
    expectOperator ")"
    return .loadFrom module level names
  return .loadFrom module level (← moreImported false (← bound))

def endsSimple : Lexeme → Bool
  | .newline | .finish => true
  | .operator sign => sign = ";"
  | _ => false

def takeSimple (read : ExprReader) : Reader Stmt := do
  match ← peek with
  | .name "pass" => advance; return .pass
  | .name "break" => advance; return .leave
  | .name "continue" => advance; return .next
  | .name "return" =>
      advance
      if endsSimple (← peek) then return .give none
      return .give (some (← read .stars))
  | .name "raise" =>
      advance
      if endsSimple (← peek) then return .raise none none
      let error ← read .expression
      if ← takeWord "from" then return .raise (some error) (some (← read .expression))
      return .raise (some error) none
  | .name "assert" =>
      advance
      let test ← read .expression
      if ← takeOperator "," then return .assert test (some (← read .expression))
      return .assert test none
  | .name "del" => advance; takeDelete read
  | .name "global" => advance; return .global (← moreNames (← bound))
  | .name "nonlocal" => advance; return .nonlocal (← moreNames (← bound))
  | .name "import" => advance; return .load (← moreModules (← bound))
  | .name "from" => advance; takeLoadFrom
  | _ => takeExpressionStatement read

/-- Simple statements of one line, with the end of the line. -/
def takeLine (read : ExprReader) : Nat → Reader (List Stmt)
  | 0 => refuse
  | fuel + 1 => do
      let first ← takeSimple read
      let atEnd : Reader Bool := do
        match ← peek with
        | .newline => advance; return true
        | _ => return false
      if ← takeOperator ";" then
        if ← atEnd then return [first]
        return first :: (← takeLine read fuel)
      else if ← atEnd then return [first]
      else refuse

/-- Items of a `with` statement in brackets, if the brackets hold nothing else. -/
def moreWithItems (read : ExprReader) (closer : Option String) :
    Nat → Reader (List (Expr × Option Expr))
  | 0 => refuse
  | fuel + 1 => do
      let value ← read .expression
      let target ← (do
        if ← takeWord "as" then
          let target ← (do
            if ← takeOperator "*" then pure (.starred (← read (.binary 0))) else read (.binary 0)
            : Reader Expr)
          pure (some (← requireTarget target))
        else pure none : Reader (Option Expr))
      if ← takeOperator "," then
        match closer with
        | some closer =>
            if ← atOperator closer then return [(value, target)]
            return (value, target) :: (← moreWithItems read (some closer) fuel)
        | none => return (value, target) :: (← moreWithItems read none fuel)
      else return [(value, target)]

def takeWithItems (read : ExprReader) : Reader (List (Expr × Option Expr)) := do
  let before ← get
  let bracketed : Reader (List (Expr × Option Expr)) := do
    expectOperator "("
    let items ← moreWithItems read (some ")") (← bound)
    expectOperator ")"
    if ← atOperator ":" then return items else refuse
  match bracketed.run before with
  | .ok (items, rest) => set rest; return items
  | .error _ => moreWithItems read none (← bound)

/-- A block: the rest of the line, or indented lines. -/
def takeBlock (read : ExprReader) (lines : Reader (List Stmt)) : Reader (List Stmt) := do
  expectOperator ":"
  match ← peek with
  | .newline =>
      advance
      match ← peek with
      | .indent => advance; lines
      | _ => throw .indentation
  | _ => takeLine read (← bound)

def moreHandlers (read : ExprReader) (block : Reader (List Stmt)) (isGroup : Bool) :
    Nat → Reader (List Stmt)
  | 0 => refuse
  | fuel + 1 => do
      if ← takeWord "except" then
        if (← takeOperator "*") != isGroup then refuse
        if ← atOperator ":" then
          if isGroup then refuse
          let body ← block
          return .handler none none body :: (← moreHandlers read block isGroup fuel)
        let kind ← read .expression
        let name ← takeAlias
        let body ← block
        return .handler (some kind) name body :: (← moreHandlers read block isGroup fuel)
      else return []

def otherwise (block : Reader (List Stmt)) : Reader (List Stmt) := do
  if ← takeWord "else" then block else return []

def takeTry (read : ExprReader) (block : Reader (List Stmt)) : Reader Stmt := do
  let body ← block
  let isGroup := isWord "except" (← peek) && isOperator "*" (← peekNext)
  let handlers ← moreHandlers read block isGroup (← bound)
  let after ← (if handlers.isEmpty then pure [] else otherwise block)
  let closing ← takeWord "finally"
  let last ← (if closing then block else pure [])
  if handlers.isEmpty && !closing then refuse
  return .guard body handlers after last isGroup

def moreBranches (read : ExprReader) (block : Reader (List Stmt)) : Nat → Reader Stmt
  | 0 => refuse
  | fuel + 1 => do
      let test ← read .named
      let body ← block
      if ← takeWord "elif" then return .choose test body [← moreBranches read block fuel]
      return .choose test body (← otherwise block)

def takeFor (read : ExprReader) (block : Reader (List Stmt)) (isAsync : Bool) : Reader Stmt := do
  let target ← read .targets
  expectWord "in"
  let source ← read .stars
  let body ← block
  return .forLoop target source body (← otherwise block) isAsync

def takeDefinition (read : ExprReader) (block : Reader (List Stmt)) (decorators : List Expr)
    (isAsync : Bool) : Reader Stmt := do
  let name ← expectName
  expectOperator "("
  let parameters ← moreParameters (read .expression) true ")" (← bound) {}
  expectOperator ")"
  let result ← (do
    if ← takeOperator "->" then pure (some (← read .expression)) else pure none : Reader (Option Expr))
  let body ← block
  return .define name parameters result decorators body isAsync

def takeClass (read : ExprReader) (block : Reader (List Stmt)) (decorators : List Expr) :
    Reader Stmt := do
  let name ← expectName
  let (bases, keywords) ← (do
    if ← takeOperator "(" then
      moreArguments (read .named) (read .expression) (takeClauses read (← bound)) (← bound) {}
    else pure ([], []) : Reader (List Expr × List Expr))
  let body ← block
  return .classDefinition name bases keywords decorators body

def moreDecorators (read : ExprReader) : Nat → Reader (List Expr)
  | 0 => refuse
  | fuel + 1 => do
      if ← takeOperator "@" then
        let value ← read .named
        match ← peek with
        | .newline => advance
        | _ => refuse
        return value :: (← moreDecorators read fuel)
      else return []

/-- One statement, or the simple statements of one line. -/
def takeStatement (read : ExprReader) (lines : Reader (List Stmt)) : Reader (List Stmt) := do
  let block := takeBlock read lines
  match ← peek with
  | .name "if" => advance; return [← moreBranches read block (← bound)]
  | .name "while" =>
      advance
      let test ← read .named
      let body ← block
      return [.whileLoop test body (← otherwise block)]
  | .name "for" => advance; return [← takeFor read block false]
  | .name "try" => advance; return [← takeTry read block]
  | .name "with" =>
      advance
      let items ← takeWithItems read
      return [.within items (← block) false]
  | .name "def" => advance; return [← takeDefinition read block [] false]
  | .name "class" => advance; return [← takeClass read block []]
  | .name "async" =>
      advance
      if ← takeWord "def" then return [← takeDefinition read block [] true]
      if ← takeWord "for" then return [← takeFor read block true]
      if ← takeWord "with" then
        let items ← takeWithItems read
        return [.within items (← block) true]
      refuse
  | .operator "@" =>
      let decorators ← moreDecorators read (← bound)
      if ← takeWord "def" then return [← takeDefinition read block decorators false]
      if ← takeWord "class" then return [← takeClass read block decorators]
      expectWord "async"
      expectWord "def"
      return [← takeDefinition read block decorators true]
  | _ => takeLine read (← bound)

/-- Statements up to the end of their block, or of the program when `outer`. -/
def takeLines (read : ExprReader) (outer : Bool) : Nat → Reader (List Stmt)
  | 0 => refuse
  | fuel + 1 => do
      match ← peek with
      | .finish => if outer && !(← get).isEmpty then return [] else refuse
      | .dedent => if outer then refuse else advance; return []
      | .newline => if outer then advance; takeLines read outer fuel else refuse
      | _ =>
          let first ← takeStatement read (takeLines read false fuel)
          return first ++ (← takeLines read outer fuel)

end Reader

/-- Reads a text as a program. -/
def readProgram (text : String) : Except Fault (List Stmt) :=
  let (found, fault) := lexemes text
  let bound := levelBound text.length
  match (Reader.takeLines (Reader.readAt bound) true bound).run found with
  | .ok (program, _) => .ok program
  | .error stumbled => .error (decideFault stumbled fault)

end LiveShell.Code
