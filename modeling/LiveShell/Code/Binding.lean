import LiveShell.Code.Tree

/-!
Which names code binds. A function keeps the names that its body binds, unless it says that they belong
elsewhere; a gathering keeps the names of its clauses' targets.
-/

namespace LiveShell.Code

/-- The names of a target. -/
def Expr.targetNames : Expr → List String
  | .name word => [word]
  | .starred value => value.targetNames
  | .tuple items | .list items => namesOf items
  | _ => []
where
  namesOf : List Expr → List String
    | [] => []
    | item :: items => item.targetNames ++ namesOf items

mutual

/-- The names that an expression binds in the function around it. Gatherings pass such bindings on, functions
keep them. -/
def Expr.binds : Expr → List String
  | .name _ | .literal _ => []
  | .joined pieces => bindsOfAll pieces
  | .field value _ layout => value.binds ++ bindsOfAny layout
  | .logical _ operands => bindsOfAll operands
  | .bind target value => target.targetNames ++ value.binds
  | .binary left _ right => left.binds ++ right.binds
  | .unary _ operand => operand.binds
  | .lambda parameters _ => bindsOfAll parameters
  | .parameter _ _ annotated default => bindsOfAny annotated ++ bindsOfAny default
  | .conditional test yes no => test.binds ++ yes.binds ++ no.binds
  | .mapping entries => bindsOfAll entries
  | .entry key value => bindsOfAny key ++ value.binds
  | .set items | .list items | .tuple items => bindsOfAll items
  | .gather _ element clauses => element.binds ++ bindsOfAll clauses
  | .gatherMapping key value clauses => key.binds ++ value.binds ++ bindsOfAll clauses
  | .clause _ source conditions _ => source.binds ++ bindsOfAll conditions
  | .await value | .yieldFrom value | .starred value => value.binds
  | .yield value => bindsOfAny value
  | .compare first _ rest => first.binds ++ bindsOfAll rest
  | .call callee arguments keywords => callee.binds ++ bindsOfAll arguments ++ bindsOfAll keywords
  | .keyword _ value => value.binds
  | .member object _ => object.binds
  | .subscript object index => object.binds ++ index.binds
  | .slice lower upper step => bindsOfAny lower ++ bindsOfAny upper ++ bindsOfAny step

def bindsOfAll : List Expr → List String
  | [] => []
  | expression :: rest => expression.binds ++ bindsOfAll rest

def bindsOfAny : Option Expr → List String
  | none => []
  | some expression => expression.binds

end

mutual

/-- Whether an expression yields, apart from the functions in it. -/
def Expr.yields : Expr → Bool
  | .name _ | .literal _ | .lambda .. => false
  | .yield _ | .yieldFrom _ => true
  | .joined pieces => yieldsInAll pieces
  | .field value _ layout => value.yields || yieldsInAny layout
  | .logical _ operands => yieldsInAll operands
  | .bind _ value => value.yields
  | .binary left _ right => left.yields || right.yields
  | .unary _ operand => operand.yields
  | .parameter _ _ annotated default => yieldsInAny annotated || yieldsInAny default
  | .conditional test yes no => test.yields || yes.yields || no.yields
  | .mapping entries => yieldsInAll entries
  | .entry key value => yieldsInAny key || value.yields
  | .set items | .list items | .tuple items => yieldsInAll items
  | .gather _ element clauses => element.yields || yieldsInAll clauses
  | .gatherMapping key value clauses => key.yields || value.yields || yieldsInAll clauses
  | .clause _ source conditions _ => source.yields || yieldsInAll conditions
  | .await value | .starred value => value.yields
  | .compare first _ rest => first.yields || yieldsInAll rest
  | .call callee arguments keywords => callee.yields || yieldsInAll arguments || yieldsInAll keywords
  | .keyword _ value => value.yields
  | .member object _ => object.yields
  | .subscript object index => object.yields || index.yields
  | .slice lower upper step => yieldsInAny lower || yieldsInAny upper || yieldsInAny step

def yieldsInAll : List Expr → Bool
  | [] => false
  | expression :: rest => expression.yields || yieldsInAll rest

def yieldsInAny : Option Expr → Bool
  | none => false
  | some expression => expression.yields

end

/-- The first part of a dotted name. -/
def firstPart (name : String) : String := (name.splitOn ".").headD ""

mutual

/-- The names that a statement binds. -/
def Stmt.binds : Stmt → List String
  | .expression value => value.binds
  | .assign targets value => targets.flatMap Expr.targetNames ++ bindsOfAll targets ++ value.binds
  | .augment target _ value => target.targetNames ++ target.binds ++ value.binds
  | .annotate target annotated value =>
      target.targetNames ++ target.binds ++ annotated.binds ++ bindsOfAny value
  | .delete targets => targets.flatMap Expr.targetNames ++ bindsOfAll targets
  | .pass | .leave | .next | .global _ | .nonlocal _ => []
  | .give value => bindsOfAny value
  | .raise error cause => bindsOfAny error ++ bindsOfAny cause
  | .assert test message => test.binds ++ bindsOfAny message
  | .load modules => modules.map fun (word, binding) => binding.getD (firstPart word)
  | .loadFrom _ _ names => names.map fun (word, binding) => binding.getD word
  | .choose test body otherwise => test.binds ++ bindsOfBlock body ++ bindsOfBlock otherwise
  | .whileLoop test body otherwise => test.binds ++ bindsOfBlock body ++ bindsOfBlock otherwise
  | .forLoop target source body otherwise _ =>
      target.targetNames ++ target.binds ++ source.binds ++ bindsOfBlock body ++ bindsOfBlock otherwise
  | .within items body _ =>
      (items.flatMap fun (value, target) => value.binds ++ match target with
        | some target => target.targetNames ++ target.binds
        | none => []) ++ bindsOfBlock body
  | .guard body handlers otherwise last _ =>
      bindsOfBlock body ++ bindsOfBlock handlers ++ bindsOfBlock otherwise ++ bindsOfBlock last
  | .handler kind name body => bindsOfAny kind ++ name.toList ++ bindsOfBlock body
  | .define name parameters result decorators _ _ =>
      name :: (bindsOfAll parameters ++ bindsOfAny result ++ bindsOfAll decorators)
  | .classDefinition name bases keywords decorators _ =>
      name :: (bindsOfAll bases ++ bindsOfAll keywords ++ bindsOfAll decorators)

def bindsOfBlock : List Stmt → List String
  | [] => []
  | statement :: rest => statement.binds ++ bindsOfBlock rest

end

mutual

/-- The names that a statement declares to belong elsewhere. -/
def Stmt.declares (isGlobal : Bool) : Stmt → List String
  | .global names => if isGlobal then names else []
  | .nonlocal names => if isGlobal then [] else names
  | .choose _ body otherwise | .whileLoop _ body otherwise | .forLoop _ _ body otherwise _ =>
      declaredIn isGlobal body ++ declaredIn isGlobal otherwise
  | .within _ body _ | .handler _ _ body => declaredIn isGlobal body
  | .guard body handlers otherwise last _ =>
      declaredIn isGlobal body ++ declaredIn isGlobal handlers ++ declaredIn isGlobal otherwise ++
        declaredIn isGlobal last
  | _ => []

def declaredIn (isGlobal : Bool) : List Stmt → List String
  | [] => []
  | statement :: rest => statement.declares isGlobal ++ declaredIn isGlobal rest

end

mutual

/-- Whether a statement yields, apart from the functions in it. -/
def Stmt.yields : Stmt → Bool
  | .expression value => value.yields
  | .assign targets value => yieldsInAll targets || value.yields
  | .augment target _ value => target.yields || value.yields
  | .annotate _ _ value => yieldsInAny value
  | .delete targets => yieldsInAll targets
  | .give value => yieldsInAny value
  | .raise error cause => yieldsInAny error || yieldsInAny cause
  | .assert test message => test.yields || yieldsInAny message
  | .choose test body otherwise | .whileLoop test body otherwise =>
      test.yields || yieldsInBlock body || yieldsInBlock otherwise
  | .forLoop _ source body otherwise _ => source.yields || yieldsInBlock body || yieldsInBlock otherwise
  | .within items body _ => (items.any fun (value, _) => value.yields) || yieldsInBlock body
  | .guard body handlers otherwise last _ =>
      yieldsInBlock body || yieldsInBlock handlers || yieldsInBlock otherwise || yieldsInBlock last
  | .handler _ _ body => yieldsInBlock body
  | _ => false

def yieldsInBlock : List Stmt → Bool
  | [] => false
  | statement :: rest => statement.yields || yieldsInBlock rest

end

mutual

/-- Whether a statement annotates a target, apart from the functions and classes in it. -/
def Stmt.annotates : Stmt → Bool
  | .annotate .. => true
  | .choose _ body otherwise | .whileLoop _ body otherwise | .forLoop _ _ body otherwise _ =>
      annotatesInBlock body || annotatesInBlock otherwise
  | .within _ body _ | .handler _ _ body => annotatesInBlock body
  | .guard body handlers otherwise last _ =>
      annotatesInBlock body || annotatesInBlock handlers || annotatesInBlock otherwise || annotatesInBlock last
  | _ => false

def annotatesInBlock : List Stmt → Bool
  | [] => false
  | statement :: rest => statement.annotates || annotatesInBlock rest

end

def parameterNames (parameters : List Expr) : List String :=
  parameters.filterMap fun parameter => match parameter with
    | .parameter name .. => some name
    | _ => none

def clauseNames (clauses : List Expr) : List String :=
  clauses.flatMap fun clause => match clause with
    | .clause target .. => target.targetNames
    | _ => []

/-- The names that a function keeps to itself. -/
def localNames (parameters : List Expr) (body : List Stmt) : List String :=
  let elsewhere := declaredIn true body ++ declaredIn false body
  (parameterNames parameters ++ bindsOfBlock body).filter fun name => !elsewhere.contains name

end LiveShell.Code
