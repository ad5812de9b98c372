import LiveShell.Code.Binding

/-!
Rules that code keeps beyond its grammar: what may stand in a function only, which names may be declared,
where stars may stand, and that no name or keyword is given twice.
-/

namespace LiveShell.Code

/-- Where code stands. -/
structure Setting where
  inFunction : Bool := false
  isAsync : Bool := false
  inClass : Bool := false
  inLoop : Bool := false
  inGathering : Bool := false
  /-- Whether code outside of functions may wait. -/
  mayWait : Bool := true
  /-- Names that bindings inside an expression may not take, because a clause around it does. -/
  taken : List String := []
  inSource : Bool := false
  /-- The names that the functions around keep, and those of this one. -/
  enclosing : List String := []
deriving Inhabited

namespace Setting

def inBody (setting : Setting) (isAsync : Bool) (names : List String) : Setting :=
  { inFunction := true, isAsync, mayWait := setting.mayWait, enclosing := names ++ setting.enclosing }

def canAwait (setting : Setting) : Bool :=
  if setting.inFunction then setting.isAsync || setting.inGathering
  else (setting.mayWait && !setting.inClass) || setting.inGathering

def canLoopAsync (setting : Setting) : Bool :=
  if setting.inFunction then setting.isAsync else setting.mayWait && !setting.inClass

end Setting

def hasRepeat : List String → Bool
  | [] => false
  | name :: rest => rest.contains name || hasRepeat rest

def keywordNames (keywords : List Expr) : List String :=
  keywords.filterMap fun keyword => match keyword with
    | .keyword name _ => name
    | _ => none

def reserved : String := "__debug__"

/-- Whether a target holds one star at most on every level, and none alone. -/
def Expr.starsFit : Expr → Bool
  | .starred _ => false
  | .tuple items | .list items => itemsFit false items
  | _ => true
where
  itemsFit (met : Bool) : List Expr → Bool
    | [] => true
    | .starred value :: items => !met && value.starsFit && itemsFit true items
    | item :: items => item.starsFit && itemsFit met items

def Expr.targetFits (target : Expr) : Bool := target.starsFit && !target.targetNames.contains reserved

def clauseIsAsync : Expr → Bool
  | .clause _ _ _ isAsync => isAsync
  | _ => false

mutual

/-- Whether an expression keeps the rules where it stands. -/
def Expr.fits (setting : Setting) : Expr → Bool
  | .name _ | .literal _ => true
  | .joined pieces => allFit setting pieces
  | .field value _ layout => value.fits setting && anyFits setting layout
  | .logical _ operands => allFit setting operands
  | .bind target value =>
      let names := target.targetNames
      !setting.inSource && target.targetFits && !(names.any setting.taken.contains) &&
        !(setting.inGathering && setting.inClass) && value.fits setting
  | .binary left _ right => left.fits setting && right.fits setting
  | .unary _ operand => operand.fits setting
  | .lambda parameters body =>
      let names := parameterNames parameters
      !hasRepeat names && !names.contains reserved && allFit setting parameters &&
        body.fits (setting.inBody false (names ++ body.binds))
  | .parameter _ _ annotated default => anyFits setting annotated && anyFits setting default
  | .conditional test yes no => test.fits setting && yes.fits setting && no.fits setting
  | .mapping entries => allFit setting entries
  | .entry key value => anyFits setting key && value.fits setting
  | .set items | .list items | .tuple items => itemsFit setting items
  | .gather gathering element clauses =>
      let inner := { setting with inGathering := true, taken := clauseNames clauses ++ setting.taken }
      (gathering = .generator || !clauses.any clauseIsAsync || setting.canLoopAsync) &&
        element.fits inner && clausesFit setting inner clauses
  | .gatherMapping key value clauses =>
      let inner := { setting with inGathering := true, taken := clauseNames clauses ++ setting.taken }
      (!clauses.any clauseIsAsync || setting.canLoopAsync) && key.fits inner && value.fits inner &&
        clausesFit setting inner clauses
  | .clause target source conditions _ =>
      target.targetFits && source.fits setting && allFit setting conditions
  | .await value => setting.canAwait && value.fits setting
  | .yield value => setting.inFunction && !setting.inGathering && anyFits setting value
  | .yieldFrom value =>
      setting.inFunction && !setting.inGathering && !setting.isAsync && value.fits setting
  | .compare first _ rest => first.fits setting && allFit setting rest
  | .call callee arguments keywords =>
      !hasRepeat (keywordNames keywords) && !(keywordNames keywords).contains reserved &&
        callee.fits setting && itemsFit setting arguments && allFit setting keywords
  | .keyword _ value => value.fits setting
  | .member object _ => object.fits setting
  | .subscript object index => object.fits setting && index.fits setting
  | .starred _ => false
  | .slice lower upper step => anyFits setting lower && anyFits setting upper && anyFits setting step

def allFit (setting : Setting) : List Expr → Bool
  | [] => true
  | expression :: rest => expression.fits setting && allFit setting rest

def anyFits (setting : Setting) : Option Expr → Bool
  | none => true
  | some expression => expression.fits setting

/-- Items, on which stars may stand. -/
def itemsFit (setting : Setting) : List Expr → Bool
  | [] => true
  | .starred value :: rest => value.fits setting && itemsFit setting rest
  | expression :: rest => expression.fits setting && itemsFit setting rest

/-- Clauses of a gathering: the first source stands outside of it. -/
def clausesFit (outer inner : Setting) : List Expr → Bool
  | [] => true
  | .clause target source conditions _ :: rest =>
      target.targetFits && target.fits inner &&
        source.fits { outer with inSource := true } &&
        allFit inner conditions && clausesFit { inner with inSource := true } inner rest
  | expression :: rest => expression.fits inner && clausesFit inner inner rest

end

def Expr.fitsAsTarget (setting : Setting) (target : Expr) : Bool :=
  target.targetFits && target.fits setting

/-! Statements. -/

/-- What happens to names, in the order of the text. -/
inductive NameEvent
  | touched (name : String)
  | declared (name : String)

mutual

/-- The names that an expression touches, apart from the functions in it. -/
def Expr.touches : Expr → List String
  | .name text => [text]
  | .literal _ => []
  | .joined pieces => touchedBy pieces
  | .field value _ layout => value.touches ++ touchedByAny layout
  | .logical _ operands => touchedBy operands
  | .bind target value => target.touches ++ value.touches
  | .binary left _ right => left.touches ++ right.touches
  | .unary _ operand => operand.touches
  | .lambda parameters _ => touchedBy parameters
  | .parameter _ _ annotated default => touchedByAny annotated ++ touchedByAny default
  | .conditional test yes no => test.touches ++ yes.touches ++ no.touches
  | .mapping entries => touchedBy entries
  | .entry key value => touchedByAny key ++ value.touches
  | .set items | .list items | .tuple items => touchedBy items
  | .gather _ _ clauses | .gatherMapping _ _ clauses => touchedByFirst clauses
  | .clause _ source _ _ => source.touches
  | .await value | .yieldFrom value | .starred value => value.touches
  | .yield value => touchedByAny value
  | .compare first _ rest => first.touches ++ touchedBy rest
  | .call callee arguments keywords => callee.touches ++ touchedBy arguments ++ touchedBy keywords
  | .keyword _ value => value.touches
  | .member object _ => object.touches
  | .subscript object index => object.touches ++ index.touches
  | .slice lower upper step => touchedByAny lower ++ touchedByAny upper ++ touchedByAny step

def touchedBy : List Expr → List String
  | [] => []
  | expression :: rest => expression.touches ++ touchedBy rest

def touchedByFirst : List Expr → List String
  | [] => []
  | expression :: _ => expression.touches

def touchedByAny : Option Expr → List String
  | none => []
  | some expression => expression.touches

end

mutual

def Stmt.events : Stmt → List NameEvent
  | .expression value => value.touches.map .touched
  | .assign targets value => (value.touches ++ touchedBy targets).map .touched
  | .augment target _ value => (target.touches ++ value.touches).map .touched
  | .annotate target annotated value =>
      (target.touches ++ annotated.touches ++ touchedByAny value).map .touched
  | .delete targets => (touchedBy targets).map .touched
  | .pass | .leave | .next => []
  | .give value => (touchedByAny value).map .touched
  | .raise error cause => (touchedByAny error ++ touchedByAny cause).map .touched
  | .assert test message => (test.touches ++ touchedByAny message).map .touched
  | .load modules => (Stmt.load modules).binds.map .touched
  | .loadFrom module level names => (Stmt.loadFrom module level names).binds.map .touched
  | .global names | .nonlocal names => names.map .declared
  | .choose test body otherwise | .whileLoop test body otherwise =>
      test.touches.map .touched ++ eventsIn body ++ eventsIn otherwise
  | .forLoop target source body otherwise _ =>
      (target.touches ++ source.touches).map .touched ++ eventsIn body ++ eventsIn otherwise
  | .within items body _ =>
      (items.flatMap fun (value, target) => (value.touches ++ touchedByAny target).map .touched) ++
        eventsIn body
  | .guard body handlers otherwise last _ =>
      eventsIn body ++ eventsIn handlers ++ eventsIn otherwise ++ eventsIn last
  | .handler kind name body =>
      (touchedByAny kind ++ name.toList).map .touched ++ eventsIn body
  | .define name parameters result decorators _ _ =>
      (touchedBy decorators ++ touchedBy parameters ++ touchedByAny result ++ [name]).map .touched
  | .classDefinition name bases keywords decorators _ =>
      (touchedBy decorators ++ touchedBy bases ++ touchedBy keywords ++ [name]).map .touched

def eventsIn : List Stmt → List NameEvent
  | [] => []
  | statement :: rest => statement.events ++ eventsIn rest

end

/-- Whether every declaration of a name comes before the name is touched. -/
def declaredFirst (touched : List String) : List NameEvent → Bool
  | [] => true
  | .touched name :: rest => declaredFirst (name :: touched) rest
  | .declared name :: rest => !touched.contains name && declaredFirst touched rest

/-- Whether the declarations of names in a scope agree with each other and with what is around. -/
def declarationsFit (setting : Setting) (parameters : List String) (body : List Stmt) : Bool :=
  let globals := declaredIn true body
  let nonlocals := declaredIn false body
  declaredFirst parameters (eventsIn body) && !(globals.any nonlocals.contains) &&
    nonlocals.all setting.enclosing.contains

def bareHandlerIsLast : List Stmt → Bool
  | .handler none _ _ :: rest => rest.isEmpty
  | _ :: rest => bareHandlerIsLast rest
  | [] => true

mutual

def Stmt.fits (setting : Setting) : Stmt → Bool
  | .expression value => value.fits setting
  | .assign targets value => (targets.all fun target => target.fitsAsTarget setting) && value.fits setting
  | .augment target _ value => target.fitsAsTarget setting && value.fits setting
  | .annotate target annotated value =>
      target.fitsAsTarget setting && annotated.fits setting && anyFits setting value
  | .delete targets => targets.all fun target => target.fitsAsTarget setting
  | .pass | .global _ => true
  | .leave | .next => setting.inLoop
  | .give value => setting.inFunction && anyFits setting value
  | .raise error cause => anyFits setting error && anyFits setting cause
  | .assert test message => test.fits setting && anyFits setting message
  | .load _ => true
  | .loadFrom _ _ names =>
      !(names.any fun (name, _) => name = "*") || (!setting.inFunction && !setting.inClass)
  | .nonlocal _ => setting.inFunction || setting.inClass
  | .choose test body otherwise => test.fits setting && blockFits setting body && blockFits setting otherwise
  | .whileLoop test body otherwise =>
      test.fits setting && blockFits { setting with inLoop := true } body && blockFits setting otherwise
  | .forLoop target source body otherwise isAsync =>
      (!isAsync || setting.canLoopAsync) && target.fitsAsTarget setting && source.fits setting &&
        blockFits { setting with inLoop := true } body && blockFits setting otherwise
  | .within items body isAsync =>
      (!isAsync || setting.canLoopAsync) &&
        (items.all fun (value, target) => value.fits setting && match target with
          | some target => target.fitsAsTarget setting
          | none => true) && blockFits setting body
  | .guard body handlers otherwise last _ =>
      bareHandlerIsLast handlers && blockFits setting body && blockFits setting handlers &&
        blockFits setting otherwise && blockFits setting last
  | .handler kind name body => anyFits setting kind && name ≠ some reserved && blockFits setting body
  | .define name parameters result decorators body isAsync =>
      let names := parameterNames parameters
      let inner := setting.inBody isAsync (localNames parameters body)
      name ≠ reserved && !hasRepeat names && !names.contains reserved && allFit setting decorators &&
        allFit setting parameters && anyFits setting result && declarationsFit setting names body &&
        blockFits inner body
  | .classDefinition name bases keywords decorators body =>
      name ≠ reserved && !hasRepeat (keywordNames keywords) && allFit setting decorators &&
        itemsFit setting bases && allFit setting keywords && declarationsFit setting [] body &&
        blockFits { inClass := true, mayWait := setting.mayWait, enclosing := setting.enclosing } body

def blockFits (setting : Setting) : List Stmt → Bool
  | [] => true
  | statement :: rest => statement.fits setting && blockFits setting rest

end

/-- Whether a program keeps the rules. -/
def programFits (program : List Stmt) : Bool :=
  declarationsFit {} [] program && blockFits {} program

end LiveShell.Code
