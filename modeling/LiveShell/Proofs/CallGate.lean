import LiveShell.Evaluation.Expression
import LiveShell.Proofs.ExpressionParts
import LiveShell.Session.Guard

/-!
A gate that nothing meets. Where every call is by the name of a pure built-in function, and no name that is kept
around the call hides it, a gate that lets the values of those names pass is as good as none. This is the run-time
half of what the guard decides on the tree.
-/

namespace LiveShell.Run

open Code (Expr Part)

set_option autoImplicit false

/-- A scope outside of class bodies whose frames keep only some names. -/
structure KeepsOnly (kept : List String) (scope : Scope) : Prop where
  noClass : scope.classSpace = none
  frames : ∀ frame ∈ scope.frames, ∀ name ∈ frame.names, name ∈ kept

/-- A gate lets pass what the name of a pure function stands for wherever no frame keeps that name. -/
def Gate.Admits (gate : Gate) : Prop :=
  ∀ (scope : Scope) (kept : List String) (name : String), KeepsOnly kept scope → name ∈ Guard.pureNames →
    name ∉ kept → ∀ {α : Type} (next : Value → Run α),
      (do let value ← lookUp scope name; gate scope value; next value) =
        (do let value ← lookUp scope name; next value)

/-- Every call within a part is by the name of a pure function that is not kept around it. -/
def IsClean (part : Part) : Prop :=
  part.CallsSatisfy fun kept callee => ∃ name ∈ Guard.pureNames, callee = .name name ∧ name ∉ kept

theorem inner_scope_bind {α : Type} {kept names : List String} {scope : Scope} (keeps : KeepsOnly kept scope)
    (bindings : List (String × Value)) (qualifier : String) (first second : Scope → Run α)
    (same : ∀ inner, KeepsOnly (names ++ kept) inner → first inner = second inner) :
    (innerScope scope names bindings qualifier >>= first) =
      (innerScope scope names bindings qualifier >>= second) := by
  simp only [innerScope, bind_assoc, pure_bind]
  apply bind_congr
  intro address
  apply same
  refine ⟨rfl, ?_⟩
  intro frame member name known
  rcases List.mem_cons.mp member with rfl | outer
  · exact List.mem_append_left _ known
  · exact List.mem_append_right _ (keeps.frames frame outer name known)

section Gated

variable {engine : Engine} {gate : Gate}

/-- The gate changes nothing when an expression is evaluated in a scope. -/
abbrev Agrees (engine : Engine) (gate : Gate) (scope : Scope) (expression : Expr) : Prop :=
  Gated.evaluate engine gate scope expression = Gated.evaluate engine .free scope expression

/-- The gate changes nothing in a scope that keeps what is kept around a part, whether the part is evaluated or
stands as a target. -/
def AgreesWithin (engine : Engine) (gate : Gate) (part : Part) : Prop :=
  ∀ scope, KeepsOnly part.kept scope → Agrees engine gate scope part.expression ∧
    ∀ value, Gated.assign engine gate scope value part.expression =
      Gated.assign engine .free scope value part.expression

/-! ### Rows of expressions -/

variable {scope : Scope}

theorem any_agrees (expression : Option Expr) (agrees : ∀ inner ∈ expression, Agrees engine gate scope inner) :
    Gated.evaluateAny engine gate scope expression = Gated.evaluateAny engine .free scope expression := by
  cases expression with
  | none => simp only [Gated.evaluateAny]
  | some inner => simp only [Gated.evaluateAny, agrees inner rfl]

theorem pieces_agree {pieces : List Expr} (agree : ∀ piece ∈ pieces, Agrees engine gate scope piece) :
    Gated.evaluatePieces engine gate scope pieces = Gated.evaluatePieces engine .free scope pieces := by
  induction pieces with
  | nil => simp only [Gated.evaluatePieces]
  | cons piece pieces induction =>
      obtain ⟨pieceEq, rest⟩ := List.forall_mem_cons.mp agree
      simp only [Gated.evaluatePieces, pieceEq, induction rest]

theorem logical_agrees (every : Bool) {operands : List Expr}
    (agree : ∀ operand ∈ operands, Agrees engine gate scope operand) :
    Gated.evaluateLogical engine gate scope every operands =
      Gated.evaluateLogical engine .free scope every operands := by
  induction operands with
  | nil => simp only [Gated.evaluateLogical]
  | cons operand operands induction =>
      obtain ⟨operandEq, rest⟩ := List.forall_mem_cons.mp agree
      cases operands with
      | nil => simp only [Gated.evaluateLogical, operandEq]
      | cons => simp only [Gated.evaluateLogical, operandEq, induction rest]

theorem items_agree {items : List Expr} (agree : ∀ item ∈ items, Agrees engine gate scope item) :
    Gated.evaluateItems engine gate scope items = Gated.evaluateItems engine .free scope items := by
  induction items with
  | nil => simp only [Gated.evaluateItems]
  | cons item items induction =>
      obtain ⟨itemEq, rest⟩ := List.forall_mem_cons.mp agree
      unfold Agrees at itemEq
      cases item with
      | starred value =>
          simp only [Gated.evaluate] at itemEq
          simp only [Gated.evaluateItems, itemEq, induction rest]
      | _ => simp only [Gated.evaluateItems, itemEq, induction rest]

theorem arguments_agree (callee : Value) (arguments : List Expr)
    (agree : ∀ argument ∈ arguments, Agrees engine gate scope argument) :
    Gated.evaluateArguments engine gate scope callee arguments =
      Gated.evaluateArguments engine .free scope callee arguments := by
  induction arguments with
  | nil => simp only [Gated.evaluateArguments]
  | cons argument rest induction =>
      obtain ⟨argumentEq, restAgree⟩ := List.forall_mem_cons.mp agree
      unfold Agrees at argumentEq
      cases argument with
      | starred value =>
          simp only [Gated.evaluate] at argumentEq
          cases rest with
          | nil => simp only [Gated.evaluateArguments, argumentEq]
          | cons => simp only [Gated.evaluateArguments, argumentEq, induction restAgree]
      | _ => simp only [Gated.evaluateArguments, argumentEq, induction restAgree]

theorem keywords_agree (callee : Value) (named : List (String × Value)) (keywords : List Expr)
    (agree : ∀ keyword ∈ keywords, Agrees engine gate scope keyword) :
    Gated.evaluateKeywords engine gate scope callee named keywords =
      Gated.evaluateKeywords engine .free scope callee named keywords := by
  induction keywords generalizing named with
  | nil => simp only [Gated.evaluateKeywords]
  | cons keyword rest induction =>
      obtain ⟨keywordEq, restAgree⟩ := List.forall_mem_cons.mp agree
      unfold Agrees at keywordEq
      cases keyword with
      | keyword name value =>
          simp only [Gated.evaluate] at keywordEq
          cases name with
          | none => simp only [Gated.evaluateKeywords, keywordEq, induction _ restAgree]
          | some => simp only [Gated.evaluateKeywords, keywordEq, induction _ restAgree]
      | _ => simp only [Gated.evaluateKeywords, induction _ restAgree]

theorem comparison_agrees (left : Value) (relations : List Code.Relation) {rest : List Expr}
    (agree : ∀ operand ∈ rest, Agrees engine gate scope operand) :
    Gated.evaluateComparison engine gate scope left relations rest =
      Gated.evaluateComparison engine .free scope left relations rest := by
  induction rest generalizing left relations with
  | nil => simp only [Gated.evaluateComparison]
  | cons right rest induction =>
      obtain ⟨rightEq, restAgree⟩ := List.forall_mem_cons.mp agree
      cases rest with
      | nil => simp only [Gated.evaluateComparison, rightEq]
      | cons => simp only [Gated.evaluateComparison, rightEq, induction _ _ restAgree]

theorem hold_agrees {conditions : List Expr}
    (agree : ∀ condition ∈ conditions, Agrees engine gate scope condition) :
    Gated.allHold engine gate scope conditions = Gated.allHold engine .free scope conditions := by
  induction conditions with
  | nil => simp only [Gated.allHold]
  | cons condition rest induction =>
      obtain ⟨conditionEq, restAgree⟩ := List.forall_mem_cons.mp agree
      simp only [Gated.allHold, conditionEq, induction restAgree]

theorem assign_each_agrees (values : List Value) {targets : List Expr}
    (agree : ∀ target ∈ targets, ∀ value,
      Gated.assign engine gate scope value target = Gated.assign engine .free scope value target) :
    Gated.assignEach engine gate scope values targets = Gated.assignEach engine .free scope values targets := by
  induction targets generalizing values with
  | nil => simp only [Gated.assignEach]
  | cons target rest induction =>
      obtain ⟨targetEq, restAgree⟩ := List.forall_mem_cons.mp agree
      simp only [Gated.assignEach, targetEq, induction _ restAgree]

/-! ### Entries, defaults and clauses -/

theorem entries_agree {kept : List String} (keeps : KeepsOnly kept scope) (address : Address)
    {entries : List Expr} (agree : ∀ part ∈ Code.entryParts kept entries, AgreesWithin engine gate part) :
    Gated.evaluateEntries engine gate scope address entries =
      Gated.evaluateEntries engine .free scope address entries := by
  induction entries with
  | nil => simp only [Gated.evaluateEntries]
  | cons item entries induction =>
      cases item with
      | entry key value =>
          have rest := induction fun part member => agree part (by simp [Code.entryParts, member])
          have valueEq := (agree ⟨kept, value⟩ (by simp [Code.entryParts]) scope keeps).1
          cases key with
          | none => simp only [Gated.evaluateEntries, valueEq, rest]
          | some key =>
              have keyEq := (agree ⟨kept, key⟩ (by simp [Code.entryParts]) scope keeps).1
              simp only [Gated.evaluateEntries, keyEq, valueEq, rest]
      | _ => simp only [Gated.evaluateEntries, induction agree]

theorem defaults_agree {kept : List String} (keeps : KeepsOnly kept scope) {parameters : List Expr}
    (agree : ∀ part ∈ Code.defaultParts kept parameters, AgreesWithin engine gate part) :
    Gated.evaluateDefaults engine gate scope parameters =
      Gated.evaluateDefaults engine .free scope parameters := by
  induction parameters with
  | nil => simp only [Gated.evaluateDefaults]
  | cons parameter rest induction =>
      cases parameter with
      | parameter name kind annotated default =>
          cases default with
          | none => simp only [Gated.evaluateDefaults, induction agree]
          | some default =>
              obtain ⟨defaultAgrees, restAgree⟩ := List.forall_mem_cons.mp agree
              simp only [Gated.evaluateDefaults, (defaultAgrees scope keeps).1,
                induction restAgree]
      | _ => simp only [Gated.evaluateDefaults, induction agree]

theorem first_source_agrees {kept innerKept : List String} (keeps : KeepsOnly kept scope) {clauses : List Expr}
    (agree : ∀ part ∈ Code.clauseParts kept innerKept clauses, AgreesWithin engine gate part) :
    Gated.evaluateFirstSource engine gate scope clauses =
      Gated.evaluateFirstSource engine .free scope clauses := by
  cases clauses with
  | nil => simp only [Gated.evaluateFirstSource]
  | cons clause rest =>
      cases clause with
      | clause target source conditions isAsync =>
          have sourceEq := (agree ⟨kept, source⟩ (by simp [Code.clauseParts]) scope keeps).1
          simp only [Gated.evaluateFirstSource, sourceEq]
      | _ => simp only [Gated.evaluateFirstSource]

/-- Only the source of the first clause is evaluated in the outer scope; the scope of the rest is the inner one. -/
theorem gather_agrees {kept innerKept : List String} {outer inner : Scope} (keeps : KeepsOnly kept outer)
    (keepsInner : KeepsOnly innerKept inner) (action : Run Unit) {clauses : List Expr}
    (agree : ∀ part ∈ Code.clauseParts kept innerKept clauses, AgreesWithin engine gate part) :
    Gated.gather engine gate outer inner action clauses =
      Gated.gather engine .free outer inner action clauses := by
  induction clauses generalizing outer kept with
  | nil => simp only [Gated.gather]
  | cons clause rest induction =>
      cases clause with
      | clause target source conditions isAsync =>
          have sourceEq := (agree ⟨kept, source⟩ (by simp [Code.clauseParts]) outer keeps).1
          have targetEq := (agree ⟨innerKept, target⟩ (by simp [Code.clauseParts]) inner keepsInner).2
          have conditionsEq : Gated.allHold engine gate inner conditions =
              Gated.allHold engine .free inner conditions := hold_agrees fun condition member =>
            (agree ⟨innerKept, condition⟩ (by simp [Code.clauseParts, member]) inner keepsInner).1
          have restEq := induction keepsInner fun part member =>
            agree part (by simp [Code.clauseParts, member])
          simp only [Gated.gather, sourceEq, targetEq, conditionsEq, restEq]
      | _ => simp only [Gated.gather, induction keeps (List.forall_mem_cons.mp agree).2]

/-! ### Expressions -/

/-- One step of the induction: when the gate changes nothing for the parts directly within a clean part, it changes
nothing for the part. Only for a call it matters that the gate admits the callee. -/
theorem evaluate_agrees_step (admits : gate.Admits) (part : Part) (clean : IsClean part)
    (inside : ∀ inner ∈ part.inside, AgreesWithin engine gate inner) (keeps : KeepsOnly part.kept scope) :
    Agrees engine gate scope part.expression := by
  obtain ⟨kept, expression⟩ := part
  have here : ∀ inner, ⟨kept, inner⟩ ∈ Part.inside ⟨kept, expression⟩ → Agrees engine gate scope inner :=
    fun inner member => (inside _ member scope keeps).1
  unfold Agrees
  cases expression with
  | name | literal | parameter => simp only [Gated.evaluate]
  | joined pieces =>
      simp only [Gated.evaluate, pieces_agree fun piece member => here piece (List.mem_map_of_mem member)]
  | field value conversion layout =>
      have layoutEq := any_agrees layout fun inner member =>
        here inner (by simp [Part.inside, Option.mem_def.mp member])
      simp only [Gated.evaluate, here value List.mem_cons_self, layoutEq]
  | logical every operands =>
      simp only [Gated.evaluate,
        logical_agrees every fun operand member => here operand (List.mem_map_of_mem member)]
  | bind target value =>
      have targetEq := (inside ⟨kept, target⟩ (by simp [Part.inside]) scope keeps).2
      simp only [Gated.evaluate, here value (by simp [Part.inside]), targetEq]
  | binary left operator right =>
      simp only [Gated.evaluate, here left (by simp [Part.inside]),
        here right (by simp [Part.inside])]
  | unary _ value | entry _ value | await value | yieldFrom value | keyword _ value | member value _
  | starred value =>
      simp only [Gated.evaluate, here value List.mem_cons_self]
  | lambda parameters body =>
      have defaultsEq := defaults_agree keeps fun part member => inside part (List.mem_cons_of_mem _ member)
      simp only [Gated.evaluate, defaultsEq]
  | conditional test yes no =>
      simp only [Gated.evaluate, here test (by simp [Part.inside]),
        here yes (by simp [Part.inside]), here no (by simp [Part.inside])]
  | mapping entries =>
      have entriesEq := fun address => entries_agree keeps address inside
      simp only [Gated.evaluate, entriesEq]
  | set items | list items | tuple items =>
      simp only [Gated.evaluate, items_agree fun item member => here item (List.mem_map_of_mem member)]
  | gather gathering element clauses =>
      have clausesAgree : ∀ part ∈ Code.clauseParts kept (Code.clauseNames clauses ++ kept) clauses,
          AgreesWithin engine gate part := fun part member => inside part (List.mem_cons_of_mem _ member)
      have elementAgrees := inside ⟨Code.clauseNames clauses ++ kept, element⟩ List.mem_cons_self
      cases gathering with
      | generator => simp only [Gated.evaluate, first_source_agrees keeps clausesAgree]
      | list | set =>
          simp only [Gated.evaluate]
          apply bind_congr
          intro gathered
          apply inner_scope_bind keeps
          intro inner keepsInner
          rw [(elementAgrees inner keepsInner).1,
            gather_agrees keeps keepsInner _ clausesAgree]
  | gatherMapping key value clauses =>
      have clausesAgree : ∀ part ∈ Code.clauseParts kept (Code.clauseNames clauses ++ kept) clauses,
          AgreesWithin engine gate part := fun part member =>
        inside part (List.mem_cons_of_mem _ (List.mem_cons_of_mem _ member))
      have keyAgrees := inside ⟨Code.clauseNames clauses ++ kept, key⟩ (by simp [Part.inside])
      have valueAgrees := inside ⟨Code.clauseNames clauses ++ kept, value⟩ (by simp [Part.inside])
      simp only [Gated.evaluate]
      apply bind_congr
      intro gathered
      apply inner_scope_bind keeps
      intro inner keepsInner
      simp only [(keyAgrees inner keepsInner).1,
        (valueAgrees inner keepsInner).1, gather_agrees keeps keepsInner _ clausesAgree]
  | clause target source conditions isAsync =>
      simp only [Gated.evaluate, here source List.mem_cons_self]
  | yield value =>
      have valueEq := any_agrees value fun inner member =>
        here inner (by simp [Part.inside, Option.mem_def.mp member])
      simp only [Gated.evaluate, valueEq]
  | compare first relations rest =>
      have restEq := fun left => comparison_agrees left relations fun operand member =>
        here operand (List.mem_map_of_mem (List.mem_cons_of_mem _ member))
      simp only [Gated.evaluate, here first List.mem_cons_self, restEq]
  | call callee arguments keywords =>
      obtain ⟨name, known, isName, visible⟩ := clean.callee
      subst isName
      have argumentsEq := fun value => arguments_agree value arguments fun argument member =>
        here argument (List.mem_map_of_mem (by simp [member]))
      have keywordsEq := fun value => keywords_agree value [] keywords fun keyword member =>
        here keyword (List.mem_map_of_mem (by simp [member]))
      simp only [Gated.evaluate, argumentsEq, keywordsEq]
      exact admits scope kept name keeps known visible _
  | subscript object index =>
      simp only [Gated.evaluate, here object (by simp [Part.inside]),
        here index (by simp [Part.inside])]
  | slice lower upper step =>
      have lowerEq := any_agrees lower fun inner member =>
        here inner (by simp [Part.inside, Option.mem_def.mp member])
      have upperEq := any_agrees upper fun inner member =>
        here inner (by simp [Part.inside, Option.mem_def.mp member])
      have stepEq := any_agrees step fun inner member =>
        here inner (by simp [Part.inside, Option.mem_def.mp member])
      simp only [Gated.evaluate, lowerEq, upperEq, stepEq]

theorem assign_agrees_step (part : Part) (inside : ∀ inner ∈ part.inside, AgreesWithin engine gate inner)
    (keeps : KeepsOnly part.kept scope) (value : Value) :
    Gated.assign engine gate scope value part.expression =
      Gated.assign engine .free scope value part.expression := by
  obtain ⟨kept, expression⟩ := part
  have here : ∀ inner, ⟨kept, inner⟩ ∈ Part.inside ⟨kept, expression⟩ → Agrees engine gate scope inner :=
    fun inner member => (inside _ member scope keeps).1
  have targets : ∀ inner, ⟨kept, inner⟩ ∈ Part.inside ⟨kept, expression⟩ → ∀ value,
      Gated.assign engine gate scope value inner = Gated.assign engine .free scope value inner :=
    fun inner member => (inside _ member scope keeps).2
  cases expression with
  | member object name => simp only [Gated.assign, here object List.mem_cons_self]
  | subscript object index =>
      simp only [Gated.assign, here object (by simp [Part.inside]),
        here index (by simp [Part.inside])]
  | starred target => simp only [Gated.assign, targets target List.mem_cons_self]
  | tuple items | list items =>
      have itemsEq := fun values => assign_each_agrees values fun item member =>
        targets item (List.mem_map_of_mem member)
      simp only [Gated.assign, itemsEq]
  | _ => simp only [Gated.assign]

/-- A gate that admits the pure functions changes nothing for a clean part, in any scope that fits it. -/
theorem clean_part_agrees (engine : Engine) (admits : gate.Admits) (part : Part) (clean : IsClean part) :
    AgreesWithin engine gate part := by
  induction part using Part.inside_induction with
  | step part induction =>
      intro scope keeps
      have inside : ∀ inner ∈ part.inside, AgreesWithin engine gate inner := fun inner member =>
        induction inner member (clean.of_inside member)
      exact ⟨evaluate_agrees_step admits part clean inside keeps,
        assign_agrees_step part inside keeps⟩

end Gated

end LiveShell.Run
