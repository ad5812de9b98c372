import LiveShell.Code.Binding

/-!
The parts of an expression with the names around them. A function and a gathering keep names to themselves, so a
name within one need not mean what it means outside. A part is told with all the names that are kept around it,
and what is asked of the calls of an expression is asked of the calls among its parts.
-/

namespace LiveShell.Code

set_option autoImplicit false

/-- A part of an expression, with the names that the functions and gatherings around it keep. -/
structure Part where
  kept : List String
  expression : Expr

/-- The parts of entries of a mapping. -/
def entryParts (kept : List String) : List Expr → List Part
  | [] => []
  | .entry key value :: rest => key.toList.map (⟨kept, ·⟩) ++ ⟨kept, value⟩ :: entryParts kept rest
  | _ :: rest => entryParts kept rest

/-- The defaults of parameters. -/
def defaultParts (kept : List String) : List Expr → List Part
  | [] => []
  | .parameter _ _ _ (some default) :: rest => ⟨kept, default⟩ :: defaultParts kept rest
  | _ :: rest => defaultParts kept rest

/-- The parts of clauses: only the source of the first one stands outside. -/
def clauseParts (outer inner : List String) : List Expr → List Part
  | [] => []
  | .clause target source conditions _ :: rest =>
      ⟨outer, source⟩ :: ⟨inner, target⟩ :: conditions.map (⟨inner, ·⟩) ++ clauseParts inner inner rest
  | other :: rest => ⟨inner, other⟩ :: clauseParts outer inner rest

/-- The parts that are directly within a part. -/
def Part.inside (part : Part) : List Part :=
  let here (expressions : List Expr) : List Part := expressions.map (⟨part.kept, ·⟩)
  match part.expression with
  | .name _ | .literal _ | .parameter .. => []
  | .joined pieces => here pieces
  | .field value _ layout => here (value :: layout.toList)
  | .logical _ operands => here operands
  | .bind target value => here [target, value]
  | .binary left _ right => here [left, right]
  | .unary _ operand => here [operand]
  | .lambda parameters body =>
      ⟨parameterNames parameters ++ body.binds ++ part.kept, body⟩ :: defaultParts part.kept parameters
  | .conditional test yes no => here [test, yes, no]
  | .mapping entries => entryParts part.kept entries
  | .entry _ value => here [value]
  | .set items | .list items | .tuple items => here items
  | .gather _ element clauses =>
      let inner := clauseNames clauses ++ part.kept
      ⟨inner, element⟩ :: clauseParts part.kept inner clauses
  | .gatherMapping key value clauses =>
      let inner := clauseNames clauses ++ part.kept
      ⟨inner, key⟩ :: ⟨inner, value⟩ :: clauseParts part.kept inner clauses
  | .clause target source conditions _ => here (source :: target :: conditions)
  | .await value | .yieldFrom value | .starred value | .keyword _ value => here [value]
  | .yield value => here value.toList
  | .compare first _ rest => here (first :: rest)
  | .call callee arguments keywords => here (callee :: (arguments ++ keywords))
  | .member object _ => here [object]
  | .subscript object index => here [object, index]
  | .slice lower upper step => here (lower.toList ++ upper.toList ++ step.toList)

theorem entry_parts_smaller (kept : List String) (entries : List Expr) :
    ∀ part ∈ entryParts kept entries, sizeOf part.expression < sizeOf entries := by
  fun_induction entryParts kept entries with
  | case1 => simp
  | case2 key value rest induction =>
      intro part member
      rcases List.mem_append.mp member with inKey | inRest
      · obtain ⟨found, known, rfl⟩ := List.mem_map.mp inKey
        rw [Option.mem_toList] at known
        simp only [Option.mem_def.mp known, List.cons.sizeOf_spec, Expr.entry.sizeOf_spec,
          Option.some.sizeOf_spec]
        omega
      · rcases List.mem_cons.mp inRest with rfl | later
        · simp only [List.cons.sizeOf_spec, Expr.entry.sizeOf_spec]
          omega
        · have smaller := induction part later
          simp only [List.cons.sizeOf_spec]
          omega
  | case3 other rest _ induction =>
      intro part member
      have smaller := induction part member
      simp only [List.cons.sizeOf_spec]
      omega

theorem default_parts_smaller (kept : List String) (parameters : List Expr) :
    ∀ part ∈ defaultParts kept parameters, sizeOf part.expression < sizeOf parameters := by
  fun_induction defaultParts kept parameters with
  | case1 => simp
  | case2 name kind annotated default rest induction =>
      intro part member
      rcases List.mem_cons.mp member with rfl | later
      · simp only [List.cons.sizeOf_spec, Expr.parameter.sizeOf_spec, Option.some.sizeOf_spec]
        omega
      · have smaller := induction part later
        simp only [List.cons.sizeOf_spec]
        omega
  | case3 other rest _ induction =>
      intro part member
      have smaller := induction part member
      simp only [List.cons.sizeOf_spec]
      omega

theorem clause_parts_smaller (outer inner : List String) (clauses : List Expr) :
    ∀ part ∈ clauseParts outer inner clauses, sizeOf part.expression < sizeOf clauses := by
  fun_induction clauseParts outer inner clauses with
  | case1 => simp
  | case2 outer target source conditions isAsync rest induction =>
      intro part member
      simp only [List.cons_append, List.mem_cons, List.mem_append, List.mem_map] at member
      simp only [List.cons.sizeOf_spec, Expr.clause.sizeOf_spec]
      rcases member with rfl | rfl | ⟨condition, known, rfl⟩ | later
      · show sizeOf source < _
        omega
      · show sizeOf target < _
        omega
      · have smaller := List.sizeOf_lt_of_mem known
        show sizeOf condition < _
        omega
      · have smaller := induction part later
        omega
  | case3 outer other rest _ induction =>
      intro part member
      simp only [List.cons.sizeOf_spec]
      rcases List.mem_cons.mp member with rfl | later
      · show sizeOf other < _
        omega
      · have smaller := induction part later
        omega

theorem option_parts_smaller {kept : List String} {expression : Option Expr} {part : Part}
    (member : part ∈ expression.toList.map fun inner => (⟨kept, inner⟩ : Part)) :
    sizeOf part.expression < sizeOf expression := by
  obtain ⟨found, known, rfl⟩ := List.mem_map.mp member
  rw [Option.mem_toList] at known
  rw [Option.mem_def.mp known, Option.some.sizeOf_spec]
  exact Nat.lt_add_of_pos_left Nat.one_pos

theorem list_parts_smaller {kept : List String} {expressions : List Expr} {part : Part}
    (member : part ∈ expressions.map fun inner => (⟨kept, inner⟩ : Part)) :
    sizeOf part.expression < sizeOf expressions := by
  obtain ⟨found, known, rfl⟩ := List.mem_map.mp member
  exact List.sizeOf_lt_of_mem known

theorem inside_smaller (part : Part) : ∀ inner ∈ part.inside, sizeOf inner.expression < sizeOf part.expression := by
  obtain ⟨kept, expression⟩ := part
  intro inner member
  cases expression with
  | name | literal | parameter => simp [Part.inside] at member
  | joined items | logical _ items | set items | list items | tuple items =>
      have smaller := list_parts_smaller member
      simp only [Expr.joined.sizeOf_spec, Expr.logical.sizeOf_spec, Expr.set.sizeOf_spec, Expr.list.sizeOf_spec,
        Expr.tuple.sizeOf_spec]
      omega
  | lambda parameters body =>
      rcases List.mem_cons.mp member with rfl | default
      · show sizeOf body < _
        simp only [Expr.lambda.sizeOf_spec]
        omega
      · have smaller := default_parts_smaller kept parameters inner default
        simp only [Expr.lambda.sizeOf_spec]
        omega
  | mapping entries =>
      have smaller := entry_parts_smaller kept entries inner member
      simp only [Expr.mapping.sizeOf_spec]
      omega
  | gather _ element clauses =>
      rcases List.mem_cons.mp member with rfl | clause
      · show sizeOf element < _
        simp only [Expr.gather.sizeOf_spec]
        omega
      · have smaller := clause_parts_smaller _ _ clauses inner clause
        simp only [Expr.gather.sizeOf_spec]
        omega
  | gatherMapping key value clauses =>
      rcases List.mem_cons.mp member with rfl | inValue
      · show sizeOf key < _
        simp only [Expr.gatherMapping.sizeOf_spec]
        omega
      · rcases List.mem_cons.mp inValue with rfl | clause
        · show sizeOf value < _
          simp only [Expr.gatherMapping.sizeOf_spec]
          omega
        · have smaller := clause_parts_smaller _ _ clauses inner clause
          simp only [Expr.gatherMapping.sizeOf_spec]
          omega
  | yield value =>
      have smaller := option_parts_smaller member
      simp only [Expr.yield.sizeOf_spec]
      omega
  | bind | binary | unary | conditional | entry | await | yieldFrom | starred | keyword | member | subscript =>
      obtain ⟨found, known, rfl⟩ := List.mem_map.mp member
      simp only [List.mem_cons, List.not_mem_nil, or_false] at known
      simp only [Expr.bind.sizeOf_spec, Expr.binary.sizeOf_spec, Expr.unary.sizeOf_spec,
        Expr.conditional.sizeOf_spec, Expr.entry.sizeOf_spec, Expr.await.sizeOf_spec, Expr.yieldFrom.sizeOf_spec,
        Expr.starred.sizeOf_spec, Expr.keyword.sizeOf_spec, Expr.member.sizeOf_spec, Expr.subscript.sizeOf_spec]
      grind
  | field value conversion layout =>
      rcases List.mem_cons.mp member with rfl | inLayout
      · show sizeOf value < _
        simp only [Expr.field.sizeOf_spec]
        omega
      · have smaller := option_parts_smaller inLayout
        simp only [Expr.field.sizeOf_spec]
        omega
  | clause target source conditions isAsync =>
      simp only [Expr.clause.sizeOf_spec]
      rcases List.mem_cons.mp member with rfl | inTarget
      · show sizeOf source < _
        omega
      · rcases List.mem_cons.mp inTarget with rfl | condition
        · show sizeOf target < _
          omega
        · have smaller := list_parts_smaller condition
          omega
  | compare first relations rest =>
      simp only [Expr.compare.sizeOf_spec]
      rcases List.mem_cons.mp member with rfl | inRest
      · show sizeOf first < _
        omega
      · have smaller := list_parts_smaller inRest
        omega
  | call callee arguments keywords =>
      simp only [Expr.call.sizeOf_spec]
      rcases List.mem_cons.mp member with rfl | inRest
      · show sizeOf callee < _
        omega
      · rw [List.map_append] at inRest
        rcases List.mem_append.mp inRest with argument | keyword
        · have smaller := list_parts_smaller argument
          omega
        · have smaller := list_parts_smaller keyword
          omega
  | slice lower upper step =>
      simp only [Expr.slice.sizeOf_spec]
      simp only [Part.inside, List.map_append] at member
      rcases List.mem_append.mp member with inBounds | inStep
      · rcases List.mem_append.mp inBounds with inLower | inUpper
        · have smaller := option_parts_smaller inLower
          omega
        · have smaller := option_parts_smaller inUpper
          omega
      · have smaller := option_parts_smaller inStep
        omega

/-- What holds of a part when it holds of the parts directly within it, holds of every part. -/
theorem Part.inside_induction {motive : Part → Prop}
    (step : ∀ part : Part, (∀ inner ∈ part.inside, motive inner) → motive part) (part : Part) : motive part :=
  step part fun inner _ => Part.inside_induction step inner
termination_by sizeOf part.expression
decreasing_by exact inside_smaller part inner ‹_›

/-- The parts within a part at any depth, itself included. -/
inductive Part.Holds : Part → Part → Prop
  | self (part : Part) : Part.Holds part part
  | step {outer inner part : Part} : inner ∈ outer.inside → Part.Holds inner part → Part.Holds outer part

theorem Part.Holds.trans {outer middle inner : Part} (first : outer.Holds middle) (second : middle.Holds inner) :
    outer.Holds inner := by
  induction first with
  | self => exact second
  | step member _ induction => exact .step member (induction second)

/-- Every call within a part has a callee that is allowed under the names kept there. -/
def Part.CallsSatisfy (allowed : List String → Expr → Prop) (part : Part) : Prop :=
  ∀ call, part.Holds call → ∀ callee arguments keywords,
    call.expression = .call callee arguments keywords → allowed call.kept callee

/-- No call within a part is by a name that a function or a gathering around it keeps. -/
def Part.Unshadowed (part : Part) : Prop :=
  part.CallsSatisfy fun kept callee => ∀ name, callee = .name name → name ∉ kept

namespace Part.CallsSatisfy

variable {allowed : List String → Expr → Prop}

theorem of_inside {outer inner : Part} (satisfied : outer.CallsSatisfy allowed) (member : inner ∈ outer.inside) :
    inner.CallsSatisfy allowed :=
  fun call holds => satisfied call (.step member holds)

theorem of_holds {outer inner : Part} (satisfied : outer.CallsSatisfy allowed) (holds : outer.Holds inner) :
    inner.CallsSatisfy allowed :=
  fun call within => satisfied call (holds.trans within)

theorem callee {kept : List String} {callee : Expr} {arguments keywords : List Expr}
    (satisfied : Part.CallsSatisfy allowed ⟨kept, .call callee arguments keywords⟩) : allowed kept callee :=
  satisfied _ (.self _) callee arguments keywords rfl

theorem intro {part : Part} (inside : ∀ inner ∈ part.inside, inner.CallsSatisfy allowed)
    (here : ∀ callee arguments keywords, part.expression = .call callee arguments keywords →
      allowed part.kept callee) : part.CallsSatisfy allowed := by
  intro call holds callee arguments keywords isCall
  cases holds with
  | self => exact here callee arguments keywords isCall
  | step member rest => exact inside _ member call rest callee arguments keywords isCall

end Part.CallsSatisfy

/-! ### Deciding -/

/-- All parts within a part, itself included. -/
def Part.all (part : Part) : List Part := part :: part.inside.attach.flatMap fun inner => inner.1.all
termination_by sizeOf part.expression
decreasing_by exact inside_smaller part inner.1 inner.2

theorem Part.mem_all {part inner : Part} : inner ∈ part.all ↔ part.Holds inner := by
  constructor
  · intro member
    induction part using Part.inside_induction with
    | step part induction =>
        rw [Part.all] at member
        rcases List.mem_cons.mp member with rfl | deeper
        · exact .self _
        · obtain ⟨⟨next, inside⟩, _, found⟩ := List.mem_flatMap.mp deeper
          exact .step inside (induction next inside found)
  · intro holds
    induction holds with
    | self part =>
        rw [Part.all]
        exact List.mem_cons_self
    | step member _ induction =>
        rw [Part.all]
        exact List.mem_cons_of_mem _ (List.mem_flatMap.mpr ⟨⟨_, member⟩, List.mem_attach _ _, induction⟩)

/-- Whether a part is a call by a name that is kept around it. -/
def Part.isShadowedCall (part : Part) : Bool :=
  match part.expression with
  | .call (.name name) _ _ => part.kept.contains name
  | _ => false

theorem Part.unshadowed_iff (part : Part) :
    (∀ call ∈ part.all, call.isShadowedCall = false) ↔ part.Unshadowed := by
  constructor
  · intro none call holds callee arguments keywords isCall name isName
    have here := none call (Part.mem_all.mpr holds)
    simpa [Part.isShadowedCall, isCall, isName] using here
  · intro unshadowed call member
    unfold Part.isShadowedCall
    split
    · next name arguments keywords isCall =>
        simpa using unshadowed call (Part.mem_all.mp member) _ _ _ isCall name rfl
    · rfl

instance (part : Part) : Decidable part.Unshadowed := decidable_of_iff _ part.unshadowed_iff

end LiveShell.Code
