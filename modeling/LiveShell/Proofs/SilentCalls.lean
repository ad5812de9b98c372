import LiveShell.Proofs.CallGate
import LiveShell.Proofs.RunSteps
import LiveShell.Session.Environment

/-!
What silent evaluation calls. An expression that the guard accepts calls by the names of pure built-in functions
only. The guard looks these names up in one flat namespace, so it is right as long as no function and no gathering
around a call keeps its name: then a gate that turns everything else away is never met, neither while the guard
tries parts out nor when the whole is evaluated.
-/

namespace LiveShell

open Code (Expr Part)
open Run

set_option autoImplicit false

namespace Guard

/-- Every call within a part is by the name of a pure function. -/
def CallsPure (part : Part) : Prop :=
  part.CallsSatisfy fun _ callee => ∃ name ∈ pureNames, callee = .name name

/-! ### What acceptance tells -/

theorem not_succeeds_refuse {α : Type} (part : Expr) : ¬Succeeds (refuse part : Run α) :=
  not_succeeds_fail _ _

variable {watch : Watch}

theorem succeeds_all {isTarget : Bool} {parts : List Expr} (succeeds : Succeeds (inspectAll watch isTarget parts)) :
    ∀ part ∈ parts, Succeeds (inspect watch isTarget part) := by
  induction parts with
  | nil => simp
  | cons part rest induction =>
      rw [inspectAll] at succeeds
      obtain ⟨first, _, others⟩ := succeeds_bind succeeds
      exact List.forall_mem_cons.mpr ⟨first, induction others⟩

theorem succeeds_any {part : Option Expr} (succeeds : Succeeds (inspectAny watch part)) :
    ∀ inner ∈ part, Succeeds (inspect watch false inner) := by
  intro inner member
  rw [Option.mem_def.mp member, inspectAny] at succeeds
  exact succeeds

/-- A part is accepted, be it as a target or not. -/
def Accepted (watch : Watch) (expression : Expr) : Prop := ∃ isTarget, Succeeds (inspect watch isTarget expression)

theorem accepted_default {namedOnly : Bool} {name : String} {kind : Code.ParameterKind}
    {annotated : Option Expr} {default : Expr} {rest : List Expr}
    (succeeds : Succeeds (inspectDefaults watch namedOnly (.parameter name kind annotated (some default) :: rest))) :
    (decide (kind = .keywordOnly) = namedOnly → Accepted watch default) ∧
      Succeeds (inspectDefaults watch namedOnly rest) := by
  rw [inspectDefaults] at succeeds
  split at succeeds
  · obtain ⟨here, _, later⟩ := succeeds_bind succeeds
    exact ⟨fun _ => ⟨false, here⟩, later⟩
  · next other => exact ⟨fun same => absurd same other, succeeds⟩

/-- The defaults are gone over twice: each of them is accepted in one of the turns. -/
theorem accepted_defaults {kept : List String} {parameters : List Expr}
    (named : Succeeds (inspectDefaults watch true parameters))
    (others : Succeeds (inspectDefaults watch false parameters)) :
    ∀ part ∈ Code.defaultParts kept parameters, Accepted watch part.expression := by
  induction parameters with
  | nil => simp [Code.defaultParts]
  | cons parameter rest induction =>
      cases parameter with
      | parameter name kind annotated default =>
          cases default with
          | none =>
              simp only [inspectDefaults] at named others
              exact induction named others
          | some default =>
              obtain ⟨byName, namedRest⟩ := accepted_default named
              obtain ⟨byPlace, othersRest⟩ := accepted_default others
              refine List.forall_mem_cons.mpr ⟨?_, induction namedRest othersRest⟩
              by_cases only : decide (kind = .keywordOnly) = true
              · exact byName only
              · exact byPlace (by simpa using only)
      | _ =>
          simp only [inspectDefaults] at named others
          exact induction named others

theorem accepted_entries {kept : List String} {entries : List Expr}
    (keys : Succeeds (inspectKeys watch entries)) (values : Succeeds (inspectValues watch entries)) :
    ∀ part ∈ Code.entryParts kept entries, Accepted watch part.expression := by
  induction entries with
  | nil => simp [Code.entryParts]
  | cons item entries induction =>
      cases item with
      | entry key value =>
          rw [inspectValues] at values
          obtain ⟨valueAccepted, _, restValues⟩ := succeeds_bind values
          rw [Code.entryParts, List.forall_mem_append, List.forall_mem_cons]
          cases key with
          | none =>
              simp only [inspectKeys] at keys
              exact ⟨by simp, ⟨false, valueAccepted⟩, induction keys restValues⟩
          | some key =>
              rw [inspectKeys] at keys
              obtain ⟨keyAccepted, _, restKeys⟩ := succeeds_bind keys
              exact ⟨by simpa using ⟨false, keyAccepted⟩, ⟨false, valueAccepted⟩, induction restKeys restValues⟩
      | _ =>
          simp only [inspectKeys, inspectValues] at keys values
          exact induction keys values

theorem accepted_clause {target source : Expr} {conditions : List Expr} {isAsync isTarget : Bool}
    (succeeds : Succeeds (inspect watch isTarget (.clause target source conditions isAsync))) :
    Accepted watch target ∧ Accepted watch source ∧ ∀ condition ∈ conditions, Accepted watch condition := by
  rw [inspect] at succeeds
  obtain ⟨targetAccepted, _, afterTarget⟩ := succeeds_bind succeeds
  obtain ⟨sourceAccepted, _, afterSource⟩ := succeeds_bind afterTarget
  exact ⟨⟨true, targetAccepted⟩, ⟨false, sourceAccepted⟩, fun condition member =>
    ⟨false, succeeds_all afterSource condition member⟩⟩

theorem accepted_clauses {outer inner : List String} {clauses : List Expr}
    (accepted : ∀ clause ∈ clauses, Succeeds (inspect watch false clause)) :
    ∀ part ∈ Code.clauseParts outer inner clauses, Accepted watch part.expression := by
  induction clauses generalizing outer with
  | nil => simp [Code.clauseParts]
  | cons clause rest induction =>
      obtain ⟨here, later⟩ := List.forall_mem_cons.mp accepted
      cases clause with
      | clause target source conditions isAsync =>
          obtain ⟨targetAccepted, sourceAccepted, conditionsAccepted⟩ := accepted_clause here
          rw [Code.clauseParts, List.forall_mem_append, List.forall_mem_cons, List.forall_mem_cons]
          exact ⟨⟨sourceAccepted, targetAccepted, by simpa using conditionsAccepted⟩, induction later⟩
      | _ => exact List.forall_mem_cons.mpr ⟨⟨false, here⟩, induction later⟩

theorem check_call_name {callee whole : Expr} (succeeds : Succeeds (checkCall watch callee whole)) :
    ∃ name ∈ pureNames, callee = .name name := by
  cases callee with
  | name name =>
      simp only [checkCall] at succeeds
      split at succeeds
      · exact absurd (succeeds_bind succeeds).1 (not_succeeds_refuse _)
      · next known => exact ⟨name, by simpa using known, rfl⟩
  | _ => exact absurd succeeds (not_succeeds_refuse _)

/-- When an expression is accepted, so are all parts directly within it. -/
theorem accepted_inside {kept : List String} {expression : Expr} (accepted : Accepted watch expression) :
    ∀ inner ∈ Part.inside ⟨kept, expression⟩, Accepted watch inner.expression := by
  obtain ⟨isTarget, succeeds⟩ := accepted
  have listed : ∀ {isTarget : Bool} {parts : List Expr}, Succeeds (inspectAll watch isTarget parts) →
      ∀ part ∈ parts, Accepted watch part := fun all part member => ⟨_, succeeds_all all part member⟩
  have optional : ∀ {part : Option Expr}, Succeeds (inspectAny watch part) →
      ∀ inner ∈ part.toList, Accepted watch inner := fun any inner member =>
    ⟨false, succeeds_any any inner (Option.mem_toList.mp member)⟩
  cases expression with
  | name | literal | parameter => simp [Part.inside]
  | bind | await | yield | yieldFrom => exact absurd succeeds (not_succeeds_refuse _)
  | joined parts | logical _ parts | set parts | list parts | tuple parts =>
      rw [inspect] at succeeds
      exact List.forall_mem_map.mpr (listed succeeds)
  | field value conversion layout =>
      rw [inspect] at succeeds
      obtain ⟨valueAccepted, _, layoutAccepted⟩ := succeeds_bind succeeds
      exact List.forall_mem_map.mpr (List.forall_mem_cons.mpr ⟨⟨false, valueAccepted⟩, optional layoutAccepted⟩)
  | binary left operator right =>
      rw [inspect] at succeeds
      obtain ⟨leftAccepted, _, afterLeft⟩ := succeeds_bind succeeds
      obtain ⟨rightAccepted, _⟩ := succeeds_bind afterLeft
      simpa [Part.inside] using ⟨⟨false, leftAccepted⟩, ⟨false, rightAccepted⟩⟩
  | unary _ value | entry _ value | keyword _ value | member value _ =>
      rw [inspect] at succeeds
      simpa [Part.inside] using ⟨false, succeeds⟩
  | lambda parameters body =>
      rw [inspect] at succeeds
      obtain ⟨named, _, afterNamed⟩ := succeeds_bind succeeds
      obtain ⟨others, _, bodyAccepted⟩ := succeeds_bind afterNamed
      exact List.forall_mem_cons.mpr ⟨⟨false, bodyAccepted⟩, accepted_defaults named others⟩
  | conditional test yes no =>
      rw [inspect] at succeeds
      obtain ⟨testAccepted, _, afterTest⟩ := succeeds_bind succeeds
      obtain ⟨yesAccepted, _, noAccepted⟩ := succeeds_bind afterTest
      simpa [Part.inside] using ⟨⟨false, testAccepted⟩, ⟨false, yesAccepted⟩, ⟨false, noAccepted⟩⟩
  | mapping entries =>
      rw [inspect] at succeeds
      obtain ⟨keys, _, values⟩ := succeeds_bind succeeds
      exact accepted_entries keys values
  | gather _ element clauses =>
      rw [inspect] at succeeds
      obtain ⟨elementAccepted, _, afterElement⟩ := succeeds_bind succeeds
      have clausesAccepted := (succeeds_bind afterElement).1
      exact List.forall_mem_cons.mpr
        ⟨⟨false, elementAccepted⟩, accepted_clauses (succeeds_all clausesAccepted)⟩
  | gatherMapping key value clauses =>
      rw [inspect] at succeeds
      obtain ⟨keyAccepted, _, afterKey⟩ := succeeds_bind succeeds
      obtain ⟨valueAccepted, _, afterValue⟩ := succeeds_bind afterKey
      have clausesAccepted := (succeeds_bind afterValue).1
      exact List.forall_mem_cons.mpr ⟨⟨false, keyAccepted⟩, List.forall_mem_cons.mpr
        ⟨⟨false, valueAccepted⟩, accepted_clauses (succeeds_all clausesAccepted)⟩⟩
  | clause target source conditions isAsync =>
      obtain ⟨targetAccepted, sourceAccepted, conditionsAccepted⟩ := accepted_clause succeeds
      exact List.forall_mem_map.mpr
        (List.forall_mem_cons.mpr ⟨sourceAccepted, List.forall_mem_cons.mpr ⟨targetAccepted, conditionsAccepted⟩⟩)
  | compare first relations rest =>
      rw [inspect] at succeeds
      obtain ⟨firstAccepted, _, afterFirst⟩ := succeeds_bind succeeds
      have restAccepted := (succeeds_bind afterFirst).1
      exact List.forall_mem_map.mpr (List.forall_mem_cons.mpr ⟨⟨false, firstAccepted⟩, listed restAccepted⟩)
  | call callee arguments keywords =>
      rw [inspect] at succeeds
      obtain ⟨_, _, afterCheck⟩ := succeeds_bind succeeds
      obtain ⟨calleeAccepted, _, afterCallee⟩ := succeeds_bind afterCheck
      obtain ⟨argumentsAccepted, _, keywordsAccepted⟩ := succeeds_bind afterCallee
      exact List.forall_mem_map.mpr (List.forall_mem_cons.mpr ⟨⟨false, calleeAccepted⟩,
        List.forall_mem_append.mpr ⟨listed argumentsAccepted, listed keywordsAccepted⟩⟩)
  | subscript object index =>
      rw [inspect] at succeeds
      obtain ⟨objectAccepted, _, afterObject⟩ := succeeds_bind succeeds
      have indexAccepted := (succeeds_bind afterObject).1
      simpa [Part.inside] using ⟨⟨false, objectAccepted⟩, ⟨false, indexAccepted⟩⟩
  | starred value =>
      rw [inspect] at succeeds
      simpa [Part.inside] using ⟨isTarget, (succeeds_bind succeeds).1⟩
  | slice lower upper step =>
      rw [inspect] at succeeds
      obtain ⟨lowerAccepted, _, afterLower⟩ := succeeds_bind succeeds
      obtain ⟨upperAccepted, _, stepAccepted⟩ := succeeds_bind afterLower
      exact List.forall_mem_map.mpr (List.forall_mem_append.mpr ⟨List.forall_mem_append.mpr
        ⟨optional lowerAccepted, optional upperAccepted⟩, optional stepAccepted⟩)

/-- An accepted expression calls nothing but by the names of pure functions. -/
theorem accepted_calls_pure (part : Part) (accepted : Accepted watch part.expression) : CallsPure part := by
  induction part using Part.inside_induction with
  | step part induction =>
      refine .intro (fun inner member => induction inner member (accepted_inside accepted inner member)) ?_
      intro callee arguments keywords isCall
      obtain ⟨isTarget, succeeds⟩ := accepted
      rw [isCall, inspect] at succeeds
      exact check_call_name (succeeds_bind succeeds).1

/-! ### Two watches that agree -/

/-- Two watches that tell the same names apart and give the same values to clean parts. -/
structure Watch.Agree (first second : Watch) : Prop where
  shadowed : first.isShadowed = second.isShadowed
  value : ∀ part : Part, IsClean part → first.value part.expression = second.value part.expression

theorem clean_of_pure {part : Part} (unshadowed : part.Unshadowed) (pure : CallsPure part) : IsClean part := by
  intro call holds callee arguments keywords isCall
  obtain ⟨name, known, isName⟩ := pure call holds callee arguments keywords isCall
  exact ⟨name, known, isName, unshadowed call holds callee arguments keywords isCall name isName⟩

variable {first second : Watch}

theorem value_of_agrees (agree : first.Agree second) {kept : List String} {part : Expr}
    (clean : IsClean ⟨kept, part⟩) : valueOf first part = valueOf second part := by
  simp only [valueOf, agree.value ⟨kept, part⟩ clean]

theorem require_plain_agrees (agree : first.Agree second) {kept : List String} {part : Expr}
    (clean : IsClean ⟨kept, part⟩) (kinds : List Kind) :
    requirePlain first part kinds = requirePlain second part kinds := by
  simp only [requirePlain, value_of_agrees agree clean]

theorem check_operation_agrees (agree : first.Agree second) {kept : List String} {left right : Expr}
    (cleanLeft : IsClean ⟨kept, left⟩) (cleanRight : IsClean ⟨kept, right⟩) (operator : Code.BinaryOperator)
    (whole : Expr) :
    checkOperation first left operator right whole = checkOperation second left operator right whole := by
  simp only [checkOperation, value_of_agrees agree cleanLeft, value_of_agrees agree cleanRight]

theorem check_call_agrees (agree : first.Agree second) (callee whole : Expr) :
    checkCall first callee whole = checkCall second callee whole := by
  simp only [checkCall, agree.shadowed]

theorem check_memberships_agree (agree : first.Agree second) {kept : List String} (relations : List Code.Relation)
    {rest : List Expr} (clean : ∀ right ∈ rest, IsClean ⟨kept, right⟩) :
    checkMemberships first relations rest = checkMemberships second relations rest := by
  induction rest generalizing relations with
  | nil => cases relations <;> simp only [checkMemberships]
  | cons right rest induction =>
      obtain ⟨cleanRight, cleanRest⟩ := List.forall_mem_cons.mp clean
      cases relations with
      | nil => simp only [checkMemberships]
      | cons relation relations =>
          simp only [checkMemberships, require_plain_agrees agree cleanRight, induction _ cleanRest]

theorem check_sources_agree (agree : first.Agree second) (outer inner : List String) {clauses : List Expr}
    (clean : ∀ part ∈ Code.clauseParts outer inner clauses, IsClean part) :
    checkSources first clauses = checkSources second clauses := by
  induction clauses generalizing outer with
  | nil => simp only [checkSources]
  | cons clause rest induction =>
      cases clause with
      | clause target source conditions isAsync =>
          have cleanSource := clean ⟨outer, source⟩ (by simp [Code.clauseParts])
          have restEq := induction inner fun part member => clean part (by simp [Code.clauseParts, member])
          simp only [checkSources, value_of_agrees agree cleanSource, restEq]
      | _ => simp only [checkSources, induction outer (List.forall_mem_cons.mp clean).2]

theorem inspect_all_agrees {isTarget : Bool} {parts : List Expr}
    (same : ∀ part ∈ parts, inspect first isTarget part = inspect second isTarget part) :
    inspectAll first isTarget parts = inspectAll second isTarget parts := by
  induction parts with
  | nil => simp only [inspectAll]
  | cons part rest induction =>
      obtain ⟨partEq, restEq⟩ := List.forall_mem_cons.mp same
      simp only [inspectAll, partEq, induction restEq]

theorem inspect_any_agrees (part : Option Expr)
    (same : ∀ inner ∈ part, inspect first false inner = inspect second false inner) :
    inspectAny first part = inspectAny second part := by
  cases part with
  | none => simp only [inspectAny]
  | some inner => simp only [inspectAny, same inner rfl]

theorem inspect_defaults_agree (namedOnly : Bool) {kept : List String} {parameters : List Expr}
    (same : ∀ part ∈ Code.defaultParts kept parameters,
      inspect first false part.expression = inspect second false part.expression) :
    inspectDefaults first namedOnly parameters = inspectDefaults second namedOnly parameters := by
  induction parameters with
  | nil => simp only [inspectDefaults]
  | cons parameter rest induction =>
      cases parameter with
      | parameter name kind annotated default =>
          cases default with
          | none => simp only [inspectDefaults, induction same]
          | some default =>
              obtain ⟨defaultEq, restEq⟩ := List.forall_mem_cons.mp same
              simp only [inspectDefaults, defaultEq, induction restEq]
      | _ => simp only [inspectDefaults, induction same]

theorem inspect_entries_agree {kept : List String} {entries : List Expr}
    (same : ∀ part ∈ Code.entryParts kept entries,
      inspect first false part.expression = inspect second false part.expression) :
    inspectKeys first entries = inspectKeys second entries ∧
      inspectValues first entries = inspectValues second entries := by
  induction entries with
  | nil => exact ⟨by simp only [inspectKeys], by simp only [inspectValues]⟩
  | cons item entries induction =>
      cases item with
      | entry key value =>
          obtain ⟨keysEq, valuesEq⟩ := induction fun part member => same part (by simp [Code.entryParts, member])
          have valueEq := same ⟨kept, value⟩ (by simp [Code.entryParts])
          refine ⟨?_, by simp only [inspectValues, valueEq, valuesEq]⟩
          cases key with
          | none => simp only [inspectKeys, keysEq]
          | some key =>
              have keyEq := same ⟨kept, key⟩ (by simp [Code.entryParts])
              simp only [inspectKeys, keyEq, keysEq]
      | _ => simpa only [inspectKeys, inspectValues] using induction same

/-- Clauses are gone over one by one: the target of each as a target, and the rest of it as values. -/
theorem inspect_clauses_agree (outer inner : List String) {clauses : List Expr}
    (same : ∀ part ∈ Code.clauseParts outer inner clauses, ∀ isTarget,
      inspect first isTarget part.expression = inspect second isTarget part.expression) :
    inspectAll first false clauses = inspectAll second false clauses := by
  induction clauses generalizing outer with
  | nil => simp only [inspectAll]
  | cons clause rest induction =>
      cases clause with
      | clause target source conditions isAsync =>
          have sourceEq := same ⟨outer, source⟩ (by simp [Code.clauseParts])
          have targetEq := same ⟨inner, target⟩ (by simp [Code.clauseParts])
          have conditionsEq : inspectAll first false conditions = inspectAll second false conditions :=
            inspect_all_agrees fun condition member =>
              same ⟨inner, condition⟩ (by simp [Code.clauseParts, member]) false
          have restEq := induction inner fun part member => same part (by simp [Code.clauseParts, member])
          simp only [inspectAll, inspect, sourceEq, targetEq, conditionsEq, restEq]
      | _ =>
          obtain ⟨otherEq, restSame⟩ := List.forall_mem_cons.mp same
          simp only [inspectAll, otherEq, induction outer restSame]

/-- The sources of clauses that were accepted have the same values over both watches. -/
theorem accepted_sources_agree (agree : first.Agree second) (outer inner : List String) {clauses : List Expr}
    (accepted : Succeeds (inspectAll second false clauses))
    (clean : ∀ part ∈ Code.clauseParts outer inner clauses, ∀ isTarget,
      Succeeds (inspect second isTarget part.expression) → IsClean part) :
    checkSources first clauses = checkSources second clauses := by
  refine check_sources_agree agree outer inner fun part member => ?_
  obtain ⟨isTarget, partAccepted⟩ := accepted_clauses (succeeds_all accepted) part member
  exact clean part member isTarget partAccepted

/-- The guard does the same over two watches that agree, on every part that hides no name it calls by. What it
evaluates it has accepted before, so the value is that of a clean part. -/
theorem inspect_agrees (agree : first.Agree second) (part : Part) (unshadowed : part.Unshadowed)
    (isTarget : Bool) : inspect first isTarget part.expression = inspect second isTarget part.expression := by
  induction part using Part.inside_induction generalizing isTarget with
  | step part induction =>
      have inside : ∀ inner ∈ part.inside, ∀ isTarget,
          inspect first isTarget inner.expression = inspect second isTarget inner.expression :=
        fun inner member => induction inner member (unshadowed.of_inside member)
      have clean : ∀ inner ∈ part.inside, ∀ isTarget, Succeeds (inspect second isTarget inner.expression) →
          IsClean inner := fun inner member isTarget succeeds =>
        clean_of_pure (unshadowed.of_inside member) (accepted_calls_pure inner ⟨isTarget, succeeds⟩)
      obtain ⟨kept, expression⟩ := part
      have here : ∀ inner, ⟨kept, inner⟩ ∈ Part.inside ⟨kept, expression⟩ → ∀ isTarget,
          inspect first isTarget inner = inspect second isTarget inner := fun inner member => inside _ member
      have listed : ∀ {isTarget : Bool} {parts : List Expr},
          (∀ part ∈ parts, ⟨kept, part⟩ ∈ Part.inside ⟨kept, expression⟩) →
            inspectAll first isTarget parts = inspectAll second isTarget parts := fun members =>
        inspect_all_agrees fun part member => here part (members part member) _
      have optional : ∀ {part : Option Expr},
          (∀ inner ∈ part, ⟨kept, inner⟩ ∈ Part.inside ⟨kept, expression⟩) →
            inspectAny first part = inspectAny second part := fun members =>
        inspect_any_agrees _ fun inner member => here inner (members inner member) _
      cases expression with
      | name | literal | parameter | bind | await | yield | yieldFrom => simp only [inspect]
      | joined parts | logical _ parts | set parts | list parts | tuple parts =>
          simp only [inspect, listed fun part member => List.mem_map_of_mem member]
      | field value conversion layout =>
          simp only [inspect, here value List.mem_cons_self,
            optional fun (inner : Expr) (member : inner ∈ layout) => by simp [Part.inside, Option.mem_def.mp member]]
      | binary left operator right =>
          simp only [inspect, here left (by simp [Part.inside]), here right (by simp [Part.inside])]
          refine bind_congr_succeeds fun leftAccepted _ => bind_congr_succeeds fun rightAccepted _ => ?_
          exact check_operation_agrees agree (clean ⟨kept, left⟩ (by simp [Part.inside]) _ leftAccepted)
            (clean ⟨kept, right⟩ (by simp [Part.inside]) _ rightAccepted) operator _
      | unary _ value | entry _ value | keyword _ value | member value _ =>
          simp only [inspect, here value List.mem_cons_self]
      | lambda parameters body =>
          have defaultsEq := fun namedOnly => inspect_defaults_agree namedOnly fun part member =>
            inside part (List.mem_cons_of_mem _ member) false
          have bodyEq := inside ⟨Code.parameterNames parameters ++ body.binds ++ kept, body⟩ List.mem_cons_self
          simp only [inspect, defaultsEq, bodyEq]
      | conditional test yes no =>
          simp only [inspect, here test (by simp [Part.inside]), here yes (by simp [Part.inside]),
            here no (by simp [Part.inside])]
      | mapping entries =>
          obtain ⟨keysEq, valuesEq⟩ := inspect_entries_agree fun part member => inside part member false
          simp only [inspect, keysEq, valuesEq]
      | gather gathering element clauses =>
          have elementEq := inside ⟨Code.clauseNames clauses ++ kept, element⟩ List.mem_cons_self
          have clausesEq := inspect_clauses_agree kept (Code.clauseNames clauses ++ kept) fun part member =>
            inside part (List.mem_cons_of_mem _ member)
          simp only [inspect, elementEq, clausesEq]
          refine bind_congr_succeeds fun _ _ => bind_congr_succeeds fun clausesAccepted _ => ?_
          exact accepted_sources_agree agree kept (Code.clauseNames clauses ++ kept) clausesAccepted
            fun part member => clean part (List.mem_cons_of_mem _ member)
      | gatherMapping key value clauses =>
          have keyEq := inside ⟨Code.clauseNames clauses ++ kept, key⟩ (by simp [Part.inside])
          have valueEq := inside ⟨Code.clauseNames clauses ++ kept, value⟩ (by simp [Part.inside])
          have member_of : ∀ part ∈ Code.clauseParts kept (Code.clauseNames clauses ++ kept) clauses,
              part ∈ Part.inside ⟨kept, .gatherMapping key value clauses⟩ := fun part member =>
            List.mem_cons_of_mem _ (List.mem_cons_of_mem _ member)
          have clausesEq := inspect_clauses_agree kept (Code.clauseNames clauses ++ kept) fun part member =>
            inside part (member_of part member)
          simp only [inspect, keyEq, valueEq, clausesEq]
          refine bind_congr_succeeds fun _ _ => bind_congr_succeeds fun _ _ =>
            bind_congr_succeeds fun clausesAccepted _ => ?_
          exact accepted_sources_agree agree kept (Code.clauseNames clauses ++ kept) clausesAccepted
            fun part member => clean part (member_of part member)
      | clause target source conditions isAsync =>
          simp only [inspect, here target (by simp [Part.inside]), here source (by simp [Part.inside]),
            listed fun (condition : Expr) (member : condition ∈ conditions) => by simp [Part.inside, member]]
      | compare left relations rest =>
          have members : ∀ right ∈ rest, (⟨kept, right⟩ : Part) ∈ Part.inside ⟨kept, .compare left relations rest⟩ :=
            fun right member => List.mem_map_of_mem (List.mem_cons_of_mem _ member)
          simp only [inspect, here left (by simp [Part.inside]), listed members]
          refine bind_congr_succeeds fun _ _ => bind_congr_succeeds fun restAccepted _ => ?_
          exact check_memberships_agree agree relations fun right member =>
            clean ⟨kept, right⟩ (members right member) _ (succeeds_all restAccepted right member)
      | call callee arguments keywords =>
          simp only [inspect, check_call_agrees agree, here callee List.mem_cons_self,
            listed fun (argument : Expr) (member : argument ∈ arguments) => by simp [Part.inside, member],
            listed fun (keyword : Expr) (member : keyword ∈ keywords) => by simp [Part.inside, member]]
      | subscript object index =>
          simp only [inspect, here object (by simp [Part.inside]), here index (by simp [Part.inside])]
          refine bind_congr_succeeds fun objectAccepted _ => bind_congr_succeeds fun _ _ => ?_
          exact require_plain_agrees agree (clean ⟨kept, object⟩ (by simp [Part.inside]) _ objectAccepted) _
      | starred value =>
          simp only [inspect, here value List.mem_cons_self]
          refine bind_congr_succeeds fun valueAccepted _ => ?_
          rw [require_plain_agrees agree (clean ⟨kept, value⟩ List.mem_cons_self _ valueAccepted)]
      | slice lower upper step =>
          simp only [inspect,
            optional fun (inner : Expr) (member : inner ∈ lower) => by simp [Part.inside, Option.mem_def.mp member],
            optional fun (inner : Expr) (member : inner ∈ upper) => by simp [Part.inside, Option.mem_def.mp member],
            optional fun (inner : Expr) (member : inner ∈ step) => by simp [Part.inside, Option.mem_def.mp member]]

end Guard

namespace Run

/-! ### The gate -/

/-- Whether a value is the one that a built-in name stands for. -/
def isBuiltin (name : String) (value : Value) : Bool := (builtinValue? name).any value.same

/-- Whether a value is one of the pure functions. -/
def isPureFunction (value : Value) : Bool := Guard.pureNames.any fun name => isBuiltin name value

/-- Whether the name of some pure function stands for something else in a namespace by now. -/
def isRebound (space : Address) : List String → Run Bool
  | [] => return false
  | name :: names => do
      match ← globalValue? space name with
      | some value => if isBuiltin name value then isRebound space names else return true
      | none => isRebound space names

/-- Lets the pure functions pass. Anything else meets the refusal, as long as the namespace has not got one of
their names rebound. -/
def pureGate (refusal : Gate) : Gate := fun scope callee => do
  if isPureFunction callee then return ()
  else if ← isRebound scope.globals Guard.pureNames then return ()
  else refusal scope callee

theorem reads_global (space : Address) (name : String) : Reads (globalValue? space name) := by
  refine reads_bind (reads_name space name) fun found => ?_
  cases found with
  | some value => exact reads_pure _
  | none =>
      refine reads_bind (reads_name space builtinsName) fun entry => ?_
      split
      · refine reads_bind (reads_cell _) fun cell => ?_
        split
        · exact reads_name _ name
        · exact reads_name _ name
      · exact reads_pure _

theorem is_rebound_of {space : Address} {world : World} {name : String} {value : Value} {names : List String}
    (member : name ∈ names) (found : (globalValue? space name).runIn world = (.ok (some value), world))
    (other : isBuiltin name value = false) : (isRebound space names).runIn world = (.ok true, world) := by
  induction names with
  | nil => simp at member
  | cons first names induction =>
      obtain ⟨result, outcome⟩ := reads_global space first world
      rw [isRebound, run_in_bind, outcome]
      rcases List.mem_cons.mp member with rfl | later
      · rw [found] at outcome
        obtain rfl : some value = result := by simpa using outcome
        simp only [other, Bool.false_eq_true, if_false]
        rfl
      · cases result with
        | none => exact induction later
        | some known =>
            simp only
            split
            · exact induction later
            · rfl

/-- What the name of a pure function stands for in a namespace passes: it is the function, or rebound. -/
theorem pure_gate_passes (refusal : Gate) {scope : Scope} {world : World} {name : String} {value : Value}
    (pure : name ∈ Guard.pureNames)
    (found : (globalValue? scope.globals name).runIn world = (.ok (some value), world)) :
    (pureGate refusal scope value).runIn world = (.ok (), world) := by
  unfold pureGate
  by_cases known : isPureFunction value = true
  · rw [if_pos known]
    rfl
  · have other : isBuiltin name value = false := by
      simp only [isPureFunction, List.any_eq_true, not_exists, not_and] at known
      simpa using known name pure
    rw [if_neg known, run_in_bind, is_rebound_of pure found other]
    rfl

theorem keeper_of_unkept {kept : List String} {scope : Scope} {name : String} (keeps : KeepsOnly kept scope)
    (visible : name ∉ kept) : lookUp scope name = lookUpGlobal scope.globals name := by
  have unframed : ∀ (frames : List Frame) (isInnermost : Bool),
      (∀ frame ∈ frames, name ∉ frame.names) → frameOf? name isInnermost frames = none := by
    intro frames
    induction frames with
    | nil => exact fun _ _ => rfl
    | cons frame rest induction =>
        intro isInnermost absent
        obtain ⟨here, later⟩ := List.forall_mem_cons.mp absent
        simp only [frameOf?, List.contains_eq_mem, here, decide_false, Bool.false_eq_true, if_false]
        exact induction false later
  have keeper : keeperOf scope name = .globals := by
    simp only [keeperOf, keeps.noClass,
      unframed scope.frames true fun frame member known => visible (keeps.frames frame member name known)]
    split <;> rfl
  simp only [lookUp, keeper]

theorem pure_gate_admits (refusal : Gate) : (pureGate refusal).Admits := by
  intro scope kept name keeps pure visible α next
  rw [keeper_of_unkept keeps visible]
  apply run_ext
  intro world
  obtain ⟨found, outcome⟩ := reads_global scope.globals name world
  simp only [lookUpGlobal, bind_assoc]
  rw [run_in_bind, run_in_bind, outcome]
  cases found with
  | none =>
      have raises : ¬Succeeds (undefinedName name : Run Value) := not_succeeds_fail _ _
      simp only [bind_congr_raises raises _ next]
  | some value =>
      simp only [pure_bind]
      rw [run_in_bind, pure_gate_passes refusal pure outcome]

end Run

namespace Environment

theorem watches_agree (space : Address) (refusal : Gate) :
    (watchOf (pureGate refusal) space).Agree (watchOf .free space) where
  shadowed := rfl
  value part clean := by
    have keeps : KeepsOnly part.kept (scopeOf space) := ⟨rfl, by simp [scopeOf]⟩
    have same := (clean_part_agrees engine (pure_gate_admits refusal) part clean (scopeOf space) keeps).1
    simp only [watchOf, evaluateThrough, same]

/-- A text that reads as an expression which calls by no name that is kept around the call. -/
def HidesNoCall (text : String) : Prop :=
  ∀ expression, Code.readExpression (inBrackets text) = .ok expression → Part.Unshadowed ⟨[], expression⟩

instance (text : String) : Decidable (HidesNoCall text) :=
  match read : Code.readExpression (inBrackets text) with
  | .error _ => .isTrue fun _ isRead => by rw [read] at isRead; cases isRead
  | .ok expression =>
      decidable_of_iff (Part.Unshadowed ⟨[], expression⟩)
        ⟨fun unshadowed other isRead => by
          rw [read] at isRead
          cases isRead
          exact unshadowed, fun hides => hides expression read⟩

/-- The next item of a generator `g` of a namespace after a silent evaluation there; `x` is a list. -/
def nextAfter (text : String) : Run (Option Value) := do
  setName 0 "x" (← newList #[.whole 1])
  setName 0 "g" (← valueOf 0 "(i for i in [0, 1])" false)
  let _ ← attempt (valueOf 0 text true)
  engine.next (← lookUpGlobal 0 "g")

end Environment

end LiveShell
