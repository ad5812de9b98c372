import LiveShell.Proofs.GuardCourse

/-!
The parts that the guard evaluates on its course. Each of them stands within the expression that it goes over, so what
holds of all parts of the expression holds of what the guard tries out.
-/

namespace LiveShell.Guard

open Code (Expr Part)

set_option autoImplicit false

theorem default_inside {kept : List String} {namedOnly : Bool} {parameters : List Expr} :
    ∀ part ∈ defaultsOf namedOnly parameters, ⟨kept, part⟩ ∈ Code.defaultParts kept parameters := by
  fun_induction defaultsOf namedOnly parameters with
  | case1 => simp
  | case2 name kind annotated default rest only induction =>
      intro part member
      rcases List.mem_cons.mp member with rfl | later
      · exact List.mem_cons_self
      · exact List.mem_cons_of_mem _ (induction part later)
  | case3 name kind annotated default rest other induction =>
      exact fun part member => List.mem_cons_of_mem _ (induction part member)
  | case4 parameter rest other induction =>
      intro part member
      rw [Code.defaultParts]
      · exact induction part member
      · exact other

theorem key_inside {kept : List String} {entries : List Expr} :
    ∀ part ∈ keysOf entries, ⟨kept, part⟩ ∈ Code.entryParts kept entries := by
  fun_induction keysOf entries with
  | case1 => simp
  | case2 key value rest induction =>
      intro part member
      rcases List.mem_cons.mp member with rfl | later
      · simp [Code.entryParts]
      · simp [Code.entryParts, induction part later]
  | case3 entry rest other induction =>
      intro part member
      cases entry with
      | entry key value => simp [Code.entryParts, induction part member]
      | _ => exact induction part member

theorem value_inside {kept : List String} {entries : List Expr} :
    ∀ part ∈ valuesOf entries, ⟨kept, part⟩ ∈ Code.entryParts kept entries := by
  fun_induction valuesOf entries with
  | case1 => simp
  | case2 key value rest induction =>
      intro part member
      rcases List.mem_cons.mp member with rfl | later
      · simp [Code.entryParts]
      · simp [Code.entryParts, induction part later]
  | case3 entry rest other induction =>
      intro part member
      cases entry with
      | entry key value => exact absurd rfl (other key value)
      | _ => exact induction part member

/-- A clause stands within a gathering by its pieces. -/
theorem clause_inside (outer inner : List String) {clauses : List Expr} {clause : Expr} (member : clause ∈ clauses) :
    (∃ part ∈ Code.clauseParts outer inner clauses, part.expression = clause) ∨
      leaving false clause = [] ∧
        ∀ visit ∈ visits false clause, ∃ part ∈ Code.clauseParts outer inner clauses, part.expression = visit.2 := by
  fun_induction Code.clauseParts outer inner clauses with
  | case1 => cases member
  | case2 outer target source conditions isAsync rest induction =>
      rcases List.mem_cons.mp member with rfl | later
      · refine .inr ⟨rfl, fun visit visited => ?_⟩
        simp only [visits, List.mem_cons, mem_as_values] at visited
        rcases visited with rfl | ⟨-, same | known⟩
        · exact ⟨⟨inner, target⟩, by simp, rfl⟩
        · exact ⟨⟨outer, source⟩, by simp, same.symm⟩
        · exact ⟨⟨inner, visit.2⟩, by simp [known], rfl⟩
      · rcases induction later with ⟨part, known, same⟩ | ⟨last, pieces⟩
        · exact .inl ⟨part, by simp [known], same⟩
        · refine .inr ⟨last, fun visit visited => ?_⟩
          obtain ⟨part, known, same⟩ := pieces visit visited
          exact ⟨part, by simp [known], same⟩
  | case3 outer other rest _ induction =>
      rcases List.mem_cons.mp member with rfl | later
      · exact .inl ⟨⟨inner, _⟩, List.mem_cons_self, rfl⟩
      · rcases induction later with ⟨part, known, same⟩ | ⟨last, pieces⟩
        · exact .inl ⟨part, List.mem_cons_of_mem _ known, same⟩
        · refine .inr ⟨last, fun visit visited => ?_⟩
          obtain ⟨part, known, same⟩ := pieces visit visited
          exact ⟨part, List.mem_cons_of_mem _ known, same⟩

/-- What is gone over within a part stands directly within it, or is a clause whose pieces do. -/
theorem inside_of_visit (kept : List String) {isTarget : Bool} {expression : Expr} :
    ∀ visit ∈ visits isTarget expression, (∃ inner ∈ Part.inside ⟨kept, expression⟩, inner.expression = visit.2) ∨
      visit.1 = false ∧ leaving false visit.2 = [] ∧
        ∀ within ∈ visits false visit.2, ∃ inner ∈ Part.inside ⟨kept, expression⟩, inner.expression = within.2 := by
  intro visit visited
  cases expression with
  | name | literal | parameter | bind | await | yield | yieldFrom => simp [visits] at visited
  | lambda parameters body =>
      refine .inl ?_
      simp only [visits, mem_as_values, List.mem_append, List.mem_singleton] at visited
      rcases visited.2 with (named | placed) | isBody
      · exact ⟨_, List.mem_cons_of_mem _ (default_inside _ named), rfl⟩
      · exact ⟨_, List.mem_cons_of_mem _ (default_inside _ placed), rfl⟩
      · exact ⟨_, List.mem_cons_self, isBody.symm⟩
  | mapping entries =>
      refine .inl ?_
      simp only [visits, mem_as_values, List.mem_append] at visited
      rcases visited.2 with key | value
      · exact ⟨_, key_inside _ key, rfl⟩
      · exact ⟨_, value_inside _ value, rfl⟩
  | gather gathering element clauses =>
      simp only [visits, mem_as_values, List.mem_cons] at visited
      rcases visited.2 with isElement | isClause
      · exact .inl ⟨_, List.mem_cons_self, isElement.symm⟩
      · rcases clause_inside kept (Code.clauseNames clauses ++ kept) isClause with ⟨part, known, same⟩ | ⟨last, pieces⟩
        · exact .inl ⟨part, List.mem_cons_of_mem _ known, same⟩
        · refine .inr ⟨visited.1, last, fun within found => ?_⟩
          obtain ⟨part, known, same⟩ := pieces within found
          exact ⟨part, List.mem_cons_of_mem _ known, same⟩
  | gatherMapping key value clauses =>
      simp only [visits, mem_as_values, List.mem_cons] at visited
      rcases visited.2 with isKey | isValue | isClause
      · exact .inl ⟨_, List.mem_cons_self, isKey.symm⟩
      · exact .inl ⟨_, List.mem_cons_of_mem _ List.mem_cons_self, isValue.symm⟩
      · rcases clause_inside kept (Code.clauseNames clauses ++ kept) isClause with ⟨part, known, same⟩ | ⟨last, pieces⟩
        · exact .inl ⟨part, List.mem_cons_of_mem _ (List.mem_cons_of_mem _ known), same⟩
        · refine .inr ⟨visited.1, last, fun within found => ?_⟩
          obtain ⟨part, known, same⟩ := pieces within found
          exact ⟨part, List.mem_cons_of_mem _ (List.mem_cons_of_mem _ known), same⟩
  | _ =>
      refine .inl ?_
      simp [visits, mem_as_values, Part.inside] at visited ⊢
      grind

theorem source_inside (outer inner : List String) {clauses : List Expr} :
    ∀ source ∈ Check.sourcesOf clauses, ∃ part ∈ Code.clauseParts outer inner clauses, part.expression = source := by
  fun_induction Code.clauseParts outer inner clauses with
  | case1 => simp [Check.sourcesOf]
  | case2 outer target source conditions isAsync rest induction =>
      intro found member
      rcases List.mem_cons.mp member with rfl | later
      · exact ⟨_, List.mem_cons_self, rfl⟩
      · obtain ⟨part, known, same⟩ := induction found later
        exact ⟨part, by simp [known], same⟩
  | case3 outer other rest isOther induction =>
      intro found member
      rw [Check.sourcesOf] at member
      · obtain ⟨part, known, same⟩ := induction found member
        exact ⟨part, List.mem_cons_of_mem _ known, same⟩
      · exact isOther

/-- What is evaluated when a part is left stands directly within it. -/
theorem tried_inside (kept : List String) {isTarget : Bool} {expression : Expr} :
    ∀ check ∈ leaving isTarget expression, ∀ part ∈ check.tried,
      ∃ inner ∈ Part.inside ⟨kept, expression⟩, inner.expression = part := by
  intro check member part tried
  cases expression with
  | gather _ _ clauses =>
      obtain rfl := List.mem_singleton.mp member
      obtain ⟨inner, known, same⟩ := source_inside kept (Code.clauseNames clauses ++ kept) part tried
      exact ⟨inner, List.mem_cons_of_mem _ known, same⟩
  | gatherMapping _ _ clauses =>
      obtain rfl := List.mem_singleton.mp member
      obtain ⟨inner, known, same⟩ := source_inside kept (Code.clauseNames clauses ++ kept) part tried
      exact ⟨inner, List.mem_cons_of_mem _ (List.mem_cons_of_mem _ known), same⟩
  | starred value =>
      cases isTarget with
      | true =>
          obtain rfl := List.mem_singleton.mp member
          cases tried
      | false =>
          obtain rfl := List.mem_singleton.mp member
          obtain rfl := List.mem_singleton.mp tried
          exact ⟨_, List.mem_cons_self, rfl⟩
  | binary | compare | subscript =>
      obtain rfl := List.mem_singleton.mp member
      simp [Check.tried, Part.inside] at tried ⊢
      grind
  | _ => cases member

/-- Every part that a check evaluates is one within the whole. -/
theorem tried_within (kept : List String) (isTarget : Bool) (expression : Expr) :
    ∀ check ∈ course isTarget expression, ∀ part ∈ check.tried,
      ∃ around, Part.Holds ⟨kept, expression⟩ ⟨around, part⟩ := by
  intro check member part tried
  -- Either the check is made when the part itself is left, or on the way through something that stands within it.
  rw [course_eq, List.mem_append, List.mem_append, List.mem_flatMap] at member
  rcases member with (entered | ⟨visit, visited, within⟩) | left
  · rw [entering_tries_nothing expression check entered] at tried
    cases tried
  · have smaller := visits_smaller isTarget expression visit visited
    rcases inside_of_visit kept visit visited with ⟨⟨keptInside, _⟩, inside, rfl⟩ | ⟨isValue, last, pieces⟩
    · obtain ⟨around, holds⟩ := tried_within keptInside visit.1 visit.2 check within part tried
      exact ⟨around, .step inside holds⟩
    · rw [isValue, course_eq, last, List.append_nil, List.mem_append, List.mem_flatMap] at within
      rcases within with entered | ⟨piece, among, deeper⟩
      · rw [entering_tries_nothing visit.2 check entered] at tried
        cases tried
      · have smallerStill := visits_smaller false visit.2 piece among
        obtain ⟨⟨keptInside, _⟩, inside, rfl⟩ := pieces piece among
        obtain ⟨around, holds⟩ := tried_within keptInside piece.1 piece.2 check deeper part tried
        exact ⟨around, .step inside holds⟩
  · obtain ⟨⟨around, inner⟩, inside, rfl⟩ := tried_inside kept check left part tried
    exact ⟨around, .step inside (.self _)⟩
termination_by SizeOf.sizeOf expression
decreasing_by all_goals omega

end LiveShell.Guard
