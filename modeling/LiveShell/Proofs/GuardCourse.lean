import LiveShell.Proofs.SilentCalls

/-!
The course that the guard takes through an expression. Which checks it makes, and in which order, is told by the
expression alone: a check only decides whether the next one is made at all. So going over an expression is carrying out
a list of checks, and what holds of the guard at every moment is read off that list: the parts that a check evaluates
have been gone over as a whole before, and no part is left out, unless a part around it is refused anyway.
-/

namespace LiveShell.Guard

open Code (Expr Part)
open Run

set_option autoImplicit false

/-- A check that is made at a part, apart from what is made at the parts within it. -/
inductive Check
  | refusal (part : Expr)
  | call (callee whole : Expr)
  | operation (left : Expr) (operator : Code.BinaryOperator) (right whole : Expr)
  | memberships (relations : List Code.Relation) (rest : List Expr)
  | sources (clauses : List Expr)
  | plain (part : Expr) (kinds : List Kind)

namespace Check

/-- What the guard does at a check. -/
def run (watch : Watch) : Check → Run Unit
  | refusal part => refuse part
  | call callee whole => checkCall watch callee whole
  | operation left operator right whole => checkOperation watch left operator right whole
  | memberships relations rest => checkMemberships watch relations rest
  | sources clauses => checkSources watch clauses
  | plain part kinds => requirePlain watch part kinds

/-- The sources of clauses. -/
def sourcesOf : List Expr → List Expr
  | [] => []
  | .clause _ source _ _ :: rest => source :: sourcesOf rest
  | _ :: rest => sourcesOf rest

/-- The parts whose values a check may ask for. -/
def tried : Check → List Expr
  | refusal _ | call .. => []
  | operation left _ right _ => [left, right]
  | memberships _ rest => rest
  | sources clauses => sourcesOf clauses
  | plain part _ => [part]

end Check

/-! ### The course -/

/-- The checks at a part before the parts within it. -/
def entering : Expr → List Check
  | .bind target value => [.refusal (.bind target value)]
  | .await value => [.refusal (.await value)]
  | .yield value => [.refusal (.yield value)]
  | .yieldFrom value => [.refusal (.yieldFrom value)]
  | .call callee arguments keywords => [.call callee (.call callee arguments keywords)]
  | _ => []

/-- The checks at a part after the parts within it. -/
def leaving (isTarget : Bool) : Expr → List Check
  | .binary left operator right => [.operation left operator right (.binary left operator right)]
  | .gather _ _ clauses | .gatherMapping _ _ clauses => [.sources clauses]
  | .compare _ relations rest => [.memberships relations rest]
  | .subscript object _ => [.plain object subscriptable]
  | .starred value => if isTarget then [.refusal value] else [.plain value plainContainers]
  | _ => []

/-- The defaults of the parameters that are given by name only, or of the others. -/
def defaultsOf (namedOnly : Bool) : List Expr → List Expr
  | [] => []
  | .parameter _ kind _ (some default) :: rest =>
      if decide (kind = .keywordOnly) = namedOnly then default :: defaultsOf namedOnly rest
      else defaultsOf namedOnly rest
  | _ :: rest => defaultsOf namedOnly rest

def keysOf : List Expr → List Expr
  | [] => []
  | .entry (some key) _ :: rest => key :: keysOf rest
  | _ :: rest => keysOf rest

def valuesOf : List Expr → List Expr
  | [] => []
  | .entry _ value :: rest => value :: valuesOf rest
  | _ :: rest => valuesOf rest

/-- The parts within a part that are gone over, in their order, each as a target or not. -/
def visits (isTarget : Bool) : Expr → List (Bool × Expr)
  | .name _ | .literal _ | .parameter .. | .bind .. | .await _ | .yield _ | .yieldFrom _ => []
  | .joined pieces => asValues pieces
  | .field value _ layout => asValues (value :: layout.toList)
  | .logical _ operands => asValues operands
  | .binary left _ right => asValues [left, right]
  | .unary _ operand => asValues [operand]
  | .lambda parameters body => asValues (defaultsOf true parameters ++ defaultsOf false parameters ++ [body])
  | .conditional test yes no => asValues [test, yes, no]
  | .mapping entries => asValues (keysOf entries ++ valuesOf entries)
  | .entry _ value => asValues [value]
  | .set items => asValues items
  | .list items | .tuple items => items.map (isTarget, ·)
  | .gather _ element clauses => asValues (element :: clauses)
  | .gatherMapping key value clauses => asValues (key :: value :: clauses)
  | .clause target source conditions _ => (true, target) :: asValues (source :: conditions)
  | .compare first _ rest => asValues (first :: rest)
  | .call callee arguments keywords => asValues (callee :: (arguments ++ keywords))
  | .keyword _ value => asValues [value]
  | .member object _ => asValues [object]
  | .subscript object index => asValues [object, index]
  | .starred value => [(isTarget, value)]
  | .slice lower upper step => asValues (lower.toList ++ upper.toList ++ step.toList)
where
  asValues (parts : List Expr) : List (Bool × Expr) := parts.map (false, ·)

theorem mem_as_values {parts : List Expr} {visit : Bool × Expr} :
    visit ∈ visits.asValues parts ↔ visit.1 = false ∧ visit.2 ∈ parts := by
  obtain ⟨target, part⟩ := visit
  simp only [visits.asValues, List.mem_map, Prod.mk.injEq]
  constructor
  · rintro ⟨found, known, rfl, rfl⟩
    exact ⟨rfl, known⟩
  · rintro ⟨rfl, known⟩
    exact ⟨part, known, rfl, rfl⟩

theorem defaults_smaller (namedOnly : Bool) (parameters : List Expr) :
    ∀ part ∈ defaultsOf namedOnly parameters, SizeOf.sizeOf part < SizeOf.sizeOf parameters := by
  fun_induction defaultsOf namedOnly parameters <;> simp_all <;> grind

theorem keys_smaller (entries : List Expr) :
    ∀ part ∈ keysOf entries, SizeOf.sizeOf part < SizeOf.sizeOf entries := by
  fun_induction keysOf entries <;> simp_all <;> grind

theorem values_smaller (entries : List Expr) :
    ∀ part ∈ valuesOf entries, SizeOf.sizeOf part < SizeOf.sizeOf entries := by
  fun_induction valuesOf entries <;> simp_all <;> grind

theorem visits_smaller (isTarget : Bool) (expression : Expr) :
    ∀ visit ∈ visits isTarget expression, SizeOf.sizeOf visit.2 < SizeOf.sizeOf expression := by
  have listed : ∀ (parts : List Expr), ∀ part ∈ parts, SizeOf.sizeOf part < SizeOf.sizeOf parts :=
    fun parts part => List.sizeOf_lt_of_mem
  have optional : ∀ (expression : Option Expr), ∀ part ∈ expression.toList,
      SizeOf.sizeOf part < SizeOf.sizeOf expression := by
    rintro (_ | part) <;> simp
  rintro ⟨target, part⟩ member
  cases expression with
  | name | literal | parameter | bind | await | yield | yieldFrom => simp [visits] at member
  | lambda parameters body =>
      have smaller := fun namedOnly => defaults_smaller namedOnly parameters part
      simp only [visits, mem_as_values, List.mem_append, List.mem_singleton] at member
      grind [Expr.lambda.sizeOf_spec]
  | mapping entries =>
      have keys := keys_smaller entries part
      have values := values_smaller entries part
      simp only [visits, mem_as_values, List.mem_append] at member
      grind [Expr.mapping.sizeOf_spec]
  | _ =>
      simp only [visits, mem_as_values, List.mem_cons, List.mem_append, List.not_mem_nil, or_false, List.mem_map,
        Prod.mk.injEq] at member
      grind

/-- All checks on the way through a part. -/
def course (isTarget : Bool) (expression : Expr) : List Check :=
  entering expression ++ (visits isTarget expression).attach.flatMap (fun visit => course visit.1.1 visit.1.2) ++
    leaving isTarget expression
termination_by SizeOf.sizeOf expression
decreasing_by exact visits_smaller isTarget expression visit.1 visit.2

theorem flat_map_attach {α β : Type} (items : List α) (parts : α → List β) :
    items.attach.flatMap (fun item => parts item.val) = items.flatMap parts := by
  rw [← List.flatMap_map]
  simp

theorem course_eq (isTarget : Bool) (expression : Expr) :
    course isTarget expression = entering expression ++
      (visits isTarget expression).flatMap (fun visit => course visit.1 visit.2) ++ leaving isTarget expression := by
  rw [course, flat_map_attach (visits isTarget expression) fun visit => course visit.1 visit.2]

theorem entering_subset (isTarget : Bool) {expression : Expr} : entering expression ⊆ course isTarget expression := by
  rw [course_eq, List.append_assoc]
  exact List.subset_append_left _ _

/-- What holds of a part when it holds of all that is gone over within it, holds of every part. -/
theorem visits_induction {motive : Bool → Expr → Prop}
    (step : ∀ isTarget expression, (∀ visit ∈ visits isTarget expression, motive visit.1 visit.2) →
      motive isTarget expression) (isTarget : Bool) (expression : Expr) : motive isTarget expression :=
  step isTarget expression fun visit _ => visits_induction step visit.1 visit.2
termination_by SizeOf.sizeOf expression
decreasing_by exact visits_smaller isTarget expression visit ‹_›

variable {watch : Watch}

/-! ### The guard takes its course -/

/-- Carrying checks out, up to the first one that refuses. -/
def carryOut (watch : Watch) (checks : List Check) : Run Unit := checks.forM (Check.run watch)

@[simp]
theorem carry_out_nil : carryOut watch [] = pure () := rfl

@[simp]
theorem carry_out_cons (check : Check) (checks : List Check) :
    carryOut watch (check :: checks) = (do check.run watch; carryOut watch checks) := rfl

@[simp]
theorem carry_out_append (first second : List Check) :
    carryOut watch (first ++ second) = (do carryOut watch first; carryOut watch second) := by
  simp [carryOut, List.forM_append]

/-- Going over parts one after another. -/
def inspectEach (watch : Watch) (parts : List (Bool × Expr)) : Run Unit :=
  parts.forM fun visit => inspect watch visit.1 visit.2

@[simp]
theorem inspect_each_nil : inspectEach watch [] = pure () := rfl

@[simp]
theorem inspect_each_cons (visit : Bool × Expr) (parts : List (Bool × Expr)) :
    inspectEach watch (visit :: parts) = (do inspect watch visit.1 visit.2; inspectEach watch parts) := rfl

@[simp]
theorem inspect_each_append (first second : List (Bool × Expr)) :
    inspectEach watch (first ++ second) = (do inspectEach watch first; inspectEach watch second) := by
  simp [inspectEach, List.forM_append]

theorem inspect_all_each (isTarget : Bool) (parts : List Expr) :
    inspectAll watch isTarget parts = inspectEach watch (parts.map (isTarget, ·)) := by
  induction parts with
  | nil => rw [inspectAll, List.map_nil, inspect_each_nil]
  | cons part rest induction => rw [inspectAll, List.map_cons, inspect_each_cons, induction]

theorem inspect_any_each (part : Option Expr) :
    inspectAny watch part = inspectEach watch (visits.asValues part.toList) := by
  cases part with
  | none => rw [inspectAny]; rfl
  | some part => simp [inspectAny, visits.asValues]

theorem inspect_defaults_each (namedOnly : Bool) (parameters : List Expr) :
    inspectDefaults watch namedOnly parameters =
      inspectEach watch (visits.asValues (defaultsOf namedOnly parameters)) := by
  fun_induction defaultsOf namedOnly parameters <;> simp_all [inspectDefaults, visits.asValues]

theorem inspect_keys_each (entries : List Expr) :
    inspectKeys watch entries = inspectEach watch (visits.asValues (keysOf entries)) := by
  fun_induction keysOf entries <;> simp_all [inspectKeys, visits.asValues]

theorem inspect_values_of_each (entries : List Expr) :
    inspectValues watch entries = inspectEach watch (visits.asValues (valuesOf entries)) := by
  fun_induction valuesOf entries <;> simp_all [inspectValues, visits.asValues]

/-- The guard makes the checks before a part, goes over what is within it, and makes the checks after it. -/
theorem inspect_eq (isTarget : Bool) (expression : Expr) :
    inspect watch isTarget expression = (do
      carryOut watch (entering expression)
      inspectEach watch (visits isTarget expression)
      carryOut watch (leaving isTarget expression)) := by
  cases expression with
  | starred value =>
      simp only [inspect, entering, visits, leaving, carry_out_nil, pure_bind, inspect_each_cons, inspect_each_nil,
        bind_assoc]
      cases isTarget with
      | false => simp [Check.run]
      | true =>
          simp only [if_true, carry_out_cons, Check.run]
          exact bind_congr fun _ => bind_congr_raises (not_succeeds_refuse value) _ _
  | _ =>
      simp only [inspect, entering, visits, leaving, visits.asValues, List.map_cons, List.map_nil, List.map_append,
        inspect_all_each, inspect_any_each, inspect_defaults_each, inspect_keys_each, inspect_values_of_each,
        carry_out_nil, carry_out_cons, Check.run, inspect_each_cons, inspect_each_nil, inspect_each_append, pure_bind,
        bind_assoc, bind_pure_unit]

/-- Going over an expression is carrying out the checks on its course. -/
theorem inspect_course (isTarget : Bool) (expression : Expr) :
    inspect watch isTarget expression = carryOut watch (course isTarget expression) := by
  induction isTarget, expression using visits_induction with
  | step isTarget expression induction =>
      have each : ∀ parts : List (Bool × Expr),
          (∀ visit ∈ parts, inspect watch visit.1 visit.2 = carryOut watch (course visit.1 visit.2)) →
          inspectEach watch parts = carryOut watch (parts.flatMap fun visit => course visit.1 visit.2) := by
        intro parts
        induction parts with
        | nil => exact fun _ => rfl
        | cons visit rest later =>
            intro known
            obtain ⟨here, others⟩ := List.forall_mem_cons.mp known
            rw [inspect_each_cons, List.flatMap_cons, carry_out_append, here, later others]
      rw [inspect_eq, course_eq, each _ induction, carry_out_append, carry_out_append, bind_assoc]

/-- A check depends on the values of those parts only that it evaluates. -/
theorem check_run_congr {other : Watch} {check : Check} (shadowed : other.isShadowed = watch.isShadowed)
    (same : ∀ part ∈ check.tried, other.value part = watch.value part) : check.run other = check.run watch := by
  have valueSame : ∀ part ∈ check.tried, valueOf other part = valueOf watch part := by
    intro part member
    rw [valueOf, valueOf, same part member]
  cases check with
  | refusal part => rfl
  | call callee whole => simp only [Check.run, checkCall, shadowed]
  | operation left operator right whole =>
      simp only [Check.run, checkOperation, valueSame left (by simp [Check.tried]),
        valueSame right (by simp [Check.tried])]
  | plain part kinds => simp only [Check.run, requirePlain, valueSame part (by simp [Check.tried])]
  | memberships relations rest =>
      simp only [Check.run, Check.tried] at valueSame ⊢
      clear same
      induction relations generalizing rest with
      | nil => rfl
      | cons relation relations induction =>
          cases rest with
          | nil => rfl
          | cons right rest =>
              obtain ⟨here, later⟩ := List.forall_mem_cons.mp valueSame
              simp only [checkMemberships, requirePlain, here, induction rest later]
  | sources clauses =>
      simp only [Check.run, Check.tried] at valueSame ⊢
      clear same
      induction clauses with
      | nil => rfl
      | cons clause rest induction =>
          cases clause with
          | clause target source conditions isAsync =>
              obtain ⟨here, later⟩ := List.forall_mem_cons.mp valueSame
              simp only [checkSources, here, induction later]
          | _ => simp only [checkSources, induction valueSame]

/-! ### How far the guard comes -/

variable {checks : List Check} {check : Check} {world : World}

/-- Going through checks in a world, the guard comes to one of them in another: it passes all that stand before. -/
def ComesTo (watch : Watch) (checks : List Check) (world : World) (check : Check) (between : World) : Prop :=
  ∃ before after, checks = before ++ check :: after ∧ (carryOut watch before).runIn world = (.ok (), between)

/-- When all checks are passed, the guard comes to each and passes it. -/
theorem passed_of_carried {last : World} (carried : (carryOut watch checks).runIn world = (.ok (), last))
    (member : check ∈ checks) : ∃ between next,
      ComesTo watch checks world check between ∧ (check.run watch).runIn between = (.ok (), next) := by
  obtain ⟨before, after, rfl⟩ := List.append_of_mem member
  rw [carry_out_append] at carried
  obtain ⟨_, between, earlier, later⟩ := run_of_bind carried
  obtain ⟨_, next, here, _⟩ := run_of_bind later
  exact ⟨between, next, ⟨before, after, rfl, earlier⟩, here⟩

/-- When an error is raised, it is raised by a check that the guard comes to. -/
theorem stopped_at {error : Value} {last : World}
    (stopped : (carryOut watch checks).runIn world = (.error error, last)) : ∃ check between,
      ComesTo watch checks world check between ∧ (check.run watch).runIn between = (.error error, last) := by
  induction checks generalizing world with
  | nil => cases stopped
  | cons first rest induction =>
      rw [carry_out_cons, run_in_bind] at stopped
      rcases outcome : (first.run watch).runIn world with ⟨raised | _, after⟩
      · rw [outcome] at stopped
        exact ⟨first, world, ⟨[], rest, rfl, rfl⟩, outcome.trans stopped⟩
      · rw [outcome] at stopped
        obtain ⟨check, between, ⟨before, later, rfl, carried⟩, raised⟩ := induction stopped
        refine ⟨check, between, ⟨first :: before, later, rfl, ?_⟩, raised⟩
        rw [carry_out_cons, run_in_bind, outcome]
        exact carried

/-! ### The order of the course -/

/-- Whether each check is made after all checks of the parts that it evaluates. -/
def Ordered (past : List Check) : List Check → Prop
  | [] => True
  | check :: rest => (∀ part ∈ check.tried, course false part <:+: past) ∧ Ordered (past ++ [check]) rest

theorem ordered_append {past first second : List Check} :
    Ordered past (first ++ second) ↔ Ordered past first ∧ Ordered (past ++ first) second := by
  induction first generalizing past with
  | nil => simp [Ordered]
  | cons check rest induction => simp only [List.cons_append, Ordered, induction, and_assoc, List.append_assoc,
      List.nil_append]

theorem Ordered.after {past checks : List Check} (ordered : Ordered past checks) (earlier : List Check) :
    Ordered (earlier ++ past) checks := by
  induction checks generalizing past with
  | nil => trivial
  | cons check rest induction =>
      obtain ⟨here, later⟩ := ordered
      refine ⟨fun part member => (here part member).trans (List.suffix_append _ _).isInfix, ?_⟩
      rw [List.append_assoc]
      exact induction later

theorem Ordered.of_tries_nothing {past checks : List Check} (nothing : ∀ check ∈ checks, check.tried = []) :
    Ordered past checks := by
  induction checks generalizing past with
  | nil => trivial
  | cons check rest induction =>
      obtain ⟨here, later⟩ := List.forall_mem_cons.mp nothing
      exact ⟨by simp [here], induction later⟩

theorem visited_in {parts : List (Bool × Expr)} {visit : Bool × Expr} (visited : visit ∈ parts) :
    course visit.1 visit.2 <:+: parts.flatMap fun visit => course visit.1 visit.2 :=
  List.infix_of_mem_flatten (List.mem_map_of_mem (f := fun visit => course visit.1 visit.2) visited)

theorem course_of_visit {isTarget asTarget : Bool} {expression part : Expr}
    (visited : (asTarget, part) ∈ visits isTarget expression) :
    course asTarget part <:+: course isTarget expression := by
  rw [course_eq isTarget]
  exact (visited_in visited).trans (List.infix_append _ _ _)

theorem source_of_clauses {clauses : List Expr} {source : Expr} (member : source ∈ Check.sourcesOf clauses) :
    ∃ target conditions isAsync, .clause target source conditions isAsync ∈ clauses := by
  fun_induction Check.sourcesOf clauses with
  | case1 => cases member
  | case2 target found conditions isAsync rest induction =>
      rcases List.mem_cons.mp member with rfl | later
      · exact ⟨target, conditions, isAsync, List.mem_cons_self⟩
      · obtain ⟨_, _, _, known⟩ := induction later
        exact ⟨_, _, _, List.mem_cons_of_mem _ known⟩
  | case3 _ rest _ induction =>
      obtain ⟨_, _, _, known⟩ := induction member
      exact ⟨_, _, _, List.mem_cons_of_mem _ known⟩

/-- Before a part is left, all checks of the parts that are evaluated then were made. -/
theorem visited_before_leaving (isTarget : Bool) (expression : Expr) :
    ∀ check ∈ leaving isTarget expression, ∀ part ∈ check.tried,
      course false part <:+: (visits isTarget expression).flatMap fun visit => course visit.1 visit.2 := by
  have listed : ∀ {part : Expr}, (false, part) ∈ visits isTarget expression →
      course false part <:+: (visits isTarget expression).flatMap fun visit => course visit.1 visit.2 :=
    fun visited => visited_in visited
  intro check member part tried
  cases expression with
  | binary left operator right =>
      obtain rfl := List.mem_singleton.mp member
      exact listed (mem_as_values.mpr ⟨rfl, tried⟩)
  | gather _ _ clauses | gatherMapping _ _ clauses =>
      obtain rfl := List.mem_singleton.mp member
      obtain ⟨target, conditions, isAsync, known⟩ := source_of_clauses tried
      have clause : course false part <:+: course false (.clause target part conditions isAsync) :=
        course_of_visit (by simp [visits, mem_as_values])
      exact clause.trans (listed (mem_as_values.mpr ⟨rfl, by simp [known]⟩))
  | compare first relations rest =>
      obtain rfl := List.mem_singleton.mp member
      exact listed (mem_as_values.mpr ⟨rfl, List.mem_cons_of_mem _ tried⟩)
  | subscript object index =>
      obtain rfl := List.mem_singleton.mp member
      obtain rfl := List.mem_singleton.mp tried
      exact listed (mem_as_values.mpr ⟨rfl, List.mem_cons_self⟩)
  | starred value =>
      cases isTarget with
      | true =>
          obtain rfl := List.mem_singleton.mp member
          cases tried
      | false =>
          obtain rfl := List.mem_singleton.mp member
          obtain rfl := List.mem_singleton.mp tried
          exact listed (by simp [visits])
  | _ => cases member

theorem entering_tries_nothing (expression : Expr) : ∀ check ∈ entering expression, check.tried = [] := by
  cases expression <;> simp [entering, Check.tried]

theorem leaving_length (isTarget : Bool) (expression : Expr) : (leaving isTarget expression).length ≤ 1 := by
  cases expression with
  | starred => cases isTarget <;> simp [leaving]
  | _ => simp [leaving]

/-- On the course through an expression, each check is made after all checks of the parts that it evaluates. -/
theorem ordered_course (isTarget : Bool) (expression : Expr) : Ordered [] (course isTarget expression) := by
  induction isTarget, expression using visits_induction with
  | step isTarget expression induction =>
      have each : ∀ (parts : List (Bool × Expr)) (past : List Check),
          (∀ visit ∈ parts, Ordered [] (course visit.1 visit.2)) →
          Ordered past (parts.flatMap fun visit => course visit.1 visit.2) := by
        intro parts
        induction parts with
        | nil => exact fun _ _ => trivial
        | cons visit rest later =>
            intro past known
            obtain ⟨here, others⟩ := List.forall_mem_cons.mp known
            rw [List.flatMap_cons, ordered_append]
            exact ⟨by simpa using here.after past, later _ others⟩
      rw [course_eq, ordered_append, ordered_append]
      refine ⟨⟨.of_tries_nothing (entering_tries_nothing expression), each _ _ induction⟩, ?_⟩
      have before := visited_before_leaving isTarget expression
      have few := leaving_length isTarget expression
      match leaving isTarget expression, before, few with
      | [], _, _ => trivial
      | [check], before, _ =>
          refine ⟨fun part tried => (before check List.mem_cons_self part tried).trans ?_, trivial⟩
          exact (List.suffix_append _ _).isInfix

theorem Ordered.tried_before {past checks before after : List Check} {check : Check} {part : Expr}
    (ordered : Ordered past checks) (split : checks = before ++ check :: after) (tried : part ∈ check.tried) :
    course false part <:+: past ++ before := by
  rw [split, ordered_append] at ordered
  exact ordered.2.1 part tried

/-- Surroundings that agree on every part whose checks can all be passed are as good as each other: no other part is
evaluated. -/
theorem carry_out_congr {other : Watch} {past : List Check} (shadowed : other.isShadowed = watch.isShadowed)
    (same : ∀ part, (∀ check ∈ course false part, Succeeds (check.run watch)) → other.value part = watch.value part)
    (ordered : Ordered past checks) (passed : ∀ check ∈ past, Succeeds (check.run watch)) :
    carryOut other checks = carryOut watch checks := by
  induction checks generalizing past with
  | nil => rfl
  | cons check rest induction =>
      obtain ⟨here, later⟩ := ordered
      have same : check.run other = check.run watch := check_run_congr shadowed fun part tried =>
        same part fun earlier member => passed earlier ((here part tried).subset member)
      rw [carry_out_cons, carry_out_cons, same]
      refine bind_congr_succeeds fun succeeds _ => induction later ?_
      simpa using fun earlier member => member.elim (passed earlier) fun isCheck => isCheck ▸ succeeds

/-! ### The course leaves nothing out -/

/-- What the guard does not go into. -/
def IsClosed : Expr → Prop
  | .bind .. | .await _ | .yield _ | .yieldFrom _ => True
  | _ => False

theorem refusal_of_closed {expression : Expr} (closed : IsClosed expression) (isTarget : Bool) :
    Check.refusal expression ∈ course isTarget expression := by
  apply entering_subset
  cases expression with
  | bind | await | yield | yieldFrom => exact List.mem_cons_self
  | _ => exact closed.elim

theorem default_visited {kept : List String} {parameters : List Expr} :
    ∀ part ∈ Code.defaultParts kept parameters,
      part.expression ∈ defaultsOf true parameters ++ defaultsOf false parameters := by
  fun_induction Code.defaultParts kept parameters with
  | case1 => simp
  | case2 name kind annotated default rest induction =>
      refine List.forall_mem_cons.mpr ⟨?_, fun part member => ?_⟩
      · by_cases only : kind = .keywordOnly <;> simp [defaultsOf, only]
      · have known := induction part member
        simp only [defaultsOf, List.mem_append] at known ⊢
        grind
  | case3 parameter rest other induction =>
      have skipped : ∀ namedOnly, defaultsOf namedOnly (parameter :: rest) = defaultsOf namedOnly rest := by
        intro namedOnly
        rw [defaultsOf]
        exact other
      rw [skipped, skipped]
      exact induction

theorem entry_visited {kept : List String} {entries : List Expr} :
    ∀ part ∈ Code.entryParts kept entries, part.expression ∈ keysOf entries ++ valuesOf entries := by
  fun_induction Code.entryParts kept entries with
  | case1 => simp
  | case2 key value rest induction =>
      intro part member
      rw [List.mem_append, List.mem_cons] at member
      rcases member with inKey | rfl | later
      · obtain ⟨found, known, rfl⟩ := List.mem_map.mp inKey
        rw [Option.mem_toList] at known
        simp [Option.mem_def.mp known, keysOf]
      · simp [valuesOf]
      · have known := induction part later
        cases key <;> simp only [keysOf, valuesOf, List.mem_append, List.mem_cons] at known ⊢ <;> grind
  | case3 entry rest other induction =>
      have keys : keysOf (entry :: rest) = keysOf rest := by
        rw [keysOf]
        exact fun key value => other (some key) value
      have values : valuesOf (entry :: rest) = valuesOf rest := by
        rw [valuesOf]
        exact other
      rw [keys, values]
      exact induction

/-- A part of clauses is a clause of its own kind, or stands in one. -/
theorem part_of_clauses {outer inner : List String} {clauses : List Expr} :
    ∀ part ∈ Code.clauseParts outer inner clauses, ∃ clause ∈ clauses, part.expression = clause ∨
      ∃ isTarget, (isTarget, part.expression) ∈ visits false clause := by
  fun_induction Code.clauseParts outer inner clauses with
  | case1 => simp
  | case2 outer target source conditions isAsync rest induction =>
      intro part member
      simp only [List.cons_append, List.mem_cons, List.mem_append, List.mem_map] at member
      rcases member with rfl | rfl | ⟨condition, known, rfl⟩ | later
      · exact ⟨_, List.mem_cons_self, .inr ⟨false, by simp [visits, mem_as_values]⟩⟩
      · exact ⟨_, List.mem_cons_self, .inr ⟨true, by simp [visits]⟩⟩
      · exact ⟨_, List.mem_cons_self, .inr ⟨false, by simp [visits, mem_as_values, known]⟩⟩
      · obtain ⟨clause, known, found⟩ := induction part later
        exact ⟨clause, List.mem_cons_of_mem _ known, found⟩
  | case3 outer other rest _ induction =>
      refine List.forall_mem_cons.mpr ⟨⟨other, List.mem_cons_self, .inl rfl⟩, fun part member => ?_⟩
      obtain ⟨clause, known, found⟩ := induction part member
      exact ⟨clause, List.mem_cons_of_mem _ known, found⟩

/-- The course through a part that is gone into goes through all parts directly within it. -/
theorem course_of_inside {kept : List String} {expression : Expr} (open_ : ¬IsClosed expression) (isTarget : Bool) :
    ∀ inner ∈ Part.inside ⟨kept, expression⟩, ∃ asTarget,
      course asTarget inner.expression <:+: course isTarget expression := by
  have visited : ∀ {part : Expr}, part ∈ (visits isTarget expression).map (·.2) →
      ∃ asTarget, course asTarget part <:+: course isTarget expression := by
    intro part member
    obtain ⟨⟨asTarget, found⟩, known, rfl⟩ := List.mem_map.mp member
    exact ⟨asTarget, course_of_visit known⟩
  have inClauses : ∀ {outer inner : List String} {clauses : List Expr},
      (∀ clause ∈ clauses, (false, clause) ∈ visits isTarget expression) →
      ∀ part ∈ Code.clauseParts outer inner clauses, ∃ asTarget,
        course asTarget part.expression <:+: course isTarget expression := by
    intro outer inner clauses known part member
    obtain ⟨clause, within, rfl | ⟨asTarget, deeper⟩⟩ := part_of_clauses part member
    · exact ⟨false, course_of_visit (known _ within)⟩
    · exact ⟨asTarget, (course_of_visit deeper).trans (course_of_visit (known clause within))⟩
  intro inner member
  cases expression with
  | bind | await | yield | yieldFrom => exact absurd trivial open_
  | lambda parameters body =>
      apply visited
      rcases List.mem_cons.mp member with rfl | default
      · simp [visits, visits.asValues]
      · have known := default_visited inner default
        simp only [visits, visits.asValues, List.map_map, List.mem_map, List.mem_append] at known ⊢
        exact ⟨inner.expression, .inl known, rfl⟩
  | mapping entries =>
      apply visited
      have known := entry_visited inner member
      simp only [visits, visits.asValues, List.map_map, List.mem_map]
      exact ⟨inner.expression, known, rfl⟩
  | gather _ element clauses =>
      rcases List.mem_cons.mp member with rfl | clause
      · exact visited (by simp [visits, visits.asValues])
      · exact inClauses (fun clause known => by simp [visits, mem_as_values, known]) inner clause
  | gatherMapping key value clauses =>
      rcases List.mem_cons.mp member with rfl | inValue
      · exact visited (by simp [visits, visits.asValues])
      · rcases List.mem_cons.mp inValue with rfl | clause
        · exact visited (by simp [visits, visits.asValues])
        · exact inClauses (fun clause known => by simp [visits, mem_as_values, known]) inner clause
  | name | literal | parameter => simp [Part.inside] at member
  | _ =>
      apply visited
      simp [Part.inside, visits, visits.asValues] at member ⊢
      grind

/-- What the course through an expression tells of a part within it: it goes through the part, or a part around it is
refused as it stands. -/
theorem course_of_holds {outer part : Part} (holds : outer.Holds part) (isTarget : Bool) :
    (∃ asTarget, course asTarget part.expression <:+: course isTarget outer.expression) ∨
      ∃ refused, IsClosed refused ∧ .refusal refused ∈ course isTarget outer.expression := by
  induction holds generalizing isTarget with
  | self part => exact .inl ⟨isTarget, List.infix_rfl⟩
  | @step outer inner part member _ induction =>
      by_cases closed : IsClosed outer.expression
      · exact .inr ⟨_, closed, refusal_of_closed closed isTarget⟩
      · obtain ⟨asTarget, within⟩ := course_of_inside closed isTarget inner member
        rcases induction asTarget with ⟨deeper, found⟩ | ⟨refused, isClosed, found⟩
        · exact .inl ⟨deeper, found.trans within⟩
        · exact .inr ⟨refused, isClosed, within.subset found⟩

end LiveShell.Guard
