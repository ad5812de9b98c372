import LiveShell.Proofs.GuardCourse
import LiveShell.Proofs.PlainDescriptions

/-!
What silent evaluation refuses wherever it stands. Calls other than by the name of a pure function, bindings, waiting
and yielding are refused at any depth, and so is a call by such a name that means something else when the guard comes
to the call. The guard evaluates a part only after all that is within the part was accepted, so what it refuses is never
run: the answer tells of the refusal, unless the code of the session that an accepted part ran ends the program.
-/

namespace LiveShell

open Code (Expr Part)

set_option autoImplicit false

namespace Guard

open Run

variable {watch : Watch} {world : World}

/-- Syntax that is refused as it stands. -/
def IsForbidden : Expr → Prop
  | .bind .. | .await _ | .yield _ | .yieldFrom _ => True
  | .call callee _ _ => ∀ name ∈ pureNames, callee ≠ .name name
  | _ => False

/-- Nothing forbidden stands within a part, at any depth. -/
def HoldsNothingForbidden (expression : Expr) : Prop :=
  ∀ part, Part.Holds ⟨[], expression⟩ part → ¬IsForbidden part.expression

/-! ### Checks that cannot be passed -/

theorem forbidden_check (watch : Watch) {expression : Expr} (forbidden : IsForbidden expression) (isTarget : Bool) :
    ∃ check ∈ course isTarget expression, ¬Succeeds (check.run watch) := by
  by_cases closed : IsClosed expression
  · exact ⟨_, refusal_of_closed closed isTarget, not_succeeds_refuse expression⟩
  · cases expression with
    | call callee arguments keywords =>
        refine ⟨_, entering_subset isTarget List.mem_cons_self, fun succeeds => ?_⟩
        obtain ⟨name, pure, rfl⟩ := check_call_name succeeds
        exact forbidden name pure rfl
    | _ => exact absurd forbidden closed

/-- What was carried out as a whole holds nothing forbidden. -/
theorem nothing_forbidden_of_carried {isTarget : Bool} {expression : Expr}
    (passed : ∀ check ∈ course isTarget expression, Succeeds (check.run watch)) : HoldsNothingForbidden expression := by
  intro part holds forbidden
  rcases course_of_holds holds isTarget with ⟨asTarget, within⟩ | ⟨refused, _, member⟩
  · obtain ⟨check, member, fails⟩ := forbidden_check watch forbidden asTarget
    exact fails (passed check (within.subset member))
  · exact not_succeeds_refuse refused (passed _ member)

/-! ### What the guard raises -/

variable {α β : Type}

/-- The error that the guard refuses a part with. -/
def IsRefusal (part : Expr) (error : Value) (world : World) : Prop :=
  ∃ address own, error = .ref address ∧ world.cells[address]? = some (.instanceOf (.kind (.error "SideEffectError")) own
    (some (.tuple (Environment.argumentsOf (some ("possible side effect: " ++ part.kindName))))))

theorem refuse_raises {part : Expr} {error : Value} {after : World}
    (raised : (refuse part : Run α).runIn world = (.error error, after)) : IsRefusal part error after := by
  cases raised
  exact ⟨_, _, rfl, Array.getElem?_push_size⟩

/-- A computation of the guard raises nothing but refusals, and what is no ordinary error from a part that it
evaluates. -/
def RaisesRefusals (watch : Watch) (tried : List Expr) (run : Run α) : Prop :=
  ∀ world error after, run.runIn world = (.error error, after) →
    (∃ part, IsRefusal part error after) ∨
      ¬IsOrdinary error after ∧ ∃ part ∈ tried, ∃ start, (watch.value part).runIn start = (.error error, after)

variable {tried : List Expr}

theorem raises_reads {run : Run α} (reads : Reads run) : RaisesRefusals watch tried run := by
  intro world error after raised
  obtain ⟨value, told⟩ := reads world
  rw [told] at raised
  cases raised

theorem raises_refuse (part : Expr) : RaisesRefusals watch tried (refuse part : Run α) :=
  fun _ _ _ raised => .inl ⟨part, refuse_raises raised⟩

theorem raises_bind {run : Run α} {next : α → Run β} (first : RaisesRefusals watch tried run)
    (later : ∀ value, RaisesRefusals watch tried (next value)) : RaisesRefusals watch tried (run >>= next) := by
  intro world error after raised
  rw [run_in_bind] at raised
  rcases outcome : run.runIn world with ⟨thrown | value, between⟩
  · rw [outcome] at raised
    cases raised
    exact first world _ _ outcome
  · rw [outcome] at raised
    exact later value between error after raised

theorem raises_value {part : Expr} (member : part ∈ tried) : RaisesRefusals watch tried (valueOf watch part) := by
  intro world error after raised
  rw [valueOf, run_in_catch] at raised
  rcases outcome : (watch.value part).runIn world with ⟨thrown | value, between⟩
  · rw [outcome] at raised
    obtain ⟨ordinary, told⟩ := reads_is_error thrown "Exception" between
    simp only [run_in_bind, told] at raised
    cases ordinary with
    | true => exact .inl ⟨part, refuse_raises raised⟩
    | false =>
        cases raised
        refine .inr ⟨fun ordinary => ?_, part, member, world, outcome⟩
        rw [IsOrdinary, told] at ordinary
        cases ordinary
  · rw [outcome] at raised
    cases raised

theorem reads_is_one_of (value : Value) (kinds : List Kind) : Reads (isOneOf value kinds) := by
  refine reads_bind (reads_class_of value) fun cls => ?_
  split <;> exact reads_pure _

theorem reads_size_of (value : Value) : Reads (sizeOf value) := by
  unfold sizeOf
  split
  · exact reads_pure _
  · refine reads_bind ?_ fun _ => reads_pure _
    unfold plainLength?
    split
    any_goals exact reads_pure _
    refine reads_bind (reads_cell _) fun cell => ?_
    split
    any_goals exact reads_pure _
    exact reads_bind (reads_entries _) fun _ => reads_pure _

theorem reads_is_small (operator : Code.BinaryOperator) (left right : Value) : Reads (isSmall operator left right) := by
  unfold isSmall
  split
  any_goals exact reads_pure _
  split
  · exact reads_pure _
  · refine reads_bind (reads_is_one_of _ _) fun plain => ?_
    split
    · exact reads_bind (reads_size_of _) fun _ => reads_pure _
    · exact reads_pure _

theorem raises_require {part : Expr} (member : part ∈ tried) (kinds : List Kind) :
    RaisesRefusals watch tried (requirePlain watch part kinds) := by
  refine raises_bind (raises_value member) fun value => ?_
  refine raises_bind (raises_reads (reads_is_one_of value kinds)) fun plain => ?_
  split
  · exact raises_refuse part
  · exact raises_reads (reads_pure _)

theorem raises_memberships (relations : List Code.Relation) {rest : List Expr} (members : rest ⊆ tried) :
    RaisesRefusals watch tried (checkMemberships watch relations rest) := by
  induction relations generalizing rest with
  | nil => exact raises_reads (reads_pure _)
  | cons relation relations induction =>
      cases rest with
      | nil => exact raises_reads (reads_pure _)
      | cons right rest =>
          obtain ⟨here, later⟩ := List.cons_subset.mp members
          rw [checkMemberships]
          split
          · exact raises_bind (raises_require here _) fun _ => induction later
          · exact induction later

theorem raises_sources {clauses : List Expr} (members : Check.sourcesOf clauses ⊆ tried) :
    RaisesRefusals watch tried (checkSources watch clauses) := by
  induction clauses with
  | nil => exact raises_reads (reads_pure _)
  | cons clause rest induction =>
      cases clause with
      | clause target source conditions isAsync =>
          obtain ⟨here, later⟩ := List.cons_subset.mp members
          rw [checkSources]
          refine raises_bind (raises_value here) fun value => ?_
          refine raises_bind (raises_reads (reads_is_one_of value _)) fun plain => ?_
          have sized : RaisesRefusals watch tried (do
              if mostItems < (← sizeOf value) then refuse source
              checkSources watch rest) := by
            refine raises_bind (raises_reads (reads_size_of value)) fun size => ?_
            split
            · exact raises_bind (raises_refuse source) fun _ => induction later
            · exact induction later
          split
          · exact raises_bind (raises_refuse source) fun _ => sized
          · exact sized
      | _ => exact induction members

theorem raises_check (shadowed : ∀ name, Reads (watch.isShadowed name)) (check : Check) :
    RaisesRefusals watch check.tried (check.run watch) := by
  cases check with
  | refusal part => exact raises_refuse part
  | call callee whole =>
      simp only [Check.run]
      unfold checkCall
      split
      · next name =>
          have asked : RaisesRefusals watch [] (do if ← watch.isShadowed name then refuse whole) := by
            refine raises_bind (raises_reads (shadowed name)) fun known => ?_
            split
            · exact raises_refuse whole
            · exact raises_reads (reads_pure _)
          split
          · exact raises_bind (raises_refuse whole) fun _ => asked
          · exact asked
      · exact raises_refuse whole
  | operation left operator right whole =>
      have compared : RaisesRefusals watch [left, right] (do
          let leftValue ← valueOf watch left
          let rightValue ← valueOf watch right
          if !(← isSmall operator leftValue rightValue) then refuse whole) := by
        refine raises_bind (raises_value (by simp)) fun leftValue => ?_
        refine raises_bind (raises_value (by simp)) fun rightValue => ?_
        refine raises_bind (raises_reads (reads_is_small operator leftValue rightValue)) fun small => ?_
        split
        · exact raises_refuse whole
        · exact raises_reads (reads_pure _)
      simp only [Check.run]
      unfold checkOperation
      split
      · exact compared
      · exact compared
      · exact compared
      · exact raises_reads (reads_pure _)
  | memberships relations rest => exact raises_memberships relations (List.Subset.refl _)
  | sources clauses => exact raises_sources (List.Subset.refl _)
  | plain part kinds => exact raises_require List.mem_cons_self kinds

end Guard

namespace Environment

open Completion (Description Failure)
open Guard
open Run (IsOrdinary Reads reads_bind reads_pure)

variable {environment : Environment} {world : World} {text : String} {expression : Expr}

/-! ### How a refusal is told of -/

theorem describe_told {value : Value} {description : Description} {after : World}
    (described : (describe value).runIn world = (.ok description, after)) :
    description.handle = none ∧ ∃ name between,
      (Run.typeName value).runIn between = (.ok name, after) ∧ description.className = some name := by
  obtain ⟨sort, between, _, afterSort⟩ := Run.run_of_bind described
  obtain ⟨shown, later, _, afterShown⟩ := Run.run_of_bind afterSort
  obtain ⟨name, last, named, built⟩ := Run.run_of_bind afterShown
  cases built
  exact ⟨rfl, name, later, named, rfl⟩

/-- An account of the refusal of a part. -/
structure TellsRefusal (part : Expr) (failure : Failure) : Prop where
  text : failure.text = "SideEffectError: possible side effect: " ++ part.kindName
  className : failure.raised.className = some "SideEffectError"
  noHandle : failure.raised.handle = none

theorem describe_refusal {part : Expr} {error : Value} (refusal : IsRefusal part error world) :
    ∃ failure, (describeFailure error).runIn world = (.ok failure, world) ∧ TellsRefusal part failure := by
  obtain ⟨address, own, rfl, here⟩ := refusal
  obtain ⟨form, shown⟩ := shown_plain_error here
  obtain ⟨description, described⟩ := described_of_shown shown
  have named : (Run.typeName (.ref address)).runIn world = (.ok "SideEffectError", world) := by
    simp only [Run.typeName, Run.classOf, Run.run_in_bind, module_cell here]
    rfl
  have spelled : (Run.layOut engine (.ref address) "").runIn world =
      (.ok ("possible side effect: " ++ part.kindName), world) := by
    rw [Run.layOut, Run.run_in_bind, no_own_operation here]
    show (Run.textAt engine (998 + 1 + 1) (.ref address)).runIn world = _
    rw [Run.textAt, Run.run_in_bind, no_own_operation here]
    simp only [Run.run_in_bind, module_cell here]
    rfl
  obtain ⟨noHandle, name, between, told, className⟩ := describe_told described
  obtain ⟨known, same⟩ := Run.reads_type_name (.ref address) between
  rw [same] at told
  cases told
  rw [named] at same
  cases same
  refine ⟨⟨"SideEffectError" ++ ": " ++ ("possible side effect: " ++ part.kindName), description⟩, ?_,
    ⟨?_, className, noHandle⟩⟩
  · rw [describeFailure, Run.run_in_bind, described]
    simp only [Run.run_in_bind, spelled, named]
    rfl
  · simp only [← String.append_assoc]
    rfl

/-! ### What is refused at any depth -/

/-- A name that stands for something else in a namespace than it does as a built-in name. -/
def IsRebound (space : Address) (name : String) (world : World) : Prop :=
  ∃ value, (Run.nameIn? space name).runIn world = (.ok (some value), world) ∧ Run.isBuiltin name value = false

theorem shadowed_told (space : Address) (name : String) (world : World) :
    ∃ shadowed, ((watchOf .free space).isShadowed name).runIn world = (.ok shadowed, world) ∧
      (shadowed = true ↔ IsRebound space name world) := by
  obtain ⟨found, told⟩ := Run.reads_name space name world
  cases found with
  | none =>
      refine ⟨false, ?_, nofun, ?_⟩
      · simp only [watchOf, Run.run_in_bind, told]
        rfl
      · rintro ⟨value, known, _⟩
        rw [told] at known
        cases known
  | some value =>
      refine ⟨!Run.isBuiltin name value, ?_, ?_⟩
      · simp only [watchOf, Run.run_in_bind, told, Run.isBuiltin]
        cases builtinValue? name <;> rfl
      · rw [Bool.not_eq_true']
        refine ⟨fun other => ⟨value, told, other⟩, ?_⟩
        rintro ⟨_, known, other⟩
        rw [told] at known
        cases known
        exact other

/-- A part that the guard turns away, going over an expression from some world on: forbidden syntax, or a call by a
name that stands for something else when the guard comes to the call. -/
inductive IsTurnedAway (space : Address) (whole : Expr) (world : World) : Expr → Prop
  | forbidden {part : Expr} (forbidden : IsForbidden part) : IsTurnedAway space whole world part
  | rebound {name : String} {arguments keywords : List Expr}
      (rebound : ∀ between, ComesTo (watchOf .free space) (course false whole) world
        (.call (.name name) (.call (.name name) arguments keywords)) between → IsRebound space name between) :
      IsTurnedAway space whole world (.call (.name name) arguments keywords)

theorem call_passed {space : Address} {name : String} {whole : Expr} {after : World}
    (passed : (checkCall (watchOf .free space) (.name name) whole).runIn world = (.ok (), after)) :
    ¬IsRebound space name world := by
  intro rebound
  obtain ⟨shadowed, told, known⟩ := shadowed_told space name world
  obtain rfl := known.mpr rebound
  rw [checkCall] at passed
  split at passed
  · cases passed
  · rw [Run.run_in_bind, told] at passed
    cases passed

/-- Once all checks on the way through a part are passed, nothing within the part is forbidden, and the names that
it calls by stood for what they are built in for when their calls were come to. -/
theorem accepted_of_carried {space : Address} {checks : List Check} {last : World} {isTarget : Bool} {part : Expr}
    (carried : (carryOut (watchOf .free space) checks).runIn world = (.ok (), last))
    (within : course isTarget part <:+: checks) : HoldsNothingForbidden part ∧
      ∀ inner, Part.Holds ⟨[], part⟩ inner → ∀ name arguments keywords,
        inner.expression = .call (.name name) arguments keywords → ∃ between,
          ComesTo (watchOf .free space) checks world (.call (.name name) inner.expression) between ∧
            ¬IsRebound space name between := by
  have passed : ∀ check ∈ course isTarget part, ∃ between next,
      ComesTo (watchOf .free space) checks world check between ∧
        (check.run (watchOf .free space)).runIn between = (.ok (), next) :=
    fun check member => passed_of_carried carried (within.subset member)
  have succeeds : ∀ check ∈ course isTarget part, Run.Succeeds (check.run (watchOf .free space)) := by
    intro check member
    obtain ⟨between, next, _, given⟩ := passed check member
    exact ⟨between, (), next, given⟩
  refine ⟨nothing_forbidden_of_carried succeeds, ?_⟩
  intro inner holds name arguments keywords isCall
  rcases course_of_holds holds isTarget with ⟨asTarget, deeper⟩ | ⟨refused, _, member⟩
  · have member : Check.call (.name name) inner.expression ∈ course asTarget inner.expression := by
      apply entering_subset
      rw [isCall]
      exact List.mem_cons_self
    obtain ⟨between, next, come, given⟩ := passed _ (deeper.subset member)
    exact ⟨between, come, call_passed given⟩
  · exact absurd (succeeds _ member) (not_succeeds_refuse refused)

/-- How a refused evaluation ends: where the guard stops, nothing is run after that. The answer tells of the refusal and
holds no handle, or what is no ordinary error passes through from the code that a part ran which holds nothing
forbidden. -/
inductive EndsRefused (environment : Environment) (world : World) (text : String) (expression : Expr) : Prop
  | told {part : Expr} {failure : Failure} {error : Value} {after : World}
      (stopped : (inspect (watchOf .free environment.space) false expression).runIn world = (.error error, after))
      (answer : (environment.evaluate text true).runIn world =
        (.ok ({ result := failure.raised, failure := some failure }, environment), after))
      (tells : TellsRefusal part failure) : EndsRefused environment world text expression
  | ended {part : Expr} {error : Value} {start after : World}
      (stopped : (inspect (watchOf .free environment.space) false expression).runIn world = (.error error, after))
      (answer : (environment.evaluate text true).runIn world = (.error error, after))
      (escapes : ¬IsOrdinary error after) (accepted : HoldsNothingForbidden part)
      (ran : ((watchOf .free environment.space).value part).runIn start = (.error error, after)) :
      EndsRefused environment world text expression

/-- The parts that the guard evaluates are gone over before, as wholes. -/
theorem tried_accepted {space : Address} {check : Check} {between : World} {part : Expr}
    (come : ComesTo (watchOf .free space) (course false expression) world check between) (tried : part ∈ check.tried) :
    HoldsNothingForbidden part := by
  obtain ⟨before, after, split, carried⟩ := come
  have within := (ordered_course false expression).tried_before split tried
  exact (accepted_of_carried carried within).1

theorem ordinary_refusal {part : Expr} {error : Value} (refusal : IsRefusal part error world) :
    IsOrdinary error world := by
  obtain ⟨address, own, rfl, here⟩ := refusal
  simp only [IsOrdinary, Run.isError, Run.isKind, Run.isInstance, Run.classOf, Run.run_in_bind, module_cell here]
  rfl

theorem evaluate_of_error {error : Value} {between : World}
    (raised : (valueOf environment.space text true).runIn world = (.error error, between)) :
    (environment.evaluate text true).runIn world = (do
      if ← Run.isError error "Exception" then
        let failure ← describeFailure error
        return ({ result := failure.raised, failure := some failure }, environment)
      else throw error : Run (Completion.Evaluation × Environment)).runIn between := by
  obtain ⟨ordinary, told⟩ := Run.reads_is_error error "Exception" between
  simp only [evaluate, orFailure, bind_assoc, Run.run_in_bind, Run.run_in_attempt, raised, told]
  cases ordinary with
  | true =>
      simp only [if_true, Run.run_in_bind]
      rcases (describeFailure error).runIn between with ⟨_ | _, after⟩ <;> rfl
  | false => rfl

/-- The guard does not let an expression pass that it turns a part of away. -/
theorem turned_away_stops {space : Address} {part : Part} (holds : Part.Holds ⟨[], expression⟩ part)
    (turned : IsTurnedAway space expression world part.expression) (last : World) :
    (inspect (watchOf .free space) false expression).runIn world ≠ (.ok (), last) := by
  intro carried
  rw [inspect_course] at carried
  obtain ⟨nothing, calls⟩ := accepted_of_carried carried List.infix_rfl
  generalize isPart : part.expression = inner at turned
  cases turned with
  | forbidden forbidden => exact nothing part holds (isPart ▸ forbidden)
  | rebound rebound =>
      obtain ⟨between, come, bound⟩ := calls part holds _ _ _ isPart
      rw [isPart] at come
      exact bound (rebound between come)

theorem evaluate_refused {part : Part} (read : (readExpression text).runIn world = (.ok expression, world))
    (holds : Part.Holds ⟨[], expression⟩ part)
    (turned : IsTurnedAway environment.space expression world part.expression) :
    EndsRefused environment world text expression := by
  rcases stops : (inspect (watchOf .free environment.space) false expression).runIn world with ⟨error | _, between⟩
  · have raised : (valueOf environment.space text true).runIn world = (.error error, between) := by
      simp only [valueOf, valueThrough, Run.run_in_bind, read, if_true, stops]
    have outcome := stops
    rw [inspect_course] at outcome
    obtain ⟨check, start, come, stopped⟩ := stopped_at outcome
    have shadowed : ∀ name, Reads ((watchOf .free environment.space).isShadowed name) := by
      intro name world
      obtain ⟨shadowed, told, _⟩ := shadowed_told environment.space name world
      exact ⟨shadowed, told⟩
    rcases raises_check shadowed check start error between stopped with
      ⟨refused, refusal⟩ | ⟨escapes, tried, member, begun, ran⟩
    · obtain ⟨failure, described, tells⟩ := describe_refusal refusal
      refine .told stops ?_ tells
      rw [evaluate_of_error raised, Run.run_in_bind, ordinary_refusal refusal]
      simp only [if_true, Run.run_in_bind, described]
      rfl
    · refine .ended stops ?_ escapes (tried_accepted come member) ran
      obtain ⟨ordinary, told⟩ := Run.reads_is_error error "Exception" between
      cases ordinary with
      | true => exact absurd told escapes
      | false =>
          rw [evaluate_of_error raised, Run.run_in_bind, told]
          rfl
  · exact absurd stops (turned_away_stops holds turned between)

/-- Whether a call by a name stands somewhere in an expression. -/
def callsBy (name : String) (expression : Expr) : Bool :=
  (Part.all ⟨[], expression⟩).any fun part => match part.expression with
    | .call (.name called) _ _ => called == name
    | _ => false

theorem forbidden_of_calls {name : String} (calls : callsBy name expression = true) (impure : name ∉ pureNames) :
    ∃ part, Part.Holds ⟨[], expression⟩ part ∧ IsForbidden part.expression := by
  obtain ⟨part, member, isCall⟩ := List.any_eq_true.mp calls
  refine ⟨part, Part.mem_all.mp member, ?_⟩
  split at isCall
  · next called arguments keywords same =>
      rw [same]
      rintro _ pure ⟨⟩
      exact impure (eq_of_beq isCall ▸ pure)
  · cases isCall

theorem read_of_code (world : World) (whole : text.toList.contains '\x00' = false)
    (read : Code.readExpression (inBrackets text) = .ok expression) :
    (readExpression text).runIn world = (.ok expression, world) := by
  rw [readExpression, Run.requireText, whole, read]
  rfl

end Environment

end LiveShell
