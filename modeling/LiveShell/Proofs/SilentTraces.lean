import LiveShell.Proofs.ArithmeticLimits
import LiveShell.Proofs.SparedExpressions
import LiveShell.Proofs.TriedParts

/-!
What silent evaluation leaves behind. The guard evaluates parts of an expression on its way, each of them after it has
gone over that part as a whole, so every evaluation of its own is of something it has accepted. When the whole is
accepted, the checks still tell the truth at the time it is evaluated. Then neither has left a trace, and when the
expression is refused or fails, what was done before has left none either.
-/

namespace LiveShell

open Code (Expr Part)
open Run

set_option autoImplicit false

variable {α : Type} {space bound : Address} {global : String → Bool} {world : World}

namespace Run

/-- Preparing a namespace adds an entry for the built-in names to it, where there is none, and changes nothing else. -/
theorem spares_prepare (space bound : Address) : Spares space bound (prepareSpace space) := by
  intro world grounded
  unfold prepareSpace
  obtain ⟨found, told⟩ := reads_name space builtinsName world
  refine spares_at_read told ?_ grounded
  cases found with
  | some value => exact spares_pure () world
  | none =>
      refine fun _ => spared_at_home fun cell known => ?_
      cases cell with
      | dict entries factory =>
          rw [name_in_dict known] at told
          have missing : valueUnder? entries builtinsName = none := Except.ok.inj (congrArg Prod.fst told)
          have absent : ∀ entry ∈ entries, isText builtinsName entry.1 = false := by
            simpa [valueUnder?] using missing
          have unknown : Cell.tellsBuiltins entries = false := by
            simpa [Cell.tellsBuiltins] using fun place lives => absent _ (Array.getElem_mem lives)
          have place : (entries.findIdx? fun entry => isText builtinsName entry.1) = none := by
            simpa using fun key value => absent (key, value)
          refine .inr ?_
          simp only [Cell.withBuiltins, unknown, place, Bool.false_eq_true, if_false]
      | _ => exact .inl rfl

theorem fits_scope_of (space bound : Address) (kept : List String) : Fits space bound kept (scopeOf space) :=
  ⟨rfl, rfl, ⟨rfl, nofun⟩, nofun⟩

/-- The value of a part whose checks are passed. -/
theorem through_spares {kept : List String} {expression : Expr} (seen : Part.AllSeen global ⟨kept, expression⟩)
    (mayWait : Bool) : SparesWhile space bound (Guard.Ready space global (Guard.course false expression))
      (evaluateThrough .free space mayWait expression) := by
  unfold evaluateThrough
  split
  · exact spares_while spares_raise_bind
  · refine spares_while_bind Guard.ready_lasts (spares_while (spares_prepare _ _)) fun _ => ?_
    exact (part_clear (engine_is_quiet 999) _ seen false (scopeOf space) (fits_scope_of space bound kept)).spares

end Run

namespace Guard

open Environment (IsRebound call_passed shadowed_told watchOf)

variable {watch : Watch}

theorem spares_refuse (part : Expr) : Spares space bound (refuse part : Run α) := spares_fail _ _

/-- A part that does what the guard sees, all checks on the way through which were made. -/
structure Known (global : String → Bool) (past : List Check) (part : Expr) : Prop where
  seen : ∃ kept, Part.AllSeen global ⟨kept, part⟩
  checked : course false part ⊆ past

variable {past : List Check}

/-- A part that was gone over is evaluated without a trace, also when it fails. -/
theorem value_spares {part : Expr} (known : Known global past part) :
    SparesWhile space bound (Ready space global past) (valueOf (watchOf .free space) part) := by
  obtain ⟨kept, seen⟩ := known.seen
  intro world ready
  refine spares_at_catch (through_spares seen false world (ready.within known.checked)) fun error => ?_
  refine spares_bind (spares_is_kind _ _) fun ordinary => ?_
  split
  · exact spares_refuse _
  · exact spares_throw _

/-- What the value of a name is told to be, the name stands for. -/
theorem stands_for_value {name : String} {value : Value} {after : World}
    (given : (valueOf (watchOf .free space) (.name name)).runIn world = (.ok value, after)) :
    StandsFor space after name value := by
  have evaluated := value_given given
  simp only [watchOf, evaluateThrough] at evaluated
  split at evaluated
  · exact absurd (succeeds_bind ⟨_, _, _, evaluated⟩).1 (not_succeeds_raise _ _)
  · obtain ⟨_, between, _, looked⟩ := run_of_bind evaluated
    simp only [Gated.evaluate] at looked
    have fits := fits_scope_of space 0 []
    rw [keeper_of_unkept fits.keeps (by simp), lookUpGlobal] at looked
    obtain ⟨found, told⟩ := reads_global space name between
    rw [run_in_bind, show (scopeOf space).globals = space from rfl, told] at looked
    cases found with
    | none => exact absurd ⟨_, _, _, looked⟩ (not_succeeds_fail _ _)
    | some known =>
        cases looked
        exact told

/-- When a value counts as one of some containers, it is one. -/
theorem container_of_one_of (grounded : Grounded space bound world) {value : Value} {kinds : List Kind}
    (plain : ∀ kind ∈ kinds, kind ∈ plainContainers)
    (told : (isOneOf value kinds).runIn world = (.ok true, world)) : IsContainer world value := by
  obtain ⟨cls, known⟩ := reads_class_of value world
  rw [isOneOf, run_in_bind, known] at told
  cases cls with
  | kind kind =>
      have member : kinds.contains kind = true := Except.ok.inj (congrArg Prod.fst told)
      exact container_of_class grounded known (plain kind (List.contains_iff_mem.mp member))
  | _ => cases told

@[grind .]
theorem spares_is_one_of (value : Value) (kinds : List Kind) : Spares space bound (isOneOf value kinds) :=
  spares_of_reads (reads_is_one_of value kinds)

@[grind .]
theorem spares_size_of (value : Value) : Spares space bound (sizeOf value) := spares_of_reads (reads_size_of value)

/-- A run before which all checks of a past were passed leaves no trace, and when it gives something, it tells of the
world that it ends in. -/
structure Passes (space bound : Address) (global : String → Bool) (past : List Check) (run : Run Unit)
    (told : World → Prop) : Prop where
  spares : SparesWhile space bound (Ready space global past) run
  tells : ∀ world, Ready space global past world → Grounded space bound world →
    ∀ after, run.runIn world = (.ok (), after) → told after

section Passes

variable {told : World → Prop}

theorem Passes.mono {run : Run Unit} {other : World → Prop} (passes : Passes space bound global past run told)
    (weaker : ∀ world, told world → other world) : Passes space bound global past run other where
  spares := passes.spares
  tells world ready grounded after given := weaker after (passes.tells world ready grounded after given)

theorem passes_of_spares {run : Run Unit} (spares : SparesWhile space bound (Ready space global past) run)
    (trivially : ∀ world, told world) : Passes space bound global past run told where
  spares := spares
  tells _ _ _ after _ := trivially after

theorem passes_refuse (part : Expr) : Passes space bound global past (refuse part) told where
  spares := spares_while (spares_refuse _)
  tells _ _ _ _ given := absurd ⟨_, _, _, given⟩ (not_succeeds_refuse part)

theorem passes_refuse_bind {part : Expr} {next : α → Run Unit} :
    Passes space bound global past (refuse part >>= next) told where
  spares := spares_while spares_fail_bind
  tells _ _ _ _ given := absurd (succeeds_bind ⟨_, _, _, given⟩).1 (not_succeeds_refuse part)

theorem passes_bind {run : Run α} {next : α → Run Unit}
    (first : SparesWhile space bound (Ready space global past) run)
    (later : ∀ value, Passes space bound global past (next value) told) :
    Passes space bound global past (run >>= next) told where
  spares := spares_while_bind ready_lasts first fun value => (later value).spares
  tells world ready grounded after given := by
    obtain ⟨value, between, earlier, rest⟩ := run_of_bind given
    have spared := first world ready grounded
    rw [earlier] at spared
    exact (later value).tells between (ready_lasts grounded spared ready) (grounded.after spared) after rest

/-- Looking at the value of a part, the guard goes on only when it is of one of some kinds. -/
def lookAt (watch : Watch) (part : Expr) (kinds : List Kind) (next : Value → Run Unit) : Run Unit := do
  let value ← valueOf watch part
  if !(← isOneOf value kinds) then refuse part
  next value

theorem met_lasts {part : Expr} :
    Lasts space bound fun world => Ready space global past world ∧ Met space world part :=
  fun grounded spared ⟨ready, met⟩ =>
    ⟨ready_lasts grounded spared ready, (Met.lasts grounded spared ⟨ready.home, met⟩).2⟩

theorem look_at_passes {part : Expr} {kinds : List Kind} {next : Value → Run Unit} (known : Known global past part)
    (later : ∀ value, Passes space bound global past (next value) told) :
    Passes space bound global past (lookAt (watchOf .free space) part kinds next)
      fun after => ((∀ kind ∈ kinds, kind ∈ plainContainers) → Met space after part) ∧ told after where
  spares := by
    refine spares_while_bind ready_lasts (value_spares known) fun value => ?_
    refine spares_while_bind ready_lasts (spares_while (spares_is_one_of _ _)) fun plain => ?_
    split
    · exact spares_while spares_fail_bind
    · exact (later value).spares
  tells world ready grounded after given := by
    obtain ⟨value, between, valued, checked⟩ := run_of_bind given
    have spared := value_spares known world ready grounded
    rw [valued] at spared
    have ready := ready_lasts grounded spared ready
    have grounded := grounded.after spared
    obtain ⟨isPlain, told⟩ := reads_is_one_of value kinds between
    rw [run_in_bind, told] at checked
    cases isPlain with
    | false => exact absurd (succeeds_bind ⟨_, _, _, checked⟩).1 (not_succeeds_refuse _)
    | true =>
        refine ⟨fun plain => ?_, (later value).tells between ready grounded after checked⟩
        have met : Met space between part := by
          cases part with
          | name name => exact ⟨value, stands_for_value valued, container_of_one_of grounded plain told⟩
          | _ => trivial
        have rest := (later value).spares between ready grounded
        rw [show (next value).runIn between = _ from checked] at rest
        exact (met_lasts grounded rest ⟨ready, met⟩).2

end Passes

theorem require_plain_eq (part : Expr) (kinds : List Kind) :
    requirePlain watch part kinds = lookAt watch part kinds fun _ => pure () := by
  unfold requirePlain lookAt
  refine bind_congr fun value => bind_congr fun plain => ?_
  cases plain <;> simp

theorem require_plain_bind (part : Expr) (kinds : List Kind) (next : Run Unit) :
    (do requirePlain watch part kinds; next) = lookAt watch part kinds fun _ => next := by
  unfold requirePlain lookAt
  simp only [bind_assoc]
  refine bind_congr fun value => bind_congr fun plain => ?_
  cases plain <;> simp

theorem memberships_pass (relations : List Code.Relation) {rest : List Expr}
    (known : ∀ part ∈ rest, Known global past part) :
    Passes space bound global past (checkMemberships (watchOf .free space) relations rest)
      fun after => ∀ part ∈ Code.searched relations rest, Met space after part := by
  fun_induction Code.searched relations rest with
  | case1 relation relations right rest searches induction =>
      obtain ⟨here, others⟩ := List.forall_mem_cons.mp known
      rw [checkMemberships, if_pos (by simpa using searches), require_plain_bind]
      exact (look_at_passes here fun _ => induction others).mono fun after met =>
        List.forall_mem_cons.mpr ⟨met.1 fun _ => id, met.2⟩
  | case2 relation relations right rest other induction =>
      rw [checkMemberships, if_neg (by simpa using other)]
      exact induction (List.forall_mem_cons.mp known).2
  | case3 relations rest none =>
      rw [checkMemberships]
      · exact passes_of_spares (spares_while (spares_pure _)) fun _ => by simp
      · exact none

theorem sources_pass {clauses : List Expr} (known : ∀ part ∈ Check.sourcesOf clauses, Known global past part) :
    Passes space bound global past (checkSources (watchOf .free space) clauses)
      fun after => ∀ part ∈ Check.sourcesOf clauses, Met space after part := by
  fun_induction Check.sourcesOf clauses with
  | case1 =>
      rw [checkSources]
      exact passes_of_spares (spares_while (spares_pure _)) fun _ => by simp
  | case2 target source conditions isAsync rest induction =>
      obtain ⟨here, others⟩ := List.forall_mem_cons.mp known
      rw [checkSources]
      refine (look_at_passes here fun value => ?_).mono fun after met =>
        List.forall_mem_cons.mpr ⟨met.1 fun _ => id, met.2⟩
      refine passes_bind (spares_while (spares_size_of value)) fun count => ?_
      split
      · exact passes_refuse_bind
      · exact induction others
  | case3 other rest isOther induction =>
      rw [checkSources]
      · exact induction known
      · exact isOther

theorem operation_spares {left right whole : Expr} (operator : Code.BinaryOperator) (knownLeft : Known global past left)
    (knownRight : Known global past right) :
    SparesWhile space bound (Ready space global past)
      (checkOperation (watchOf .free space) left operator right whole) := by
  have looked : SparesWhile space bound (Ready space global past) (do
      let first ← valueOf (watchOf .free space) left
      let second ← valueOf (watchOf .free space) right
      if !(← isSmall operator first second) then refuse whole) := by
    refine spares_while_bind ready_lasts (value_spares knownLeft) fun first => ?_
    refine spares_while_bind ready_lasts (value_spares knownRight) fun second => ?_
    refine spares_while_bind ready_lasts (spares_while (spares_of_reads (reads_is_small _ _ _))) fun isSmall => ?_
    split
    · exact spares_while (spares_refuse _)
    · exact spares_while (spares_pure _)
  unfold checkOperation
  split
  · exact looked
  · exact looked
  · exact looked
  · exact spares_while (spares_pure _)

theorem call_spares (callee whole : Expr) : Spares space bound (checkCall (watchOf .free space) callee whole) := by
  cases callee with
  | name name =>
      simp only [checkCall]
      split
      · exact spares_fail_bind
      · have reads : Reads ((watchOf .free space).isShadowed name) := fun world =>
          (shadowed_told space name world).imp fun _ => And.left
        refine spares_bind (spares_of_reads reads) fun shadowed => ?_
        split
        · exact spares_refuse _
        · exact spares_pure _
  | _ => exact spares_refuse _

theorem same_builtin {value builtin : Value} (pure : isPureCallee builtin = true) (same : value.same builtin = true) :
    value = builtin := by
  cases builtin with
  | kind | routine => cases value <;> simp_all [Value.same]
  | _ => cases pure

/-- A name of a pure function that stands for nothing else. -/
theorem stands_for_pure {name : String} {builtin : Value} (home : IsHome space world)
    (known : builtinValue? name = some builtin) (pure : isPureCallee builtin = true)
    (unbound : ¬IsRebound space name world) : StandsFor space world name builtin := by
  obtain ⟨entries, found, keeps⟩ := home
  rw [stands_for_iff found keeps]
  rcases under : valueUnder? entries name with _ | value
  · simpa using known
  · have same : isBuiltin name value = true := by
      by_contra other
      exact unbound ⟨value, under ▸ name_in_dict found name, by simpa using other⟩
    rw [isBuiltin, known] at same
    rw [same_builtin pure same]
    rfl

theorem call_passes (callee whole : Expr) :
    Passes space bound global past (checkCall (watchOf .free space) callee whole)
      (Check.Told space · (.call callee whole)) where
  spares := spares_while (call_spares _ _)
  tells world ready grounded after given := by
    obtain ⟨name, pure, rfl⟩ := check_call_name ⟨_, _, _, given⟩
    obtain ⟨builtin, known, isPure, _⟩ := pure_callee_of_name pure
    have stands := stands_for_pure ready.home known isPure (call_passed given)
    have spared := call_spares (.name name) whole world grounded
    rw [given] at spared
    exact ⟨name, pure, rfl, builtin, known, (stands_for_lasts grounded spared ⟨ready.home, stands⟩).2⟩

/-- A check leaves no trace, and when it is passed, the world is as it tells. -/
theorem check_passes {check : Check} (known : ∀ part ∈ check.tried, Known global past part) :
    Passes space bound global past (check.run (watchOf .free space)) (Check.Told space · check) := by
  cases check with
  | refusal part => exact passes_refuse part
  | call callee whole => exact call_passes callee whole
  | operation left operator right whole =>
      obtain ⟨knownLeft, others⟩ := List.forall_mem_cons.mp known
      exact passes_of_spares (operation_spares operator knownLeft (others right List.mem_cons_self)) fun _ => trivial
  | memberships relations rest => exact memberships_pass relations known
  | sources clauses => exact sources_pass known
  | plain part kinds =>
      simp only [Check.run, require_plain_eq]
      have next (value : Value) : Passes space bound global past (pure ()) fun _ => True :=
        passes_of_spares (spares_while (spares_pure _)) fun _ => trivial
      exact (look_at_passes (known part List.mem_cons_self) next).mono fun _ met => met.1

/-- A check after which the world is ready for more. -/
theorem Passes.further {check : Check} {run : Run Unit}
    (passes : Passes space bound global past run (Check.Told space · check)) {after : World}
    (ready : Ready space global past world) (grounded : Grounded space bound world)
    (given : run.runIn world = (.ok (), after)) :
    Grounded space bound after ∧ Ready space global (past ++ [check]) after := by
  have spared := passes.spares world ready grounded
  rw [given] at spared
  have still := ready_lasts grounded spared ready
  refine ⟨grounded.after spared, still.toSurveyed, fun other member => ?_⟩
  rcases List.mem_append.mp member with earlier | isCheck
  · exact still.told other earlier
  · exact List.mem_singleton.mp isCheck ▸ passes.tells world ready grounded after given

/-- The guard goes along a course without a trace, and when it comes to the end, the world is as all checks tell. -/
theorem course_passes {checks : List Check} (ordered : Ordered past checks)
    (seen : ∀ check ∈ checks, ∀ part ∈ check.tried, ∃ kept, Part.AllSeen global ⟨kept, part⟩) :
    Passes space bound global past (carryOut (watchOf .free space) checks)
      (Ready space global (past ++ checks)) := by
  induction checks generalizing past with
  | nil =>
      refine ⟨spares_while (spares_pure _), fun world ready _ after given => ?_⟩
      cases given
      rwa [List.append_nil]
  | cons check rest induction =>
      obtain ⟨here, later⟩ := ordered
      obtain ⟨seenHere, seenLater⟩ := List.forall_mem_cons.mp seen
      have passes : Passes space bound global past (check.run (watchOf .free space)) (Check.Told space · check) :=
        check_passes fun part tried => ⟨seenHere part tried, (here part tried).subset⟩
      have restPasses := induction later seenLater
      rw [carry_out_cons]
      constructor
      · intro world ready grounded
        refine spares_at_bind (passes.spares world ready) (fun _ after given _ => ?_) grounded
        exact restPasses.spares after (passes.further ready grounded given).2
      · intro world ready grounded last given
        obtain ⟨_, between, first, rest⟩ := run_of_bind given
        obtain ⟨grounded, ready⟩ := passes.further ready grounded first
        have told := restPasses.tells between ready grounded last rest
        rwa [List.append_assoc] at told

end Guard

namespace Environment

/-- A text that reads as an expression which does what the guard sees. -/
def DoesAsSeen (global : String → Bool) (text : String) : Prop :=
  ∀ expression, Code.readExpression (inBrackets text) = .ok expression → Part.AllSeen global ⟨[], expression⟩

instance (global : String → Bool) (text : String) : Decidable (DoesAsSeen global text) :=
  match read : Code.readExpression (inBrackets text) with
  | .error _ => .isTrue fun _ isRead => by rw [read] at isRead; cases isRead
  | .ok expression =>
      decidable_of_iff (Part.AllSeen global ⟨[], expression⟩)
        ⟨fun seen other isRead => by
          rw [read] at isRead
          cases isRead
          exact seen, fun does => does expression read⟩

/-- The guard and the evaluation after it leave no trace. -/
theorem checked_spares {expression : Expr} (seen : Part.AllSeen global ⟨[], expression⟩) :
    SparesWhile space bound (Surveyed space global) (do
      Guard.inspect (watchOf .free space) false expression
      evaluateThrough .free space true expression) := by
  have passes : Guard.Passes space bound global []
      (Guard.carryOut (watchOf .free space) (Guard.course false expression))
      (Guard.Ready space global (Guard.course false expression)) :=
    Guard.course_passes (Guard.ordered_course false expression) fun check member part tried => by
      obtain ⟨around, holds⟩ := Guard.tried_within [] false expression check member part tried
      exact ⟨around, fun inner within => seen inner (holds.trans within)⟩
  rw [Guard.inspect_course]
  intro world surveyed grounded
  have ready : Guard.Ready space global [] world := ⟨surveyed, nofun⟩
  refine spares_at_bind (passes.spares world ready) (fun _ after given _ => ?_) grounded
  exact through_spares seen true after (passes.tells world ready grounded after given)

theorem value_of_spares {text : String} (does : DoesAsSeen global text) :
    SparesWhile space bound (Surveyed space global) (valueOf space text true) := by
  have reads : Spares space bound (requireText text) := by
    unfold requireText
    grind
  simp only [valueOf, valueThrough, readExpression, bind_assoc]
  refine spares_while_bind surveyed_lasts (spares_while reads) fun _ => ?_
  cases read : Code.readExpression (inBrackets text) with
  | error fault =>
      cases fault <;> exact spares_while spares_raise_bind
  | ok expression =>
      simp only [readOrRaise, pure_bind, if_true]
      exact checked_spares (does expression read)

@[grind .]
theorem spares_describe (value : Value) : Spares space bound (describe value) := by
  have sort : Spares space bound (sortOf value) := spares_of_reads (reads_sort_of value)
  have shown : Spares space bound (shownBriefly value) := by
    unfold shownBriefly isError
    grind
  unfold describe
  grind

@[grind .]
theorem spares_describe_failure (error : Value) : Spares space bound (describeFailure error) := by
  unfold describeFailure
  grind

theorem or_failure_spares {holds : World → Prop} (lasts : Lasts space bound holds) {run : Run α}
    (spares : SparesWhile space bound holds run) : SparesWhile space bound holds (orFailure run) := by
  have tried : SparesWhile space bound holds (attempt run) := by
    intro world here grounded
    rw [run_in_attempt]
    exact spares world here grounded
  refine spares_while_bind lasts tried fun outcome => spares_while ?_
  unfold isError
  split <;> grind

theorem silent_evaluation_spares (environment : Environment) {text : String} (does : DoesAsSeen global text) :
    SparesWhile environment.space bound (Surveyed environment.space global) (environment.evaluate text true) := by
  unfold evaluate
  refine spares_while_bind surveyed_lasts (or_failure_spares surveyed_lasts (value_of_spares does)) fun outcome => ?_
  split
  · exact spares_while (spares_pure _)
  · exact spares_while (spares_bind (spares_describe _) fun _ => spares_pure _)

/-- A namespace with a generator, a mapping that makes up values and a list. -/
def lazyWorld : World :=
  { cells := #[
      .dict #[(.text "g", .ref 1), (.text "d", .ref 2), (.text "xs", .ref 3)] none,
      .generator
        { name := "<genexpr>", element := .name "i", clauses := [], scope := { globals := 0 }, iterators := [] },
      .dict #[] (some (.kind .list)),
      .list #[.whole 1, .whole 2]] }

/-- A target escapes the guard only when it has the name of something else. -/
example : ¬DoesAsSeen (isGlobal 0 lazyWorld) "[xs[0] for xs in [d]]" ∧
    DoesAsSeen (isGlobal 0 lazyWorld) "[y[0] for y in [d]]" := by
  decide +kernel

end Environment

end LiveShell
