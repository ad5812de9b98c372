import LiveShell.Evaluation.Statement
import LiveShell.Proofs.RunSteps

/-!
Errors that a computation raises. An ordinary error is one that code may catch by its general class; what ends the
program is none. Looking at classes only reads, so whether an error is ordinary is always told, and a computation fails
where a step of it does that nothing around it catches.
-/

namespace LiveShell.Run

set_option autoImplicit false

variable {α β : Type}

/-! ### Looking at classes -/

theorem reads_class_of (value : Value) : Reads (classOf value) := by
  unfold classOf
  split
  · apply reads_bind (reads_cell _)
    intro cell
    split <;> exact reads_pure _
  · exact reads_pure _

theorem reads_order_of (cls : Value) : Reads (orderOf cls) := by
  unfold orderOf
  split
  · exact reads_pure _
  · apply reads_bind (reads_cell _)
    intro cell
    split <;> exact reads_pure _
  · exact reads_pure _

theorem reads_name_of_class (cls : Value) : Reads (nameOfClass cls) := by
  unfold nameOfClass
  split
  · exact reads_pure _
  · apply reads_bind (reads_cell _)
    intro cell
    split <;> exact reads_pure _
  · exact reads_pure _
  · exact reads_pure _

theorem reads_type_name (value : Value) : Reads (typeName value) :=
  reads_bind (reads_class_of value) reads_name_of_class

theorem reads_is_class (value : Value) : Reads (isClass value) := by
  unfold isClass
  split
  · exact reads_pure _
  · exact reads_pure _
  · apply reads_bind (reads_cell _)
    intro cell
    split <;> exact reads_pure _
  · exact reads_pure _

theorem reads_is_kind (value : Value) (kind : Kind) : Reads (isKind value kind) := by
  apply reads_bind (reads_class_of value)
  intro cls
  apply reads_bind (reads_order_of cls)
  intro order
  exact reads_pure _

theorem reads_is_error (error : Value) (name : String) : Reads (isError error name) :=
  reads_is_kind error (.error name)

theorem reads_plain (value : Value) : Reads (plain value) := by
  unfold plain
  split
  · apply reads_bind (reads_cell _)
    intro cell
    split <;> exact reads_pure _
  · exact reads_pure _

theorem reads_member_along (name : String) (order : List Value) : Reads (memberAlong? name order) := by
  fun_induction memberAlong? name order with
  | case1 => exact reads_pure _
  | case2 => exact reads_pure _
  | case3 kind rest other induction => exact induction
  | case4 address rest induction =>
      apply reads_bind (reads_cell _)
      intro cell
      split
      · apply reads_bind (reads_name _ _)
        intro value
        split
        · exact reads_pure _
        · exact induction
      · exact induction
  | case5 cls rest kinds references induction => exact induction

theorem reads_member_of (cls : Value) (name : String) : Reads (memberOf? cls name) :=
  reads_bind (reads_order_of cls) fun order => reads_member_along name order

/-! ### Steps that fail -/

/-- Whether an error is one that code may catch by the class of all ordinary errors. -/
def IsOrdinary (error : Value) (world : World) : Prop :=
  (isError error "Exception").runIn world = (.ok true, world)

/-- In a world, a computation raises an ordinary error. -/
def Fails (run : Run α) (world : World) : Prop :=
  ∃ error after, run.runIn world = (.error error, after) ∧ IsOrdinary error after

variable {world : World}

/-- Carrying a computation out tells whether it fails. -/
def failsIn (run : Run α) (world : World) : Bool :=
  match run.runIn world with
  | (.ok _, _) => false
  | (.error error, after) => match (isError error "Exception").runIn after with
      | (.ok ordinary, _) => ordinary
      | (.error _, _) => false

theorem fails_in_iff {run : Run α} : failsIn run world = true ↔ Fails run world := by
  unfold failsIn Fails IsOrdinary
  rcases run.runIn world with ⟨error | value, after⟩
  · obtain ⟨ordinary, told⟩ := reads_is_error error "Exception" after
    simp only [told]
    constructor
    · rintro rfl
      exact ⟨error, after, rfl, told⟩
    · rintro ⟨_, _, same, known⟩
      cases same
      rw [told] at known
      cases known
      rfl
  · simp

instance (run : Run α) (world : World) : Decidable (Fails run world) := decidable_of_iff _ fails_in_iff

theorem not_fails_of_reads {run : Run α} (reads : Reads run) : ¬Fails run world := by
  rintro ⟨error, after, raised, _⟩
  obtain ⟨value, told⟩ := reads world
  rw [told] at raised
  cases raised

theorem fails_bind {run : Run α} {next : α → Run β} :
    Fails (run >>= next) world ↔
      Fails run world ∨ ∃ value between, run.runIn world = (.ok value, between) ∧ Fails (next value) between := by
  unfold Fails
  simp only [run_in_bind]
  rcases run.runIn world with ⟨result, between⟩
  cases result with
  | error error => simp
  | ok value =>
      constructor
      · exact fun later => Or.inr ⟨value, between, rfl, later⟩
      · rintro (⟨_, _, none, _⟩ | ⟨_, _, same, later⟩)
        · cases none
        · cases same
          exact later

theorem fails_after {run : Run α} {next : α → Run β} {value : α} {between : World}
    (given : run.runIn world = (.ok value, between)) : Fails (run >>= next) world ↔ Fails (next value) between := by
  unfold Fails
  rw [run_in_bind, given]

theorem fails_bind_pure {run : Run α} {result : α → β} :
    Fails (do return result (← run)) world ↔ Fails run world := by
  refine fails_bind.trans ⟨?_, Or.inl⟩
  rintro (first | ⟨value, between, _, later⟩)
  · exact first
  · exact absurd later (not_fails_of_reads (reads_pure _))

theorem fails_reads_bind {run : Run α} {next : α → Run β} (reads : Reads run) (fails : Fails (run >>= next) world) :
    ∃ value, run.runIn world = (.ok value, world) ∧ Fails (next value) world := by
  obtain ⟨value, told⟩ := reads world
  exact ⟨value, told, (fails_after told).mp fails⟩

theorem fails_throw {error : Value} : Fails (throw error : Run α) world ↔ IsOrdinary error world := by
  constructor
  · rintro ⟨_, _, raised, ordinary⟩
    cases raised
    exact ordinary
  · exact fun ordinary => ⟨error, world, rfl, ordinary⟩

/-- The errors that are built in know what they are cases of. -/
theorem raised_case {name ancestor : String} {arguments : List Value} {error : Value} {after : World}
    (case : isErrorCase name ancestor = true)
    (raised : (raise name arguments : Run α).runIn world = (.error error, after)) :
    (isError error ancestor).runIn after = (.ok true, after) := by
  let space := world.cells.push (.dict #[] none)
  let made := Cell.instanceOf (.kind (.error name)) world.cells.size (some (.tuple arguments))
  have cell : (space.push made)[space.size]? = some made := Array.getElem?_push_size
  obtain ⟨rfl, rfl⟩ : error = .ref space.size ∧ after = { world with cells := space.push made } := by
    cases raised
    exact ⟨rfl, rfl⟩
  -- The class is read off the cell that was just made, and a class lists every class that it is a case of.
  have cls : (classOf (.ref space.size)).runIn { world with cells := space.push made } =
      (.ok (.kind (.error name)), { world with cells := space.push made }) := by
    have found : (cellAt? space.size).runIn { world with cells := space.push made } =
        (.ok (some made), { world with cells := space.push made }) := by
      rw [← cell]
      rfl
    show (cellAt? space.size >>= _).runIn _ = _
    rw [run_in_bind, found]
    rfl
  have listed : Kind.error ancestor ∈ (Kind.error name).order :=
    List.mem_append_left _ (List.mem_map_of_mem (List.contains_iff_mem.mp case))
  have within : ((Kind.error name).order.map Value.kind).any (·.same (.kind (.error ancestor))) = true := by
    refine List.any_eq_true.mpr ⟨_, List.mem_map_of_mem listed, ?_⟩
    simp [Value.same]
  rw [isError, isKind, isInstance, run_in_bind, cls]
  exact congrArg (fun found => (Except.ok found, _)) within

theorem fails_raise {name : String} {arguments : List Value} (ordinary : isErrorCase name "Exception" = true) :
    Fails (raise name arguments : Run α) world :=
  ⟨_, _, rfl, raised_case ordinary (rfl : (raise name arguments : Run α).runIn world = _)⟩

theorem run_in_catch (run : Run α) (handler : Value → Run α) (world : World) :
    (tryCatch run handler).runIn world = match run.runIn world with
      | (.ok value, after) => (.ok value, after)
      | (.error error, after) => (handler error).runIn after := by
  rcases outcome : run.runIn world with ⟨result, after⟩
  have ran : StateT.run run world = (result, after) := outcome
  simp only [runIn, tryCatch, tryCatchThe, MonadExceptOf.tryCatch, ExceptT.tryCatch, ExceptT.run_mk, StateT.run_bind, ran]
  cases result <;> rfl

theorem run_in_map (run : Run α) (f : α → β) (world : World) :
    (f <$> run).runIn world = match run.runIn world with
      | (.ok value, after) => (.ok (f value), after)
      | (.error error, after) => (.error error, after) := by
  rw [map_eq_pure_bind, run_in_bind]
  rfl

theorem world_bind_pure {run : Run α} {result : α → β} :
    ((do return result (← run) : Run β).runIn world).2 = (run.runIn world).2 := by
  rw [run_in_bind]
  rcases run.runIn world with ⟨_ | _, after⟩ <;> rfl

theorem run_in_attempt (run : Run α) (world : World) :
    (attempt run).runIn world = (.ok (run.runIn world).1, (run.runIn world).2) := by
  rw [attempt, run_in_catch, run_in_map]
  rcases run.runIn world with ⟨_ | _, after⟩ <;> rfl

/-- When what is no ordinary error is raised on, only what is done about an ordinary one can fail. -/
theorem fails_handled {error : Value} {handled : Run α} :
    Fails (do if ← isError error "Exception" then handled else throw error) world ↔
      IsOrdinary error world ∧ Fails handled world := by
  constructor
  · intro fails
    obtain ⟨ordinary, told, later⟩ := fails_reads_bind (reads_is_error error "Exception") fails
    cases ordinary with
    | true => exact ⟨told, later⟩
    | false =>
        have known := fails_throw.mp later
        rw [IsOrdinary, told] at known
        cases known
  · rintro ⟨ordinary, fails⟩
    exact (fails_after ordinary).mpr fails

theorem fails_catch {run : Run α} {handler : Value → Run α} :
    Fails (tryCatch run handler) world ↔
      ∃ error between, run.runIn world = (.error error, between) ∧ Fails (handler error) between := by
  unfold Fails
  simp only [run_in_catch]
  rcases run.runIn world with ⟨error | value, between⟩
  · constructor
    · exact fun later => ⟨error, between, rfl, later⟩
    · rintro ⟨_, _, same, later⟩
      cases same
      exact later
  · simp

theorem unless_raised_eq (name : String) (run : Run α) :
    unlessRaised [name] run =
      tryCatch (some <$> run) (fun error => do if ← isError error name then pure none else throw error) := by
  unfold unlessRaised
  congr 1
  funext error
  rw [List.forIn_cons, bind_assoc, bind_assoc]
  apply bind_congr
  intro ordinary
  cases ordinary <;> rfl

/-- What is guarded raises no ordinary error. -/
theorem not_fails_unless_raised (run : Run α) : ¬Fails (unlessRaised ["Exception"] run) world := by
  intro fails
  rw [unless_raised_eq] at fails
  obtain ⟨error, between, _, later⟩ := fails_catch.mp fails
  exact not_fails_of_reads (reads_pure none) (fails_handled.mp later).2

theorem unless_raised_ok {name : String} {run : Run α} {value : α} {after : World} :
    (unlessRaised [name] run).runIn world = (.ok (some value), after) ↔ run.runIn world = (.ok value, after) := by
  rw [unless_raised_eq, run_in_catch, run_in_map]
  rcases run.runIn world with ⟨error | found, between⟩
  · obtain ⟨ordinary, told⟩ := reads_is_error error name between
    constructor
    · intro given
      simp only [run_in_bind, told] at given
      cases ordinary <;> cases given
    · nofun
  · constructor
    · intro given
      cases given
      rfl
    · intro given
      cases given
      rfl

/-- What is guarded against an error gives nothing when that is raised. -/
theorem unless_raised_case {name : String} {run : Run α} {error : Value} {after : World}
    (raised : run.runIn world = (.error error, after)) (case : (isError error name).runIn after = (.ok true, after)) :
    (unlessRaised [name] run).runIn world = (.ok none, after) := by
  rw [unless_raised_eq, run_in_catch, run_in_map, raised]
  show (isError error name >>= _).runIn after = _
  rw [run_in_bind, case]
  rfl

theorem unless_raised_none {run : Run α} {result : Option α} {after : World} (fails : Fails run world)
    (given : (unlessRaised ["Exception"] run).runIn world = (.ok result, after)) : result = none := by
  cases result with
  | none => rfl
  | some value =>
      obtain ⟨error, between, raised, _⟩ := fails
      rw [unless_raised_ok.mp given] at raised
      cases raised

end LiveShell.Run
