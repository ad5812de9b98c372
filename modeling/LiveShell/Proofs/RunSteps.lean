import LiveShell.Value.Class

/-!
What is known of a computation without carrying it out: that it can succeed at all, and that it only reads. Both
go along the steps of a computation.
-/

namespace LiveShell.Run

set_option autoImplicit false

variable {α β : Type}

/-- A step that succeeds in giving something is a step with something to go on with. -/
theorem ok_of_bind {ε : Type} {step : Except ε α} {next : α → Except ε β} {result : β}
    (made : (step >>= next) = .ok result) : ∃ value, step = .ok value ∧ next value = .ok result := by
  cases step with
  | error fault => cases made
  | ok value => exact ⟨value, rfl, made⟩

/-- A step that fails to give something fails itself, or what goes on with what it gives does. -/
theorem error_of_bind {ε : Type} {step : Except ε α} {next : α → Except ε β} {fault : ε}
    (failed : (step >>= next) = .error fault) :
    step = .error fault ∨ ∃ value, step = .ok value ∧ next value = .error fault := by
  cases step with
  | error other =>
      cases failed
      exact Or.inl rfl
  | ok value => exact Or.inr ⟨value, rfl, failed⟩

/-- What is given passes the test that was made of it. -/
theorem ok_of_seen {ε : Type} {result : Except ε α} {test : α → Bool} (seen : result.toOption.any test = true) :
    ∃ value, result = .ok value ∧ test value = true := by
  cases result with
  | error fault => cases seen
  | ok value => exact ⟨value, rfl, seen⟩

theorem ok_of_some {ε : Type} {result : Except ε α} {value : α} (seen : result.toOption = some value) :
    result = .ok value := by
  cases result with
  | error fault => cases seen
  | ok given =>
      cases seen
      rfl

theorem run_in_bind (run : Run α) (next : α → Run β) (world : World) :
    (run >>= next).runIn world = match run.runIn world with
      | (.ok value, after) => (next value).runIn after
      | (.error error, after) => (.error error, after) := by
  simp only [runIn, ExceptT.run_bind, StateT.run_bind]
  rcases run.run.run world with ⟨outcome, after⟩
  cases outcome with
  | ok => rfl
  | error => rfl

/-- A computation that gives something does so by a first step that gives something to go on with. -/
theorem run_of_bind {run : Run α} {next : α → Run β} {result : β} {world after : World}
    (given : (run >>= next).runIn world = (.ok result, after)) :
    ∃ value between, run.runIn world = (.ok value, between) ∧ (next value).runIn between = (.ok result, after) := by
  rw [run_in_bind] at given
  rcases outcome : run.runIn world with ⟨error | value, between⟩
  · rw [outcome] at given
    cases given
  · rw [outcome] at given
    exact ⟨value, between, rfl, given⟩

theorem run_ext {first second : Run α} (same : ∀ world, first.runIn world = second.runIn world) :
    first = second :=
  funext same

/-- A computation that does not raise in every world. -/
def Succeeds (run : Run α) : Prop := ∃ world value after, run.runIn world = (.ok value, after)

theorem succeeds_bind {run : Run α} {next : α → Run β} (succeeds : Succeeds (run >>= next)) :
    Succeeds run ∧ ∃ value, Succeeds (next value) := by
  obtain ⟨world, value, after, outcome⟩ := succeeds
  obtain ⟨found, between, first, later⟩ := run_of_bind outcome
  exact ⟨⟨world, found, between, first⟩, found, between, value, after, later⟩

theorem not_succeeds_raise (name : String) (arguments : List Value) : ¬Succeeds (raise name arguments : Run α) := by
  intro succeeds
  obtain ⟨_, error, world, value, after, outcome⟩ := succeeds_bind succeeds
  have thrown : (throw error : Run α).runIn world = (.error error, world) := rfl
  rw [thrown] at outcome
  simp at outcome

theorem not_succeeds_fail (name message : String) : ¬Succeeds (fail name message : Run α) :=
  not_succeeds_raise name [.text message]

/-- Two continuations of a computation are as good as each other when they agree after a success. -/
theorem bind_congr_succeeds {run : Run α} {first second : α → Run β}
    (same : Succeeds run → ∀ value, first value = second value) : run >>= first = run >>= second := by
  apply run_ext
  intro world
  rw [run_in_bind, run_in_bind]
  cases outcome : run.runIn world with
  | mk result after =>
      cases result with
      | error error => rfl
      | ok value => simp only [same ⟨world, value, after, outcome⟩ value]

/-- What follows a computation that always raises does not matter. -/
theorem bind_congr_raises {run : Run α} (raises : ¬Succeeds run) (first second : α → Run β) :
    run >>= first = run >>= second :=
  bind_congr_succeeds fun succeeds => absurd succeeds raises

/-- A computation that gives a value in every world and leaves it as it is. -/
def Reads (run : Run α) : Prop := ∀ world, ∃ value, run.runIn world = (.ok value, world)

theorem reads_pure (value : α) : Reads (pure value) := fun _ => ⟨value, rfl⟩

theorem reads_bind {run : Run α} {next : α → Run β} (reads : Reads run) (readsNext : ∀ value, Reads (next value)) :
    Reads (run >>= next) := by
  intro world
  obtain ⟨value, outcome⟩ := reads world
  rw [run_in_bind, outcome]
  exact readsNext value world

theorem reads_cell (address : Address) : Reads (cellAt? address) := fun _ => ⟨_, rfl⟩

theorem reads_entries (space : Address) : Reads (entriesAt space) := by
  refine reads_bind (reads_cell space) fun cell => ?_
  split <;> exact reads_pure _

theorem reads_name (space : Address) (name : String) : Reads (nameIn? space name) :=
  reads_bind (reads_entries space) fun _ => reads_pure _

theorem reads_names (space : Address) : Reads (namesIn space) :=
  reads_bind (reads_entries space) fun _ => reads_pure _

end LiveShell.Run
