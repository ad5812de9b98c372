import LiveShell.Proofs.RaisedErrors
import LiveShell.Session.Environment

/-!
Failures of requests. What a request runs for the code of a session is guarded: an ordinary error in it comes back in
the answer. Around that a few steps run unguarded on values of the code: forming the text of an error, looking up the
name of a module, sorting the keys of the namespace, and taking what a value gives for its names as names. A request
raises an ordinary error exactly where one of these does.
-/

namespace LiveShell.Environment

open Completion (Description Evaluation Request)
open Run (Fails IsOrdinary Reads reads_bind reads_pure)

set_option autoImplicit false

variable {α : Type} {environment : Environment} {world : World}

/-! ### Descriptions -/

theorem reads_is_function (value : Value) : Reads (isFunction value) := by
  unfold isFunction
  apply reads_bind (Run.reads_is_class value)
  intro isClass
  cases isClass with
  | true => exact reads_pure _
  | false =>
      simp only [Bool.false_eq_true, if_false]
      split
      any_goals exact reads_pure _
      apply reads_bind (Run.reads_cell _)
      intro cell
      split
      any_goals exact reads_pure _
      apply reads_bind (Run.reads_member_of _ _)
      intro getter
      apply reads_bind (Run.reads_member_of _ _)
      intro setter
      exact reads_pure _

theorem reads_sort_of (value : Value) : Reads (sortOf value) := by
  unfold sortOf
  apply reads_bind (Run.reads_plain value)
  intro plain
  split
  any_goals exact reads_pure _
  apply reads_bind (Run.reads_is_kind value .whole)
  intro whole
  apply reads_bind (Run.reads_is_kind value .real)
  intro real
  split
  · exact reads_pure _
  · apply reads_bind (reads_is_function value)
    intro function
    split <;> exact reads_pure _

/-- A value is always told of: when its form cannot be shown, its class is. -/
theorem not_fails_shown_briefly (value : Value) : ¬Fails (shownBriefly value) world := by
  intro fails
  obtain ⟨error, between, _, later⟩ := Run.fails_catch.mp fails
  have named : Reads (do return "<" ++ (← Run.typeName value) ++ ">" : Run String) :=
    reads_bind (Run.reads_type_name value) fun _ => reads_pure _
  exact Run.not_fails_of_reads named (Run.fails_handled.mp later).2

theorem not_fails_describe (value : Value) : ¬Fails (describe value) world := by
  intro fails
  obtain ⟨sort, _, afterSort⟩ := Run.fails_reads_bind (reads_sort_of value) fails
  rcases Run.fails_bind.mp afterSort with unshown | ⟨shown, between, _, afterShown⟩
  · exact not_fails_shown_briefly value unshown
  · have named := reads_bind (Run.reads_type_name value) fun name => reads_pure
      ({ sort := sort.1, value := sort.2, shown := some shown, className := some name } : Description)
    exact Run.not_fails_of_reads named afterShown

/-! ### Guarded code -/

/-- A computation raises an ordinary error whose text cannot be formed. -/
def Untellable (run : Run α) (world : World) : Prop :=
  ∃ error between description later, run.runIn world = (.error error, between) ∧ IsOrdinary error between ∧
    (describe error).runIn between = (.ok description, later) ∧ Fails (Run.layOut engine error "") later

theorem fails_describe_failure {error : Value} :
    Fails (describeFailure error) world ↔
      ∃ description later, (describe error).runIn world = (.ok description, later) ∧
        Fails (Run.layOut engine error "") later := by
  unfold describeFailure
  constructor
  · intro fails
    rcases Run.fails_bind.mp fails with undescribed | ⟨description, later, described, afterwards⟩
    · exact absurd undescribed (not_fails_describe error)
    · refine ⟨description, later, described, ?_⟩
      rcases Run.fails_bind.mp afterwards with untold | ⟨text, last, _, named⟩
      · exact untold
      · exact absurd (Run.fails_bind_pure.mp named) (Run.not_fails_of_reads (Run.reads_type_name error))
  · rintro ⟨description, later, described, untold⟩
    exact Run.fails_bind.mpr (Or.inr ⟨description, later, described, Run.fails_bind.mpr (Or.inl untold)⟩)

/-- An ordinary error of a guarded computation is only raised on when its text cannot be formed. -/
theorem fails_or_failure {run : Run α} : Fails (orFailure run) world ↔ Untellable run world := by
  rcases outcome : run.runIn world with ⟨result, between⟩
  have tried : (Run.attempt run).runIn world = (.ok result, between) := by
    rw [Run.run_in_attempt, outcome]
  unfold orFailure
  constructor
  · intro fails
    rcases Run.fails_bind.mp fails with ⟨_, _, raised, _⟩ | ⟨_, _, given, later⟩
    · rw [tried] at raised
      cases raised
    · rw [tried] at given
      cases given
      cases result with
      | ok value => exact absurd later (Run.not_fails_of_reads (reads_pure _))
      | error error =>
          obtain ⟨ordinary, handled⟩ := Run.fails_handled.mp later
          obtain ⟨description, last, described, untold⟩ := fails_describe_failure.mp (Run.fails_bind_pure.mp handled)
          exact ⟨error, between, description, last, outcome, ordinary, described, untold⟩
  · rintro ⟨error, place, description, last, raised, ordinary, described, untold⟩
    rw [outcome] at raised
    cases raised
    refine Run.fails_bind.mpr (Or.inr ⟨_, _, tried, ?_⟩)
    apply Run.fails_handled.mpr
    exact ⟨ordinary, Run.fails_bind_pure.mpr (fails_describe_failure.mpr ⟨description, last, described, untold⟩)⟩

theorem or_failure_ok {run : Run α} {value : α} {after : World} :
    (orFailure run).runIn world = (.ok (.ok value), after) ↔ run.runIn world = (.ok value, after) := by
  rw [orFailure, Run.run_in_bind, Run.run_in_attempt]
  rcases run.runIn world with ⟨error | found, between⟩
  · obtain ⟨ordinary, told⟩ := Run.reads_is_error error "Exception" between
    constructor
    · intro given
      simp only [Run.run_in_bind, told] at given
      cases ordinary with
      | true =>
          simp only [if_true, Run.run_in_bind] at given
          split at given <;> cases given
      | false => cases given
    · nofun
  · constructor
    · intro given
      cases given
      rfl
    · intro given
      cases given
      rfl

/-- The account that is given of the error that a computation raises. -/
def IsAccount (run : Run α) (world : World) (failure : Completion.Failure) : Prop :=
  ∃ error between after, run.runIn world = (.error error, between) ∧
    (describeFailure error).runIn between = (.ok failure, after)

/-- A guarded computation that fails gives an account of its error, if it gives anything. -/
theorem or_failure_told {run : Run α} {result : Except Completion.Failure α} {after : World} (fails : Fails run world)
    (given : (orFailure run).runIn world = (.ok result, after)) :
    ∃ failure, IsAccount run world failure ∧ result = .error failure := by
  obtain ⟨error, between, raised, ordinary⟩ := fails
  rw [orFailure, Run.run_in_bind, Run.run_in_attempt, raised] at given
  have known : (Run.isError error "Exception").runIn between = (.ok true, between) := ordinary
  simp only [Run.run_in_bind, known, if_true] at given
  rcases told : (describeFailure error).runIn between with ⟨cause | failure, later⟩
  · rw [told] at given
    cases given
  · rw [told] at given
    cases given
    exact ⟨failure, ⟨error, between, after, raised, told⟩, rfl⟩

/-! ### Requests -/

theorem fails_evaluate {text : String} {silent : Bool} :
    Fails (environment.evaluate text silent) world ↔ Untellable (valueOf environment.space text silent) world := by
  refine Run.fails_bind.trans ⟨?_, fun untold => Or.inl (fails_or_failure.mpr untold)⟩
  rintro (first | ⟨result, between, _, later⟩)
  · exact fails_or_failure.mp first
  · cases result with
    | error failure => exact absurd later (Run.not_fails_of_reads (reads_pure _))
    | ok value => exact absurd (Run.fails_bind_pure.mp later) (not_fails_describe value)

theorem fails_load_module {specifier : String} :
    Fails (environment.loadModule specifier) world ↔ Untellable (moduleOf specifier) world ∨
      ∃ module between, (moduleOf specifier).runIn world = (.ok (some module), between) ∧
        Fails (Run.bindingNameOf module) between := by
  unfold loadModule
  rw [Run.fails_bind, fails_or_failure]
  apply or_congr_right
  constructor
  · rintro ⟨result, between, given, later⟩
    rcases result with failure | _ | module
    · exact absurd later (Run.not_fails_of_reads (reads_pure _))
    · exact absurd later (Run.not_fails_of_reads (reads_pure _))
    · refine ⟨module, between, or_failure_ok.mp given, ?_⟩
      rcases Run.fails_bind.mp later with unnamed | ⟨name, next, _, bound⟩
      · exact unnamed
      · obtain ⟨known, _, binding⟩ := Run.fails_reads_bind (Run.reads_name _ _) bound
        -- Neither binding the module nor telling of it raises anything: what is left is its name.
        cases known with
        | some value => exact absurd (Run.fails_bind_pure.mp binding) (not_fails_describe module)
        | none =>
            rcases Run.fails_bind.mp binding with ⟨_, _, raised, _⟩ | ⟨_, _, _, described⟩
            · cases raised
            · exact absurd (Run.fails_bind_pure.mp described) (not_fails_describe module)
  · rintro ⟨module, between, given, unnamed⟩
    exact ⟨.ok (some module), between, or_failure_ok.mpr given, Run.fails_bind.mpr (Or.inl unnamed)⟩

/-- The keys of the namespace with the built-in names that they do not hide, as they are sorted when some key is no
text. -/
def sortedKeys (keys : Array Value) : Run (Array Value) :=
  let builtins := Value.texts (Members.builtin.filter fun name => !(keys.any (globalNames.isText name)))
  Run.sortValues engine (setOrder (keys ++ builtins.toArray))

theorem fails_global_names :
    Fails environment.globalNames world ↔
      ∃ entries, (Run.entriesAt environment.space).runIn world = (.ok entries, world) ∧
      (∃ entry ∈ entries, ∀ name, entry.1 ≠ .text name) ∧ Fails (sortedKeys (entries.map (·.1))) world := by
  obtain ⟨entries, here⟩ := Run.reads_entries environment.space world
  have sorting : Fails environment.globalNames world ↔
      (∃ entry ∈ entries, ∀ name, entry.1 ≠ .text name) ∧ Fails (sortedKeys (entries.map (·.1))) world := by
    unfold globalNames
    rw [Run.fails_after here]
    simp only
    split
    · next allNames =>
        -- Names are sorted by their texts alone, which only reads.
        have read := reads_bind (Run.reads_names environment.space) fun names =>
          reads_pure (sortedOnce (names ++ Members.builtin))
        refine ⟨fun fails => absurd fails (Run.not_fails_of_reads read), ?_⟩
        rintro ⟨⟨entry, member, odd⟩, _⟩
        have isName := Array.all_eq_true'.mp allNames entry.1 (Array.mem_map_of_mem member)
        split at isName
        · next name same => exact absurd same (odd name)
        · cases isName
    · next mixed =>
        rw [Run.fails_bind_pure]
        refine ⟨fun fails => ⟨?_, fails⟩, And.right⟩
        obtain ⟨key, member, odd⟩ := Array.all_eq_false'.mp (Bool.eq_false_iff.mpr mixed)
        obtain ⟨entry, within, rfl⟩ := Array.mem_map.mp member
        refine ⟨entry, within, fun name same => odd ?_⟩
        rw [same]
  constructor
  · exact fun fails => ⟨entries, here, sorting.mp fails⟩
  · rintro ⟨others, there, fails⟩
    rw [here] at there
    cases there
    exact sorting.mpr fails

theorem fails_name_or_raise {value : Value} : Fails (nameOrRaise value) world ↔
    ∀ name, (Run.plain value).runIn world ≠ (.ok (.text name), world) := by
  obtain ⟨plain, here⟩ := Run.reads_plain value world
  unfold nameOrRaise
  rw [Run.fails_after here, here]
  split
  · next name =>
      exact ⟨fun fails => absurd fails (Run.not_fails_of_reads (reads_pure _)), fun other => absurd rfl (other name)⟩
  · next noText =>
      refine ⟨fun _ name same => ?_, fun _ => Run.fails_raise (by decide)⟩
      cases same
      exact noText name rfl

theorem fails_name_list {names : List Value} : Fails (names.mapM nameOrRaise) world ↔
    ∃ name ∈ names, ∀ text, (Run.plain name).runIn world ≠ (.ok (.text text), world) := by
  induction names with
  | nil => exact ⟨fun fails => absurd fails (Run.not_fails_of_reads (reads_pure _)), nofun⟩
  | cons first rest induction =>
      simp only [List.mapM_cons, List.mem_cons, exists_eq_or_imp]
      by_cases isName : ∃ text, (Run.plain first).runIn world = (.ok (.text text), world)
      · obtain ⟨text, here⟩ := isName
        have given : (nameOrRaise first).runIn world = (.ok text, world) := by
          rw [nameOrRaise, Run.run_in_bind, here]
          rfl
        rw [Run.fails_after given, Run.fails_bind_pure, induction]
        exact ⟨Or.inr, fun either => either.resolve_left fun odd => odd text here⟩
      · have odd : ∀ text, (Run.plain first).runIn world ≠ (.ok (.text text), world) :=
          fun text here => isName ⟨text, here⟩
        exact ⟨fun _ => Or.inl odd, fun _ => Run.fails_bind.mpr (Or.inl (fails_name_or_raise.mpr odd))⟩

theorem fails_properties {handle : String} :
    Fails (environment.properties handle) world ↔ ∃ value names between, environment.resolve? handle = some value ∧
      (Run.namesOf engine value).runIn world = (.ok names, between) ∧
        ∃ name ∈ names, ∀ text, (Run.plain name).runIn between ≠ (.ok (.text text), between) := by
  unfold properties
  cases resolved : environment.resolve? handle with
  | none =>
      constructor
      · exact fun fails => absurd fails (Run.not_fails_of_reads (reads_pure _))
      · rintro ⟨_, _, _, same, _⟩
        cases same
  | some value =>
      constructor
      · intro fails
        rcases Run.fails_bind.mp fails with unguarded | ⟨result, between, given, later⟩
        · exact absurd unguarded (Run.not_fails_unless_raised _)
        · cases result with
          | none => exact absurd later (Run.not_fails_of_reads (reads_pure _))
          | some names =>
              obtain ⟨name, member, odd⟩ := fails_name_list.mp later
              exact ⟨value, names, between, rfl, Run.unless_raised_ok.mp given, name, Array.mem_toList_iff.mp member, odd⟩
      · rintro ⟨_, names, between, same, given, name, member, odd⟩
        cases same
        rw [Run.fails_after (Run.unless_raised_ok.mpr given)]
        exact fails_name_list.mpr ⟨name, Array.mem_toList_iff.mpr member, odd⟩

theorem not_fails_hint {handle : Option String} {site : Option Node} {line : String} :
    ¬Fails (environment.invokeHint handle site line) world := by
  unfold invokeHint
  split
  · exact Run.not_fails_of_reads (reads_pure _)
  · exact Run.not_fails_of_reads (reads_pure _)
  · intro fails
    rcases Run.fails_bind.mp fails with unguarded | ⟨result, between, _, later⟩
    · exact Run.not_fails_unless_raised _ unguarded
    · refine Run.not_fails_of_reads ?_ later
      cases result with
      | none => exact reads_pure _
      | some hint =>
          apply reads_bind (Run.reads_plain hint)
          intro plain
          split <;> exact reads_pure _

/-! ### All requests -/

/-- Where a step of a request that nothing guards raises an ordinary error. -/
inductive Unguarded (environment : Environment) (world : World) : Request → Prop
  | evaluating (text : String) (silent : Bool) (untold : Untellable (valueOf environment.space text silent) world) :
      Unguarded environment world (.evaluate text silent)
  | loading (specifier : String) (untold : Untellable (moduleOf specifier) world) :
      Unguarded environment world (.loadModule specifier)
  | binding (specifier : String) {module : Value} {between : World}
      (loaded : (moduleOf specifier).runIn world = (.ok (some module), between))
      (unnamed : Fails (Run.bindingNameOf module) between) : Unguarded environment world (.loadModule specifier)
  | sorting {entries : Array (Value × Value)}
      (here : (Run.entriesAt environment.space).runIn world = (.ok entries, world))
      (mixed : ∃ entry ∈ entries, ∀ name, entry.1 ≠ .text name)
      (unsorted : Fails (sortedKeys (entries.map (·.1))) world) : Unguarded environment world .globalNames
  | naming (handle : String) {value : Value} {names : Array Value} {between : World}
      (resolved : environment.resolve? handle = some value)
      (given : (Run.namesOf engine value).runIn world = (.ok names, between))
      (odd : ∃ name ∈ names, ∀ text, (Run.plain name).runIn between ≠ (.ok (.text text), between)) :
      Unguarded environment world (.properties handle)

theorem answer_fails_iff (environment : Environment) (world : World) (request : Request) :
    Fails (environment.answer request) world ↔ Unguarded environment world request := by
  cases request with
  | evaluate text silent =>
      refine fails_evaluate.trans ⟨.evaluating text silent, ?_⟩
      intro unguarded
      cases unguarded with
      | evaluating _ _ untold => exact untold
  | globalNames =>
      refine Run.fails_bind_pure.trans (fails_global_names.trans ⟨?_, ?_⟩)
      · rintro ⟨entries, here, mixed, unsorted⟩
        exact .sorting here mixed unsorted
      · intro unguarded
        cases unguarded with
        | sorting here mixed unsorted => exact ⟨_, here, mixed, unsorted⟩
  | loadModule specifier =>
      refine Run.fails_bind_pure.trans (fails_load_module.trans ⟨?_, ?_⟩)
      · rintro (untold | ⟨module, between, loaded, unnamed⟩)
        · exact .loading specifier untold
        · exact .binding specifier loaded unnamed
      · intro unguarded
        cases unguarded with
        | loading _ untold => exact Or.inl untold
        | binding _ loaded unnamed => exact Or.inr ⟨_, _, loaded, unnamed⟩
  | properties handle =>
      refine Run.fails_bind_pure.trans (fails_properties.trans ⟨?_, ?_⟩)
      · rintro ⟨value, names, between, resolved, given, odd⟩
        exact .naming handle resolved given odd
      · intro unguarded
        cases unguarded with
        | naming _ resolved given odd => exact ⟨_, _, _, resolved, given, odd⟩
  | hint callee site line =>
      refine Run.fails_bind_pure.trans ⟨fun fails => absurd fails not_fails_hint, nofun⟩
  | release handle =>
      exact ⟨fun fails => absurd fails (Run.not_fails_of_reads (reads_pure _)), nofun⟩

/-- The code that a request runs raises an ordinary error. -/
def CodeFails (environment : Environment) (world : World) : Request → Prop
  | .evaluate text silent => Fails (valueOf environment.space text silent) world
  | .loadModule specifier => Fails (moduleOf specifier) world
  | .properties handle => ∃ value, environment.resolve? handle = some value ∧ Fails (Run.namesOf engine value) world
  | .hint callee site line => ∃ value, callee.handle.bind environment.resolve? = some value ∧
      Fails (environment.hints.forCall value (some site) line) world
  | .globalNames | .release _ => False

/-- How an answer tells of an error in the code that a request ran: by an account of it, or by telling nothing. -/
def Reports (environment : Environment) (world : World) : (request : Request) → request.Answer → Prop
  | .evaluate text silent, answer => ∃ failure, IsAccount (valueOf environment.space text silent) world failure ∧
      answer = ({ result := failure.raised, failure := some failure } : Evaluation)
  | .loadModule specifier, answer => ∃ failure, IsAccount (moduleOf specifier) world failure ∧
      answer = ({ result := .undefined, failure := some failure } : Evaluation)
  | .properties _, names => names = ([] : List String)
  | .hint .., hint => hint = Description.undefined
  | .globalNames, _ | .release _, _ => False

theorem run_of_answer {run : Run α} {reply : α} {later : Environment} {after : World}
    (given : (do return (← run, environment) : Run (α × Environment)).runIn world = (.ok (reply, later), after)) :
    run.runIn world = (.ok reply, after) := by
  obtain ⟨told, between, outcome, same⟩ := Run.run_of_bind given
  cases same
  exact outcome

/-- An answer that is given tells of the error. -/
theorem reports_code {request : Request} {reply : request.Answer} {later : Environment} {after : World}
    (given : (environment.answer request).runIn world = (.ok (reply, later), after))
    (fails : CodeFails environment world request) : Reports environment world request reply := by
  cases request with
  | evaluate text silent =>
      change (environment.evaluate text silent).runIn world = _ at given
      obtain ⟨result, between, guarded, concluded⟩ := Run.run_of_bind given
      obtain ⟨failure, account, rfl⟩ := or_failure_told fails guarded
      cases concluded
      exact ⟨failure, account, rfl⟩
  | loadModule specifier =>
      obtain ⟨result, between, guarded, concluded⟩ := Run.run_of_bind (run_of_answer given)
      obtain ⟨failure, account, rfl⟩ := or_failure_told fails guarded
      cases concluded
      exact ⟨failure, account, rfl⟩
  | properties handle =>
      obtain ⟨value, resolved, unnamed⟩ := fails
      have told := run_of_answer given
      simp only [properties, resolved] at told
      obtain ⟨names, between, guarded, concluded⟩ := Run.run_of_bind told
      obtain rfl := Run.unless_raised_none unnamed guarded
      cases concluded
      rfl
  | hint callee site line =>
      obtain ⟨value, resolved, unprovided⟩ := fails
      have told := run_of_answer given
      simp only [invokeHint, resolved] at told
      split at told
      · cases told
        rfl
      · cases told
        rfl
      · next same =>
          cases same
          obtain ⟨hint, between, guarded, concluded⟩ := Run.run_of_bind told
          obtain rfl := Run.unless_raised_none unprovided guarded
          cases concluded
          rfl
  | globalNames | release => exact fails.elim

/-- The world of a session that has run inputs, in a namespace that was empty before. -/
def afterInputs (inputs : List String) : World :=
  ((inputs.forM fun input => discard (execute { space := 0 } input)).runIn { cells := #[.dict #[] none] }).2

end LiveShell.Environment
