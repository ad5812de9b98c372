import LiveShell.Proofs.HandleHistory
import LiveShell.Proofs.RequestProtocol
import LiveShell.Proofs.RunSteps

/-!
What requests do to the handles of an environment, as events. The next handle is always a new one, since handles are
numbered; an evaluation gives one out only when it succeeds, and then for its value; a preview releases its handle
again; nothing else touches the table. An environment that went through events accounts for them.
-/

namespace LiveShell.Environment

open Completion (Evaluation Exchange Request Trouble)

set_option autoImplicit false

/-! ### What is done to the table -/

/-- How an environment goes through events. -/
inductive Undergoes : Environment → List (HandleEvent Value) → Environment → Prop
  | nothing (environment : Environment) : Undergoes environment [] environment
  | issued {environment after : Environment} (value : Value) {rest : List (HandleEvent Value)}
      (later : Undergoes (environment.retain value).2 rest after) :
      Undergoes environment (.issued (environment.retain value).1 value :: rest) after
  | released {environment after : Environment} (handle : String) {rest : List (HandleEvent Value)}
      (later : Undergoes (environment.release handle) rest after) :
      Undergoes environment (.released handle :: rest) after
  | closed {environment after : Environment} {rest : List (HandleEvent Value)}
      (later : Undergoes environment.close rest after) : Undergoes environment (.closed :: rest) after

/-- An environment accounts for what happened: its table holds what lives, and its count is past every handle. -/
structure Accounts (environment : Environment) (events : List (HandleEvent Value)) : Prop where
  table : environment.handles = alive events
  numbered : ∀ handle ∈ handlesIn events, ∃ number, number ≤ environment.issued ∧ handle = toString number
  once : (handlesIn events).Nodup

theorem accounts_new (space : Address) (hints : Hints) : Accounts { space, hints } [] where
  table := rfl
  numbered := by simp [handlesIn, issues]
  once := List.nodup_nil

variable {environment : Environment} {events : List (HandleEvent Value)}

theorem number_of_handle {first second : Nat} (same : toString first = toString second) : first = second := by
  have digits : Nat.toDigits 10 first = Nat.toDigits 10 second := by
    rw [Nat.toString_eq_ofList_toDigits, Nat.toString_eq_ofList_toDigits] at same
    exact String.ofList_injective same
  rw [← Nat.ofDigitChars_ten_toDigits (n := first), digits, Nat.ofDigitChars_ten_toDigits]

/-- The next handle has not been given out. -/
theorem retain_fresh (accounts : Accounts environment events) (value : Value) :
    (environment.retain value).1 ∉ handlesIn events := by
  intro known
  obtain ⟨number, within, same⟩ := accounts.numbered _ known
  have equal : environment.issued + 1 = number := number_of_handle same
  omega

theorem resolve_unknown (accounts : Accounts environment events) {handle : String} (unknown : handle ∉ handlesIn events) :
    environment.resolve? handle = none := by
  rw [resolve?, accounts.table]
  exact lookup_of_absent (alive_sublist events).subset unknown

theorem accounts_issued (accounts : Accounts environment events) (value : Value) :
    Accounts (environment.retain value).2 (events ++ [.issued (environment.retain value).1 value]) where
  table := by rw [alive_issued, ← accounts.table]; rfl
  numbered := by
    intro handle known
    rw [handles_in_append] at known
    rcases List.mem_append.mp known with earlier | last
    · obtain ⟨number, within, same⟩ := accounts.numbered handle earlier
      exact ⟨number, Nat.le_succ_of_le within, same⟩
    · exact ⟨environment.issued + 1, Nat.le_refl _, List.mem_singleton.mp last⟩
  once := by
    rw [handles_in_append, List.nodup_append]
    refine ⟨accounts.once, List.nodup_singleton _, ?_⟩
    intro handle known other last same
    have repeated : handle = (environment.retain value).1 := same.trans (List.mem_singleton.mp last)
    exact retain_fresh accounts value (repeated ▸ known)

/-- What gives no handle out keeps the count. -/
theorem accounts_ended (accounts : Accounts environment events) {after : Environment} {event : HandleEvent Value}
    (ending : event.issue? = none) (table : after.handles = alive (events ++ [event]))
    (count : after.issued = environment.issued) : Accounts after (events ++ [event]) := by
  have same : handlesIn (events ++ [event]) = handlesIn events := by
    rw [handles_in_append]
    simp [handlesIn, issues, ending]
  exact ⟨table, by rw [same, count]; exact accounts.numbered, by rw [same]; exact accounts.once⟩

theorem accounts_undergoes {after : Environment} {more : List (HandleEvent Value)}
    (accounts : Accounts environment events) (undergoes : Undergoes environment more after) :
    Accounts after (events ++ more) := by
  induction undergoes generalizing events with
  | nothing => rwa [List.append_nil]
  | issued value later induction =>
      have next := induction (accounts_issued accounts value)
      rwa [List.append_assoc] at next
  | released handle later induction =>
      have next := induction (accounts_ended accounts rfl (by rw [alive_released, ← accounts.table]; rfl) rfl)
      rwa [List.append_assoc] at next
  | closed later induction =>
      have next := induction (accounts_ended accounts rfl (alive_closed events).symm rfl)
      rwa [List.append_assoc] at next

/-! ### Evaluations -/

/-- Ends an evaluation with its code: the value gets a handle, a failure is told of. -/
def conclude (environment : Environment) (code : Run Value) : Run (Evaluation × Environment) := do
  match ← orFailure code with
  | .error failure => return ({ result := failure.raised, failure := some failure }, environment)
  | .ok value =>
      let description ← describe value
      let (handle, environment) := environment.retain value
      return ({ result := { description with handle := some handle } }, environment)

theorem evaluate_eq_conclude (environment : Environment) (text : String) (silent : Bool) :
    environment.evaluate text silent = environment.conclude (valueOf environment.space text silent) := rfl

/-- The value that code comes to, if it comes to one. -/
def comesTo? (code : Run Value) (world : World) : Option Value :=
  match (orFailure code).runIn world with
  | (.ok (.ok value), _) => some value
  | _ => none

/-- What an evaluation is to the handles: nothing when it raises or tells of a failure, and else a handle for the
value that its code comes to. -/
inductive Evaluated (environment : Environment) (code : Run Value) (world : World) :
    Option Evaluation → Environment → Prop
  | raised : Evaluated environment code world none environment
  | failed (evaluation : Evaluation) (failure : evaluation.failure ≠ none) :
      Evaluated environment code world (some evaluation) environment
  | gave (value : Value) (evaluation : Evaluation) (comes : comesTo? code world = some value)
      (succeeded : evaluation.failure = none) (here : evaluation.result.handle = some (environment.retain value).1) :
      Evaluated environment code world (some evaluation) (environment.retain value).2

variable {world after : World}

theorem conclude_evaluated {code : Run Value} {evaluation : Evaluation} {later : Environment}
    (given : (environment.conclude code).runIn world = (.ok (evaluation, later), after)) :
    Evaluated environment code world (some evaluation) later := by
  rw [conclude, Run.run_in_bind] at given
  rcases outcome : (orFailure code).runIn world with ⟨result, between⟩
  rw [outcome] at given
  rcases result with error | failure | value
  · cases given
  · cases given
    exact .failed _ nofun
  · have comes : comesTo? code world = some value := by rw [comesTo?, outcome]
    change ((describe value >>= _) : Run (Evaluation × Environment)).runIn between = _ at given
    rw [Run.run_in_bind] at given
    rcases described : (describe value).runIn between with ⟨result, last⟩
    rw [described] at given
    cases result with
    | error error => cases given
    | ok description =>
        cases given
        exact .gave value _ comes rfl rfl

/-- The event that an evaluation is, with an account of the value that it comes to. -/
def issueOf? {α : Type} (value? : Option α) (evaluation : Evaluation) : Option (HandleEvent α) :=
  match evaluation.handle?, value? with
  | some handle, some value => some (.issued handle value)
  | _, _ => none

theorem handle_of_failure {evaluation : Evaluation} (failure : evaluation.failure ≠ none) :
    evaluation.handle? = none := by
  simp [Evaluation.handle?, failure]

theorem handle_of_success {evaluation : Evaluation} (succeeded : evaluation.failure = none) :
    evaluation.handle? = evaluation.result.handle := by
  simp [Evaluation.handle?, succeeded]

theorem issue_of_none {α : Type} {value? : Option α} {evaluation : Evaluation} (nothing : evaluation.handle? = none) :
    issueOf? value? evaluation = none := by
  simp only [issueOf?, nothing]

theorem issue_of_handle {α : Type} {value : α} {evaluation : Evaluation} {handle : String}
    (known : evaluation.handle? = some handle) : issueOf? (some value) evaluation = some (.issued handle value) := by
  simp only [issueOf?, known]

/-- An evaluation does to the handles what its event says, which only names the value. -/
theorem evaluated_undergoes {code : Run Value} {told : Option Evaluation} {later : Environment}
    (evaluated : Evaluated environment code world told later) :
    Undergoes environment (told.bind (issueOf? (comesTo? code world))).toList later ∧
      (told.bind (issueOf? (comesTo? code world))).map (HandleEvent.map fun _ => ()) =
        told.bind (issueOf? (some ())) := by
  cases evaluated with
  | raised => exact ⟨.nothing environment, rfl⟩
  | failed evaluation failure =>
      rw [Option.bind_some, Option.bind_some, issue_of_none (handle_of_failure failure),
        issue_of_none (handle_of_failure failure)]
      exact ⟨.nothing environment, rfl⟩
  | gave value evaluation comes succeeded here =>
      have known := (handle_of_success succeeded).trans here
      rw [Option.bind_some, Option.bind_some, comes, issue_of_handle known, issue_of_handle known]
      exact ⟨.issued value (.nothing _), rfl⟩

/-- An evaluation that tells of a result fails and changes nothing, or its event is the handle for its value. -/
theorem evaluated_cases {code : Run Value} {evaluation : Evaluation} {later : Environment}
    (evaluated : Evaluated environment code world (some evaluation) later) :
    (evaluation.failure ≠ none ∧ later = environment) ∨
      evaluation.failure = none ∧ ∃ handle value, evaluation.result.handle = some handle ∧
        comesTo? code world = some value ∧ issueOf? (comesTo? code world) evaluation = some (.issued handle value) := by
  cases evaluated with
  | failed _ failure => exact Or.inl ⟨failure, rfl⟩
  | gave value _ comes succeeded here =>
      refine Or.inr ⟨succeeded, _, value, here, comes, ?_⟩
      rw [comes]
      exact issue_of_handle ((handle_of_success succeeded).trans here)

/-- The event that an exchange is, with an account of the value that it evaluates. -/
def eventOf? {α : Type} (value? : Option α) : Exchange Value → Option (HandleEvent α)
  | ⟨.evaluate .., reply⟩ => reply.toOption.bind (issueOf? value?)
  | ⟨.release handle, _⟩ => some (.released handle)
  | _ => none

theorem events_of_evaluation {α : Type} {value? : Option α} {text : String} {silent : Bool} {evaluation : Evaluation}
    {rest : List (Exchange Value)} :
    (⟨.evaluate text silent, .ok evaluation⟩ :: rest).filterMap (eventOf? value?) =
      (issueOf? value? evaluation).toList ++ rest.filterMap (eventOf? value?) := by
  have same : eventOf? value? ⟨.evaluate text silent, .ok evaluation⟩ = issueOf? value? evaluation := rfl
  rw [List.filterMap_cons, same]
  cases issueOf? value? evaluation <;> rfl

theorem events_of_one {α : Type} (value? : Option α) (exchange : Exchange Value) :
    [exchange].filterMap (eventOf? value?) = (eventOf? value? exchange).toList := by
  rw [List.filterMap_cons]
  cases eventOf? value? exchange <;> rfl

/-- The value that a request evaluates, if it evaluates one. -/
def valueFor? (environment : Environment) (world : World) : Request → Option Value
  | .evaluate text silent => comesTo? (valueOf environment.space text silent) world
  | _ => none

/-- The events of a request to an environment. -/
def requestEvents (request : Request) (state : Environment × World) : List (HandleEvent Value) :=
  (eventOf? (valueFor? state.1 state.2 request) ⟨request, (answerIn request state).1⟩).toList

variable {request : Request}

theorem answer_given {reply : request.Answer} {later : Environment}
    (given : (environment.answer request).runIn world = (.ok (reply, later), after)) :
    answerIn request (environment, world) = (.ok reply, later, after) := by
  simp only [answerIn, given]

/-- A request that raises changes nothing. Its reply is an error. -/
theorem answer_raised {error : Value} (raised : (environment.answer request).runIn world = (.error error, after)) :
    ∃ trouble, (answerIn request (environment, world)).1 = .error trouble ∧
      (answerIn request (environment, world)).2.1 = environment := by
  simp only [answerIn, raised]
  rcases (troubleOf error).runIn after with ⟨told, later⟩
  cases told <;> exact ⟨_, rfl, rfl⟩

/-- Only evaluations and releases change the environment. -/
theorem answer_looks (world : World) (noValue : ∀ text silent, request ≠ .evaluate text silent)
    (noRelease : ∀ handle, request ≠ .release handle) :
    (answerIn request (environment, world)).2.1 = environment := by
  have looks : ∃ run : Run request.Answer, environment.answer request = (do return (← run, environment)) := by
    cases request with
    | evaluate text silent => exact absurd rfl (noValue text silent)
    | release handle => exact absurd rfl (noRelease handle)
    | globalNames | loadModule | properties | hint => exact ⟨_, rfl⟩
  obtain ⟨run, looks⟩ := looks
  rcases outcome : run.runIn world with ⟨result, after⟩
  cases result with
  | error error =>
      have raised : (environment.answer request).runIn world = (.error error, after) := by
        rw [looks, Run.run_in_bind, outcome]
      obtain ⟨_, _, same⟩ := answer_raised raised
      exact same
  | ok reply =>
      have given : (environment.answer request).runIn world = (.ok (reply, environment), after) := by
        rw [looks, Run.run_in_bind, outcome]
        rfl
      rw [answer_given given]

theorem answer_evaluated (environment : Environment) (text : String) (silent : Bool) (world : World) :
    Evaluated environment (valueOf environment.space text silent) world
      (answerIn (.evaluate text silent) (environment, world)).1.toOption
      (answerIn (.evaluate text silent) (environment, world)).2.1 := by
  rcases ran : (environment.evaluate text silent).runIn world with ⟨result, after⟩
  have answered : (environment.answer (.evaluate text silent)).runIn world = (result, after) := ran
  cases result with
  | error error =>
      obtain ⟨trouble, replied, same⟩ := answer_raised answered
      rw [replied, same]
      exact .raised
  | ok given =>
      obtain ⟨evaluation, later⟩ := given
      rw [answer_given answered]
      rw [evaluate_eq_conclude] at ran
      exact conclude_evaluated ran

/-- A request does to the handles what its event says. -/
theorem answer_undergoes (request : Request) (environment : Environment) (world : World) :
    Undergoes environment (requestEvents request (environment, world)) (answerIn request (environment, world)).2.1 ∧
      (requestEvents request (environment, world)).map (HandleEvent.map fun _ => ()) =
        [⟨request, (answerIn request (environment, world)).1⟩].filterMap (eventOf? (some ())) := by
  rw [events_of_one]
  cases request with
  | evaluate text silent =>
      obtain ⟨undergoes, same⟩ := evaluated_undergoes (answer_evaluated environment text silent world)
      refine ⟨undergoes, ?_⟩
      rw [requestEvents, ← Option.toList_map]
      exact congrArg Option.toList same
  | release handle => exact ⟨.released handle (.nothing _), rfl⟩
  | globalNames | loadModule | properties | hint =>
      rw [answer_looks world (by simp) (by simp)]
      exact ⟨.nothing environment, rfl⟩

/-! ### Previews -/

/-- The environment and the world after a preview. -/
def afterPreview (environment : Environment) (text : String) (world : World) : Environment × World :=
  match (environment.preview text).runIn world with
  | (.ok (_, later), after) => (later, after)
  | (.error _, after) => (environment, after)

/-- The events of a preview: the evaluation in it, and the release of its handle. -/
def previewEvents (environment : Environment) (text : String) (world : World) : List (HandleEvent Value) :=
  match (environment.evaluate text true).runIn world with
  | (.ok (evaluation, _), _) =>
      (issueOf? (comesTo? (valueOf environment.space text true) world) evaluation).toList ++
        (evaluation.handle?.map .released).toList
  | (.error _, _) => []

/-- A preview does nothing to the handles, or it gives one out and releases it. -/
theorem preview_cases (environment : Environment) (text : String) (world : World) :
    ((environment.afterPreview text world).1 = environment ∧ environment.previewEvents text world = []) ∨
      ∃ value, (environment.afterPreview text world).1 =
          (environment.retain value).2.release (environment.retain value).1 ∧
        environment.previewEvents text world =
          [.issued (environment.retain value).1 value, .released (environment.retain value).1] := by
  rw [afterPreview, previewEvents, preview, Run.run_in_bind]
  rcases ran : (environment.evaluate text true).runIn world with ⟨result, after⟩
  rcases result with error | ⟨evaluation, later⟩
  · exact Or.inl ⟨rfl, rfl⟩
  · rw [evaluate_eq_conclude] at ran
    cases conclude_evaluated ran with
    | failed _ failure =>
        obtain ⟨told, here⟩ := Option.ne_none_iff_exists'.mp failure
        refine Or.inl ⟨?_, ?_⟩
        · simp only [here]
          rfl
        · simp only [issue_of_none (handle_of_failure failure), handle_of_failure failure]
          rfl
    | gave value _ comes succeeded here =>
        have known := (handle_of_success succeeded).trans here
        refine Or.inr ⟨value, ?_, ?_⟩
        · simp only [succeeded, here]
          rfl
        · simp only [comes, issue_of_handle known, known]
          rfl

theorem preview_undergoes (environment : Environment) (text : String) (world : World) :
    Undergoes environment (environment.previewEvents text world) (environment.afterPreview text world).1 := by
  rcases preview_cases environment text world with ⟨same, nothing⟩ | ⟨value, same, both⟩
  · rw [same, nothing]
    exact .nothing environment
  · rw [same, both]
    exact .issued value (.released _ (.nothing _))

end LiveShell.Environment
