import LiveShell.Proofs.Exchanges
import LiveShell.Proofs.NodeOrigin

/-!
The requests that completion makes, in which order, and what they depend on. Every strategy has its course: the
exchanges that it goes through with whatever answers, and what it then has to work with. From the courses: which
sequences of requests there are at all, and that a handle that was given out is released once, at the end, on every
way out.
-/

namespace LiveShell.Completion

open Dialogue

set_option autoImplicit false

variable {ε : Type} {around : Surroundings} {source : String} {cursor : Int} {log : List (Exchange ε)}

/-! ### Loading a module -/

/-- The specifiers that a name is looked for under, one after another: below the module directory if there is one,
and by itself. -/
def specifiersOf (around : Surroundings) (name : String) : List String :=
  match around.settings.moduleDirectory with
  | none => [name]
  | some directory => if directory = "" then [name] else [joinedPath [around.current, directory, name], name]

/-- Loading from one specifier after another. The first one that gives an object ends it. -/
inductive Loading : List String → List (Exchange ε) → Except (Trouble ε) Bool → Prop
  | exhausted : Loading [] [] (.ok false)
  | failed (specifier : String) {rest : List String} (cause : Trouble ε) :
      Loading (specifier :: rest) [⟨.loadModule specifier, .error cause⟩] (.error cause)
  | found (specifier : String) {rest : List String} (evaluation : Evaluation)
      (object : evaluation.result.sort = .object) :
      Loading (specifier :: rest) [⟨.loadModule specifier, .ok evaluation⟩] (.ok true)
  | passed (specifier : String) {rest : List String} (evaluation : Evaluation)
      (other : evaluation.result.sort ≠ .object) {log : List (Exchange ε)} {outcome : Except (Trouble ε) Bool}
      (later : Loading rest log outcome) :
      Loading (specifier :: rest) (⟨.loadModule specifier, .ok evaluation⟩ :: log) outcome

/-- Tries specifiers until one gives an object. -/
def loadFirst : List String → Dialogue ε Bool
  | [] => pure false
  | specifier :: rest => do
      let evaluation ← request (.loadModule specifier)
      if evaluation.result.sort = .object then pure true else loadFirst rest

theorem load_first_course {specifiers : List String} {outcome : Except (Trouble ε) Bool}
    (ends : Ends (loadFirst specifiers) log outcome) : Loading specifiers log outcome := by
  induction specifiers generalizing log with
  | nil =>
      obtain ⟨rfl, rfl⟩ := ends_pure.mp ends
      exact .exhausted
  | cons specifier rest induction =>
      rcases ends_request_bind.mp ends with ⟨evaluation, tail, rfl, goesOn⟩ | ⟨cause, rfl, rfl⟩
      · change Evaluation at evaluation
        by_cases object : evaluation.result.sort = .object
        · rw [if_pos object] at goesOn
          obtain ⟨rfl, rfl⟩ := ends_pure.mp goesOn
          exact .found specifier evaluation object
        · rw [if_neg object] at goesOn
          exact .passed specifier evaluation object (induction goesOn)
      · exact .failed specifier cause

/-- Whether the settings and the name itself allow that a module is looked for. -/
def mayLoad (around : Surroundings) (name : String) : Bool :=
  around.settings.autoloadModules && Text.isName name.toList && !Source.isKeyword name.toList

theorem load_module_eq (around : Surroundings) (name : String) :
    (loadModule around name : Dialogue ε Bool) =
      if mayLoad around name then loadFirst (specifiersOf around name) else pure false := by
  have guarded : (!around.settings.autoloadModules || !Text.isName name.toList ||
      Source.isKeyword name.toList) = !mayLoad around name := by
    simp [mayLoad]
  have last : (do
      let evaluation ← request (.loadModule name)
      pure (decide (evaluation.result.sort = .object)) : Dialogue ε Bool) = loadFirst [name] := by
    refine congrArg (request (.loadModule name) >>= ·) (funext fun (evaluation : Evaluation) => ?_)
    by_cases object : evaluation.result.sort = .object <;> simp [object, loadFirst]
  simp only [loadModule, guarded, specifiersOf, last]
  cases mayLoad around name with
  | false => rfl
  | true =>
      simp only [Bool.not_true, Bool.false_eq_true, if_false, if_true]
      split
      · next unset => rw [unset]
      · next empty => rw [empty]; rfl
      · next directory filled set => rw [set]; simp only [if_neg filled]; rfl

/-! ### Names -/

/-- Whether a module is looked for by a name: by one that is typed and not among the names. -/
def WorthLoading (around : Surroundings) (name : String) (names : List String) : Prop :=
  name ≠ "" ∧ name ∉ names ∧ mayLoad around name = true

/-- How the names come to be known that count for a typed name: they are asked for, and once more when a module was
loaded by the name. -/
inductive NameCourse (around : Surroundings) (name : String) :
    List (Exchange ε) → Except (Trouble ε) (List String) → Prop
  | unanswered (cause : Trouble ε) : NameCourse around name [⟨.globalNames, .error cause⟩] (.error cause)
  | known (names : List String) (settled : ¬WorthLoading around name names) :
      NameCourse around name [⟨.globalNames, .ok names⟩] (.ok names)
  | unloaded (names : List String) (worth : WorthLoading around name names) {loads : List (Exchange ε)}
      (loading : Loading (specifiersOf around name) loads (.ok false)) :
      NameCourse around name (⟨.globalNames, .ok names⟩ :: loads) (.ok names)
  | loaded (names : List String) (worth : WorthLoading around name names) {loads : List (Exchange ε)}
      (loading : Loading (specifiersOf around name) loads (.ok true)) (again : Except (Trouble ε) (List String)) :
      NameCourse around name (⟨.globalNames, .ok names⟩ :: loads ++ [⟨.globalNames, again⟩]) again
  | broken (names : List String) (worth : WorthLoading around name names) {loads : List (Exchange ε)}
      (cause : Trouble ε) (loading : Loading (specifiersOf around name) loads (.error cause)) :
      NameCourse around name (⟨.globalNames, .ok names⟩ :: loads) (.error cause)

/-- What is offered for a typed text out of names; nothing rather than an empty list. -/
def offer (typed : String) (names : List String) : Option Completion :=
  match suffixesAfter names typed with
  | [] => none
  | suffixes => some { suffixes := suffixes, typed := typed }

theorem complete_identifier_course {node : Node} {outcome : Except (Trouble ε) (Option Completion)}
    (ends : Ends (completeIdentifier around cursor node) log outcome) :
    ∃ names, NameCourse around node.typedName log names ∧
      outcome = names.map (offer (typedBefore node.typedName node.start cursor)) := by
  rcases ends_request_bind.mp ends with ⟨names, rest, rfl, goesOn⟩ | ⟨cause, rfl, rfl⟩
  · change List String at names
    by_cases missing : (decide (node.typedName ≠ "") && !names.contains node.typedName) = true
    · rw [if_pos missing, load_module_eq] at goesOn
      simp only [Bool.and_eq_true, decide_eq_true_eq, Bool.not_eq_true', List.contains_eq_mem,
        decide_eq_false_iff_not] at missing
      by_cases allowed : mayLoad around node.typedName = true
      · rw [if_pos allowed] at goesOn
        have worth : WorthLoading around node.typedName names := ⟨missing.1, missing.2, allowed⟩
        rcases ends_bind.mp goesOn with ⟨loads, loaded, tail, rfl, tries, goesOn⟩ | ⟨cause, tries, rfl⟩
        · have loading := load_first_course tries
          cases loaded with
          | true =>
              rcases ends_request_bind.mp goesOn with ⟨again, others, rfl, finished⟩ | ⟨cause, rfl, rfl⟩
              · obtain ⟨rfl, rfl⟩ := ends_pure.mp finished
                exact ⟨.ok again, .loaded names worth loading _, rfl⟩
              · exact ⟨.error cause, .loaded names worth loading _, rfl⟩
          | false =>
              obtain ⟨rfl, rfl⟩ := ends_pure.mp goesOn
              rw [List.append_nil]
              exact ⟨.ok names, .unloaded names worth loading, rfl⟩
        · exact ⟨.error cause, .broken names worth cause (load_first_course tries), rfl⟩
      · rw [if_neg allowed] at goesOn
        obtain ⟨rfl, rfl⟩ := ends_pure.mp goesOn
        exact ⟨.ok names, .known names fun worth => allowed worth.2.2, rfl⟩
    · rw [if_neg missing] at goesOn
      obtain ⟨rfl, rfl⟩ := ends_pure.mp goesOn
      refine ⟨.ok names, .known names fun worth => missing ?_, rfl⟩
      simp [worth.1, worth.2.1]
  · exact ⟨.error cause, .unanswered cause, rfl⟩

/-! ### Values -/

/-- The handle that comes with a value. What failed to evaluate has none. -/
def Evaluation.handle? (evaluation : Evaluation) : Option String :=
  if evaluation.failure.isNone then evaluation.result.handle else none

/-- How the names of a value come to be known: it is evaluated silently, and if that gives a handle, the names behind
it are asked for and the handle is released. -/
inductive MemberCourse (text : String) : List (Exchange ε) → Except (Trouble ε) (List String) → Prop
  | unanswered (cause : Trouble ε) : MemberCourse text [⟨.evaluate text true, .error cause⟩] (.error cause)
  | unresolved (evaluation : Evaluation) (nothing : evaluation.handle? = none) :
      MemberCourse text [⟨.evaluate text true, .ok evaluation⟩] (.ok [])
  | resolved (evaluation : Evaluation) (handle : String) (resolves : evaluation.handle? = some handle)
      (names : Except (Trouble ε) (List String)) (released : Except (Trouble ε) Unit) :
      MemberCourse text
        [⟨.evaluate text true, .ok evaluation⟩, ⟨.properties handle, names⟩, ⟨.release handle, released⟩]
        (released.bind fun _ => names)

theorem complete_member_course {object property : Node} {outcome : Except (Trouble ε) (Option Completion)}
    (ends : Ends (completeMember source cursor object property) log outcome) :
    ∃ names, MemberCourse (object.text source.toList) log names ∧
      outcome = names.map fun names => some {
        suffixes := suffixesAfter names (typedBefore property.typedName property.start cursor)
        typed := typedBefore property.typedName property.start cursor } := by
  rcases ends_request_bind.mp ends with ⟨evaluation, rest, rfl, goesOn⟩ | ⟨cause, rfl, rfl⟩
  · change Evaluation at evaluation
    split at goesOn
    · next handle succeeded here =>
        have resolves : evaluation.handle? = some handle := by simp [Evaluation.handle?, succeeded, here]
        rcases ends_bind.mp goesOn with ⟨asked, names, tail, rfl, asks, finished⟩ | ⟨cause, asks, rfl⟩
        · obtain ⟨reply, released, rfl, same⟩ := ends_releasing.mp asks
          obtain ⟨rfl, rfl⟩ := ends_pure.mp finished
          exact ⟨.ok names, same ▸ .resolved evaluation handle resolves reply released, rfl⟩
        · obtain ⟨reply, released, rfl, same⟩ := ends_releasing.mp asks
          exact ⟨.error cause, same ▸ .resolved evaluation handle resolves reply released, rfl⟩
    · next unknown =>
        obtain ⟨rfl, rfl⟩ := ends_pure.mp goesOn
        refine ⟨.ok [], .unresolved evaluation ?_, rfl⟩
        cases failed : evaluation.failure with
        | some failure => simp [Evaluation.handle?, failed]
        | none =>
            cases here : evaluation.result.handle with
            | none => simp [Evaluation.handle?, here]
            | some handle => exact (unknown handle failed here).elim
  · exact ⟨.error cause, .unanswered cause, rfl⟩

/-- How a hint for a call comes to be known: the callee is evaluated silently, the hint is asked for, and the handle of
the callee is released if it has one. -/
inductive CallCourse (source : String) (node callee : Node) : List (Exchange ε) → Prop
  | unanswered (cause : Trouble ε) :
      CallCourse source node callee [⟨.evaluate (callee.text source.toList) true, .error cause⟩]
  | failed (evaluation : Evaluation) (failure : evaluation.failure ≠ none) :
      CallCourse source node callee [⟨.evaluate (callee.text source.toList) true, .ok evaluation⟩]
  | unhandled (evaluation : Evaluation) (succeeded : evaluation.failure = none)
      (nothing : evaluation.result.handle = none) (hint : Except (Trouble ε) Description) :
      CallCourse source node callee
        [⟨.evaluate (callee.text source.toList) true, .ok evaluation⟩,
         ⟨.hint evaluation.result node source, hint⟩]
  | handled (evaluation : Evaluation) (handle : String) (succeeded : evaluation.failure = none)
      (here : evaluation.result.handle = some handle) (hint : Except (Trouble ε) Description)
      (released : Except (Trouble ε) Unit) :
      CallCourse source node callee
        [⟨.evaluate (callee.text source.toList) true, .ok evaluation⟩,
         ⟨.hint evaluation.result node source, hint⟩, ⟨.release handle, released⟩]

/-- What is made of a hint. -/
def shownHint (hint : Description) : Dialogue ε (Option Completion) :=
  if hint.sort ≠ .text || !hint.value.holds then pure none
  else match hint.value with
    | .text value => pure (some { suffixes := [value], fillable := false })
    | _ => .trouble .failed

/-- Nothing is asked for after the hint. -/
theorem ends_with_hint {asked : Dialogue ε Description} {outcome : Except (Trouble ε) (Option Completion)}
    (ends : Ends (asked >>= shownHint) log outcome) : ∃ hint, Ends asked log hint := by
  rcases ends_bind.mp ends with ⟨first, hint, rest, rfl, asks, finished⟩ | ⟨cause, asks, rfl⟩
  · have silent : rest = [] := by
      unfold shownHint at finished
      split at finished
      · exact (ends_pure.mp finished).1
      · split at finished
        · exact (ends_pure.mp finished).1
        · exact (ends_trouble.mp finished).1
    exact ⟨.ok hint, by rwa [silent, List.append_nil]⟩
  · exact ⟨.error cause, asks⟩

theorem complete_call_course {node callee : Node} {outcome : Except (Trouble ε) (Option Completion)}
    (ends : Ends (completeCall source node callee) log outcome) :
    if source.toList[node.stop - 1]? = some ')' then log = [] else CallCourse source node callee log := by
  by_cases closed : source.toList[node.stop - 1]? = some ')'
  · rw [completeCall, if_pos closed] at ends
    rw [if_pos closed]
    exact (ends_pure.mp ends).1
  · rw [completeCall, if_neg closed] at ends
    rw [if_neg closed]
    rcases ends_request_bind.mp ends with ⟨evaluation, rest, rfl, goesOn⟩ | ⟨cause, rfl, rfl⟩
    · change Evaluation at evaluation
      by_cases failed : evaluation.failure.isSome = true
      · rw [if_pos failed] at goesOn
        obtain ⟨rfl, rfl⟩ := ends_pure.mp goesOn
        exact .failed evaluation (by simpa [Option.isSome_iff_ne_none] using failed)
      · rw [if_neg failed] at goesOn
        have succeeded : evaluation.failure = none := by simpa using failed
        cases here : evaluation.result.handle with
        | none =>
            rw [here] at goesOn
            obtain ⟨hint, asks⟩ := ends_with_hint goesOn
            have asks : Ends (request (.hint evaluation.result node source)) rest hint := asks
            obtain rfl := ends_request.mp asks
            exact .unhandled evaluation succeeded here hint
        | some handle =>
            rw [here] at goesOn
            obtain ⟨known, asks⟩ := ends_with_hint goesOn
            have asks : Ends ((request (.hint evaluation.result node source)).ending (request (.release handle)))
              rest known := asks
            obtain ⟨hint, released, rfl, _⟩ := ends_releasing.mp asks
            exact .handled evaluation handle succeeded here hint released
    · exact .unanswered cause

/-! ### Whole requests -/

/-- The exchanges of a whole request, by what is located in the source. Only names, accesses through a dot and calls
that end without their bracket ask for more than the names. -/
inductive Protocol (around : Surroundings) (source : String) :
    Except Locate.Fault (Option Node) → List (Exchange ε) → Prop
  | fault (fault : Locate.Fault) : Protocol around source (.error fault) []
  | nowhere (names : Except (Trouble ε) (List String)) :
      Protocol around source (.ok none) [⟨.globalNames, names⟩]
  | string (span : Span) (value raw : String) : Protocol around source (.ok (some (.string span value raw))) []
  | subscript (span : Span) (object index : Node) :
      Protocol around source (.ok (some (.member span object index true))) []
  | other (span : Span) : Protocol around source (.ok (some (.other span))) []
  | name {node : Node} (isName : ∃ span name, node = .identifier span name) {log : List (Exchange ε)}
      {names : Except (Trouble ε) (List String)} (course : NameCourse around node.typedName log names) :
      Protocol around source (.ok (some node)) log
  | member (span : Span) (object property : Node) {log : List (Exchange ε)}
      {names : Except (Trouble ε) (List String)} (course : MemberCourse (object.text source.toList) log names) :
      Protocol around source (.ok (some (.member span object property false))) log
  | closedCall {node callee : Node} (isCall : ∃ span arguments, node = .call span callee arguments)
      (closed : source.toList[node.stop - 1]? = some ')') : Protocol around source (.ok (some node)) []
  | openCall {node callee : Node} (isCall : ∃ span arguments, node = .call span callee arguments)
      (unclosed : source.toList[node.stop - 1]? ≠ some ')') {log : List (Exchange ε)}
      (course : CallCourse source node callee log) : Protocol around source (.ok (some node)) log

theorem complete_globals_exchange {outcome : Except (Trouble ε) (Option Completion)}
    (ends : Ends completeGlobals log outcome) : ∃ names, log = [⟨.globalNames, names⟩] := by
  rcases ends_request_bind.mp ends with ⟨names, rest, rfl, finished⟩ | ⟨cause, rfl, rfl⟩
  · obtain ⟨rfl, rfl⟩ := ends_pure.mp finished
    exact ⟨_, rfl⟩
  · exact ⟨_, rfl⟩

/-- A remark and a value ask for nothing. -/
theorem noted_silent {from_ text : String} {completion : Option Completion}
    {outcome : Except (Trouble ε) (Option Completion)}
    (ends : Ends (note from_ text >>= fun _ => pure completion) log outcome) : log = [] :=
  (ends_pure.mp (ends_note.mp ends :)).1

/-- Nothing is asked for inside a string. -/
theorem complete_string_silent {span : Span} {value raw : String} {outcome : Except (Trouble ε) (Option Completion)}
    (ends : Ends (completeString around cursor span value raw) log outcome) : log = [] := by
  unfold completeString at ends
  split at ends
  · exact (ends_pure.mp ends).1
  · simp only at ends
    split at ends
    · exact (ends_trouble.mp ends).1
    · split at ends
      · exact noted_silent ends
      · exact (ends_pure.mp ends).1

theorem complete_at_protocol {outcome : Except (Trouble ε) (Option Completion)}
    (ends : Ends (completeAt around source cursor) log outcome) :
    Protocol around source (Locate.locate source cursor) log := by
  unfold completeAt at ends
  split at ends
  · next empty =>
      obtain ⟨names, rfl⟩ := complete_globals_exchange ends
      rw [empty, Locate.locate_empty]
      exact .nowhere names
  · cases located : Locate.locate source cursor with
    | error fault =>
        rw [located] at ends
        obtain ⟨rfl, rfl⟩ := ends_trouble.mp ends
        exact .fault fault
    | ok found =>
        rw [located] at ends
        cases found with
        | none =>
            obtain ⟨names, rfl⟩ := complete_globals_exchange (ends_note.mp ends :)
            exact .nowhere names
        | some node =>
            cases node with
            | string span value raw =>
                obtain rfl := complete_string_silent ends
                exact .string span value raw
            | identifier span name =>
                obtain ⟨names, course, _⟩ := complete_identifier_course ends
                exact .name ⟨span, name, rfl⟩ course
            | member span object property computed =>
                cases computed with
                | true =>
                    obtain ⟨rfl, rfl⟩ := ends_pure.mp ends
                    exact .subscript span object property
                | false =>
                    obtain ⟨names, course, _⟩ := complete_member_course ends
                    exact .member span object property course
            | call span callee arguments =>
                have course := complete_call_course ends
                split at course
                · next closed =>
                    rw [course]
                    exact .closedCall ⟨span, arguments, rfl⟩ closed
                · next unclosed => exact .openCall ⟨span, arguments, rfl⟩ unclosed course
            | other span =>
                obtain rfl := noted_silent ends
                exact .other span

theorem complete_ends {cursor : Option Int} {outcome : Except (Trouble ε) (Option Completion)}
    (ends : Ends (complete around source cursor) log outcome) :
    ∃ inner, Ends (completeAt around source (cursor.getD source.length)) log inner ∧
      outcome = match inner with
        | .ok completion => .ok completion
        | .error .failed => .ok none
        | .error (.ended reason) => .error (.ended reason) := by
  obtain ⟨first, inner, rest, rfl, begins, goesOn⟩ := ends_handle.mp ends
  cases inner with
  | ok completion =>
      obtain ⟨rfl, rfl⟩ := ends_finish.mp goesOn
      exact ⟨_, by rwa [List.append_nil], rfl⟩
  | error cause =>
      cases cause with
      | failed =>
          obtain ⟨rfl, rfl⟩ := ends_pure.mp (ends_note.mp goesOn :)
          exact ⟨_, by rwa [List.append_nil], rfl⟩
      | ended reason =>
          obtain ⟨rfl, rfl⟩ := ends_trouble.mp goesOn
          exact ⟨_, by rwa [List.append_nil], rfl⟩

/-! ### Handles within a request -/

/-- A handle that was given out is released by the last request and by no other, and nothing else is released. -/
structure ReleasesHandles (log : List (Exchange ε)) : Prop where
  given : ∀ (text : String) (silent : Bool) (evaluation : Evaluation) (handle : String),
    ⟨.evaluate text silent, .ok evaluation⟩ ∈ log → evaluation.handle? = some handle →
      ∃ before released, log = before ++ [⟨.release handle, released⟩] ∧
        ∀ exchange ∈ before, ∀ other, exchange.request ≠ .release other
  only : ∀ (handle : String) (released : Except (Trouble ε) Unit), ⟨.release handle, released⟩ ∈ log →
    ∃ text evaluation, ⟨.evaluate text true, .ok evaluation⟩ ∈ log ∧ evaluation.handle? = some handle

theorem loading_requests {specifiers : List String} {outcome : Except (Trouble ε) Bool}
    (loading : Loading specifiers log outcome) :
    ∀ exchange ∈ log, ∃ specifier, exchange.request = .loadModule specifier := by
  induction loading with
  | exhausted => simp
  | failed specifier | found specifier => simp
  | passed specifier evaluation other later induction => simpa using induction

theorem name_requests {name : String} {names : Except (Trouble ε) (List String)}
    (course : NameCourse around name log names) :
    ∀ exchange ∈ log, exchange.request = .globalNames ∨ ∃ specifier, exchange.request = .loadModule specifier := by
  cases course with
  | unanswered | known => simp
  | unloaded names worth loading | broken names worth cause loading =>
      intro exchange member
      rcases List.mem_cons.mp member with rfl | tried
      · exact Or.inl rfl
      · exact Or.inr (loading_requests loading exchange tried)
  | loaded names worth loading again =>
      intro exchange member
      rcases List.mem_append.mp member with earlier | last
      · rcases List.mem_cons.mp earlier with rfl | tried
        · exact Or.inl rfl
        · exact Or.inr (loading_requests loading exchange tried)
      · obtain rfl := List.mem_singleton.mp last
        exact Or.inl rfl

/-- Where nothing is evaluated and nothing released, there is no handle to keep track of. -/
theorem releases_of_no_handle
    (plain : ∀ exchange ∈ log, exchange.request = .globalNames ∨ ∃ specifier, exchange.request = .loadModule specifier) :
    ReleasesHandles log := by
  constructor
  · intro text silent evaluation handle member
    rcases plain _ member with same | ⟨specifier, same⟩ <;> cases same
  · intro handle released member
    rcases plain _ member with same | ⟨specifier, same⟩ <;> cases same

/-- The one handle that the evaluation at the start of a request gives out, if it gives one. -/
def givenHandle? : Except (Trouble ε) Evaluation → Option String
  | .ok evaluation => evaluation.handle?
  | .error _ => none

/-- A request that starts with an evaluation and ends with the release of its handle, if there is one. -/
theorem releases_of_evaluation {text : String} {evaluated : Except (Trouble ε) Evaluation}
    (between : List (Exchange ε)) {closing : List (Exchange ε)}
    (plain : ∀ exchange ∈ between, (∀ text silent, exchange.request ≠ .evaluate text silent) ∧
      ∀ handle, exchange.request ≠ .release handle)
    (closes : match givenHandle? evaluated with
      | some handle => ∃ released, closing = [⟨.release handle, released⟩]
      | none => closing = []) :
    ReleasesHandles (⟨.evaluate text true, evaluated⟩ :: between ++ closing) := by
  constructor
  · intro asked silent evaluation handle member gives
    rcases List.mem_append.mp member with earlier | last
    · rcases List.mem_cons.mp earlier with first | later
      · cases first
        simp only [givenHandle?, gives] at closes
        obtain ⟨released, rfl⟩ := closes
        refine ⟨_, released, rfl, ?_⟩
        intro exchange earlier other
        rcases List.mem_cons.mp earlier with rfl | later
        · exact Request.noConfusion
        · exact (plain exchange later).2 other
      · exact absurd rfl ((plain _ later).1 asked silent)
    · split at closes
      · obtain ⟨released, rfl⟩ := closes
        cases List.mem_singleton.mp last
      · rw [closes] at last
        exact absurd last List.not_mem_nil
  · intro handle released member
    rcases List.mem_append.mp member with earlier | last
    · rcases List.mem_cons.mp earlier with first | later
      · cases first
      · exact absurd rfl ((plain _ later).2 handle)
    · split at closes
      · next known gives =>
          obtain ⟨closed, rfl⟩ := closes
          cases List.mem_singleton.mp last
          cases evaluated with
          | error cause => cases gives
          | ok evaluation => exact ⟨text, evaluation, List.mem_cons_self, gives⟩
      · rw [closes] at last
        exact absurd last List.not_mem_nil

theorem member_releases {text : String} {names : Except (Trouble ε) (List String)}
    (course : MemberCourse text log names) : ReleasesHandles log := by
  cases course with
  | unanswered cause => exact releases_of_evaluation [] (by simp) rfl
  | unresolved evaluation nothing =>
      exact releases_of_evaluation [] (by simp) (by simp [givenHandle?, nothing])
  | resolved evaluation handle resolves names released =>
      exact releases_of_evaluation [_] (by simp)
        (by simp only [givenHandle?, resolves]; exact ⟨released, rfl⟩)

theorem call_releases {node callee : Node} (course : CallCourse source node callee log) : ReleasesHandles log := by
  cases course with
  | unanswered cause => exact releases_of_evaluation [] (by simp) rfl
  | failed evaluation failure =>
      exact releases_of_evaluation [] (by simp)
        (by simp [givenHandle?, Evaluation.handle?, failure])
  | unhandled evaluation succeeded nothing hint =>
      exact releases_of_evaluation [_] (by simp)
        (by simp [givenHandle?, Evaluation.handle?, nothing])
  | handled evaluation handle succeeded here hint released =>
      exact releases_of_evaluation [_] (by simp)
        (by simp only [givenHandle?, Evaluation.handle?, succeeded, here]; exact ⟨released, rfl⟩)

theorem protocol_releases {located : Except Locate.Fault (Option Node)} (protocol : Protocol around source located log) :
    ReleasesHandles log := by
  cases protocol with
  | fault | string | subscript | other | closedCall => exact releases_of_no_handle (by simp)
  | nowhere names => exact releases_of_no_handle (by simp)
  | name isName course => exact releases_of_no_handle (name_requests course)
  | member span object property course => exact member_releases course
  | openCall isCall unclosed course => exact call_releases course

/-- Whatever the environment answers, and whichever of its answers fail, completing makes the requests that its
protocol has for what is located: a value is only evaluated silently, as the piece of the source that its node covers,
a module is only looked for by a whole name that is a name and not known, and a handle that was given out is released
once, as the last request of all. -/
theorem complete_keeps_protocol {σ : Type}
    (answer : (request : Request) → σ → Except (Trouble ε) request.Answer × σ) (state : σ)
    (around : Surroundings) (source : String) (cursor : Option Int) :
    let log := (complete around source cursor).exchanges answer state
    Protocol around source (Locate.locate source (cursor.getD source.length)) log ∧ ReleasesHandles log := by
  obtain ⟨inner, ends, _⟩ := complete_ends (ends_run answer (complete around source cursor) state)
  have protocol := complete_at_protocol ends
  exact ⟨protocol, protocol_releases protocol⟩

end LiveShell.Completion
