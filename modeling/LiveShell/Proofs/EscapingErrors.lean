import LiveShell.Proofs.HandleEvents
import LiveShell.Proofs.NameCompletion
import LiveShell.Proofs.RaisedErrors

/-!
What gets out of completion. Trouble of its own only means that there is nothing to offer; what ends the program comes
from a request. In a running environment that is an error of the code that the request ran, and no ordinary one.
-/

namespace LiveShell.Completion

open Dialogue

set_option autoImplicit false

namespace Dialogue

variable {ε α β σ : Type}

/-- The requests of a dialogue with an environment that keeps a state, each with the state that it is made in. -/
def asked (answer : (request : Request) → σ → Except (Trouble ε) request.Answer × σ) :
    Dialogue ε α → σ → List (Request × σ)
  | finish _, _ | trouble _, _ => []
  | remark _ rest, state => rest.asked answer state
  | ask request rest, state =>
      (request, state) :: (rest (answer request state).1).asked answer (answer request state).2

theorem exchanges_eq_asked (answer : (request : Request) → σ → Except (Trouble ε) request.Answer × σ)
    (dialogue : Dialogue ε α) (state : σ) : dialogue.exchanges answer state =
      (dialogue.asked answer state).map fun (request, state) => ⟨request, (answer request state).1⟩ := by
  induction dialogue generalizing state with
  | finish | trouble => rfl
  | remark made rest induction => exact induction state
  | ask request rest induction =>
      show _ :: _ = _ :: _
      rw [induction]

/-- However a dialogue ends, what follows ends in the state that it leaves. -/
theorem run_handle (answer : (request : Request) → σ → Except (Trouble ε) request.Answer × σ) (dialogue : Dialogue ε α)
    (next : Except (Trouble ε) α → Dialogue ε β) (state : σ) :
    ((dialogue.handle next).run answer state).1 =
      ((next (dialogue.run answer state).1).run answer (dialogue.run answer state).2.2).1 := by
  induction dialogue generalizing state with
  | finish | trouble => rfl
  | remark made rest induction => exact induction state
  | ask request rest induction => exact induction _ _

theorem run_bind (answer : (request : Request) → σ → Except (Trouble ε) request.Answer × σ) (dialogue : Dialogue ε α)
    (next : α → Dialogue ε β) (state : σ) : ((dialogue >>= next).run answer state).1 =
      match (dialogue.run answer state).1 with
      | .ok value => ((next value).run answer (dialogue.run answer state).2.2).1
      | .error cause => .error cause := by
  show ((dialogue.bind next).run answer state).1 = _
  rw [bind_eq_handle, run_handle]
  cases (dialogue.run answer state).1 <;> rfl

/-! ### Trouble of requests -/

/-- A dialogue only ends the program where a request does. -/
def PassesEnds (dialogue : Dialogue ε α) : Prop :=
  ∀ log reason, Ends dialogue log (.error (.ended reason)) → ∃ exchange ∈ log, exchange.reply = .error (.ended reason)

theorem passes_pure (value : α) : PassesEnds (pure value : Dialogue ε α) := by
  intro log reason ends
  cases (ends_pure.mp ends).2

theorem passes_failed : PassesEnds (trouble .failed : Dialogue ε α) := by
  intro log reason ends
  cases (ends_trouble.mp ends).2

theorem passes_request (asked : Request) : PassesEnds (request asked : Dialogue ε _) := by
  intro log reason ends
  rw [ends_request.mp ends]
  exact ⟨_, List.mem_singleton_self _, rfl⟩

theorem passes_note (source text : String) : PassesEnds (note source text : Dialogue ε Unit) := by
  intro log reason ends
  rcases ends with _ | _ | ⟨_, rest⟩
  cases (ends_finish.mp rest).2

theorem passes_bind {dialogue : Dialogue ε α} {next : α → Dialogue ε β} (passes : PassesEnds dialogue)
    (goesOn : ∀ value, PassesEnds (next value)) : PassesEnds (dialogue >>= next) := by
  intro log reason ends
  rcases ends_bind.mp ends with ⟨first, value, rest, rfl, _, later⟩ | ⟨cause, early, same⟩
  · obtain ⟨exchange, member, ended⟩ := goesOn value rest reason later
    exact ⟨exchange, List.mem_append_right _ member, ended⟩
  · cases same
    exact passes log reason early

theorem passes_ending {dialogue : Dialogue ε α} {last : Dialogue ε Unit} (passes : PassesEnds dialogue)
    (closes : PassesEnds last) : PassesEnds (dialogue.ending last) := by
  intro log reason ends
  obtain ⟨first, between, rest, closing, rfl, begins, finishes, same⟩ := ends_ending.mp ends
  cases closing with
  | ok value =>
      obtain ⟨exchange, member, ended⟩ := passes first reason ((show between = _ from same.symm) ▸ begins)
      exact ⟨exchange, List.mem_append_left _ member, ended⟩
  | error cause =>
      cases same
      obtain ⟨exchange, member, ended⟩ := closes rest reason finishes
      exact ⟨exchange, List.mem_append_right _ member, ended⟩

end Dialogue

/-! ### Strategies -/

section Strategies

variable {ε : Type} {around : Surroundings}

theorem load_module_passes (name : String) : PassesEnds (loadModule around name : Dialogue ε Bool) := by
  have installed : PassesEnds (do
      let evaluation ← request (.loadModule name)
      pure (evaluation.result.sort = .object) : Dialogue ε Bool) :=
    passes_bind (passes_request _) fun _ => passes_pure _
  unfold loadModule
  split
  · exact passes_pure _
  · simp only
    split
    · exact installed
    · exact installed
    · apply passes_bind (passes_request _)
      intro evaluation
      split
      · exact passes_pure _
      · exact installed

theorem complete_identifier_passes (cursor : Int) (node : Node) :
    PassesEnds (completeIdentifier around cursor node : Dialogue ε _) := by
  unfold completeIdentifier
  apply passes_bind (passes_request _)
  intro names
  simp only
  split
  · apply passes_bind (load_module_passes _)
    intro loaded
    split
    · exact passes_bind (passes_request _) fun _ => passes_pure _
    · exact passes_pure _
  · exact passes_pure _

theorem complete_string_passes (cursor : Int) (span : Span) (value raw : String) :
    PassesEnds (completeString around cursor span value raw : Dialogue ε _) := by
  unfold completeString
  split
  · exact passes_pure _
  · simp only
    split
    · exact passes_failed
    · split
      · exact passes_bind (passes_note _ _) fun _ => passes_pure _
      · exact passes_pure _

theorem complete_member_passes (source : String) (cursor : Int) (object property : Node) :
    PassesEnds (completeMember source cursor object property : Dialogue ε _) := by
  unfold completeMember
  apply passes_bind (passes_request _)
  intro evaluation
  split
  · exact passes_bind (passes_ending (passes_request _) (passes_request _)) fun _ => passes_pure _
  · exact passes_pure _

theorem complete_call_passes (source : String) (node callee : Node) :
    PassesEnds (completeCall source node callee : Dialogue ε _) := by
  have shown : ∀ asked : Dialogue ε Description, PassesEnds asked → PassesEnds (asked >>= shownHint) := by
    intro asked passes
    apply passes_bind passes
    intro hint
    unfold shownHint
    split
    · exact passes_pure _
    · split
      · exact passes_pure _
      · exact passes_failed
  unfold completeCall
  split
  · exact passes_pure _
  · apply passes_bind (passes_request _)
    intro evaluation
    split
    · exact passes_pure _
    · cases evaluation.result.handle with
      | none => exact shown _ (passes_request _)
      | some handle => exact shown _ (passes_ending (passes_request _) (passes_request _))

theorem complete_node_passes (source : String) (cursor : Int) (node : Node) :
    PassesEnds (completeNode around source cursor node : Dialogue ε _) := by
  cases node with
  | string span value raw => exact complete_string_passes cursor span value raw
  | identifier span name => exact complete_identifier_passes cursor _
  | member span object property computed =>
      cases computed with
      | true => exact passes_pure none
      | false => exact complete_member_passes source cursor object property
  | call span callee arguments => exact complete_call_passes source _ callee
  | other span => exact passes_bind (passes_note _ _) fun _ => passes_pure none

theorem complete_at_passes (source : String) (cursor : Int) :
    PassesEnds (completeAt around source cursor : Dialogue ε _) := by
  have globals : PassesEnds (completeGlobals : Dialogue ε _) :=
    passes_bind (passes_request _) fun _ => passes_pure _
  cases located : Locate.locate source cursor with
  | error fault =>
      unfold completeAt
      rw [located]
      split
      · exact globals
      · exact passes_failed
  | ok found =>
      cases found with
      | none =>
          unfold completeAt
          rw [located]
          split
          · exact globals
          · exact passes_bind (passes_note _ _) fun _ => globals
      | some node =>
          rw [complete_at_located around located]
          exact complete_node_passes source cursor node

/-- A completion has no trouble of its own, and only ends the program where a request does. -/
theorem complete_escapes {source : String} {cursor : Option Int} {log : List (Exchange ε)} {cause : Trouble ε}
    (ends : Ends (complete around source cursor) log (.error cause)) :
    ∃ reason, cause = .ended reason ∧ ∃ exchange ∈ log, exchange.reply = .error (.ended reason) := by
  obtain ⟨inner, begins, outcome⟩ := complete_ends ends
  -- Trouble of the strategies is nothing to offer; only what ends the program is handed on.
  rcases inner with (_ | reason) | completion
  · cases outcome
  · cases outcome
    exact ⟨reason, rfl, complete_at_passes source _ log reason begins⟩
  · cases outcome

/-- What ends the program while a name is loaded that the environment does not have gets out of its completion. -/
theorem loading_escapes {σ : Type} {answer : (request : Request) → σ → Except (Trouble ε) request.Answer × σ}
    {state after : σ} {source : String} {cursor : Option Int} {node : Node} {names : List String} {reason : ε}
    (isName : ∃ span name, node = .identifier span name)
    (located : Locate.locate source (cursor.getD source.length) = .ok (some node)) (typed : node.typedName ≠ "")
    (told : answer .globalNames state = (.ok names, after)) (unknown : node.typedName ∉ names)
    (ended : ((loadModule around node.typedName).run answer after).1 = .error (.ended reason)) :
    ((complete around source cursor).run answer state).1 = .error (.ended reason) := by
  obtain ⟨span, name, rfl⟩ := isName
  have inner : ((completeAt around source (cursor.getD source.length)).run answer state).1 = .error (.ended reason) := by
    rw [complete_at_located around located]
    show ((completeIdentifier around _ _).run answer state).1 = _
    have first : (request .globalNames : Dialogue ε _).run answer state = (.ok names, [], after) := by
      rw [request, run, told]
      rfl
    have unknownName : ((Node.identifier span name).typedName ≠ "" &&
        !names.contains (Node.identifier span name).typedName) = true := by
      simp [typed, unknown]
    rw [completeIdentifier, run_bind, first]
    simp only
    rw [if_pos unknownName, run_bind, ended]
  rw [complete, run_handle, inner]
  rfl

end Strategies

end LiveShell.Completion

namespace LiveShell.Environment

open Completion (Dialogue Request Surroundings Trouble)
open Run (IsOrdinary)

/-! ### Errors of the environment -/

/-- What a request ends the program with is an error that it raised, and no ordinary one. -/
theorem answer_ended {request : Request} {environment : Environment} {world : World} {error : Value}
    (ended : (answerIn request (environment, world)).1 = .error (.ended error)) :
    ∃ after, (environment.answer request).runIn world = (.error error, after) ∧ ¬IsOrdinary error after := by
  simp only [answerIn] at ended
  rcases raised : (environment.answer request).runIn world with ⟨cause | given, after⟩
  · obtain ⟨ordinary, told⟩ := Run.reads_is_error cause "Exception" after
    simp only [raised, troubleOf, Run.run_in_bind, told] at ended
    cases ordinary with
    | true => cases ended
    | false =>
        cases ended
        refine ⟨after, rfl, fun known => ?_⟩
        rw [IsOrdinary, told] at known
        cases known
  · rw [raised] at ended
    cases ended

theorem mem_drop_repeats {name : String} {names : List String} : name ∈ dropRepeats names ↔ name ∈ names := by
  fun_induction dropRepeats names with
  | case1 first rest induction => rw [induction, List.mem_cons, List.mem_cons, List.mem_cons, or_self_left]
  | case2 first second rest apart induction => rw [List.mem_cons, induction, ← List.mem_cons]
  | case3 => rfl

theorem mem_sorted_once {name : String} {names : List String} : name ∈ sortedOnce names ↔ name ∈ names := by
  rw [sortedOnce, mem_drop_repeats, sortNames, List.mem_mergeSort]

theorem empty_tells_builtins {world : World} (empty : (Run.entriesAt 0).runIn world = (.ok #[], world)) :
    answerIn .globalNames ({ space := 0 }, world) = (.ok (sortedOnce Members.builtin), { space := 0 }, world) := by
  have listed : (globalNames { space := 0 }).runIn world = (.ok (sortedOnce Members.builtin), world) := by
    have named : (Run.namesIn 0).runIn world = (.ok [], world) := by
      rw [Run.namesIn, Run.run_in_bind, empty]
      rfl
    rw [globalNames, Run.run_in_bind, empty]
    simp only
    rw [if_pos (by simp), Run.run_in_bind, named]
    rfl
  apply answer_given
  show (do return (← globalNames { space := 0 }, { space := 0 }) : Run (List String × Environment)).runIn world = _
  rw [Run.run_in_bind, listed]
  rfl

/-- In a running environment a completion ends with something or nothing to offer, unless the code that one of its
requests runs raises an error that is no ordinary one. That error is what gets out. -/
theorem completion_returns_or_ends (around : Surroundings) (source : String) (cursor : Option Int)
    (environment : Environment) (world : World) :
    let dialogue := Completion.complete around source cursor
    let outcome := (dialogue.run answerIn (environment, world)).1
    (∃ found, outcome = .ok found) ∨
      ∃ error, outcome = .error (.ended error) ∧
        ∃ request during before after, (request, during, before) ∈ dialogue.asked answerIn (environment, world) ∧
          (answer during request).runIn before = (.error error, after) ∧ ¬IsOrdinary error after := by
  intro dialogue outcome
  have ends := Completion.Dialogue.ends_run answerIn dialogue (environment, world)
  cases result : outcome with
  | ok found => exact Or.inl ⟨found, rfl⟩
  | error cause =>
      change Completion.Dialogue.Ends dialogue _ outcome at ends
      rw [result] at ends
      obtain ⟨error, rfl, exchange, member, ended⟩ := Completion.complete_escapes ends
      rw [Completion.Dialogue.exchanges_eq_asked] at member
      obtain ⟨⟨request, during, before⟩, asked, rfl⟩ := List.mem_map.mp member
      obtain ⟨after, raised, extraordinary⟩ := answer_ended ended
      exact Or.inr ⟨error, rfl, request, during, before, after, asked, raised, extraordinary⟩

/-- A session with an empty namespace, and a script that leaves the program among the modules. -/
def besideScript : World where
  cells := #[.dict #[] none]
  files := Files.Tree.put ⟨[]⟩ ["__pypackages__".toList, "m.py".toList] (some "raise SystemExit(1)\n")
  place := ⟨[], "/home".toList, []⟩

/-- What a completion in that session sees of its files. -/
def aroundScript : Surroundings := ⟨{}, .ofTree besideScript.files besideScript.place, "/"⟩

/-- Whether what is located is this name. -/
def isName (name : String) : Option Node → Bool
  | some (.identifier _ typed) => decide (typed = name)
  | _ => false

/-- The error that ends a program, if one does. -/
def ending? {α : Type} : Except (Trouble Value) α → Option Value
  | .error (.ended error) => some error
  | _ => none

theorem name_of_seen {name : String} {node : Option Node} (seen : isName name node = true) :
    ∃ span, node = some (.identifier span name) := by
  unfold isName at seen
  split at seen
  · next span typed =>
      obtain rfl := of_decide_eq_true seen
      exact ⟨span, rfl⟩
  · cases seen

theorem ended_of_ending {α : Type} {outcome : Except (Trouble Value) α} {error : Value}
    (ending : ending? outcome = some error) : outcome = .error (.ended error) := by
  unfold ending? at ending
  split at ending
  · cases ending
    rfl
  · cases ending

theorem script_ends_completion :
    ∃ error, ((Completion.complete aroundScript "m" none).run answerIn ({ space := 0 }, besideScript)).1 =
      .error (.ended error) := by
  have unknown : "m" ∉ sortedOnce Members.builtin := by
    rw [mem_sorted_once]
    decide
  have seen : (Locate.locate "m" 1).toOption.any (isName "m") = true := by decide +kernel
  obtain ⟨node, located, isName⟩ := Run.ok_of_seen seen
  obtain ⟨span, rfl⟩ := name_of_seen isName
  have named : (Node.identifier span "m").typedName ≠ "" := by
    rw [Node.typedName]
    decide
  have leaves : (ending? ((Completion.loadModule aroundScript "m").run answerIn
      ({ space := 0 }, besideScript)).1).isSome = true := by decide +kernel
  obtain ⟨error, ended⟩ := Option.isSome_iff_exists.mp leaves
  exact ⟨error, Completion.loading_escapes ⟨span, _, rfl⟩ located named (empty_tells_builtins rfl) unknown
    (ended_of_ending ended)⟩

end LiveShell.Environment
