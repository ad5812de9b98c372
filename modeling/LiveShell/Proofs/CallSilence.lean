import LiveShell.Proofs.NameCompletion

/-!
Which calls completion has nothing to say about. A call is built from its opening parenthesis, so it is closed or open
as that is. Completion goes by the character that the call ends with instead. For a closed call this is the closing
parenthesis; an open call runs on to the end of the source, and what stands there is the end of something else: of a
comment, or of a bracket on a later line.
-/

namespace LiveShell

open Source

set_option autoImplicit false

namespace Locate

variable {parsed : Parsed} {cursor : Nat} {node : Node}

/-! ### The parenthesis of a call -/

/-- A node is what an opening bracket starts. -/
structure IsGroupOf (parsed : Parsed) (opener : Nat) (node : Node) : Prop where
  bound : opener < parsed.leaves.size
  opens : isOpener (leafAt parsed.leaves opener) = true
  made : groupNode (expressionNode parsed) parsed opener = .ok node

theorem attribute_node_access {expression : Nat → Nat → Except Fault Node} {dot : Nat} {property : Node}
    (made : attributeNode expression parsed dot property = .ok (some node)) :
    ∃ span object, node = .member span object property false := by
  simp only [attributeNode] at made
  split at made
  · cases made
  · split at made
    · split at made
      · cases made
      · obtain ⟨object, _, built⟩ := Run.ok_of_bind made
        cases built
        exact ⟨_, _, rfl⟩
    · cases made

theorem string_node_no_call {written : Span} {closed : Bool} (made : stringNode parsed written closed = .ok node) :
    ∀ span callee arguments, node ≠ .call span callee arguments := by
  rintro span callee arguments rfl
  rcases Completion.string_node_kind made with ⟨_, _, same⟩ | same <;> cases same

theorem leaf_node_no_call {place : Nat} (made : leafNode parsed place = .ok node) :
    ∀ span callee arguments, node ≠ .call span callee arguments := by
  rintro span callee arguments rfl
  simp only [leafNode] at made
  split at made
  · cases made
  · split at made
    · exact absurd rfl (string_node_no_call made _ _ _)
    · cases made

variable {span : Span} {callee : Node} {arguments : List Node}

theorem after_leaf_call {place : Option Nat} (inside : ∀ before ∈ place, before < parsed.leaves.size)
    (made : afterLeaf parsed cursor place = .ok (some (.call span callee arguments))) :
    ∃ opener, IsGroupOf parsed opener (.call span callee arguments) := by
  cases place with
  | none => cases made
  | some place =>
      simp only [afterLeaf] at made
      split at made
      · cases made
      · split at made
        · obtain ⟨_, _, same⟩ := attribute_node_access made
          cases same
        · split at made
          · cases made
          · cases enclosing : enclosingOpener? parsed.leaves place with
            | none =>
                rw [enclosing] at made
                cases made
            | some opener =>
                rw [enclosing] at made
                obtain ⟨order, opens, _⟩ := enclosing_from_depth _ enclosing
                have bound := inside place rfl
                exact ⟨opener, by omega, opens, ok_of_map made⟩

theorem previous_inside {place : Nat} (bound : place < parsed.leaves.size) :
    ∀ before ∈ previous? parsed.leaves place, before < parsed.leaves.size := by
  intro before found
  have order := (previous_bounds _ (Option.mem_def.mp found)).1
  omega

theorem touched_call {place : Nat} (bound : place < parsed.leaves.size)
    (made : touched parsed cursor place = .ok (some (.call span callee arguments))) :
    ∃ opener, IsGroupOf parsed opener (.call span callee arguments) := by
  have before := previous_inside bound
  have here : ∀ before ∈ some place, before < parsed.leaves.size := by simpa using bound
  simp only [touched] at made
  split at made
  · obtain ⟨name, leaf, goesOn⟩ := Run.ok_of_bind made
    split at goesOn
    · obtain ⟨access, accessed, built⟩ := Run.ok_of_bind goesOn
      cases access with
      | none =>
          cases built
          exact absurd rfl (leaf_node_no_call leaf _ _ _)
      | some access =>
          cases built
          obtain ⟨_, _, same⟩ := attribute_node_access accessed
          cases same
    · cases goesOn
      exact absurd rfl (leaf_node_no_call leaf _ _ _)
  · split at made
    · next closes =>
        split at made
        · exact after_leaf_call before made
        · cases matched : matchingOpener? parsed.leaves place with
          | none =>
              rw [matched] at made
              cases made
          | some opener =>
              rw [matched] at made
              obtain ⟨order, opens, _⟩ := matching_opener_depth _ closes matched
              exact ⟨opener, by omega, opens, ok_of_map made⟩
    · split at made
      · split at made
        · exact after_leaf_call before made
        · exact after_leaf_call here made
      · exact absurd rfl (leaf_node_no_call (ok_of_map made) _ _ _)

/-- A call that is located is what some opening bracket starts, on every source. -/
theorem located_call (made : locateIn parsed cursor = .ok (some (.call span callee arguments))) :
    ∃ opener, IsGroupOf parsed opener (.call span callee arguments) := by
  simp only [locateIn] at made
  split at made
  · cases made
  · next place reached =>
      obtain ⟨bound, _⟩ := Array.findIdx?_eq_some_iff_getElem.mp reached
      have before := previous_inside bound
      obtain ⟨string, opened, goesOn⟩ := Run.ok_of_bind made
      cases string with
      | some literal =>
          cases goesOn
          simp only [openString] at opened
          split at opened
          · cases opened
          · split at opened
            · exact absurd rfl (string_node_no_call (ok_of_map opened) _ _ _)
            · exact absurd rfl (string_node_no_call (ok_of_map opened) _ _ _)
      | none =>
          simp only at goesOn
          split at goesOn
          · exact after_leaf_call before goesOn
          · split at goesOn
            · refine after_leaf_call (fun other member => ?_) goesOn
              split at member
              · rw [← Option.mem_some.mp member]
                exact bound
              · exact before other member
            · refine touched_call ?_ goesOn
              rcases settle_tie_cases parsed cursor place with same | ⟨inside, _⟩
              · rw [same]
                exact bound
              · exact inside

/-- A group that is a call is one of a parenthesis, and ends where the group of that does. -/
theorem call_group {opener : Nat} (group : IsGroupOf parsed opener (.call span callee arguments)) :
    (leafAt parsed.leaves opener).text = "(" ∧ span.stop = groupStop parsed opener := by
  have made := group.made
  simp only [groupNode] at made
  split at made
  · cases made
  · split at made
    · split at made
      · cases made
      · obtain ⟨target, _, goesOn⟩ := Run.ok_of_bind made
        split at goesOn
        · next round =>
            obtain ⟨found, _, built⟩ := Run.ok_of_bind goesOn
            cases built
            exact ⟨round, rfl⟩
        · cases goesOn
    · cases made

/-! ### The character that a call ends with -/

/-- A closed group ends with its closing bracket. -/
theorem group_ends_with_closer (tiled : parsed.Tiled) {opener closer : Nat} (bound : opener < parsed.leaves.size)
    (opens : isOpener (leafAt parsed.leaves opener) = true) (round : (leafAt parsed.leaves opener).text = "(")
    (closed : matchingCloser? parsed.leaves opener = some closer) :
    parsed.text[groupStop parsed opener - 1]? = some ')' := by
  obtain ⟨_, inside, _, text, _⟩ := matching_closer_depth _ opens bound closed
  have isRound : (leafAt parsed.leaves closer).text = ")" := by rw [text, round]; rfl
  have width := tiled.text_length inside
  have written := tiled.text_eq inside
  have limit := tiled.stop_le_size inside
  have stop : groupStop parsed opener = (leafAt parsed.leaves closer).stop := by
    rw [groupStop, closed]
    rfl
  rw [isRound] at width written
  have one : ")".length = 1 := rfl
  have first := congrArg (·[0]?) written
  rw [stop, show (leafAt parsed.leaves closer).stop - 1 = (leafAt parsed.leaves closer).start by omega]
  simpa [Array.getElem?_extract, show 0 < (leafAt parsed.leaves closer).stop - (leafAt parsed.leaves closer).start by
    omega, limit] using first.symm

/-- The character that a call ends with is a closing parenthesis if the call is closed, and else if the source ends
with one. -/
theorem call_end_character {source : String} (tiled : (parse source).Tiled) {opener : Nat}
    (group : IsGroupOf (parse source) opener (.call span callee arguments)) :
    source.toList[span.stop - 1]? = some ')' ↔
      matchingCloser? (parse source).leaves opener ≠ none ∨ source.toList.getLast? = some ')' := by
  obtain ⟨round, stop⟩ := call_group group
  have sameText : ∀ place : Nat, source.toList[place]? = (parse source).text[place]? := fun place => by simp [parse]
  rw [stop]
  cases closed : matchingCloser? (parse source).leaves opener with
  | some closer =>
      have ends := group_ends_with_closer tiled group.bound group.opens round closed
      simp [sameText, ends]
  | none =>
      have whole : groupStop (parse source) opener = source.toList.length := by
        rw [groupStop, closed, String.length_toList, ← parse_size]
        rfl
      rw [whole, ← List.getLast?_eq_getElem?]
      simp

end Locate

namespace Completion

open Dialogue Locate

variable {ε : Type} {around : Surroundings} {source : String} {node callee : Node} {log : List (Exchange ε)}

/-- A call that does not end with a closing parenthesis starts with the evaluation of its callee. -/
theorem call_course_starts (course : CallCourse source node callee log) :
    ∃ reply rest, log = ⟨.evaluate (callee.text source.toList) true, reply⟩ :: rest := by
  cases course with
  | unanswered | failed | unhandled | handled => exact ⟨_, _, rfl⟩

/-- A call is passed over in silence exactly if it is closed, or if the source happens to end with a closing
parenthesis; else its callee is evaluated first. The first of these is what the call's own parenthesis tells; the
second has nothing to do with the call. -/
theorem call_silent_iff {σ : Type} (answer : (request : Request) → σ → Except (Trouble ε) request.Answer × σ)
    (state : σ) (around : Surroundings) (source : String) (cursor : Int) (tiled : (parse source).Tiled)
    {span : Span} {callee : Node} {arguments : List Node}
    (located : locate source cursor = .ok (some (.call span callee arguments))) :
    let log := (complete around source (some cursor)).exchanges answer state
    let result := ((complete around source (some cursor)).run answer state).1
    ∃ opener, IsGroupOf (parse source) opener (.call span callee arguments) ∧
      (result = .ok none ∧ log = [] ↔
        matchingCloser? (parse source).leaves opener ≠ none ∨ source.toList.getLast? = some ')') ∧
      (matchingCloser? (parse source).leaves opener = none → source.toList.getLast? ≠ some ')' →
        ∃ reply rest, log = ⟨.evaluate (callee.text source.toList) true, reply⟩ :: rest) := by
  intro log result
  obtain ⟨inner, ends, outcome⟩ := complete_ends (ends_run answer (complete around source (some cursor)) state)
  change Ends (completeAt around source cursor) log inner at ends
  change result = _ at outcome
  rw [complete_at_located around located] at ends
  have calls : Ends (completeCall source (.call span callee arguments) callee) log inner := ends
  obtain ⟨opener, group⟩ := located_call (locate_eq source cursor ▸ located)
  have final := call_end_character tiled group
  have course := complete_call_course calls
  refine ⟨opener, group, ?_, ?_⟩
  · rw [← final]
    by_cases closed : source.toList[span.stop - 1]? = some ')'
    · have silent : completeCall (ε := ε) source (.call span callee arguments) callee = pure none := by
        rw [completeCall]
        exact if_pos closed
      rw [silent] at calls
      obtain ⟨quiet, rfl⟩ := ends_pure.mp calls
      exact iff_of_true ⟨outcome, quiet⟩ closed
    · have course : CallCourse source (.call span callee arguments) callee log := (if_neg closed).mp course
      obtain ⟨reply, rest, started⟩ := call_course_starts course
      refine iff_of_false (fun quiet => ?_) closed
      rw [started] at quiet
      cases quiet.2
  · intro unclosed other
    have ends : ¬source.toList[span.stop - 1]? = some ')' := by
      rw [final]
      simp [unclosed, other]
    exact call_course_starts ((if_neg ends).mp course)

/-- Whether what is located is a call over this span. -/
def isCallOver (span : Span) : Option Node → Bool
  | some (.call found _ _) => decide (found = span)
  | _ => false

theorem call_of_seen {span : Span} {node : Option Node} (seen : isCallOver span node = true) :
    ∃ callee arguments, node = some (.call span callee arguments) := by
  unfold isCallOver at seen
  split at seen
  · obtain rfl := of_decide_eq_true seen
    exact ⟨_, _, rfl⟩
  · cases seen

theorem call_silent_iff_over_lines :
    let around : Surroundings := ⟨{}, .ofTree ⟨[]⟩ ⟨[], [], []⟩, "/"⟩
    let dialogue : Dialogue Empty (Option Completion) := complete around "f(\nx" (some 2)
    (parse "f(\nx").Tiled ∧ ∃ callee arguments opener,
      locate "f(\nx" 2 = .ok (some (.call ⟨0, 4⟩ callee arguments)) ∧
      IsGroupOf (parse "f(\nx") opener (.call ⟨0, 4⟩ callee arguments) ∧
      (matchingCloser? (parse "f(\nx").leaves opener = none →
        ∃ reply rest, dialogue.exchanges (tellsOfOne []) () =
          ⟨.evaluate (callee.text "f(\nx".toList) true, reply⟩ :: rest) := by
  intro around dialogue
  have tiled : (parse "f(\nx").Tiled := by decide +kernel
  have seen : (locate "f(\nx" 2).toOption.any (isCallOver ⟨0, 4⟩) = true := by decide +kernel
  obtain ⟨node, located, isCall⟩ := Run.ok_of_seen seen
  obtain ⟨callee, arguments, rfl⟩ := call_of_seen isCall
  obtain ⟨opener, group, _, asks⟩ := call_silent_iff (tellsOfOne []) () around "f(\nx" 2 tiled located
  exact ⟨tiled, callee, arguments, opener, located, group, fun unclosed => asks unclosed (by decide +kernel)⟩

/-- A comment that ends with a parenthesis ends the source, and so the call that is open before it. Nothing is asked
for although no parenthesis closes the call. -/
theorem open_call_passed_over :
    let around : Surroundings := ⟨{}, .ofTree ⟨[]⟩ ⟨[], [], []⟩, "/"⟩
    let dialogue : Dialogue Empty (Option Completion) := complete around "f( # :)" (some 2)
    (parse "f( # :)").Tiled ∧ (locate "f( # :)" 2).toOption.any (isCallOver ⟨0, 7⟩) = true ∧
      (∀ opener < (parse "f( # :)").leaves.size, matchingCloser? (parse "f( # :)").leaves opener = none) ∧
      (dialogue.exchanges (tellsOfOne ["f"]) ()).length = 0 ∧
      (dialogue.run (tellsOfOne ["f"]) ()).1.toOption = some none := by
  decide +kernel

end Completion

end LiveShell
