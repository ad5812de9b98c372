import LiveShell.Proofs.PathContinuation
import LiveShell.Proofs.ScannedNames

/-!
Cursors outside the source. The node is located at the nearest offset inside, and a name is cut where it ends, so for
names, accesses and calls the nearest offset can take the cursor's place. A literal compares the cursor with its own
ends: there it can only as long as neither end is where the cursor is taken to. Two completions count as the same when
they make the same requests and end alike, whatever they remark on the way.
-/

namespace LiveShell.Completion

open Dialogue Locate Source

set_option autoImplicit false

/-! ### Without the remarks -/

namespace Dialogue

variable {ε α β σ : Type}

/-- A dialogue without its remarks. -/
def quiet : Dialogue ε α → Dialogue ε α
  | finish value => finish value
  | trouble cause => trouble cause
  | remark _ rest => rest.quiet
  | ask request rest => ask request fun reply => (rest reply).quiet

theorem quiet_handle (dialogue : Dialogue ε α) (next : Except (Trouble ε) α → Dialogue ε β) :
    (dialogue.handle next).quiet = dialogue.quiet.handle fun outcome => (next outcome).quiet := by
  induction dialogue with
  | finish | trouble => rfl
  | remark made rest induction => exact induction
  | ask request rest induction =>
      rw [handle, quiet, quiet, handle]
      congr 1
      funext reply
      exact induction reply

theorem exchanges_quiet (answer : (request : Request) → σ → Except (Trouble ε) request.Answer × σ)
    (dialogue : Dialogue ε α) (state : σ) : dialogue.quiet.exchanges answer state = dialogue.exchanges answer state := by
  induction dialogue generalizing state with
  | finish | trouble => rfl
  | remark made rest induction => exact induction state
  | ask request rest induction =>
      show _ :: _ = _ :: _
      rw [induction]

/-- Remarks change neither the outcome nor the state that is left. -/
theorem run_quiet (answer : (request : Request) → σ → Except (Trouble ε) request.Answer × σ)
    (dialogue : Dialogue ε α) (state : σ) :
    (dialogue.quiet.run answer state).1 = (dialogue.run answer state).1 ∧
      (dialogue.quiet.run answer state).2.2 = (dialogue.run answer state).2.2 := by
  induction dialogue generalizing state with
  | finish | trouble => exact ⟨rfl, rfl⟩
  | remark made rest induction => exact induction state
  | ask request rest induction => exact induction _ _

end Dialogue

/-! ### Names -/

/-- A name that lies inside a source of this length, as far as it is typed. -/
inductive NameInside (length : Nat) : Node → Prop
  | missing (span : Span) : NameInside length (.identifier span placeholder)
  | typed (span : Span) (name : String) (inside : span.start + name.length ≤ length) :
      NameInside length (.identifier span name)

theorem names_lie_inside (source : String) (cursor : Nat) :
    HoldsOfNames (parse source) cursor (NameInside source.length) where
  word place isWord _ := .typed _ _ (word_inside source place isWord)
  missing := .missing _

variable {source : String} {cursor : Int}

/-- The nearest offset inside a source, as a cursor. -/
def nearest (source : String) (cursor : Int) : Int := max 0 (min cursor source.length)

theorem nearest_nearest (source : String) (cursor : Int) :
    clampCursor source.length (nearest source cursor) = clampCursor source.length cursor := by
  unfold nearest clampCursor
  omega

theorem typed_before_nearest {node : Node} (inside : NameInside source.length node) (cursor : Int) :
    typedBefore node.typedName node.start (nearest source cursor) = typedBefore node.typedName node.start cursor := by
  have reach : node.typedName.toList = [] ∨ node.start + node.typedName.toList.length ≤ source.length := by
    cases inside with
    | missing span => exact Or.inl rfl
    | typed span name inside =>
        by_cases placed : name = placeholder
        · subst placed
          exact Or.inl rfl
        · rw [Node.typedName, if_neg placed, String.length_toList]
          exact Or.inr inside
  unfold typedBefore
  rcases reach with missing | inside
  · rw [missing, List.take_nil, List.take_nil]
  · congr 1
    apply List.take_eq_take_iff.mpr
    unfold nearest
    omega

theorem complete_identifier_nearest {ε : Type} (around : Surroundings) {node : Node}
    (inside : NameInside source.length node) :
    (completeIdentifier around (nearest source cursor) node : Dialogue ε _) =
      completeIdentifier around cursor node := by
  have typed := typed_before_nearest inside cursor
  unfold completeIdentifier
  simp only [typed]

theorem complete_member_nearest {ε : Type} {object property : Node} (inside : NameInside source.length property) :
    (completeMember source (nearest source cursor) object property : Dialogue ε _) =
      completeMember source cursor object property := by
  have typed := typed_before_nearest inside cursor
  unfold completeMember
  simp only [typed]

theorem locate_nearest (source : String) (cursor : Int) :
    locate source (nearest source cursor) = locate source cursor := by
  rw [locate_eq, locate_eq, nearest_nearest]

/-! ### Literals -/

/-- If a literal is located, the cursor is not before the source, and if it is behind it the literal is unfinished or
ends before the source does. -/
def CountsAsNearest (source : String) (cursor : Int) : Prop :=
  ∀ span value raw, locate source cursor = .ok (some (.string span value raw)) →
    0 ≤ cursor ∧ (source.length < cursor → isFinishedLiteral raw.toList = true → span.stop < source.length)

/-- A literal's opening lies inside the source. -/
theorem payload_inside {value raw : String} {span other : Span} {closed : Bool}
    (made : stringNode (parse source) span closed = .ok (.string other value raw)) :
    other.start < source.length ∧ payloadStart other raw ≤ source.length := by
  rw [stringNode] at made
  have width : ((parse source).text.extract span.start span.stop).toList.length =
      min span.stop source.length - span.start := by
    rw [Array.length_toList, Array.size_extract, parse_size]
  generalize ((parse source).text.extract span.start span.stop).toList = text at made width
  have opening := congrArg List.length (Literal.opening_split text)
  rw [List.length_append, List.length_append] at opening
  simp only at made
  split at made
  · cases made
  · next quoted =>
      have filled : 0 < (Literal.opening text).2.length := by
        rw [List.isEmpty_iff] at quoted
        exact List.length_pos_iff.mpr quoted
      split at made
      · cases made
      · cases made
        rw [payloadStart, String.toList_ofList, Literal.literal_opening_eq]
        omega

theorem complete_string_nearest {ε : Type} {around : Surroundings} {span : Span} {value raw : String}
    (located : locate source cursor = .ok (some (.string span value raw))) (plain : CountsAsNearest source cursor) :
    (completeString around (nearest source cursor) span value raw : Dialogue ε _) =
      completeString around cursor span value raw := by
  obtain ⟨known, unfinished⟩ := plain span value raw located
  by_cases inside : cursor ≤ source.length
  · have same : nearest source cursor = cursor := by
      unfold nearest
      omega
    rw [same]
  · have past : (source.length : Int) < cursor := Int.not_le.mp inside
    have taken : nearest source cursor = source.length := by
      unfold nearest
      omega
    rw [locate_eq] at located
    cases located_origin located with
    | name before => cases before
    | literal literalSpan closed made =>
        obtain ⟨started, opened⟩ := payload_inside made
        -- From the end of the source on, no offset is the start of the literal, and none is its end if it is finished.
        have ends : ∀ offset : Int, source.length ≤ offset →
            (decide (offset = span.start) || decide (offset = span.stop) && isFinishedLiteral raw.toList) = false := by
          intro offset behind
          have notStart : offset ≠ span.start := by omega
          cases finished : isFinishedLiteral raw.toList with
          | false => simp [notStart]
          | true =>
              have stopped := unfinished past finished
              have notStop : offset ≠ span.stop := by omega
              simp [notStart, notStop]
        have written : (if (source.length : Int) = payloadStart span raw then [] else value.toList) =
            (if cursor = payloadStart span raw then [] else value.toList) := by
          rw [if_neg (show cursor ≠ payloadStart span raw by omega)]
          split
          · next empty =>
              -- The source ends with the opening, so there is no value to leave out.
              have nothing := value_in_source made
              rw [← Int.ofNat_inj.mp empty, ← String.length_toList, List.drop_length] at nothing
              exact (List.prefix_nil.mp nothing).symm
          · rfl
        rw [taken]
        unfold payloadStart at written
        unfold completeString
        simp only [ends _ (le_refl _), ends _ past.le, written]

/-! ### All strategies -/

theorem complete_node_nearest {ε : Type} (around : Surroundings) {node : Node}
    (located : locate source cursor = .ok (some node)) (plain : CountsAsNearest source cursor) :
    (completeNode around source (nearest source cursor) node : Dialogue ε _).quiet =
      (completeNode around source cursor node).quiet := by
  have origin := located
  rw [locate_eq] at origin
  have names := origin_of_located (names_lie_inside source _) origin
  cases node with
  | string span value raw => exact congrArg quiet (complete_string_nearest located plain)
  | identifier span name =>
      apply congrArg quiet
      cases names with
      | literal literalSpan closed made => exact absurd made (string_node_apart nofun nofun)
      | name known => exact complete_identifier_nearest around known
  | member span object property computed =>
      cases computed with
      | true => rfl
      | false =>
          apply congrArg quiet
          cases names with
          | literal literalSpan closed made => exact absurd made (string_node_apart nofun nofun)
          | name known => cases known
          | access _ _ known => exact complete_member_nearest known
  | call span callee arguments => rfl
  | other span => rfl

theorem complete_at_nearest {ε : Type} (around : Surroundings) (plain : CountsAsNearest source cursor) :
    (completeAt around source (nearest source cursor) : Dialogue ε _).quiet =
      (completeAt around source cursor).quiet := by
  cases located : locate source cursor with
  | error fault =>
      unfold completeAt
      rw [locate_nearest, located]
  | ok found =>
      cases found with
      | none =>
          unfold completeAt
          rw [locate_nearest, located, nearest_nearest]
      | some node =>
          rw [complete_at_located around located, complete_at_located around ((locate_nearest source cursor).trans located)]
          exact complete_node_nearest around located plain

/-- Without its remarks, a completion has nothing to offer where it has trouble of its own. -/
theorem complete_quiet {ε : Type} (around : Surroundings) (source : String) (cursor : Int) :
    (complete around source (some cursor) : Dialogue ε _).quiet =
      (completeAt around source cursor).quiet.handle fun
        | .ok completion => finish completion
        | .error .failed => finish none
        | .error (.ended reason) => trouble (.ended reason) := by
  refine (quiet_handle _ _).trans ?_
  apply congrArg
  funext outcome
  cases outcome with
  | ok completion => rfl
  | error cause => cases cause <;> rfl

theorem complete_nearest {ε : Type} (around : Surroundings) (plain : CountsAsNearest source cursor) :
    (complete around source (some (nearest source cursor)) : Dialogue ε _).quiet =
      (complete around source (some cursor)).quiet := by
  rw [complete_quiet, complete_quiet, complete_at_nearest around plain]

/-- Where no located literal has an end that the cursor is taken to, completing at a cursor is completing at the nearest
offset inside the source, with every environment: the same requests with the same replies, the same outcome, and the
same state left behind. -/
theorem cursor_taken_to_nearest {ε σ : Type}
    (answer : (request : Request) → σ → Except (Trouble ε) request.Answer × σ) (state : σ) (around : Surroundings)
    (source : String) (cursor : Int) (plain : CountsAsNearest source cursor) :
    let there := complete around source (some cursor)
    let inside := complete around source (some (nearest source cursor))
    inside.exchanges answer state = there.exchanges answer state ∧
      (inside.run answer state).1 = (there.run answer state).1 ∧
      (inside.run answer state).2.2 = (there.run answer state).2.2 := by
  intro there inside
  have same : inside.quiet = there.quiet := complete_nearest around plain
  obtain ⟨result, left⟩ := run_quiet answer inside state
  obtain ⟨otherResult, otherLeft⟩ := run_quiet answer there state
  refine ⟨?_, ?_, ?_⟩
  · rw [← exchanges_quiet, same, exchanges_quiet]
  · rw [← result, same, otherResult]
  · rw [← left, same, otherLeft]

theorem cursor_taken_to_nearest_in_open_literal :
    let completedAt (cursor : Int) : Dialogue Empty (Option Completion) :=
      complete (aroundDirectory "src") "'s" (some cursor)
    CountsAsNearest "'s" 7 ∧ nearest "'s" 7 = 2 ∧
      (completedAt 2).exchanges (tellsOfOne []) () = (completedAt 7).exchanges (tellsOfOne []) () ∧
      ((completedAt 2).run (tellsOfOne []) ()).1 = ((completedAt 7).run (tellsOfOne []) ()).1 := by
  intro completedAt
  have taken : nearest "'s" 7 = 2 := by decide
  have plain : CountsAsNearest "'s" 7 := by
    intro span value raw located
    rw [← locate_nearest, taken, open_literal_located] at located
    cases located
    exact ⟨by decide, fun _ finished => absurd finished (by decide)⟩
  obtain ⟨asked, result, _⟩ := cursor_taken_to_nearest (tellsOfOne []) () (aroundDirectory "src") "'s" 7 plain
  rw [taken] at asked result
  exact ⟨plain, taken, asked, result⟩

/-- A cursor behind a finished literal completes what is in it, and one before it likewise. At the end of the literal
and at its start, where these cursors are taken to, there is nothing to offer. -/
theorem cursor_outside_literal_completes_it :
    let outcomeAt (cursor : Int) : Except (Trouble Empty) (Option Completion) :=
      ((complete (aroundDirectory "src") "'src'" (some cursor)).run (tellsOfOne []) ()).1
    let offered : Completion := { suffixes := ["/"], typed := "src" }
    (outcomeAt 6 = .ok (some offered) ∧ outcomeAt (nearest "'src'" 6) = .ok none) ∧
      outcomeAt (-1) = .ok (some offered) ∧ outcomeAt (nearest "'src'" (-1)) = .ok none := by
  intro outcomeAt offered
  have seen : ((outcomeAt 6).toOption = some (some offered) ∧ (outcomeAt (nearest "'src'" 6)).toOption = some none) ∧
      (outcomeAt (-1)).toOption = some (some offered) ∧ (outcomeAt (nearest "'src'" (-1))).toOption = some none := by
    decide +kernel
  obtain ⟨⟨behind, atEnd⟩, before, atStart⟩ := seen
  exact ⟨⟨Run.ok_of_some behind, Run.ok_of_some atEnd⟩, Run.ok_of_some before, Run.ok_of_some atStart⟩

end LiveShell.Completion
