import LiveShell.Proofs.PathContinuation

/-!
Two ways to tell that a string literal is closed. The scanner knows it, and it decides whether the closing quote is
taken out of a literal's value; completing at the end of a literal goes by the last characters of what is written. On a
terminated literal both agree. On one that is left open the written text may still end with the quote, as the last
character of an escape, and then the literal counts as finished while it is not.
-/

namespace LiveShell.Completion

open Dialogue Locate Source

set_option autoImplicit false

variable {ε : Type} {around : Surroundings} {source : String} {cursor : Int} {span : Span} {value raw : String}

/-- What is written of a literal is finished just when its quote ends what follows the opening quote. -/
theorem finished_iff_suffix {written letters quote rest : List Char}
    (opens : literalOpening written = (letters, quote)) (filled : quote ≠ [])
    (split : written = letters ++ quote ++ rest) : isFinishedLiteral written = true ↔ quote <:+ rest := by
  have body : written.drop letters.length = quote ++ rest := by
    rw [split, List.append_assoc, List.drop_left]
  simp only [isFinishedLiteral, opens, body, Bool.and_eq_true, decide_eq_true_eq, List.isSuffixOf_iff_suffix,
    Bool.not_eq_true', List.isEmpty_eq_false_iff, List.length_append]
  constructor
  · rintro ⟨⟨_, long⟩, ends⟩
    exact List.suffix_of_suffix_length_le ends (List.suffix_append _ _) (by omega)
  · intro ends
    have long := ends.length_le
    exact ⟨⟨filled, by omega⟩, ends.trans (List.suffix_append _ _)⟩

/-- A literal is taken for finished when it is terminated, and when its value ends with its own quote. -/
theorem finished_of_shape {parsed : Parsed} (shape : StringShape parsed span value raw) :
    isFinishedLiteral raw.toList = true ↔
      IsTerminated parsed span ∨ (literalOpening raw.toList).2 <:+ value.toList := by
  obtain ⟨letters, quote, closing, opens, filled, _, split, ends⟩ := shape.written
  rw [List.append_assoc] at split
  rw [finished_iff_suffix opens filled split, opens]
  rcases ends with ⟨rfl, terminated⟩ | ⟨rfl, open_⟩
  · simp [terminated]
  · simp [open_]

/-- A literal is at least as long as its quote. -/
theorem start_lt_stop_of_shape {parsed : Parsed} (shape : StringShape parsed span value raw) :
    span.start < span.stop := by
  obtain ⟨letters, quote, closing, _, filled, _, split, _⟩ := shape.written
  have covers := congrArg String.toList shape.covers
  rw [slice_toList, split] at covers
  have lengths := congrArg List.length covers
  have positive := List.length_pos_of_ne_nil filled
  simp only [List.length_append, Array.length_toList, Array.size_extract] at lengths
  omega

/-- Where a literal is neither about to start nor finished, the paths that go on from its value are looked up: the
answer does not come at once. -/
theorem complete_string_looks_up (started : cursor ≠ span.start)
    (unfinished : ¬(cursor = span.stop ∧ isFinishedLiteral raw.toList = true)) :
    (completeString around cursor span value raw : Dialogue ε (Option Completion)) ≠ .finish none := by
  have goesOn : (decide (cursor = span.start) || decide (cursor = span.stop) && isFinishedLiteral raw.toList) =
      false := by
    simp only [started, decide_false, Bool.false_or]
    simpa using unfinished
  simp only [completeString, goesOn, Bool.false_eq_true, if_false]
  split
  · exact nofun
  · split
    · exact nofun
    · exact nofun

theorem complete_string_refuses (ended : cursor = span.stop) (finished : isFinishedLiteral raw.toList = true) :
    (completeString around cursor span value raw : Dialogue ε (Option Completion)) = .finish none := by
  simp only [completeString, ended, finished, decide_true, Bool.true_and, Bool.or_true, if_true]
  rfl

/-- Completing gives nothing, at once and without a remark, only if the strategy for what is located does. -/
theorem complete_refuses_iff {node : Node} (located : locate source cursor = .ok (some node)) :
    (complete around source (some cursor) : Dialogue ε (Option Completion)) = .finish none ↔
      (completeNode around source cursor node : Dialogue ε (Option Completion)) = .finish none := by
  rw [← complete_at_located around located]
  show (completeAt around source cursor).handle _ = _ ↔ _
  constructor
  · intro refused
    rcases left : (completeAt around source cursor : Dialogue ε (Option Completion)) with _ | cause | _ | _
    · rw [left] at refused
      cases refused
      rfl
    · rw [left] at refused
      cases cause <;> cases refused
    · rw [left] at refused
      cases refused
    · rw [left] at refused
      cases refused
  · intro refused
    rw [refused]
    rfl

/-- A located literal counts as finished exactly if it is terminated in the source or its value ends with its own
quote, and completing at its end refuses exactly then. -/
theorem literal_finished_iff (around : Surroundings) (source : String) (cursor : Int) (tiled : (parse source).Tiled)
    {span : Span} {value raw : String} (located : locate source cursor = .ok (some (.string span value raw))) :
    (isFinishedLiteral raw.toList = true ↔
      IsTerminated (parse source) span ∨ (literalOpening raw.toList).2 <:+ value.toList) ∧
    (cursor = span.stop →
      ((complete around source (some cursor) : Dialogue ε (Option Completion)) = .finish none ↔
        isFinishedLiteral raw.toList = true)) := by
  have shape : StringShape (parse source) span value raw := (located_around tiled located).2.2.fits.2.2
  refine ⟨finished_of_shape shape, ?_⟩
  rintro rfl
  rw [complete_refuses_iff located]
  constructor
  · intro refused
    by_contra unfinished
    have wide := start_lt_stop_of_shape shape
    exact complete_string_looks_up (by omega) (fun both => unfinished both.2) refused
  · exact complete_string_refuses rfl

theorem literal_finished_iff_in_open_literal :
    (parse "'s").Tiled ∧ locate "'s" 2 = .ok (some (.string ⟨0, 2⟩ "s" "'s")) ∧
      (isFinishedLiteral "'s".toList = true ↔
        IsTerminated (parse "'s") ⟨0, 2⟩ ∨ (literalOpening "'s".toList).2 <:+ "s".toList) ∧
      ((complete (aroundDirectory "src") "'s" (some 2) : Dialogue Empty (Option Completion)) = .finish none ↔
        isFinishedLiteral "'s".toList = true) := by
  have tiled : (parse "'s").Tiled := by decide +kernel
  obtain ⟨finished, refuses⟩ :=
    literal_finished_iff (ε := Empty) (aroundDirectory "src") "'s" 2 tiled open_literal_located
  exact ⟨tiled, open_literal_located, finished, refuses rfl⟩

/-- An escaped quote closes no literal, but it ends the written text: the literal that goes on counts as finished. -/
theorem escaped_quote_counts_as_end :
    (parse "'a\\'").Tiled ∧ locate "'a\\'" 4 = .ok (some (.string ⟨0, 4⟩ "a\\'" "'a\\'")) ∧
      isFinishedLiteral "'a\\'".toList = true ∧ ¬IsTerminated (parse "'a\\'") ⟨0, 4⟩ ∧
      (complete (aroundDirectory "src") "'a\\'" (some 4) : Dialogue Empty (Option Completion)) = .finish none := by
  obtain ⟨tiled, seen, finished, other⟩ : (parse "'a\\'").Tiled ∧
      (locate "'a\\'" 4).toOption.any (isLiteral ⟨0, 4⟩ "a\\'" "'a\\'") = true ∧
      isFinishedLiteral "'a\\'".toList = true ∧
      ∀ place < (parse "'a\\'").leaves.size, (leafAt (parse "'a\\'").leaves place).kind ≠ .string := by
    decide +kernel
  obtain ⟨node, located, isLiteral⟩ := Run.ok_of_seen seen
  rw [literal_of_seen isLiteral] at located
  refine ⟨tiled, located, finished, ?_, ?_⟩
  · rintro ⟨place, bound, literal, _⟩
    exact other place bound literal
  · exact (complete_refuses_iff located).mpr (complete_string_refuses rfl finished)

end LiveShell.Completion
