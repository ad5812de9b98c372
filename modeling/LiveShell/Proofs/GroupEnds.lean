import LiveShell.Proofs.LocatedNode

/-!
Closing brackets and the groups that they end. The scan to the left from a closer looks at brackets only, the scan to
the right from an opener also at line breaks: it gives up at one that stands directly between the brackets, which
source with an unfinished line can have. So the two scans undo each other exactly where there is no such break, and
there a cursor behind a closer gets the group that ends at it.
-/

namespace LiveShell.Locate

open Source

set_option autoImplicit false

variable {parsed : Parsed} {cursor : Nat} (leaves : Array Leaf)

/-! ### Scans that undo each other -/

/-- No line break stands directly between two brackets, outside of the brackets within them. -/
def Unbroken (opener closer : Nat) : Prop :=
  ∀ place, opener < place → place < closer → (leafAt leaves place).kind = .newline → depthOver leaves opener place ≠ 1

theorem newline_no_bracket {leaf : Leaf} (newline : leaf.kind = .newline) :
    isOpener leaf = false ∧ isCloser leaf = false := by
  simp [isOpener, isCloser, isOneOf, isOperator, newline]

/-- A scan to the right that finds a closer has passed no line break at depth one. -/
theorem closer_from_passes {wanted : String} {count place depth found : Nat}
    (inside : 0 < depth ∨ isOpener (leafAt leaves place) = true)
    (scan : closerFrom leaves wanted count place depth = some found) :
    ∀ passed, place ≤ passed → passed < found → (leafAt leaves passed).kind = .newline →
      depthOver leaves passed (found + 1) ≠ -1 := by
  induction count generalizing place depth with
  | zero => simp [closerFrom] at scan
  | succ count induction =>
      have total := (closer_from_depth leaves inside scan).2.2.2.2
      intro passed after before newline
      rw [closerFrom] at scan
      simp only [Option.ite_none_left_eq_some] at scan
      obtain ⟨_, scan⟩ := scan
      rcases Nat.eq_or_lt_of_le after with rfl | later
      · obtain ⟨noOpener, noCloser⟩ := newline_no_bracket newline
        simp only [noOpener, noCloser, newline, decide_true, Bool.true_and, Bool.false_eq_true, if_false,
          decide_eq_true_eq, Option.ite_none_left_eq_some] at scan
        omega
      · by_cases opens : isOpener (leafAt leaves place) = true
        · simp only [opens, if_true] at scan
          exact induction (Or.inl (by omega)) scan passed later before newline
        · have positive : 0 < depth := inside.resolve_right opens
          simp only [opens, Bool.false_eq_true, if_false] at scan
          by_cases closes : isCloser (leafAt leaves place) = true
          · simp only [closes, if_true] at scan
            by_cases last : depth = 1
            · simp only [last, if_true, Option.ite_none_right_eq_some] at scan
              have here : place = found := Option.some.inj scan.2
              omega
            · simp only [last, if_false] at scan
              exact induction (Or.inl (by omega)) scan passed later before newline
          · simp only [closes, Bool.false_eq_true, if_false, Option.ite_none_left_eq_some] at scan
            exact induction (Or.inl positive) scan.2 passed later before newline

/-- A scan to the right finds a closer when the depth stays above zero up to it, and above one at line breaks. -/
theorem closer_from_finds {wanted : String} {count place depth closer : Nat} (order : place ≤ closer)
    (bound : closer < place + count) (closes : isCloser (leafAt leaves closer) = true)
    (text : (leafAt leaves closer).text = wanted) (total : depthOver leaves place (closer + 1) = -depth)
    (partials : ∀ passed, place < passed → passed ≤ closer → depthOver leaves passed (closer + 1) ≤ -1)
    (inside : 0 < depth ∨ isOpener (leafAt leaves place) = true)
    (unfinished : ∀ passed, place ≤ passed → passed < closer → (leafAt leaves passed).kind ≠ .finish)
    (unbroken : ∀ passed, place ≤ passed → passed < closer → (leafAt leaves passed).kind = .newline →
      depthOver leaves passed (closer + 1) ≠ -1) :
    closerFrom leaves wanted count place depth = some closer := by
  induction count generalizing place depth with
  | zero => omega
  | succ count induction =>
      rw [closerFrom]
      rcases Nat.eq_or_lt_of_le order with rfl | before
      · have last : depth = 1 := by
          rw [depth_over_last _ (le_refl _), depth_over_empty, depth_change_closer closes] at total
          omega
        have notFinish : (leafAt leaves place).kind ≠ .finish := by
          intro finish
          simp [isCloser, isOneOf, isOperator, finish] at closes
        simp [notFinish, closer_not_opener closes, closes, last, text]
      · have split := depth_over_first leaves (show place < closer + 1 by omega)
        have next := partials (place + 1) (by omega) (by omega)
        have further {deeper : Nat} (total : depthOver leaves (place + 1) (closer + 1) = -deeper)
            (positive : 0 < deeper) : closerFrom leaves wanted count (place + 1) deeper = some closer :=
          induction (by omega) (by omega) total (fun passed after => partials passed (by omega)) (Or.inl positive)
            (fun passed after => unfinished passed (by omega)) fun passed after => unbroken passed (by omega)
        rw [if_neg (unfinished place (le_refl _) before)]
        by_cases opens : isOpener (leafAt leaves place) = true
        · have change := depth_change_opener opens
          rw [if_pos opens]
          exact further (by omega) (by omega)
        · have positive : 0 < depth := inside.resolve_right opens
          rw [if_neg opens]
          by_cases closing : isCloser (leafAt leaves place) = true
          · have change := depth_change_closer closing
            rw [if_pos closing, if_neg (by omega)]
            exact further (by omega) (by omega)
          · have change := depth_change_other (by simpa using opens) (by simpa using closing)
            have stays : ¬((decide ((leafAt leaves place).kind = .newline) && decide (depth ≤ 1)) = true) := by
              simp only [Bool.and_eq_true, decide_eq_true_eq, not_and]
              intro newline
              have deeper := unbroken place (le_refl _) before newline
              omega
            rw [if_neg closing, if_neg stays]
            exact further (by omega) positive

theorem closer_of_opener_of {leaf : Leaf} (closes : isCloser leaf = true) :
    closerOf (openerOf leaf.text) = leaf.text := by
  simp only [isCloser, isOneOf, closers, Bool.and_eq_true, List.contains_eq_mem, decide_eq_true_eq, List.mem_cons,
    List.not_mem_nil, or_false] at closes
  rcases closes.2 with same | same | same <;> rw [same] <;> rfl

/-- The closer of the opener that a closer goes back to is that closer, unless a line break stands directly between
them. -/
theorem matching_closer_iff {closer opener : Nat} (bound : closer < leaves.size)
    (closes : isCloser (leafAt leaves closer) = true) (matched : matchingOpener? leaves closer = some opener)
    (unfinished : ∀ place, opener ≤ place → place < closer → (leafAt leaves place).kind ≠ .finish) :
    matchingCloser? leaves opener = some closer ↔ Unbroken leaves opener closer := by
  obtain ⟨order, opens, text, total, partials⟩ := matching_opener_depth leaves closes matched
  have split (place : Nat) (after : opener < place) (before : place < closer) :
      depthOver leaves opener place = 1 ↔ depthOver leaves place (closer + 1) = -1 := by
    have sum := depth_over_split leaves (show opener ≤ place by omega) (show place ≤ closer + 1 by omega)
    omega
  constructor
  · intro found place after before newline depth
    exact closer_from_passes leaves (Or.inr opens) found place (by omega) before newline
      ((split place after before).mp depth)
  · intro unbroken
    refine closer_from_finds leaves (by omega) (by omega) closes ?_ (by simpa using total)
      partials (Or.inr opens) unfinished ?_
    · rw [text, closer_of_opener_of closes]
    · intro place after before newline depth
      rcases Nat.eq_or_lt_of_le after with rfl | later
      · rw [(newline_no_bracket newline).1] at opens
        cases opens
      · exact unbroken place later before newline ((split place later before).mpr depth)

/-! ### Groups of a source -/

/-- The end does not stand before a leaf with text. -/
theorem unfinished_before {source : String} (tiled : (parse source).Tiled) {closer : Nat}
    (bound : closer < (parse source).leaves.size) (filled : (leafAt (parse source).leaves closer).text ≠ "") :
    ∀ place < closer, (leafAt (parse source).leaves place).kind ≠ .finish := by
  intro place before finish
  have atEnd := finish_at_end tiled place (by omega) finish
  have order := tiled.stop_le_start before bound
  have width := tiled.start_lt_stop bound filled
  have inside := tiled.stop_le_size bound
  omega

/-- With no open quote on its line, the first leaf that ends at or after a cursor is in no open literal. -/
theorem no_open_quote {line place : Nat} (below : ∀ quote ≤ place, isOpenQuote (leafAt leaves quote) = true →
      (leafAt leaves quote).stopLine < line) :
    openQuoteFrom leaves line cursor place none = none := by
  cases scan : openQuoteFrom leaves line cursor place none with
  | none => rfl
  | some found =>
      rcases open_quote_spec scan with impossible | ⟨order, quote, _, ends⟩
      · cases impossible
      · have before := below found order quote
        omega

theorem operator_no_word {leaf : Leaf} (operator : isOperator leaf = true) :
    (isName leaf || isKeywordLeaf leaf) = false := by
  unfold isOperator at operator
  split at operator
  · next kind => simp [isName, isKeywordLeaf, kind]
  · next kind => simp [isName, isKeywordLeaf, kind]
  · cases operator

/-- A cursor right after a closer that has an opener, and after no open quote on its line, gets the group that the
opener starts. -/
theorem locate_after_closer {closer opener : Nat} (tiled : parsed.Tiled) (bound : closer < parsed.leaves.size)
    (closes : isCloser (leafAt parsed.leaves closer) = true)
    (matched : matchingOpener? parsed.leaves closer = some opener)
    (closed : ∀ quote < closer, isOpenQuote (leafAt parsed.leaves quote) = true →
      (leafAt parsed.leaves quote).stopLine < parsed.lines.lineAt (leafAt parsed.leaves closer).stop) :
    locateIn parsed (leafAt parsed.leaves closer).stop = some <$> groupNode (expressionNode parsed) parsed opener := by
  have operator : isOperator (leafAt parsed.leaves closer) = true := (Bool.and_eq_true_iff.mp closes).1
  have filled := closer_has_text closes
  have width := tiled.start_lt_stop bound filled
  have place : parsed.leafAt? (leafAt parsed.leaves closer).stop = some closer := by
    obtain ⟨place, found, within, reached, earlier⟩ := tiled.leaf_at_offset (tiled.stop_le_size bound)
    rcases Nat.lt_trichotomy place closer with before | rfl | after
    · have order := tiled.stop_le_start before bound
      omega
    · exact found
    · exact absurd (earlier closer after) (Nat.lt_irrefl _)
  have noQuote : isOpenQuote (leafAt parsed.leaves closer) = false := by
    rw [Bool.eq_false_iff]
    intro quote
    rw [isOperator, (open_quote_kind quote).1] at operator
    cases operator
  have noString : openString parsed (leafAt parsed.leaves closer).stop closer = .ok none := by
    rw [openString, no_open_quote _ fun quote order isQuote => ?_]
    · rfl
    · rcases Nat.eq_or_lt_of_le order with rfl | before
      · rw [noQuote] at isQuote
        cases isQuote
      · exact closed quote before isQuote
  have noNewline : (leafAt parsed.leaves closer).kind ≠ .newline := by
    intro newline
    rw [(newline_no_bracket newline).2] at closes
    cases closes
  have noWord : (isName (leafAt parsed.leaves closer) || isKeywordLeaf (leafAt parsed.leaves closer)) = false :=
    operator_no_word operator
  have settled : settleTie parsed (leafAt parsed.leaves closer).stop closer = closer := by
    simp [settleTie, closes]
  have ahead : ¬((leafAt parsed.leaves closer).stop < (leafAt parsed.leaves closer).start) := by omega
  have past : (leafAt parsed.leaves closer).stop ≠ (leafAt parsed.leaves closer).start := by omega
  simp only [locateIn, place, noString, filled, ahead, noNewline, settled, touched, noWord, closes, past, matched]
  rfl

/-- A closing bracket and its opener: the opener finds the closer again exactly when no line break stands directly
between them, and then a cursor right after the closer, with no unterminated literal before it on its line, gets the
group of the opener, which ends at the cursor. -/
theorem closing_bracket_selects_group (source : String) (tiled : (parse source).Tiled) {closer opener : Nat}
    (bound : closer < (parse source).leaves.size) (closes : isCloser (leafAt (parse source).leaves closer) = true)
    (matched : matchingOpener? (parse source).leaves closer = some opener) :
    let leaves := (parse source).leaves
    let cursor := (leafAt leaves closer).stop
    (matchingCloser? leaves opener = some closer ↔ Unbroken leaves opener closer) ∧
    (Unbroken leaves opener closer →
      (∀ quote < closer, isOpenQuote (leafAt leaves quote) = true →
        (leafAt leaves quote).stopLine ≠ (parse source).lines.lineAt cursor) →
      ∃ node, groupNode (expressionNode (parse source)) (parse source) opener = .ok node ∧
        locate source cursor = .ok (some node) ∧ node.stop = cursor) := by
  intro leaves cursor
  have wellTiled := well_tiled_of_tiled tiled
  have unfinished := unfinished_before tiled bound (closer_has_text closes)
  have found := matching_closer_iff leaves bound closes matched fun place _ before => unfinished place before
  refine ⟨found, fun unbroken closed => ?_⟩
  obtain ⟨order, opens, _⟩ := matching_opener_depth _ closes matched
  have openerBound : opener < (parse source).leaves.size := by omega
  have builds : BuildsBefore (parse source) cursor opener (expressionNode (parse source)) :=
    expression_node_ok wellTiled (Nat.le_of_lt openerBound)
  obtain ⟨node, made, stop, _⟩ := group_node_ok wellTiled openerBound opens builds
  have below : ∀ quote < closer, isOpenQuote (leafAt leaves quote) = true →
      (leafAt leaves quote).stopLine < (parse source).lines.lineAt cursor := by
    intro quote before isQuote
    have line := tiled.stopLine quote (by omega)
    have order := line_at_mono (parse source).text.toList (tiled.stop_mono (Nat.le_of_lt before) bound)
    rw [← wellTiled.lines, ← line] at order
    exact Nat.lt_of_le_of_ne order (closed quote before isQuote)
  have inside : cursor ≤ source.length := by
    rw [← parse_size]
    exact tiled.stop_le_size bound
  have clamped : clampCursor source.length cursor = cursor := by
    unfold clampCursor
    omega
  refine ⟨node, made, ?_, ?_⟩
  · rw [locate_eq, clamped, locate_after_closer tiled bound closes matched below, made]
    rfl
  · rw [stop, groupStop, found.mpr unbroken]
    rfl

theorem closing_bracket_selects_group_over_lines :
    let parsed := parse "f(\nx)"
    parsed.Tiled ∧ 3 < parsed.leaves.size ∧ isCloser (leafAt parsed.leaves 3) = true ∧
      matchingOpener? parsed.leaves 3 = some 1 ∧ Unbroken parsed.leaves 1 3 ∧
      ∃ node, groupNode (expressionNode parsed) parsed 1 = .ok node ∧
        locate "f(\nx)" (leafAt parsed.leaves 3).stop = .ok (some node) ∧
        node.stop = (leafAt parsed.leaves 3).stop := by
  intro parsed
  obtain ⟨tiled, bound, closes, matched, found, noQuote⟩ : (parse "f(\nx)").Tiled ∧ 3 < (parse "f(\nx)").leaves.size ∧
      isCloser (leafAt (parse "f(\nx)").leaves 3) = true ∧ matchingOpener? (parse "f(\nx)").leaves 3 = some 1 ∧
      matchingCloser? (parse "f(\nx)").leaves 1 = some 3 ∧
      ∀ quote < 3, isOpenQuote (leafAt (parse "f(\nx)").leaves quote) = false := by
    decide +kernel
  obtain ⟨closer, selects⟩ := closing_bracket_selects_group "f(\nx)" tiled bound closes matched
  have unbroken := closer.mp found
  refine ⟨tiled, bound, closes, matched, unbroken, selects unbroken fun quote before isQuote => ?_⟩
  rw [noQuote quote before] at isQuote
  cases isQuote

/-- A keyword at the start of a line ends a statement, also within brackets. The closer after it goes back to its
opener, but the opener does not find it: the group is taken to be open, and runs on to the end of the source. -/
theorem broken_group_runs_on :
    let parsed := parse "f(\nwhile x\n)\ny"
    parsed.Tiled ∧ 5 < parsed.leaves.size ∧ isCloser (leafAt parsed.leaves 5) = true ∧
      matchingOpener? parsed.leaves 5 = some 1 ∧ matchingCloser? parsed.leaves 1 ≠ some 5 ∧
      (∀ quote < 5, isOpenQuote (leafAt parsed.leaves quote) = false) ∧ (leafAt parsed.leaves 5).stop = 12 ∧
      ((locate "f(\nwhile x\n)\ny" 12).toOption.join.map Node.stop) = some 14 := by
  decide +kernel

end LiveShell.Locate
