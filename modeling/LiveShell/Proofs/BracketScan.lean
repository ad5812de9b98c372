import Mathlib.Algebra.BigOperators.Intervals
import LiveShell.Locate.Brackets

/-!
The bracket scans as statements on depths. Every scan counts openers up and closers down, kinds aside, so what it
finds is told by sums over the leaves it passes: a group is closed where the sum from its opener comes back to
zero, and an opener encloses a place when the sums up to that place never come back to zero.
-/

namespace LiveShell.Locate

open Source

set_option autoImplicit false

variable (leaves : Array Leaf)

/-- How a leaf changes the depth. -/
def depthChange (leaf : Leaf) : Int :=
  if isOpener leaf then 1 else if isCloser leaf then -1 else 0

/-- The change of depth over the leaves from a place up to another one, which is left out. -/
def depthOver (low high : Nat) : Int := ∑ place ∈ Finset.Ico low high, depthChange (leafAt leaves place)

theorem depth_over_empty (place : Nat) : depthOver leaves place place = 0 := by simp [depthOver]

theorem depth_over_first {low high : Nat} (order : low < high) :
    depthOver leaves low high = depthChange (leafAt leaves low) + depthOver leaves (low + 1) high := by
  rw [depthOver, Finset.sum_eq_sum_Ico_succ_bot order]
  rfl

theorem depth_over_last {low high : Nat} (order : low ≤ high) :
    depthOver leaves low (high + 1) = depthOver leaves low high + depthChange (leafAt leaves high) := by
  rw [depthOver, Finset.sum_Ico_succ_top order]
  rfl

theorem depth_over_split {low middle high : Nat} (first : low ≤ middle) (second : middle ≤ high) :
    depthOver leaves low high = depthOver leaves low middle + depthOver leaves middle high :=
  (Finset.sum_Ico_consecutive _ first second).symm

theorem one_of_more {values more : List String} {leaf : Leaf} (part : values ⊆ more)
    (known : isOneOf values leaf = true) : isOneOf more leaf = true := by
  simp only [isOneOf, Bool.and_eq_true, List.contains_eq_mem, decide_eq_true_eq] at known ⊢
  exact ⟨known.1, part known.2⟩

theorem text_of_one {text : String} {leaf : Leaf} (known : isOneOf [text] leaf = true) : leaf.text = text := by
  simp only [isOneOf, Bool.and_eq_true, List.contains_eq_mem, decide_eq_true_eq] at known
  exact List.mem_singleton.mp known.2

theorem closer_not_opener {leaf : Leaf} (closes : isCloser leaf = true) : isOpener leaf = false := by
  simp only [isCloser, isOpener, isOneOf, closers, openers, Bool.and_eq_true, List.contains_eq_mem,
    decide_eq_true_eq] at closes ⊢
  rcases closes with ⟨_, known⟩
  simp only [List.mem_cons, List.not_mem_nil, or_false] at known
  rcases known with same | same | same <;> simp [same]

theorem depth_change_opener {leaf : Leaf} (opens : isOpener leaf = true) : depthChange leaf = 1 := by
  simp [depthChange, opens]

theorem depth_change_closer {leaf : Leaf} (closes : isCloser leaf = true) : depthChange leaf = -1 := by
  simp [depthChange, closes, closer_not_opener closes]

theorem depth_change_other {leaf : Leaf} (opens : isOpener leaf = false) (closes : isCloser leaf = false) :
    depthChange leaf = 0 := by
  simp [depthChange, opens, closes]

/-! ### Neighbours -/

theorem previous_bounds {place before : Nat} (found : previous? leaves place = some before) :
    before < place ∧ isEmpty (leafAt leaves before) = false ∧
      ∀ between, before < between → between < place → isEmpty (leafAt leaves between) = true := by
  induction place with
  | zero => simp [previous?] at found
  | succ place induction =>
      by_cases empty : isEmpty (leafAt leaves place) = true
      · rw [previous?, if_pos empty] at found
        obtain ⟨order, filled, passed⟩ := induction found
        refine ⟨by omega, filled, ?_⟩
        intro between after inside
        by_cases here : between = place
        · rw [here]
          exact empty
        · exact passed between after (by omega)
      · rw [previous?, if_neg empty] at found
        have same : place = before := Option.some.inj found
        subst same
        exact ⟨by omega, by simpa using empty, by intro between after inside; omega⟩

theorem next_within_bounds {count place following : Nat} (found : nextWithin leaves count place = some following) :
    place ≤ following ∧ following < place + count := by
  induction count generalizing place with
  | zero => simp [nextWithin] at found
  | succ count induction =>
      by_cases empty : isEmpty (leafAt leaves place) = true
      · rw [nextWithin, if_pos empty] at found
        have inner := induction found
        omega
      · rw [nextWithin, if_neg empty] at found
        have same : place = following := Option.some.inj found
        omega

theorem next_bounds {place following : Nat} (found : next? leaves place = some following) :
    place < following ∧ following < leaves.size := by
  have inner := next_within_bounds leaves found
  omega

/-! ### The scans -/

/-- A bound on the sums that end at a leaf, from a bound on those that end before it. -/
theorem partial_sums_step {found place : Nat} {bound depth : Int}
    (partials : ∀ passed, found < passed → passed ≤ place → depthOver leaves passed (place + 1) ≤ bound)
    (joined : bound + depthChange (leafAt leaves (place + 1)) ≤ depth)
    (alone : depthChange (leafAt leaves (place + 1)) ≤ depth) :
    ∀ passed, found < passed → passed ≤ place + 1 → depthOver leaves passed (place + 1 + 1) ≤ depth := by
  intro passed after before
  by_cases here : passed = place + 1
  · rw [here, depth_over_last _ (le_refl _), depth_over_empty]
    omega
  · have inner := partials passed after (by omega)
    rw [depth_over_last _ (by omega)]
    omega

/-- The opener that a scan to the left finds brings the depth back to zero, and no leaf passed before did. -/
theorem opener_from_depth {wanted : String} {place depth found : Nat}
    (inside : 0 < depth ∨ isCloser (leafAt leaves place) = true)
    (scan : openerFrom leaves wanted place depth = some found) :
    found ≤ place ∧ isOpener (leafAt leaves found) = true ∧ (leafAt leaves found).text = wanted ∧
      depthOver leaves found (place + 1) = depth ∧
      ∀ passed, found < passed → passed ≤ place → depthOver leaves passed (place + 1) ≤ (depth : Int) - 1 := by
  induction place generalizing depth with
  | zero =>
      by_cases closes : isCloser (leafAt leaves 0) = true
      · simp [openerFrom, closes] at scan
      · simp only [openerFrom, closes, Bool.false_eq_true, if_false, Option.ite_none_right_eq_some,
          Bool.and_eq_true, decide_eq_true_eq] at scan
        obtain ⟨⟨⟨opens, last⟩, text⟩, same⟩ := scan
        have here : 0 = found := Option.some.inj same
        subst here
        refine ⟨le_refl _, opens, text, ?_, by intro passed after before; omega⟩
        rw [depth_over_last _ (le_refl _), depth_over_empty, depth_change_opener opens, last]
        rfl
  | succ place induction =>
      by_cases closes : isCloser (leafAt leaves (place + 1)) = true
      · rw [openerFrom] at scan
        simp only [closes, if_true] at scan
        obtain ⟨order, opens, text, total, partials⟩ := induction (Or.inl (by omega)) scan
        have change := depth_change_closer closes
        refine ⟨by omega, opens, text, ?_, partial_sums_step leaves partials (by omega) (by omega)⟩
        rw [depth_over_last _ (by omega), total, change]
        omega
      · have positive : 0 < depth := inside.resolve_right closes
        rw [openerFrom] at scan
        simp only [closes, Bool.false_eq_true, if_false] at scan
        by_cases opens : isOpener (leafAt leaves (place + 1)) = true
        · simp only [opens, if_true] at scan
          have change := depth_change_opener opens
          by_cases last : depth = 1
          · simp only [last, if_true, Option.ite_none_right_eq_some] at scan
            obtain ⟨text, same⟩ := scan
            have here : place + 1 = found := Option.some.inj same
            subst here
            refine ⟨le_refl _, opens, text, ?_, by intro passed after before; omega⟩
            rw [depth_over_last _ (le_refl _), depth_over_empty, change, last]
            rfl
          · simp only [last, if_false] at scan
            obtain ⟨order, foundOpens, text, total, partials⟩ := induction (Or.inl (by omega)) scan
            refine ⟨by omega, foundOpens, text, ?_, partial_sums_step leaves partials (by omega) (by omega)⟩
            rw [depth_over_last _ (by omega), total, change]
            omega
        · simp only [opens, Bool.false_eq_true, if_false] at scan
          have change := depth_change_other (by simpa using opens) (by simpa using closes)
          obtain ⟨order, foundOpens, text, total, partials⟩ := induction (Or.inl positive) scan
          refine ⟨by omega, foundOpens, text, ?_, partial_sums_step leaves partials (by omega) (by omega)⟩
          rw [depth_over_last _ (by omega), total, change]
          omega

/-- The closer that a scan to the right finds brings the depth back to zero. -/
theorem closer_from_depth {wanted : String} {count place depth found : Nat}
    (inside : 0 < depth ∨ isOpener (leafAt leaves place) = true)
    (scan : closerFrom leaves wanted count place depth = some found) :
    place ≤ found ∧ found < place + count ∧ isCloser (leafAt leaves found) = true ∧
      (leafAt leaves found).text = wanted ∧ depthOver leaves place (found + 1) = -depth := by
  induction count generalizing place depth with
  | zero => simp [closerFrom] at scan
  | succ count induction =>
      rw [closerFrom] at scan
      by_cases finish : (leafAt leaves place).kind = .finish
      · simp [finish] at scan
      · simp only [finish, if_false] at scan
        by_cases opens : isOpener (leafAt leaves place) = true
        · simp only [opens, if_true] at scan
          obtain ⟨order, bound, closes, text, total⟩ := induction (Or.inl (by omega)) scan
          refine ⟨by omega, by omega, closes, text, ?_⟩
          rw [depth_over_first _ (by omega), total, depth_change_opener opens]
          omega
        · have positive : 0 < depth := inside.resolve_right opens
          simp only [opens, Bool.false_eq_true, if_false] at scan
          by_cases closes : isCloser (leafAt leaves place) = true
          · simp only [closes, if_true] at scan
            have change := depth_change_closer closes
            by_cases last : depth = 1
            · simp only [last, if_true, Option.ite_none_right_eq_some] at scan
              obtain ⟨text, same⟩ := scan
              have here : place = found := Option.some.inj same
              subst here
              refine ⟨le_refl _, by omega, closes, text, ?_⟩
              rw [depth_over_last _ (le_refl _), depth_over_empty, change, last]
              rfl
            · simp only [last, if_false] at scan
              obtain ⟨order, bound, foundCloses, text, total⟩ := induction (Or.inl (by omega)) scan
              refine ⟨by omega, by omega, foundCloses, text, ?_⟩
              rw [depth_over_first _ (by omega), total, change]
              omega
          · simp only [closes, Bool.false_eq_true, if_false, Option.ite_none_left_eq_some] at scan
            have change := depth_change_other (by simpa using opens) (by simpa using closes)
            obtain ⟨order, bound, foundCloses, text, total⟩ := induction (Or.inl positive) scan.2
            refine ⟨by omega, by omega, foundCloses, text, ?_⟩
            rw [depth_over_first _ (by omega), total, change]
            omega

/-- The opener that a scan to the left finds at depth zero: the leaves after it leave the depth as it was, and
none of them reaches below. -/
theorem enclosing_from_depth {place depth found : Nat}
    (scan : enclosingFrom leaves place depth = some found) :
    found ≤ place ∧ isOpener (leafAt leaves found) = true ∧
      depthOver leaves (found + 1) (place + 1) = depth ∧
      ∀ passed, found < passed → passed ≤ place → depthOver leaves passed (place + 1) ≤ (depth : Int) := by
  induction place generalizing depth with
  | zero =>
      rw [enclosingFrom] at scan
      by_cases closes : isCloser (leafAt leaves 0) = true
      · simp [closes] at scan
      · by_cases opens : isOpener (leafAt leaves 0) = true
        · simp only [closes, opens, Bool.false_eq_true, if_false, if_true,
            Option.ite_none_right_eq_some] at scan
          obtain ⟨zero, same⟩ := scan
          have here : 0 = found := Option.some.inj same
          subst here
          exact ⟨le_refl _, opens, by rw [zero, depth_over_empty]; rfl,
            by intro passed after before; omega⟩
        · simp [closes, opens] at scan
  | succ place induction =>
      rw [enclosingFrom] at scan
      by_cases closes : isCloser (leafAt leaves (place + 1)) = true
      · simp only [closes, if_true] at scan
        obtain ⟨order, opens, total, partials⟩ := induction scan
        have change := depth_change_closer closes
        refine ⟨by omega, opens, ?_, partial_sums_step leaves partials (by omega) (by omega)⟩
        rw [depth_over_last _ (by omega), total, change]
        omega
      · simp only [closes, Bool.false_eq_true, if_false] at scan
        by_cases opens : isOpener (leafAt leaves (place + 1)) = true
        · simp only [opens, if_true] at scan
          have change := depth_change_opener opens
          by_cases zero : depth = 0
          · simp only [zero, if_true] at scan
            have here : place + 1 = found := Option.some.inj scan
            subst here
            exact ⟨le_refl _, opens, by rw [zero, depth_over_empty]; rfl,
              by intro passed after before; omega⟩
          · simp only [zero, if_false] at scan
            obtain ⟨order, foundOpens, total, partials⟩ := induction scan
            refine ⟨by omega, foundOpens, ?_, partial_sums_step leaves partials (by omega) (by omega)⟩
            rw [depth_over_last _ (by omega), total, change]
            omega
        · simp only [opens, Bool.false_eq_true, if_false, Option.ite_none_left_eq_some] at scan
          have change := depth_change_other (by simpa using opens) (by simpa using closes)
          obtain ⟨order, foundOpens, total, partials⟩ := induction scan.2
          refine ⟨by omega, foundOpens, ?_, partial_sums_step leaves partials (by omega) (by omega)⟩
          rw [depth_over_last _ (by omega), total, change]
          omega

/-! ### Groups -/

theorem matching_opener_depth {closer opener : Nat} (closes : isCloser (leafAt leaves closer) = true)
    (found : matchingOpener? leaves closer = some opener) :
    opener < closer ∧ isOpener (leafAt leaves opener) = true ∧
      (leafAt leaves opener).text = openerOf (leafAt leaves closer).text ∧
      depthOver leaves opener (closer + 1) = 0 ∧
      ∀ passed, opener < passed → passed ≤ closer → depthOver leaves passed (closer + 1) ≤ -1 := by
  obtain ⟨order, opens, text, total, partials⟩ := opener_from_depth leaves (Or.inr closes) found
  refine ⟨?_, opens, text, by simpa using total, by simpa using partials⟩
  rcases Nat.eq_or_lt_of_le order with same | before
  · rw [same, closer_not_opener closes] at opens
    simp at opens
  · exact before

theorem matching_closer_depth {opener closer : Nat} (opens : isOpener (leafAt leaves opener) = true)
    (bound : opener < leaves.size) (found : matchingCloser? leaves opener = some closer) :
    opener < closer ∧ closer < leaves.size ∧ isCloser (leafAt leaves closer) = true ∧
      (leafAt leaves closer).text = closerOf (leafAt leaves opener).text ∧
      depthOver leaves opener (closer + 1) = 0 := by
  obtain ⟨order, inside, closes, text, total⟩ := closer_from_depth leaves (Or.inr opens) found
  refine ⟨?_, by omega, closes, text, by simpa using total⟩
  rcases Nat.eq_or_lt_of_le order with same | before
  · rw [← same] at closes
    rw [closer_not_opener closes] at opens
    simp at opens
  · exact before

/-- The group that encloses a place closes after it, if it closes at all. -/
theorem enclosing_closes_after {place opener closer : Nat} (bound : place < leaves.size)
    (enclosing : enclosingOpener? leaves place = some opener)
    (closed : matchingCloser? leaves opener = some closer) : place < closer := by
  obtain ⟨order, opens, total, partials⟩ := enclosing_from_depth leaves enclosing
  obtain ⟨after, _, _, _, balanced⟩ := matching_closer_depth leaves opens (by omega) closed
  by_contra early
  -- The sum from the opener to the closer is zero, so what follows the closer would sum up to one.
  have split := depth_over_split leaves (show opener ≤ closer + 1 by omega)
    (show closer + 1 ≤ place + 1 by omega)
  have first := depth_over_first leaves (show opener < place + 1 by omega)
  rw [depth_change_opener opens, total] at first
  rcases Nat.eq_or_lt_of_le (show closer ≤ place by omega) with same | inside
  · rw [same, depth_over_empty] at split
    rw [same] at balanced
    omega
  · have rest := partials (closer + 1) (by omega) (by omega)
    omega

/-- The group that a closer ends does not close before it. -/
theorem matched_closes_at {closer opener found : Nat} (bound : closer < leaves.size)
    (closes : isCloser (leafAt leaves closer) = true)
    (matched : matchingOpener? leaves closer = some opener)
    (closed : matchingCloser? leaves opener = some found) : closer ≤ found := by
  obtain ⟨order, opens, _, total, partials⟩ := matching_opener_depth leaves closes matched
  obtain ⟨after, _, _, _, balanced⟩ := matching_closer_depth leaves opens (by omega) closed
  by_contra early
  have split := depth_over_split leaves (show opener ≤ found + 1 by omega)
    (show found + 1 ≤ closer + 1 by omega)
  have rest := partials (found + 1) (by omega) (by omega)
  omega

/-! ### Primaries -/

theorem operand_start_le {place first : Nat} (found : operandStart? leaves place = some first) :
    first ≤ place := by
  by_cases closes : isCloser (leafAt leaves place) = true
  · simp only [operandStart?, closes, if_true] at found
    exact Nat.le_of_lt (matching_opener_depth leaves closes found).1
  · simp only [operandStart?, closes, Bool.false_eq_true, if_false] at found
    split at found <;> · have := Option.some.inj found; omega

theorem primary_goes_on_lt {place first operand : Nat}
    (found : primaryGoesOn? leaves place first = some operand) : operand < first := by
  simp only [primaryGoesOn?] at found
  split at found
  · exact (previous_bounds leaves found).1
  · split at found
    · cases before : previous? leaves first with
      | none => simp [before] at found
      | some dot =>
          simp only [before, Option.bind_some] at found
          split at found
          · have dotBefore := (previous_bounds leaves before).1
            have operandBefore := (previous_bounds leaves found).1
            omega
          · simp at found
    · simp at found

theorem primary_start_within_le {turns place first : Nat}
    (found : primaryStartWithin leaves turns place = some first) : first ≤ place := by
  induction turns generalizing place with
  | zero => simp [primaryStartWithin] at found
  | succ turns induction =>
      rw [primaryStartWithin, Option.bind_eq_some_iff] at found
      obtain ⟨start, started, rest⟩ := found
      have order := operand_start_le leaves started
      split at rest
      · next operand goesOn =>
          have left := primary_goes_on_lt leaves goesOn
          have inner := induction rest
          omega
      · have same := Option.some.inj rest
        omega

theorem primary_start_le {place first : Nat} (found : primaryStart? leaves place = some first) :
    first ≤ place :=
  primary_start_within_le leaves found

end LiveShell.Locate
