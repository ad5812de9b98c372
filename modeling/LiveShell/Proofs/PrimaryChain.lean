import LiveShell.Proofs.PrimaryNode

/-!
The search for the start of a primary. It goes to the left in turns, from the end of an operand to the end of the
operand before it, over whole groups and formatted strings at once. Each turn moves to the left, so the search ends;
and it ends because the chain does, never for want of turns: at a closer without an opener of its kind, or where
neither a trailer nor a dot leads on to one more operand.
-/

namespace LiveShell.Locate

open Source

set_option autoImplicit false

variable {leaves : Array Leaf} {place first operand opener closer : Nat} {looked : List Nat} {found : Option Nat}

/-! ### Groups -/

/-- Two brackets of one kind with as many openers as closers from one to the other, and more closers than openers from
each place between to the second. -/
structure IsGroup (leaves : Array Leaf) (opener closer : Nat) : Prop where
  closes : isCloser (leafAt leaves closer) = true
  opens : isOneOf [openerOf (leafAt leaves closer).text] (leafAt leaves opener) = true
  order : opener < closer
  total : depthOver leaves opener (closer + 1) = 0
  inner : ∀ passed, opener < passed → passed ≤ closer → depthOver leaves passed (closer + 1) < 0

theorem opener_of_is_opener (text : String) : openerOf text ∈ openers := by
  unfold openerOf
  split
  · decide
  · split <;> decide

theorem IsGroup.is_opener (group : IsGroup leaves opener closer) : isOpener (leafAt leaves opener) = true :=
  one_of_more (List.cons_subset.mpr ⟨opener_of_is_opener _, List.nil_subset _⟩) group.opens

/-- A scan to the left finds an opener when it brings the depth back to zero and no leaf passed before does. -/
theorem opener_from_finds {wanted : String} {depth : Nat} (order : opener ≤ place)
    (opens : isOpener (leafAt leaves opener) = true) (text : (leafAt leaves opener).text = wanted)
    (total : depthOver leaves opener (place + 1) = depth)
    (inner : ∀ passed, opener < passed → passed ≤ place → depthOver leaves passed (place + 1) < depth) :
    openerFrom leaves wanted place depth = some opener := by
  have noCloser : isCloser (leafAt leaves opener) = false :=
    Bool.eq_false_iff.mpr fun closes => by simp [closer_not_opener closes] at opens
  induction place generalizing depth with
  | zero =>
      obtain rfl : opener = 0 := by omega
      rw [depth_over_last _ (le_refl _), depth_over_empty, depth_change_opener opens] at total
      obtain rfl : depth = 1 := by omega
      simp [openerFrom, noCloser, opens, text]
  | succ place induction =>
      rcases Nat.eq_or_lt_of_le order with rfl | before
      · rw [depth_over_last _ (le_refl _), depth_over_empty, depth_change_opener opens] at total
        obtain rfl : depth = 1 := by omega
        simp [openerFrom, noCloser, opens, text]
      · have last := inner (place + 1) before (le_refl _)
        rw [depth_over_last _ (le_refl _), depth_over_empty] at last
        rw [depth_over_last _ (by omega)] at total
        -- The sums without the last leaf, at the depth before it.
        have further {deeper : Nat} (change : (depth : Int) - depthChange (leafAt leaves (place + 1)) = deeper) :
            openerFrom leaves wanted place deeper = some opener := by
          refine induction (by omega) (by omega) fun passed after upTo => ?_
          have sum := inner passed after (by omega)
          rw [depth_over_last _ (by omega)] at sum
          omega
        rw [openerFrom]
        by_cases closes : isCloser (leafAt leaves (place + 1)) = true
        · have change := depth_change_closer closes
          rw [if_pos closes]
          exact further (by omega)
        · rw [if_neg closes]
          by_cases opening : isOpener (leafAt leaves (place + 1)) = true
          · have change := depth_change_opener opening
            rw [if_pos opening, if_neg (by omega)]
            exact further (by omega)
          · have change := depth_change_other (by simpa using opening) (by simpa using closes)
            rw [if_neg opening]
            exact further (by omega)

/-- The opener that a closer goes back to is the one that makes a group with it. -/
theorem matching_opener_iff (closes : isCloser (leafAt leaves closer) = true) :
    matchingOpener? leaves closer = some opener ↔ IsGroup leaves opener closer := by
  constructor
  · intro matched
    obtain ⟨order, opens, text, total, inner⟩ := matching_opener_depth leaves closes matched
    refine ⟨closes, ?_, order, total, fun passed after upTo => Int.lt_of_le_sub_one (inner passed after upTo)⟩
    have operator := (Bool.and_eq_true_iff.mp opens).1
    simp [isOneOf, operator, text]
  · intro group
    exact opener_from_finds (Nat.le_of_lt group.order) group.is_opener (text_of_one group.opens)
      (by simpa using group.total) (by simpa using group.inner)

/-! ### Turns -/

/-- The turns of the search from a place: the places where it looks at the operand that ends there, and what it ends
with. -/
inductive Turns (leaves : Array Leaf) : Nat → List Nat → Option Nat → Prop
  | unmatched {place : Nat} (starts : operandStart? leaves place = none) : Turns leaves place [place] none
  | start {place first : Nat} (starts : operandStart? leaves place = some first)
      (ends : primaryGoesOn? leaves place first = none) : Turns leaves place [place] (some first)
  | turn {place first operand : Nat} {looked : List Nat} {found : Option Nat}
      (starts : operandStart? leaves place = some first) (goesOn : primaryGoesOn? leaves place first = some operand)
      (rest : Turns leaves operand looked found) : Turns leaves place (place :: looked) found

theorem operand_start_none_iff :
    operandStart? leaves place = none ↔
      isCloser (leafAt leaves place) = true ∧ matchingOpener? leaves place = none := by
  by_cases closes : isCloser (leafAt leaves place) = true
  · simp [operandStart?, closes]
  · simp only [operandStart?, closes, Bool.false_eq_true, if_false, false_and, iff_false]
    split <;> simp

/-- A turn moves to the left. -/
theorem turn_lt (starts : operandStart? leaves place = some first)
    (goesOn : primaryGoesOn? leaves place first = some operand) : operand < place :=
  Nat.lt_of_lt_of_le (primary_goes_on_lt leaves goesOn) (operand_start_le leaves starts)

/-- The search comes to its end in turns of the loop. -/
theorem turns_end (leaves : Array Leaf) (place : Nat) :
    ∃ looked, Turns leaves place looked (primaryStart? leaves place) := by
  induction place using Nat.strongRecOn with
  | ind place induction =>
      rw [primary_start_eq]
      cases starts : operandStart? leaves place with
      | none => exact ⟨[place], .unmatched starts⟩
      | some first =>
          rw [Option.bind_some]
          cases goesOn : primaryGoesOn? leaves place first with
          | none => exact ⟨[place], .start starts goesOn⟩
          | some operand =>
              obtain ⟨looked, rest⟩ := induction operand (turn_lt starts goesOn)
              exact ⟨place :: looked, .turn starts goesOn rest⟩

namespace Turns

theorem looked_le (turns : Turns leaves place looked found) : ∀ other ∈ looked, other ≤ place := by
  induction turns with
  | unmatched | start => simp
  | turn starts goesOn rest induction =>
      have left := turn_lt starts goesOn
      intro other member
      rcases List.mem_cons.mp member with rfl | later
      · exact le_refl _
      · exact Nat.le_of_lt (Nat.lt_of_le_of_lt (induction other later) left)

theorem leftward (turns : Turns leaves place looked found) : looked.Pairwise (· > ·) := by
  induction turns with
  | unmatched | start => exact List.pairwise_singleton _ _
  | turn starts goesOn rest induction =>
      have left := turn_lt starts goesOn
      refine List.pairwise_cons.mpr ⟨fun other member => ?_, induction⟩
      exact Nat.lt_of_le_of_lt (rest.looked_le other member) left

theorem found_le (turns : Turns leaves place looked (some first)) : first ≤ place := by
  generalize result : some first = found at turns
  induction turns with
  | unmatched => cases result
  | start starts =>
      obtain rfl := Option.some.inj result
      exact operand_start_le leaves starts
  | turn starts goesOn rest induction => exact Nat.le_trans (induction result) (Nat.le_of_lt (turn_lt starts goesOn))

/-- Nothing is found exactly when a closer on the way has no opener of its kind. -/
theorem none_iff (turns : Turns leaves place looked found) :
    found = none ↔
      ∃ closer ∈ looked, isCloser (leafAt leaves closer) = true ∧ matchingOpener? leaves closer = none := by
  simp only [← operand_start_none_iff]
  induction turns with
  | unmatched starts => simp [starts]
  | start starts => simp [starts]
  | turn starts goesOn rest induction => simp [induction, starts]

/-- A primary that starts with a leaf is not continued before it, neither by a trailer nor by a dot. -/
theorem ends (turns : Turns leaves place looked (some first)) :
    ∃ last ∈ looked, operandStart? leaves last = some first ∧ primaryGoesOn? leaves last first = none := by
  generalize result : some first = found at turns
  induction turns with
  | unmatched => cases result
  | start starts ends =>
      obtain rfl := Option.some.inj result
      exact ⟨_, List.mem_singleton_self _, starts, ends⟩
  | turn starts goesOn rest induction =>
      obtain ⟨last, member, here⟩ := induction result
      exact ⟨last, List.mem_cons_of_mem _ member, here⟩

/-- Where a group on the way starts the primary, the search ended with that group. -/
theorem ends_at_closer (turns : Turns leaves place looked (some first)) (member : closer ∈ looked)
    (group : IsGroup leaves first closer) : primaryGoesOn? leaves closer first = none := by
  have opensAt : operandStart? leaves closer = some first := by
    rw [operandStart?, if_pos group.closes]
    exact (matching_opener_iff group.closes).mpr group
  generalize result : some first = found at turns
  induction turns with
  | unmatched => cases result
  | start starts ends =>
      obtain rfl := Option.some.inj result
      rw [List.mem_singleton.mp member]
      exact ends
  | turn starts goesOn rest induction =>
      rcases List.mem_cons.mp member with rfl | later
      · obtain rfl := Option.some.inj (opensAt.symm.trans starts)
        subst result
        exact absurd (primary_goes_on_lt leaves goesOn) (Nat.not_lt.mpr rest.found_le)
      · exact induction later result

end Turns

theorem no_dot_before (ends : primaryGoesOn? leaves place first = none) {dot : Nat}
    (before : previous? leaves first = some dot) (isDot : isDot (leafAt leaves dot) = true)
    (after : previous? leaves dot = some operand) : endsOperand (leafAt leaves operand) = false := by
  rw [Bool.eq_false_iff]
  intro operandEnds
  simp only [primaryGoesOn?, before, holds, isDot, after, operandEnds, Option.bind_some, if_true] at ends
  split at ends <;> cases ends

theorem no_operand_before (ends : primaryGoesOn? leaves place first = none)
    (closes : isCloser (leafAt leaves place) = true) (trails : opensTrailer (leafAt leaves first) = true)
    (before : previous? leaves first = some operand) : endsOperand (leafAt leaves operand) = false := by
  rw [Bool.eq_false_iff]
  intro operandEnds
  simp [primaryGoesOn?, before, holds, closes, trails, operandEnds] at ends

/-- The search for the start of a primary ends after finitely many turns, each to the left of the one before. What it
finds is at or before the leaf where it began, and the primary does not go on before it: no dot with an operand before
it stands there, and no operand stands before the round or square bracket of a group on the way that starts there. It
finds nothing exactly when a closer on the way has no opener of its kind. -/
theorem primary_start_is_longest (leaves : Array Leaf) (last : Nat) :
    ∃ looked, Turns leaves last looked (primaryStart? leaves last) ∧ looked.Pairwise (· > ·) ∧
      (∀ first, primaryStart? leaves last = some first →
        first ≤ last ∧
        (∀ dot operand, previous? leaves first = some dot → isDot (leafAt leaves dot) = true →
          previous? leaves dot = some operand → endsOperand (leafAt leaves operand) = false) ∧
        ∀ closer ∈ looked, IsGroup leaves first closer → opensTrailer (leafAt leaves first) = true →
          ∀ operand, previous? leaves first = some operand → endsOperand (leafAt leaves operand) = false) ∧
      (primaryStart? leaves last = none ↔
        ∃ closer ∈ looked, isCloser (leafAt leaves closer) = true ∧ ∀ opener, ¬IsGroup leaves opener closer) := by
  obtain ⟨looked, turns⟩ := turns_end leaves last
  refine ⟨looked, turns, turns.leftward, fun first started => ?_, ?_⟩
  · rw [started] at turns
    obtain ⟨place, _, _, ends⟩ := turns.ends
    refine ⟨turns.found_le, fun dot operand => no_dot_before ends, fun closer member group trails operand => ?_⟩
    exact no_operand_before (turns.ends_at_closer member group) group.closes trails
  · rw [turns.none_iff]
    refine exists_congr fun closer => and_congr_right fun _ => and_congr_right fun closes => ?_
    rw [Option.eq_none_iff_forall_ne_some]
    exact forall_congr' fun opener => not_congr (matching_opener_iff closes)

end LiveShell.Locate
