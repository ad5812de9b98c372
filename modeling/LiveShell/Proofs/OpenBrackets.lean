import LiveShell.Locate.Cursor
import LiveShell.Proofs.BracketScan

/-!
The bracket that encloses a place. The scan to the left keeps a single number, the closers whose openers are still to
come; a stack that is filled from the left remembers every bracket that is open. What the scan finds at a depth is what
the stack has at that depth, whatever the kinds of the brackets are and however many closers have no opener. Such
closers make a difference only before the statement, where the scan looks for their openers while the stack does not.
-/

namespace LiveShell.Locate

open Source

set_option autoImplicit false

variable {leaves : Array Leaf} {first place stop depth : Nat}

/-! ### The stack of open brackets -/

/-- What a leaf does to the brackets that are open before it, the innermost one first. A closer ends the innermost one,
if there is any, be it of its kind or not. -/
def bracketStep (leaves : Array Leaf) (stack : List Nat) (place : Nat) : List Nat :=
  if isOpener (leafAt leaves place) then place :: stack
  else if isCloser (leafAt leaves place) then stack.tail
  else stack

/-- The brackets that are open after the leaves from a first one up to a stop, which is left out. -/
def openBrackets (leaves : Array Leaf) (first stop : Nat) : List Nat :=
  (List.range' first (stop - first)).foldl (bracketStep leaves) []

theorem open_brackets_none (leaves : Array Leaf) (place : Nat) : openBrackets leaves place place = [] := by
  simp [openBrackets]

theorem open_brackets_next (order : first ≤ stop) :
    openBrackets leaves first (stop + 1) = bracketStep leaves (openBrackets leaves first stop) stop := by
  have more : stop + 1 - first = (stop - first) + 1 := by omega
  have last : first + (stop - first) = stop := by omega
  rw [openBrackets, more, List.range'_1_concat, List.foldl_append, last]
  rfl

/-! ### The scan to the left -/

/-- A line break or a semicolon: what ends a statement outside of brackets. -/
def endsStatement (leaf : Leaf) : Bool := leaf.kind = .newline || isOneOf [";"] leaf

/-- The scan to the left over the leaves before a place. -/
def enclosingBefore (leaves : Array Leaf) : Nat → Nat → Option Nat
  | 0, _ => none
  | place + 1, depth => enclosingFrom leaves place depth

theorem enclosing_before_succ (leaves : Array Leaf) (place depth : Nat) :
    enclosingBefore leaves (place + 1) depth =
      if isCloser (leafAt leaves place) then enclosingBefore leaves place (depth + 1)
      else if isOpener (leafAt leaves place) then
        if depth = 0 then some place else enclosingBefore leaves place (depth - 1)
      else if depth = 0 && endsStatement (leafAt leaves place) then none
      else enclosingBefore leaves place depth := by
  rw [enclosingBefore, enclosingFrom]
  cases place <;> rfl

theorem end_of_statement_no_bracket {leaf : Leaf} (ends : endsStatement leaf = true) :
    isOpener leaf = false ∧ isCloser leaf = false := by
  simp only [endsStatement, Bool.or_eq_true, decide_eq_true_eq] at ends
  rcases ends with newline | semicolon
  · simp [isOpener, isCloser, isOneOf, isOperator, newline]
  · simp [isOpener, isCloser, isOneOf, openers, closers, text_of_one semicolon]

/-- At the end of the statement before, a scan at depth zero finds nothing. -/
theorem enclosing_before_statement (begins : first = 0 ∨ endsStatement (leafAt leaves (first - 1)) = true) :
    enclosingBefore leaves first 0 = none := by
  cases first with
  | zero => rfl
  | succ before =>
      have ends : endsStatement (leafAt leaves before) = true := by simpa using begins
      obtain ⟨opens, closes⟩ := end_of_statement_no_bracket ends
      simp [enclosing_before_succ, opens, closes, ends]

/-- Within a statement the scan finds what the stack has at its depth. Where the stack is not that deep, the scan goes
on before the statement, at the depth that the brackets of the statement leave. -/
theorem enclosing_before_eq (order : first ≤ stop)
    (within : ∀ between, first ≤ between → between < stop → endsStatement (leafAt leaves between) = false) :
    enclosingBefore leaves stop depth =
      (openBrackets leaves first stop)[depth]?.or
        (enclosingBefore leaves first (depth - depthOver leaves first stop).toNat) := by
  induction stop, order using Nat.le_induction generalizing depth with
  | base => simp [open_brackets_none, depth_over_empty]
  | succ stop order induction =>
      have earlier (depth : Nat) : enclosingBefore leaves stop depth =
          (openBrackets leaves first stop)[depth]?.or
            (enclosingBefore leaves first (depth - depthOver leaves first stop).toNat) :=
        induction fun between after before => within between after (Nat.lt_succ_of_lt before)
      rw [open_brackets_next order, depth_over_last leaves order, bracketStep, enclosing_before_succ]
      by_cases closes : isCloser (leafAt leaves stop) = true
      · have left : ((depth + 1 : Nat) - depthOver leaves first stop : Int) =
            depth - (depthOver leaves first stop + -1) := by omega
        rw [if_pos closes, earlier, closer_not_opener closes, if_pos closes, depth_change_closer closes, left]
        simp
      · rw [if_neg closes]
        by_cases opens : isOpener (leafAt leaves stop) = true
        · rw [if_pos opens, if_pos opens, depth_change_opener opens]
          cases depth with
          | zero => rfl
          | succ depth =>
              have left : ((depth + 1 : Nat) - (depthOver leaves first stop + 1) : Int) =
                  depth - depthOver leaves first stop := by omega
              rw [if_neg (Nat.succ_ne_zero depth), Nat.add_sub_cancel, earlier, left, List.getElem?_cons_succ]
        · have plain := within stop order (Nat.lt_succ_self stop)
          have change := depth_change_other (by simpa using opens) (by simpa using closes)
          rw [if_neg opens, if_neg opens, if_neg closes, plain, earlier, change]
          simp

/-- The scan for the enclosing bracket finds the top of the stack of open brackets: on every row of leaves without an
end of a statement, whatever brackets stand in it. In a later statement this holds too, as long as there are no more
closers than openers; and a bracket that the statement itself leaves open is always found. If the bracket that is found
closes at all, it closes after the place. -/
theorem enclosing_opener_is_top (leaves : Array Leaf) {first place : Nat} (order : first ≤ place)
    (bound : place < leaves.size)
    (within : ∀ between, first ≤ between → between ≤ place → endsStatement (leafAt leaves between) = false) :
    (first = 0 ∨ endsStatement (leafAt leaves (first - 1)) = true ∧ 0 ≤ depthOver leaves first (place + 1) →
      enclosingOpener? leaves place = (openBrackets leaves first (place + 1)).head?) ∧
    (∀ opener, (openBrackets leaves first (place + 1)).head? = some opener →
      enclosingOpener? leaves place = some opener) ∧
    ∀ opener closer, enclosingOpener? leaves place = some opener → matchingCloser? leaves opener = some closer →
      place < closer := by
  have scan : enclosingOpener? leaves place = (openBrackets leaves first (place + 1)).head?.or
      (enclosingBefore leaves first (0 - depthOver leaves first (place + 1)).toNat) := by
    rw [List.head?_eq_getElem?]
    exact enclosing_before_eq (Nat.le_succ_of_le order)
      fun between after before => within between after (Nat.le_of_lt_succ before)
  refine ⟨fun begins => ?_, fun opener top => ?_, fun opener closer => enclosing_closes_after leaves bound⟩
  · have nothing : enclosingBefore leaves first (0 - depthOver leaves first (place + 1)).toNat = none := by
      rcases begins with rfl | ⟨ends, more⟩
      · rfl
      · rw [show (0 - depthOver leaves first (place + 1)).toNat = 0 by omega]
        exact enclosing_before_statement (Or.inr ends)
    rw [scan, nothing, Option.or_none]
  · rw [scan, top, Option.some_or]

/-- Closers without an opener, and closers of another kind than what they end. -/
theorem enclosing_opener_is_top_among_strays :
    let leaves := (parse ")](f[a\x7dx)").leaves
    7 < leaves.size ∧ (∀ between, 0 ≤ between → between ≤ 7 → endsStatement (leafAt leaves between) = false) ∧
      openBrackets leaves 0 8 = [2] ∧ enclosingOpener? leaves 7 = some 2 ∧ matchingCloser? leaves 2 = some 8 := by
  intro leaves
  obtain ⟨bound, within, stack, closes⟩ :
      7 < (parse ")](f[a\x7dx)").leaves.size ∧
      (∀ between ≤ 7, endsStatement (leafAt (parse ")](f[a\x7dx)").leaves between) = false) ∧
      openBrackets (parse ")](f[a\x7dx)").leaves 0 8 = [2] ∧
      matchingCloser? (parse ")](f[a\x7dx)").leaves 2 = some 8 := by
    decide +kernel
  obtain ⟨top, _, _⟩ := enclosing_opener_is_top leaves (Nat.zero_le 7) bound fun between _ => within between
  exact ⟨bound, fun between _ => within between, stack, (top (Or.inl rfl)).trans (congrArg List.head? stack), closes⟩

end LiveShell.Locate
