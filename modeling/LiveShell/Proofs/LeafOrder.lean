import Mathlib.Data.List.Forall2
import LiveShell.Proofs.LeafOrigin

/-!
Leaves stand in the order of their tokens. Recovery moves leaves between phrases and leaves some out, but it never
changes their order, so what is known of any two tokens, one before the other, is known of their leaves.
-/

namespace LiveShell.Source

set_option autoImplicit false

variable {lines : Lines} {token : Token}

/-- The leaves of the phrases under way, in order: those of the outermost phrase come first. -/
def Stack.row : Stack → List Leaf
  | [] => []
  | frame :: below => Stack.row below ++ frame.leaves.toList

/-- A leaf made of a token, of its own class or a stray one. -/
def Leaf.IsOf (lines : Lines) (token : Token) (leaf : Leaf) : Prop :=
  ∃ kind, leaf = token.leaf lines kind ∧ (kind = .stray token.kind ∨ ∃ back, kind = leafKind token back)

theorem Leaf.IsOf.own (lines : Lines) (token : Token) (back : Nat) :
    Leaf.IsOf lines token (token.leaf lines (leafKind token back)) := ⟨_, rfl, Or.inr ⟨back, rfl⟩⟩

/-- The row after a token has been dealt with: some of the leaves from before, and at most one of the token. -/
def Adds (lines : Lines) (token : Token) (before after : Stack) : Prop :=
  ∃ leaf, Leaf.IsOf lines token leaf ∧ after.row.Sublist (before.row ++ [leaf])

theorem adds_nothing {before after : Stack} (sublist : after.row.Sublist before.row) : Adds lines token before after :=
  ⟨_, .own lines token 0, sublist.trans (List.sublist_append_left _ _)⟩

theorem Adds.after {before between after : Stack} (adds : Adds lines token between after)
    (sublist : between.row.Sublist before.row) : Adds lines token before after := by
  obtain ⟨leaf, isOf, rest⟩ := adds
  exact ⟨leaf, isOf, rest.trans (sublist.append (.refl _))⟩

/-! ### Phrases -/

theorem finished_sublist (frame : Frame) : frame.finished.toList.Sublist frame.leaves.toList := by
  unfold Frame.finished
  split
  · rw [Array.toList_append, Array.toList_extract, Array.toList_extract]
    generalize frame.leaves.toList = leaves
    have first : (leaves.extract 0 1).Sublist (leaves.take 1) := by simp [List.extract]
    have later : (leaves.extract 2 (frame.leaves.size - 1)).Sublist (leaves.drop 1) := by
      rw [List.extract, show (2 : Nat) = 1 + 1 from rfl, ← List.drop_drop]
      exact (List.take_sublist _ _).trans (List.drop_sublist _ _)
    have both := first.append later
    rwa [List.take_append_drop] at both
  · exact .refl _

theorem row_append (above base : Stack) : Stack.row (above ++ base) = base.row ++ Stack.row above := by
  induction above with
  | nil => simp [Stack.row]
  | cons frame rest induction => rw [List.cons_append, Stack.row, induction, Stack.row, List.append_assoc]

theorem row_gathered (stack : Stack) (leaves : Array Leaf) :
    (stack.foldl (fun leaves frame => frame.leaves ++ leaves) leaves).toList = stack.row ++ leaves.toList := by
  induction stack generalizing leaves with
  | nil => rfl
  | cons frame below induction => rw [List.foldl_cons, induction, Array.toList_append, Stack.row, List.append_assoc]

theorem row_close_finished (symbol : Symbol) (stack : Stack) :
    (closeFinished symbol stack).1.row.Sublist stack.row := by
  fun_induction closeFinished symbol stack with
  | case1 | case2 | case3 | case5 => exact .refl _
  | case4 frame _ _ outer below induction =>
      refine induction.trans ?_
      simp only [Stack.row, Frame.addPart, Array.toList_append, ← List.append_assoc]
      exact (List.Sublist.refl _).append (finished_sublist frame)

theorem row_begin (stack : Stack) (starts : List (Phrase × Pattern)) :
    (starts.foldl Stack.begin stack).row = stack.row := by
  induction starts generalizing stack with
  | nil => rfl
  | cons start rest induction =>
      rw [List.foldl_cons, induction, Stack.begin, Stack.row]
      exact List.append_nil _

theorem accept_adds (lines : Lines) (token : Token) (plan : Pattern × List (Phrase × Pattern)) (stack : Stack) :
    Adds lines token stack (stack.accept lines token plan) := by
  cases stack with
  | nil => exact adds_nothing (.refl _)
  | cons frame below =>
      have opened := row_begin ({ frame with rest := plan.1 } :: below) plan.2
      rw [Stack.accept]
      cases started : plan.2.foldl Stack.begin ({ frame with rest := plan.1 } :: below) with
      | nil => exact adds_nothing (List.nil_sublist _)
      | cons innermost outer =>
          rw [started] at opened
          refine ⟨_, .own lines token innermost.leaves.size, ?_⟩
          simp only [Stack.row] at opened
          simp only [Stack.addLeaf, Stack.row, Frame.addPart, Array.toList_append, ← List.append_assoc, opened]
          exact .refl _

theorem row_lacks_newline {stack settled : Stack} (lacks : lacksOnlyNewline token stack = some settled) :
    settled.row = stack.row := by
  cases stack with
  | nil => simp [lacksOnlyNewline] at lacks
  | cons frame below =>
      simp only [lacksOnlyNewline, Option.ite_none_right_eq_some] at lacks
      obtain ⟨_, _, same⟩ := lacks
      rw [← Option.some.inj same]
      rfl

theorem split_at_block_eq (stack : Stack) : stack = (splitAtBlock stack).1 ++ (splitAtBlock stack).2 := by
  induction stack with
  | nil => rfl
  | cons frame below induction =>
      simp only [splitAtBlock]
      split
      · rfl
      · exact congrArg (frame :: ·) induction

/-- What stands above a block is put on the block's own leaves, which are right before it in the row. -/
theorem row_put_on (base : Stack) (leaves : Array Leaf) :
    (match base with
      | [] => []
      | frame :: below => frame.addPart leaves :: below : Stack).row.Sublist (base.row ++ leaves.toList) := by
  cases base with
  | nil => exact List.nil_sublist _
  | cons frame below =>
      simp only [Stack.row, Frame.addPart, Array.toList_append, List.append_assoc]
      exact .refl _

theorem row_settle_block (stack : Stack) : stack.settleBlock.row = stack.row := by
  cases stack with
  | nil => rfl
  | cons frame below =>
      simp only [Stack.settleBlock]
      split <;> rfl

/-! ### Tokens -/

theorem add_token_adds (lines : Lines) (token : Token) (fuel : Nat) (state : ParserState) :
    Adds lines token state.stack (state.addToken lines token fuel).stack := by
  induction fuel generalizing state with
  | zero => exact adds_nothing (.refl _)
  | succ fuel induction =>
      have closed := row_close_finished token.symbol state.stack
      rw [ParserState.addToken]
      rcases taken : closeFinished token.symbol state.stack with ⟨stack, plan⟩
      rw [taken] at closed
      cases plan with
      | some plan => exact (accept_adds lines token plan stack).after closed
      | none =>
          simp only
          cases lacks : lacksOnlyNewline token stack with
          | some settled =>
              refine (induction { state with stack := settled }).after ?_
              rw [row_lacks_newline lacks]
              exact closed
          | none =>
              obtain ⟨above, base, split⟩ : ∃ above base, splitAtBlock stack = (above, base) := ⟨_, _, rfl⟩
              have parts := congrArg Stack.row (split_at_block_eq stack)
              rw [split, row_append] at parts
              have removed := row_gathered above #[]
              rw [List.append_nil] at removed
              simp only [split, row_settle_block, Adds]
              split
              · have kept : base.row.Sublist state.stack.row := by
                  refine List.Sublist.trans ?_ closed
                  rw [parts]
                  exact List.sublist_append_left _ _
                exact ⟨_, ⟨_, rfl, Or.inl rfl⟩, (row_put_on base _).trans (kept.append (.refl _))⟩
              · refine (induction _).after ((row_put_on base _).trans ?_)
                rw [removed, ← parts]
                exact closed

theorem step_adds (lines : Lines) (token : Token) (state : ParserState) :
    Adds lines token state.stack (state.step lines token).stack := by
  simp only [ParserState.step]
  split
  · split
    · split
      · exact adds_nothing (.refl _)
      · exact add_token_adds lines token _ _
    · exact add_token_adds lines token _ _
  · exact add_token_adds lines token _ _
  · exact add_token_adds lines token _ _

theorem steps_add (lines : Lines) (tokens : List Token) (state : ParserState) :
    ∃ all, List.Forall₂ (Leaf.IsOf lines) tokens all ∧
      (tokens.foldl (ParserState.step lines) state).stack.row.Sublist (state.stack.row ++ all) := by
  induction tokens generalizing state with
  | nil => exact ⟨[], .nil, by simp⟩
  | cons token rest induction =>
      obtain ⟨leaf, isOf, first⟩ := step_adds lines token state
      obtain ⟨all, each, later⟩ := induction (state.step lines token)
      refine ⟨leaf :: all, .cons isOf each, later.trans ?_⟩
      have joined := first.append (List.Sublist.refl all)
      rwa [List.append_assoc] at joined

theorem leaves_sublist (stack : Stack) : stack.leaves.toList.Sublist stack.row := by
  cases stack with
  | nil => exact .refl _
  | cons frame below =>
      rw [Stack.leaves, row_gathered, Stack.row]
      exact (List.Sublist.refl _).append (finished_sublist frame)

/-- The leaves of a source are leaves of its tokens, in their order. -/
theorem leaves_in_order (source : String) : ∃ all,
    List.Forall₂ (Leaf.IsOf (parse source).lines) (tokensOf source).toList all ∧
      (parse source).leaves.toList.Sublist all := by
  obtain ⟨all, each, row⟩ := steps_add (parse source).lines (tokensOf source).toList
    { stack := [⟨.file, Phrase.file.pattern, #[], 0⟩], depth := 0, omitted := [] }
  refine ⟨all, each, ?_⟩
  rw [Array.foldl_toList] at row
  exact (leaves_sublist _).trans row

theorem pairwise_of_each {tokens : List Token} {leaves : List Leaf} {tokenBefore : Token → Token → Prop}
    {leafBefore : Leaf → Leaf → Prop} (each : List.Forall₂ (Leaf.IsOf lines) tokens leaves)
    (ordered : tokens.Pairwise tokenBefore)
    (lifts : ∀ first second firstLeaf secondLeaf, Leaf.IsOf lines first firstLeaf → Leaf.IsOf lines second secondLeaf →
      tokenBefore first second → leafBefore firstLeaf secondLeaf) : leaves.Pairwise leafBefore := by
  induction each with
  | nil => exact .nil
  | @cons token leaf tokens leaves isOf rest induction =>
      obtain ⟨first, later⟩ := List.pairwise_cons.mp ordered
      refine List.pairwise_cons.mpr ⟨fun other member => ?_, induction later⟩
      obtain ⟨index, bound, rfl⟩ := List.getElem_of_mem member
      have tokenBound : index < tokens.length := rest.length_eq ▸ bound
      exact lifts token tokens[index] leaf _ isOf (List.forall₂_iff_get.mp rest |>.2 index tokenBound bound)
        (first _ (List.getElem_mem tokenBound))

/-- What holds of every two tokens, one before the other, holds of every two leaves. -/
theorem leaves_pairwise (source : String) {tokenBefore : Token → Token → Prop} {leafBefore : Leaf → Leaf → Prop}
    (ordered : (tokensOf source).toList.Pairwise tokenBefore)
    (lifts : ∀ first second firstLeaf secondLeaf, Leaf.IsOf (parse source).lines first firstLeaf →
      Leaf.IsOf (parse source).lines second secondLeaf → tokenBefore first second → leafBefore firstLeaf secondLeaf) :
    (parse source).leaves.toList.Pairwise leafBefore := by
  obtain ⟨all, each, sublist⟩ := leaves_in_order source
  exact (pairwise_of_each each ordered lifts).sublist sublist

end LiveShell.Source
