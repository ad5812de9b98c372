import LiveShell.Source.Recovery

/-!
Where leaves come from. Whatever the parser does with its phrases, the leaves that it ends with are leaves of
scanned tokens, each of its own class or a stray one. What scanning ensures of tokens is therefore known of leaves.
-/

namespace LiveShell.Source

set_option autoImplicit false

/-- A leaf of one of some tokens. -/
def Leaf.IsFrom (lines : Lines) (tokens : Array Token) (leaf : Leaf) : Prop :=
  ∃ token ∈ tokens, ∃ kind, leaf = token.leaf lines kind ∧
    (kind = .stray token.kind ∨ ∃ back, kind = leafKind token back)

/-- All leaves of the phrases under way have a property. -/
def Stack.Every (keeps : Leaf → Prop) (stack : Stack) : Prop :=
  ∀ frame ∈ stack, ∀ leaf ∈ frame.leaves, keeps leaf

variable {keeps : Leaf → Prop}

theorem mem_of_mem_finished {frame : Frame} {leaf : Leaf} (member : leaf ∈ frame.finished) :
    leaf ∈ frame.leaves := by
  have part : ∀ {low high : Nat}, leaf ∈ frame.leaves.extract low high → leaf ∈ frame.leaves := by
    intro low high inside
    obtain ⟨index, bound, rfl⟩ := Array.mem_extract_iff_getElem.mp inside
    exact Array.getElem_mem _
  unfold Frame.finished at member
  split at member
  · rcases Array.mem_append.mp member with first | later
    · exact part first
    · exact part later
  · exact member

theorem every_add_part {frame : Frame} {below : Stack} {leaves : Array Leaf}
    (every : Stack.Every keeps (frame :: below)) (added : ∀ leaf ∈ leaves, keeps leaf) :
    Stack.Every keeps (frame.addPart leaves :: below) := by
  obtain ⟨here, later⟩ := List.forall_mem_cons.mp every
  refine List.forall_mem_cons.mpr ⟨?_, later⟩
  intro leaf member
  rcases Array.mem_append.mp member with old | new
  · exact here leaf old
  · exact added leaf new

/-- What may still follow in a phrase says nothing of its leaves. -/
theorem every_with_rest {frame : Frame} {below : Stack} (every : Stack.Every keeps (frame :: below))
    (rest : Pattern) : Stack.Every keeps ({ frame with rest } :: below) := by
  obtain ⟨here, later⟩ := List.forall_mem_cons.mp every
  exact List.forall_mem_cons.mpr ⟨here, later⟩

theorem every_close_finished (symbol : Symbol) {stack : Stack} (every : Stack.Every keeps stack) :
    Stack.Every keeps (closeFinished symbol stack).1 := by
  fun_induction closeFinished symbol stack with
  | case1 => exact every
  | case2 => exact every
  | case3 => exact every
  | case4 frame _ _ outer below induction =>
      obtain ⟨here, later⟩ := List.forall_mem_cons.mp every
      exact induction (every_add_part later fun leaf member => here leaf (mem_of_mem_finished member))
  | case5 => exact every

theorem every_accept (lines : Lines) (token : Token) (plan : Pattern × List (Phrase × Pattern)) {stack : Stack}
    (every : Stack.Every keeps stack) (own : ∀ back, keeps (token.leaf lines (leafKind token back))) :
    Stack.Every keeps (stack.accept lines token plan) := by
  cases stack with
  | nil => exact every
  | cons frame below =>
      have opened : Stack.Every keeps (plan.2.foldl Stack.begin ({ frame with rest := plan.1 } :: below)) := by
        refine List.foldlRecOn (motive := Stack.Every keeps) plan.2 _
          (every_with_rest every plan.1) fun stack under start _ => ?_
        exact List.forall_mem_cons.mpr ⟨by simp, under⟩
      rw [Stack.accept]
      cases started : plan.2.foldl Stack.begin ({ frame with rest := plan.1 } :: below) with
      | nil => simp [Stack.addLeaf, Stack.Every]
      | cons innermost outer =>
          rw [started] at opened
          exact every_add_part opened (by simpa using own innermost.leaves.size)

theorem every_lacks_newline {token : Token} {stack settled : Stack} (every : Stack.Every keeps stack)
    (lacks : lacksOnlyNewline token stack = some settled) : Stack.Every keeps settled := by
  cases stack with
  | nil => simp [lacksOnlyNewline] at lacks
  | cons frame below =>
      simp only [lacksOnlyNewline, Option.ite_none_right_eq_some] at lacks
      obtain ⟨_, _, same⟩ := lacks
      rw [← Option.some.inj same]
      exact every_with_rest every _

theorem every_split_at_block {stack : Stack} (every : Stack.Every keeps stack) :
    Stack.Every keeps (splitAtBlock stack).1 ∧ Stack.Every keeps (splitAtBlock stack).2 := by
  induction stack with
  | nil => exact ⟨every, every⟩
  | cons frame below induction =>
      obtain ⟨here, later⟩ := List.forall_mem_cons.mp every
      simp only [splitAtBlock]
      split
      · exact ⟨by simp [Stack.Every], every⟩
      · exact ⟨List.forall_mem_cons.mpr ⟨here, (induction later).1⟩, (induction later).2⟩

theorem every_settle_block {stack : Stack} (every : Stack.Every keeps stack) :
    Stack.Every keeps stack.settleBlock := by
  cases stack with
  | nil => exact every
  | cons frame below =>
      simp only [Stack.settleBlock]
      split
      · exact every_with_rest every _
      · exact every

theorem every_add_token (lines : Lines) {token : Token} (own : ∀ back, keeps (token.leaf lines (leafKind token back)))
    (stray : keeps (token.leaf lines (.stray token.kind))) (fuel : Nat) {state : ParserState}
    (every : state.stack.Every keeps) : (state.addToken lines token fuel).stack.Every keeps := by
  induction fuel generalizing state with
  | zero => exact every
  | succ fuel induction =>
      have closed := every_close_finished token.symbol every
      rw [ParserState.addToken]
      cases taken : closeFinished token.symbol state.stack with
      | mk stack plan =>
          rw [taken] at closed
          cases plan with
          | some plan => exact every_accept lines token plan closed own
          | none =>
              simp only
              cases lacks : lacksOnlyNewline token stack with
              | some settled => exact induction (every_lacks_newline closed lacks)
              | none =>
                  obtain ⟨aboveKeeps, baseKeeps⟩ := every_split_at_block closed
                  have removedKeeps : ∀ leaf ∈ (splitAtBlock stack).1.foldl
                      (fun leaves frame => frame.leaves ++ leaves) #[], keeps leaf := by
                    refine List.foldlRecOn (motive := fun leaves : Array Leaf => ∀ leaf ∈ leaves, keeps leaf)
                      _ _ (by simp) fun leaves under frame member leaf inside => ?_
                    rcases Array.mem_append.mp inside with here | there
                    · exact aboveKeeps frame member leaf here
                    · exact under leaf there
                  apply every_settle_block
                  split
                  · cases base : (splitAtBlock stack).2 with
                    | nil => simp [Stack.Every]
                    | cons frame below =>
                        rw [base] at baseKeeps
                        exact every_add_part baseKeeps (by simpa using stray)
                  · cases base : (splitAtBlock stack).2 with
                    | nil => exact induction (by simp [Stack.Every])
                    | cons frame below =>
                        rw [base] at baseKeeps
                        exact induction (every_add_part baseKeeps removedKeeps)

theorem every_step (lines : Lines) {token : Token} (own : ∀ back, keeps (token.leaf lines (leafKind token back)))
    (stray : keeps (token.leaf lines (.stray token.kind))) {state : ParserState}
    (every : state.stack.Every keeps) : (state.step lines token).stack.Every keeps := by
  simp only [ParserState.step]
  split
  · split
    · split
      · exact every
      · exact every_add_token lines own stray _ every
    · exact every_add_token lines own stray _ every
  · exact every_add_token lines own stray _ every
  · exact every_add_token lines own stray _ every

theorem every_leaves {stack : Stack} (every : stack.Every keeps) : ∀ leaf ∈ stack.leaves, keeps leaf := by
  cases stack with
  | nil => simp [Stack.leaves]
  | cons frame below =>
      obtain ⟨here, later⟩ := List.forall_mem_cons.mp every
      rw [Stack.leaves]
      refine List.foldlRecOn (motive := fun leaves : Array Leaf => ∀ leaf ∈ leaves, keeps leaf) below _
        (fun leaf member => here leaf (mem_of_mem_finished member)) fun leaves under outer member leaf inside => ?_
      rcases Array.mem_append.mp inside with old | new
      · exact later outer member leaf old
      · exact under leaf new

/-- The tokens of a source. -/
def tokensOf (source : String) : Array Token := scan (parse source).lines.texts.toList

/-- Parsing makes no leaves of its own. -/
theorem parse_leaves_from (source : String) :
    ∀ leaf ∈ (parse source).leaves, leaf.IsFrom (parse source).lines (tokensOf source) := by
  apply every_leaves
  refine Array.foldl_induction (fun _ (state : ParserState) =>
    state.stack.Every (Leaf.IsFrom (parse source).lines (tokensOf source))) (by simp [Stack.Every]) ?_
  intro place state every
  have member := Array.getElem_mem place.isLt
  exact every_step _ (fun back => ⟨_, member, _, rfl, Or.inr ⟨back, rfl⟩⟩) ⟨_, member, _, rfl, Or.inl rfl⟩ every

end LiveShell.Source
