import Mathlib.Data.List.Forall2
import LiveShell.Proofs.NodeShape

/-!
The arguments of a call. The scan over the leaves of a call keeps the first and the last leaf of the argument under
way; what it tells of in the end is what is left when the leaves with text are split at the commas of depth zero and
nothing is made of empty pieces. Nothing is assumed of the brackets in between. The only way to fail is that a leaf
which is an argument of its own has no node, which the leaves of a tiled source always have.
-/

namespace LiveShell.Locate

open Source

set_option autoImplicit false

variable {parsed : Parsed} {leaves : Array Leaf} {first place count : Nat} {closer : Option Nat}

/-! ### Pieces -/

/-- Whether a group goes on at a place: neither its closer nor the end of the source is there. -/
def staysInside (leaves : Array Leaf) (closer : Option Nat) (place : Nat) : Bool :=
  closer ≠ some place && (leafAt leaves place).kind ≠ .finish

/-- Whether a leaf has text and is no line break. -/
def isWritten (leaf : Leaf) : Bool := !isEmpty leaf && leaf.kind ≠ .newline

/-- The places of the written leaves among some from a place on, up to the closer of the group. -/
def writtenPlaces (leaves : Array Leaf) (closer : Option Nat) (place count : Nat) : List Nat :=
  ((List.range' place count).takeWhile (staysInside leaves closer)).filter fun place => isWritten (leafAt leaves place)

/-- Whether a comma stands at a place, with as many closers as openers since the first place. -/
def isCut (leaves : Array Leaf) (first place : Nat) : Bool :=
  isOneOf [","] (leafAt leaves place) && depthOver leaves first place = 0

/-- Places split at the cuts among them, without the empty pieces. -/
def filledPieces (leaves : Array Leaf) (first : Nat) (places : List Nat) : List (List Nat) :=
  (places.splitOnP (isCut leaves first)).filter fun piece => !piece.isEmpty

/-- The pieces of what stands between an opening bracket and its closer, or the end of the source: the places of the
written leaves, split at the commas of depth zero. -/
def argumentPieces (leaves : Array Leaf) (opener : Nat) (closer : Option Nat) : List (List Nat) :=
  filledPieces leaves (opener + 1) (writtenPlaces leaves closer (opener + 1) (leaves.size - (opener + 1)))

/-- The node of an argument: it covers its piece, is the node of the leaf if the piece has only one, and tells of
nothing but its span if the piece has more. -/
structure IsArgument (parsed : Parsed) (piece : List Nat) (node : Node) : Prop where
  covers : node.span =
    ⟨(leafAt parsed.leaves (piece.headD 0)).start, (leafAt parsed.leaves (piece.getLastD 0)).stop⟩
  own : ∀ place, piece = [place] → leafNode parsed place = .ok node
  plain : 1 < piece.length → node = .other node.span

/-! ### Written leaves -/

theorem written_places_none (leaves : Array Leaf) (closer : Option Nat) (place : Nat) :
    writtenPlaces leaves closer place 0 = [] := rfl

theorem written_places_stop (stops : staysInside leaves closer place = false) :
    writtenPlaces leaves closer place (count + 1) = [] := by
  simp [writtenPlaces, List.range'_succ, stops]

theorem written_places_next (stays : staysInside leaves closer place = true) :
    writtenPlaces leaves closer place (count + 1) =
      if isWritten (leafAt leaves place) then place :: writtenPlaces leaves closer (place + 1) count
      else writtenPlaces leaves closer (place + 1) count := by
  simp [writtenPlaces, List.range'_succ, stays, List.filter_cons]

theorem one_of_no_depth {leaf : Leaf} {text : String} (known : isOneOf [text] leaf = true)
    (opens : text ∉ openers) (closes : text ∉ closers) : depthChange leaf = 0 := by
  refine depth_change_other ?_ ?_
  · simp [isOpener, isOneOf, text_of_one known, opens]
  · simp [isCloser, isOneOf, text_of_one known, closes]

/-- Only written leaves change the depth. -/
theorem unwritten_no_depth {leaf : Leaf} (unwritten : isWritten leaf = false) : depthChange leaf = 0 := by
  simp only [isWritten, Bool.and_eq_false_iff, Bool.not_eq_false', decide_eq_false_iff_not, not_not] at unwritten
  rcases unwritten with empty | newline
  · simp only [isEmpty, Bool.and_eq_true, decide_eq_true_eq] at empty
    refine depth_change_other ?_ ?_ <;> simp [isOpener, isCloser, isOneOf, openers, closers, empty.1]
  · refine depth_change_other ?_ ?_ <;> simp [isOpener, isCloser, isOneOf, isOperator, newline]

theorem cut_is_written (cut : isCut leaves first place = true) : isWritten (leafAt leaves place) = true := by
  obtain ⟨comma, _⟩ := Bool.and_eq_true_iff.mp cut
  have text := text_of_one comma
  have operator := (Bool.and_eq_true_iff.mp comma).1
  have noNewline : (leafAt leaves place).kind ≠ .newline := by
    intro newline
    simp [isOperator, newline] at operator
  simp [isWritten, isEmpty, text, noNewline]

/-! ### Pieces under way -/

theorem filled_pieces_uncut {piece : List Nat} (uncut : ∀ passed ∈ piece, isCut leaves first passed = false) :
    filledPieces leaves first piece = [piece].filter fun piece => !piece.isEmpty := by
  rw [filledPieces, List.splitOnP_eq_singleton uncut]

theorem filled_pieces_cut {piece : List Nat} (uncut : ∀ passed ∈ piece, isCut leaves first passed = false)
    (cut : isCut leaves first place = true) (rest : List Nat) :
    filledPieces leaves first (piece ++ place :: rest) =
      ([piece].filter fun piece => !piece.isEmpty) ++ filledPieces leaves first rest := by
  rw [filledPieces, List.splitOnP_append_cons_of_forall_mem uncut _ cut]
  exact List.filter_append [piece] _

/-- The first and the last place of a piece, unless it is empty. -/
def pieceEnds (piece : List Nat) : Option (Nat × Nat) :=
  if piece.isEmpty then none else some (piece.headD 0, piece.getLastD 0)

theorem piece_ends_concat (piece : List Nat) (place : Nat) :
    pieceEnds (piece ++ [place]) = some (((pieceEnds piece).map Prod.fst).getD place, place) := by
  cases piece with
  | nil => rfl
  | cons first rest =>
      have last : (first :: rest ++ [place]).getLastD 0 = place := List.getLastD_concat ..
      show some (first, (first :: rest ++ [place]).getLastD 0) = some (first, place)
      rw [last]

/-- Places in order before a place, none of which is a cut. -/
structure IsUnderWay (leaves : Array Leaf) (first place : Nat) (piece : List Nat) : Prop where
  uncut : ∀ passed ∈ piece, isCut leaves first passed = false
  ordered : piece.Pairwise (· < ·)
  before : ∀ passed ∈ piece, passed < place

theorem nothing_under_way (leaves : Array Leaf) (first place : Nat) : IsUnderWay leaves first place [] :=
  ⟨nofun, .nil, nofun⟩

theorem IsUnderWay.pass {piece : List Nat} (underWay : IsUnderWay leaves first place piece) :
    IsUnderWay leaves first (place + 1) piece :=
  ⟨underWay.uncut, underWay.ordered, fun passed member => Nat.lt_succ_of_lt (underWay.before passed member)⟩

theorem IsUnderWay.take {piece : List Nat} (underWay : IsUnderWay leaves first place piece)
    (uncut : isCut leaves first place = false) : IsUnderWay leaves first (place + 1) (piece ++ [place]) where
  uncut := by
    rw [List.forall_mem_append, List.forall_mem_singleton]
    exact ⟨underWay.uncut, uncut⟩
  ordered := List.pairwise_append.mpr
    ⟨underWay.ordered, List.pairwise_singleton _ _, fun passed member _ here =>
      List.mem_singleton.mp here ▸ underWay.before passed member⟩
  before := by
    rw [List.forall_mem_append, List.forall_mem_singleton]
    exact ⟨underWay.pass.before, Nat.lt_succ_self place⟩

/-- The node of a piece that is not empty. -/
def pieceNode (parsed : Parsed) : List Nat → Except Fault Node
  | [place] => leafNode parsed place
  | piece => pure
      (.other ⟨(leafAt parsed.leaves (piece.headD 0)).start, (leafAt parsed.leaves (piece.getLastD 0)).stop⟩)

/-- What a piece under way comes to: one node, or none if nothing is in it. -/
theorem finish_piece_eq {piece : List Nat} (ordered : piece.Pairwise (· < ·)) :
    argumentsFrom.finishPiece parsed (pieceEnds piece) =
      ([piece].filter fun piece => !piece.isEmpty).mapM (pieceNode parsed) := by
  match piece with
  | [] => rfl
  | [place] => simp [pieceEnds, argumentsFrom.finishPiece, spanNode, pieceNode]
  | first :: second :: rest =>
      have last : (second :: rest).getLastD first ∈ second :: rest := by
        rw [List.getLastD_cons]
        exact List.getLastD_mem_cons
      have apart : first ≠ (second :: rest).getLastD first :=
        Nat.ne_of_lt ((List.pairwise_cons.mp ordered).1 _ last)
      have span : spanNode parsed first ((second :: rest).getLastD first) =
          pieceNode parsed (first :: second :: rest) := if_neg apart
      show (spanNode parsed first ((second :: rest).getLastD first) >>= fun node => pure [node]) = _
      rw [span]
      simp

/-! ### The scan -/

variable {depth : Int} {ends : Option (Nat × Nat)}

theorem arguments_from_stop (stops : staysInside parsed.leaves closer place = false) :
    argumentsFrom parsed closer (count + 1) place depth ends = argumentsFrom.finishPiece parsed ends := by
  have ended : (decide (closer = some place) || decide ((leafAt parsed.leaves place).kind = .finish)) = true := by
    simpa [staysInside, Decidable.or_iff_not_imp_left] using stops
  rw [argumentsFrom, if_pos ended]

theorem not_over (stays : staysInside leaves closer place = true) :
    ¬(decide (closer = some place) || decide ((leafAt leaves place).kind = .finish)) = true := by
  simpa [staysInside] using stays

theorem arguments_from_skip (stays : staysInside parsed.leaves closer place = true)
    (unwritten : isWritten (leafAt parsed.leaves place) = false) :
    argumentsFrom parsed closer (count + 1) place depth ends =
      argumentsFrom parsed closer count (place + 1) depth ends := by
  rw [argumentsFrom, if_neg (not_over stays)]
  by_cases empty : isEmpty (leafAt parsed.leaves place) = true
  · rw [if_pos empty]
  · have newline : (leafAt parsed.leaves place).kind = .newline := by simpa [isWritten, empty] using unwritten
    have noComma : isOneOf [","] (leafAt parsed.leaves place) = false := by simp [isOneOf, isOperator, newline]
    simp only [empty, noComma, newline, Bool.and_false, Bool.false_eq_true, if_false, if_true]

theorem arguments_from_cut (order : first ≤ place) (stays : staysInside parsed.leaves closer place = true)
    (cut : isCut parsed.leaves first place = true) :
    argumentsFrom parsed closer (count + 1) place (depthOver parsed.leaves first place) ends = (do
      let before ← argumentsFrom.finishPiece parsed ends
      let rest ← argumentsFrom parsed closer count (place + 1) (depthOver parsed.leaves first (place + 1)) none
      pure (before ++ rest)) := by
  obtain ⟨comma, zero⟩ := Bool.and_eq_true_iff.mp cut
  have filled : ¬isEmpty (leafAt parsed.leaves place) = true := by
    simpa using (Bool.and_eq_true_iff.mp (cut_is_written cut)).1
  have atComma : (decide (depthOver parsed.leaves first place = 0) &&
      isOneOf [","] (leafAt parsed.leaves place)) = true := Bool.and_eq_true_iff.mpr ⟨zero, comma⟩
  rw [argumentsFrom, if_neg (not_over stays), if_neg filled, if_pos atComma, depth_over_last _ order,
    one_of_no_depth comma (by decide) (by decide), add_zero]

theorem arguments_from_take (order : first ≤ place) (stays : staysInside parsed.leaves closer place = true)
    (written : isWritten (leafAt parsed.leaves place) = true) (uncut : isCut parsed.leaves first place = false) :
    argumentsFrom parsed closer (count + 1) place (depthOver parsed.leaves first place) ends =
      argumentsFrom parsed closer count (place + 1) (depthOver parsed.leaves first (place + 1))
        (some ((ends.map Prod.fst).getD place, place)) := by
  obtain ⟨filled, unbroken⟩ : ¬isEmpty (leafAt parsed.leaves place) = true ∧
      ¬(leafAt parsed.leaves place).kind = .newline := by simpa [isWritten] using written
  have noComma : ¬(decide (depthOver parsed.leaves first place = 0) &&
      isOneOf [","] (leafAt parsed.leaves place)) = true := by
    rw [Bool.and_comm]
    exact Bool.eq_false_iff.mp uncut
  have deeper : (if isOpener (leafAt parsed.leaves place) then depthOver parsed.leaves first place + 1
      else if isCloser (leafAt parsed.leaves place) then depthOver parsed.leaves first place - 1
      else depthOver parsed.leaves first place) = depthOver parsed.leaves first (place + 1) := by
    rw [depth_over_last _ order, depthChange]
    split
    · rfl
    · split <;> omega
  rw [argumentsFrom, if_neg (not_over stays), if_neg filled, if_neg noComma, if_neg unbroken]
  simp only [deeper]

/-- The scan with a piece under way gives the nodes of the pieces of that piece with the leaves still to come. -/
theorem arguments_from_eq (closer : Option Nat) (count : Nat) {piece : List Nat} (order : first ≤ place)
    (underWay : IsUnderWay parsed.leaves first place piece) :
    argumentsFrom parsed closer count place (depthOver parsed.leaves first place) (pieceEnds piece) =
      (filledPieces parsed.leaves first (piece ++ writtenPlaces parsed.leaves closer place count)).mapM
        (pieceNode parsed) := by
  induction count generalizing place piece with
  | zero =>
      rw [argumentsFrom, finish_piece_eq underWay.ordered, written_places_none, List.append_nil,
        filled_pieces_uncut underWay.uncut]
  | succ count induction =>
      have next : first ≤ place + 1 := Nat.le_succ_of_le order
      cases stays : staysInside parsed.leaves closer place with
      | false =>
          rw [arguments_from_stop stays, finish_piece_eq underWay.ordered, written_places_stop stays, List.append_nil,
            filled_pieces_uncut underWay.uncut]
      | true =>
          rw [written_places_next stays]
          cases written : isWritten (leafAt parsed.leaves place) with
          | false =>
              have same : depthOver parsed.leaves first place = depthOver parsed.leaves first (place + 1) := by
                rw [depth_over_last _ order, unwritten_no_depth written, add_zero]
              rw [arguments_from_skip stays written, same]
              exact induction next underWay.pass
          | true =>
              rw [if_pos rfl]
              cases cut : isCut parsed.leaves first place with
              | true =>
                  -- A comma between arguments ends the piece under way.
                  have rest := induction next (nothing_under_way parsed.leaves first (place + 1))
                  rw [List.nil_append] at rest
                  rw [arguments_from_cut order stays cut, finish_piece_eq underWay.ordered,
                    filled_pieces_cut underWay.uncut cut, List.mapM_append, ← rest]
                  rfl
              | false =>
                  have taken := induction next (underWay.take cut)
                  rw [← List.append_cons] at taken
                  rw [arguments_from_take order stays written cut, ← piece_ends_concat]
                  exact taken

/-! ### The arguments -/

theorem string_node_span {span : Span} {closed : Bool} {node : Node} (made : stringNode parsed span closed = .ok node) :
    node.span = span := by
  unfold stringNode at made
  dsimp only at made
  split at made
  · cases made
  · split at made <;> · cases made; rfl

theorem leaf_node_span {node : Node} (made : leafNode parsed place = .ok node) :
    node.span = leafSpan (leafAt parsed.leaves place) := by
  unfold leafNode at made
  dsimp only at made
  split at made
  · cases made
    rfl
  · split at made
    · exact string_node_span made
    · cases made
      rfl

theorem piece_node_iff {piece : List Nat} {node : Node} (filled : piece ≠ []) :
    pieceNode parsed piece = .ok node ↔ IsArgument parsed piece node := by
  match piece with
  | [] => exact absurd rfl filled
  | [place] =>
      refine ⟨fun made => ⟨leaf_node_span made, ?_, nofun⟩, fun argument => argument.own place rfl⟩
      rintro _ ⟨rfl⟩
      exact made
  | first :: second :: rest =>
      constructor
      · intro made
        cases made
        exact ⟨rfl, nofun, fun _ => rfl⟩
      · intro argument
        rw [argument.plain (by simp), argument.covers]
        rfl

theorem map_nodes_iff {pieces : List (List Nat)} {nodes : List Node} (filled : ∀ piece ∈ pieces, piece ≠ []) :
    pieces.mapM (pieceNode parsed) = .ok nodes ↔ List.Forall₂ (IsArgument parsed) pieces nodes := by
  induction pieces generalizing nodes with
  | nil =>
      rw [List.mapM_nil, List.forall₂_nil_left_iff]
      exact ⟨fun same => (Except.ok.inj same).symm, fun same => same ▸ rfl⟩
  | cons piece rest induction =>
      obtain ⟨here, later⟩ := List.forall_mem_cons.mp filled
      simp only [List.mapM_cons, List.forall₂_cons_left_iff, ← piece_node_iff here, ← induction later]
      cases pieceNode parsed piece <;> cases rest.mapM (pieceNode parsed) <;>
        simp [bind, Except.bind, pure, Except.pure, eq_comm]

theorem filled_pieces_filled (leaves : Array Leaf) (first : Nat) (places : List Nat) :
    ∀ piece ∈ filledPieces leaves first places, piece ≠ [] := by
  intro piece member
  simpa using (List.mem_filter.mp member).2

theorem argument_nodes_iff (parsed : Parsed) (opener : Nat) (closer : Option Nat) (nodes : List Node) :
    argumentNodes parsed opener closer = .ok nodes ↔
      List.Forall₂ (IsArgument parsed) (argumentPieces parsed.leaves opener closer) nodes := by
  have whole : argumentNodes parsed opener closer =
      (argumentPieces parsed.leaves opener closer).mapM (pieceNode parsed) := by
    have scan := arguments_from_eq closer (parsed.leaves.size - (opener + 1)) (le_refl (opener + 1))
      (nothing_under_way parsed.leaves (opener + 1) (opener + 1))
    rw [depth_over_empty, List.nil_append] at scan
    exact scan
  rw [whole]
  exact map_nodes_iff (filled_pieces_filled _ _ _)

/-- The arguments of a call are the pieces of what stands in it: one node for each piece, in order. They are given for
every source that its leaves tile, and for any other one unless a leaf that is a piece of its own has no node. -/
theorem arguments_are_pieces (source : String) {opener : Nat} (bound : opener < (parse source).leaves.size)
    (round : isOneOf ["("] (leafAt (parse source).leaves opener) = true) :
    let parsed := parse source
    let closer := matchingCloser? parsed.leaves opener
    (∀ nodes, argumentNodes parsed opener closer = .ok nodes ↔
      List.Forall₂ (IsArgument parsed) (argumentPieces parsed.leaves opener closer) nodes) ∧
    (parsed.Tiled → ∃ nodes, argumentNodes parsed opener closer = .ok nodes) := by
  intro parsed closer
  refine ⟨argument_nodes_iff parsed opener closer, fun tiled => ?_⟩
  obtain ⟨nodes, made, _⟩ := argument_nodes_ok (well_tiled_of_tiled tiled) 0 bound (one_of_more (by decide) round)
  exact ⟨nodes, made⟩

/-- An argument with commas of its own, an empty piece and a literal, in a call that is not closed. -/
theorem arguments_are_pieces_of_open_call :
    let parsed := parse "f(a, (b, c), , 'd'"
    1 < parsed.leaves.size ∧ isOneOf ["("] (leafAt parsed.leaves 1) = true ∧ parsed.Tiled ∧
      matchingCloser? parsed.leaves 1 = none ∧ ∃ nodes, argumentNodes parsed 1 none = .ok nodes ∧
        List.Forall₂ (IsArgument parsed) [[2], [4, 5, 6, 7, 8], [11]] nodes := by
  intro parsed
  obtain ⟨bound, round, tiled, unclosed, pieces⟩ : 1 < (parse "f(a, (b, c), , 'd'").leaves.size ∧
      isOneOf ["("] (leafAt (parse "f(a, (b, c), , 'd'").leaves 1) = true ∧ (parse "f(a, (b, c), , 'd'").Tiled ∧
      matchingCloser? (parse "f(a, (b, c), , 'd'").leaves 1 = none ∧
      argumentPieces (parse "f(a, (b, c), , 'd'").leaves 1 none = [[2], [4, 5, 6, 7, 8], [11]] := by
    decide +kernel
  obtain ⟨given, exist⟩ := arguments_are_pieces "f(a, (b, c), , 'd'" bound round
  obtain ⟨nodes, made⟩ := exist tiled
  have each := (given nodes).mp made
  rw [unclosed] at made each
  rw [pieces] at each
  exact ⟨bound, round, tiled, unclosed, nodes, made, each⟩

/-- What an attempt failed with, if it did. -/
def faultOf? {α : Type} : Except Fault α → Option Fault
  | .ok _ => none
  | .error fault => some fault

/-- A byte order mark moves the leaves of its line away from their texts. The literal is the one argument of the call,
but what is read in its place is no literal, so that there are no arguments at all. -/
theorem argument_behind_mark_missed :
    let parsed := parse "\ufefff('a', "
    isOneOf ["("] (leafAt parsed.leaves 1) = true ∧ matchingCloser? parsed.leaves 1 = none ∧
      (∀ stop ≤ parsed.leaves.size, depthOver parsed.leaves 2 stop = 0) ∧
      argumentPieces parsed.leaves 1 none = [[2]] ∧ (∀ nodes, argumentNodes parsed 1 none ≠ .ok nodes) ∧
      faultOf? (locate "\ufefff('a', " 7) = some .noQuote := by
  intro parsed
  obtain ⟨round, unclosed, balanced, pieces, missed, located⟩ :
      isOneOf ["("] (leafAt (parse "\ufefff('a', ").leaves 1) = true ∧
      matchingCloser? (parse "\ufefff('a', ").leaves 1 = none ∧
      (∀ stop ≤ (parse "\ufefff('a', ").leaves.size, depthOver (parse "\ufefff('a', ").leaves 2 stop = 0) ∧
      argumentPieces (parse "\ufefff('a', ").leaves 1 none = [[2]] ∧
      faultOf? (argumentNodes (parse "\ufefff('a', ") 1 none) = some .noQuote ∧
      faultOf? (locate "\ufefff('a', " 7) = some .noQuote := by
    decide +kernel
  refine ⟨round, unclosed, balanced, pieces, fun nodes made => ?_, located⟩
  have failed : faultOf? (argumentNodes parsed 1 none) = some .noQuote := missed
  rw [made] at failed
  cases failed

end LiveShell.Locate
