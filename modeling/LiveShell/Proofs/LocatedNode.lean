import LiveShell.Proofs.NodeShape

/-!
The node at a cursor. Over leaves that tile their source, locating never fails, and the node it gives encloses the
cursor. The exits differ in what brings their node to the cursor: a leaf that touches it, a placeholder that stands
at it, or a group whose brackets close behind it. Only a literal that its line leaves open may end before the
cursor, and then nothing but the line's break is between them.
-/

namespace LiveShell.Locate

open Source

set_option autoImplicit false

variable {parsed : Parsed} {cursor : Nat}

/-- A literal that its line leaves open: a lone quote stands on the cursor's line at or before the cursor, the
node takes that line to its end, and all that follows up to the cursor are line breaks. -/
structure RunsToLineEnd (parsed : Parsed) (cursor : Nat) (node : Node) : Prop where
  literal : stringNode parsed node.span false = .ok node
  quote : ∃ place < parsed.leaves.size, isOpenQuote (leafAt parsed.leaves place) = true ∧
    (leafAt parsed.leaves place).text.length = 1 ∧ node.start ≤ (leafAt parsed.leaves place).start ∧
    (leafAt parsed.leaves place).start ≤ cursor ∧
    parsed.lines.lineAt (leafAt parsed.leaves place).start = parsed.lines.lineAt cursor
  stop : parsed.lines.lineEnd? (parsed.lines.lineAt cursor) = some node.stop
  breaks : ∀ between, node.stop ≤ between → between < cursor →
    parsed.text[between]? = some '\n' ∨ parsed.text[between]? = some '\r'

/-- The leaf at a place is the first one that ends at or after the cursor. -/
structure Touches (parsed : Parsed) (cursor place : Nat) : Prop where
  bound : place < parsed.leaves.size
  reached : cursor ≤ (leafAt parsed.leaves place).stop
  earlier : ∀ before < place, (leafAt parsed.leaves before).stop < cursor

/-- The cursor stands behind the leaf at a place, with no closing bracket in between. -/
structure Follows (parsed : Parsed) (cursor place : Nat) : Prop where
  bound : place < parsed.leaves.size
  started : (leafAt parsed.leaves place).start ≤ cursor
  dotPassed : isDot (leafAt parsed.leaves place) = true → (leafAt parsed.leaves place).stop ≤ cursor
  closersAhead : ∀ closer, place < closer → closer < parsed.leaves.size →
    isCloser (leafAt parsed.leaves closer) = true → cursor ≤ (leafAt parsed.leaves closer).stop

/-- What an exit gives: maybe a node, and then one around the cursor that is sound throughout. -/
def GivesAround (parsed : Parsed) (cursor : Nat) (exit : Except Fault (Option Node)) : Prop :=
  ∃ result, exit = .ok result ∧
    ∀ node ∈ result, node.start ≤ cursor ∧ cursor ≤ node.stop ∧ Sound parsed cursor node

theorem gives_none : GivesAround parsed cursor (pure none) := ⟨none, rfl, by simp⟩

theorem gives_node {node : Node} (start : node.start ≤ cursor) (stop : cursor ≤ node.stop)
    (sound : Sound parsed cursor node) : GivesAround parsed cursor (pure (some node)) := by
  refine ⟨some node, rfl, ?_⟩
  intro other member
  rw [← Option.mem_some.mp member]
  exact ⟨start, stop, sound⟩

/-! ### Neighbours of the cursor -/

theorem operator_has_text_of {values : List String} {leaf : Leaf} (filled : "" ∉ values)
    (known : isOneOf values leaf = true) : leaf.text ≠ "" := by
  intro empty
  simp only [isOneOf, Bool.and_eq_true, List.contains_eq_mem, decide_eq_true_eq] at known
  rw [empty] at known
  exact filled known.2

theorem closer_has_text {leaf : Leaf} (closes : isCloser leaf = true) : leaf.text ≠ "" :=
  operator_has_text_of (by decide) closes

theorem previous_follows (tiled : parsed.WellTiled) {place before : Nat} (touches : Touches parsed cursor place)
    (found : previous? parsed.leaves place = some before) : Follows parsed cursor before := by
  obtain ⟨order, _, passed⟩ := previous_bounds _ found
  have bound := touches.bound
  have behind := touches.earlier before order
  have width := tiled.start_le_stop (show before < parsed.leaves.size by omega)
  refine ⟨by omega, by omega, fun _ => by omega, ?_⟩
  intro closer after inside closes
  -- Between the two leaves there are none with text, so the bracket is not before the leaf at the cursor.
  have ahead : place ≤ closer := by
    by_contra between
    have empty := passed closer after (by omega)
    simp [isEmpty, closer_has_text closes] at empty
  exact le_trans touches.reached (tiled.stop_mono ahead inside)

theorem operator_follows (tiled : parsed.WellTiled) {place : Nat} (bound : place < parsed.leaves.size)
    (started : (leafAt parsed.leaves place).start < cursor)
    (reached : cursor ≤ (leafAt parsed.leaves place).stop) : Follows parsed cursor place := by
  refine ⟨bound, by omega, ?_, ?_⟩
  · intro dot
    have width := tiled.text_length bound
    rw [text_of_one dot] at width
    have one : ".".length = 1 := rfl
    omega
  · intro closer after inside closes
    exact le_trans reached (tiled.stop_mono (by omega) inside)

/-! ### Groups and accesses around the cursor -/

theorem builds_before (tiled : parsed.WellTiled) (cursor : Nat) {place : Nat} (bound : place < parsed.leaves.size) :
    BuildsBefore parsed cursor place (expressionNode parsed) :=
  expression_node_ok tiled (Nat.le_of_lt bound)

theorem group_gives_around (tiled : parsed.WellTiled) (inside : cursor ≤ parsed.text.size) {opener : Nat}
    (bound : opener < parsed.leaves.size) (opens : isOpener (leafAt parsed.leaves opener) = true)
    (started : (leafAt parsed.leaves opener).start ≤ cursor)
    (closes : ∀ closer, matchingCloser? parsed.leaves opener = some closer →
      cursor ≤ (leafAt parsed.leaves closer).stop) :
    GivesAround parsed cursor (some <$> groupNode (expressionNode parsed) parsed opener) := by
  obtain ⟨node, made, stop, start, sound⟩ := group_node_ok tiled bound opens
    (builds_before tiled cursor bound)
  have reaches : cursor ≤ groupStop parsed opener := by
    unfold groupStop
    cases closed : matchingCloser? parsed.leaves opener with
    | none => exact inside
    | some closer => exact closes closer closed
  rw [made]
  exact gives_node (le_trans start started) (by rw [stop]; exact reaches) sound

theorem attribute_gives_around (tiled : parsed.WellTiled) {dot : Nat} {property : Node}
    (bound : dot < parsed.leaves.size) (started : (leafAt parsed.leaves dot).start ≤ cursor)
    (after : (leafAt parsed.leaves dot).stop ≤ property.stop) (reaches : cursor ≤ property.stop)
    (sound : Sound parsed cursor property) :
    GivesAround parsed cursor (attributeNode (expressionNode parsed) parsed dot property) := by
  obtain ⟨result, made, shape⟩ := attribute_node_ok tiled bound (builds_before tiled cursor bound) after sound
  refine ⟨result, made, ?_⟩
  intro node member
  obtain ⟨stop, start, nodeSound⟩ := shape node member
  exact ⟨le_trans start started, by rw [stop]; exact reaches, nodeSound⟩

theorem placeholder_sound (parsed : Parsed) (inside : cursor ≤ parsed.text.size) :
    Sound parsed cursor (.identifier ⟨cursor, cursor⟩ placeholder) :=
  sound_of_children ⟨le_refl _, inside, Or.inr ⟨rfl, rfl⟩⟩ (by simp [Node.children])

/-- With nothing typed yet there is a placeholder at the cursor, or the group around it. -/
theorem after_leaf_around (tiled : parsed.WellTiled) (inside : cursor ≤ parsed.text.size) {place : Option Nat}
    (follows : ∀ before ∈ place, Follows parsed cursor before) :
    GivesAround parsed cursor (afterLeaf parsed cursor place) := by
  cases place with
  | none => exact gives_none
  | some place =>
      obtain ⟨bound, started, dotPassed, closersAhead⟩ := follows place rfl
      have missing := placeholder_sound parsed inside
      simp only [afterLeaf]
      split
      · exact gives_none
      · split
        · next dot => exact attribute_gives_around tiled bound started (dotPassed dot) (le_refl _) missing
        · split
          · exact gives_node (le_refl _) (le_refl _) missing
          · cases enclosing : enclosingOpener? parsed.leaves place with
            | none => exact gives_none
            | some opener =>
                obtain ⟨order, opens, _, _⟩ := enclosing_from_depth _ enclosing
                have startBefore := tiled.start_mono order bound
                refine group_gives_around tiled inside (by omega) opens (by omega) ?_
                intro closer closed
                have after := enclosing_closes_after _ bound enclosing closed
                obtain ⟨_, closerInside, closes, _, _⟩ :=
                  matching_closer_depth _ opens (by omega) closed
                exact closersAhead closer after closerInside closes

/-! ### The leaf that the cursor touches -/

theorem leaf_gives_around (tiled : parsed.WellTiled) {place : Nat} (bound : place < parsed.leaves.size)
    (started : (leafAt parsed.leaves place).start ≤ cursor)
    (reached : cursor ≤ (leafAt parsed.leaves place).stop) :
    GivesAround parsed cursor (some <$> leafNode parsed place) := by
  obtain ⟨node, made, span, sound⟩ := leaf_node_ok tiled cursor bound
  rw [made]
  exact gives_node (by rw [Node.start, span]; exact started) (by rw [Node.stop, span]; exact reached) sound

/-- A word behind a dot gives the access that it ends, any other word its own node. -/
theorem word_gives_around (tiled : parsed.WellTiled) {place : Nat} (bound : place < parsed.leaves.size)
    (word : (isName (leafAt parsed.leaves place) || isKeywordLeaf (leafAt parsed.leaves place)) = true)
    (started : (leafAt parsed.leaves place).start ≤ cursor)
    (reached : cursor ≤ (leafAt parsed.leaves place).stop) :
    GivesAround parsed cursor (touched parsed cursor place) := by
  obtain ⟨name, made, span, sound⟩ := leaf_node_ok tiled cursor bound
  have nameStart : name.start ≤ cursor := by rw [Node.start, span]; exact started
  have nameStop : name.stop = (leafAt parsed.leaves place).stop := by rw [Node.stop, span]; rfl
  simp only [touched, word, if_true, made, bind, Except.bind]
  split
  · next dot _ before =>
      have dotBefore := (previous_bounds _ before).1
      have dotStart := tiled.start_mono (Nat.le_of_lt dotBefore) bound
      have dotStop := tiled.stop_mono (Nat.le_of_lt dotBefore) bound
      obtain ⟨result, accessMade, around⟩ := attribute_gives_around tiled
        (show dot < parsed.leaves.size by omega) (by omega) (by omega) (by omega) sound
      rw [accessMade]
      cases result with
      | none => exact gives_node nameStart (nameStop ▸ reached) sound
      | some access =>
          obtain ⟨accessStart, accessStop, accessSound⟩ := around access rfl
          exact gives_node accessStart accessStop accessSound
  · exact gives_node nameStart (nameStop ▸ reached) sound

/-- A closing bracket that the cursor has reached gives the group that it ends: no closer before it does. -/
theorem closer_gives_around (tiled : parsed.WellTiled) (inside : cursor ≤ parsed.text.size) {place opener : Nat}
    (bound : place < parsed.leaves.size) (closes : isCloser (leafAt parsed.leaves place) = true)
    (matched : matchingOpener? parsed.leaves place = some opener)
    (started : (leafAt parsed.leaves place).start ≤ cursor)
    (reached : cursor ≤ (leafAt parsed.leaves place).stop) :
    GivesAround parsed cursor (some <$> groupNode (expressionNode parsed) parsed opener) := by
  obtain ⟨order, opens, _, _, _⟩ := matching_opener_depth _ closes matched
  have startBefore := tiled.start_mono (Nat.le_of_lt order) bound
  refine group_gives_around tiled inside (by omega) opens (by omega) ?_
  intro closer closed
  have ahead := matched_closes_at _ bound closes matched closed
  obtain ⟨_, closerInside, _, _, _⟩ := matching_closer_depth _ opens (by omega) closed
  exact le_trans reached (tiled.stop_mono ahead closerInside)

/-- A touched leaf gives a node around the cursor. Only an operator asks for what is before it, so only there it
matters that the leaf is the first one to reach the cursor. -/
theorem touched_around (tiled : parsed.WellTiled) (inside : cursor ≤ parsed.text.size) {place : Nat}
    (bound : place < parsed.leaves.size) (started : (leafAt parsed.leaves place).start ≤ cursor)
    (reached : cursor ≤ (leafAt parsed.leaves place).stop)
    (first : isOperator (leafAt parsed.leaves place) = true → Touches parsed cursor place) :
    GivesAround parsed cursor (touched parsed cursor place) := by
  have beforeOperator : isOperator (leafAt parsed.leaves place) = true →
      GivesAround parsed cursor (afterLeaf parsed cursor (previous? parsed.leaves place)) := fun operator =>
    after_leaf_around tiled inside fun before member => previous_follows tiled (first operator) member
  by_cases word : (isName (leafAt parsed.leaves place) || isKeywordLeaf (leafAt parsed.leaves place)) = true
  · exact word_gives_around tiled bound word started reached
  · simp only [touched, word, Bool.false_eq_true, if_false]
    split
    · next closes =>
        have operator : isOperator (leafAt parsed.leaves place) = true := by
          simp only [isCloser, isOneOf, Bool.and_eq_true] at closes
          exact closes.1
        split
        · exact beforeOperator operator
        · cases matched : matchingOpener? parsed.leaves place with
          | none => exact gives_none
          | some opener => exact closer_gives_around tiled inside bound closes matched started reached
    · split
      · next operator =>
          split
          · exact beforeOperator operator
          · next past =>
              refine after_leaf_around tiled inside fun before member => ?_
              rw [← Option.mem_some.mp member]
              exact operator_follows tiled bound (by omega) reached
      · exact leaf_gives_around tiled bound started reached

/-- Settling a tie keeps the place, or moves on to an operand that starts at the cursor. -/
theorem settle_tie_cases (parsed : Parsed) (cursor place : Nat) :
    settleTie parsed cursor place = place ∨
      settleTie parsed cursor place < parsed.leaves.size ∧
        (leafAt parsed.leaves (settleTie parsed cursor place)).start = cursor ∧
        isOperator (leafAt parsed.leaves (settleTie parsed cursor place)) = false := by
  simp only [settleTie]
  split
  · cases following : next? parsed.leaves place with
    | none => exact Or.inl rfl
    | some following =>
        have bounds := next_bounds _ following
        simp only
        split
        · next operand =>
            right
            simp only [Bool.and_eq_true, decide_eq_true_eq, Bool.or_eq_true] at operand
            refine ⟨bounds.2, operand.1, ?_⟩
            obtain ⟨_, kinds⟩ := operand
            rw [isOperator]
            split
            · next kind => simp [isName, kind] at kinds
            · next kind => simp [isName, kind] at kinds
            · rfl
        · exact Or.inl rfl
  · exact Or.inl rfl

/-! ### Open strings -/

/-- The quote that is found stands at or before both the place and the cursor, on the cursor's line or below. -/
theorem open_quote_spec {leaves : Array Leaf} {line place found : Nat} {before : Option Nat}
    (scan : openQuoteFrom leaves line cursor place before = some found) :
    before = some found ∨ found ≤ place ∧ isOpenQuote (leafAt leaves found) = true ∧
      (leafAt leaves found).start ≤ cursor ∧ line ≤ (leafAt leaves found).stopLine := by
  induction place generalizing before with
  | zero =>
      rw [openQuoteFrom] at scan
      split at scan
      · exact Or.inl scan
      · split at scan
        · next below quote =>
            have here : 0 = found := Option.some.inj scan
            subst here
            simp only [Bool.and_eq_true, decide_eq_true_eq] at quote
            exact Or.inr ⟨le_refl _, quote.1, quote.2, by omega⟩
        · exact Or.inl scan
  | succ place induction =>
      rw [openQuoteFrom] at scan
      split at scan
      · exact Or.inl scan
      · next below =>
          rcases induction scan with known | ⟨order, quote, started, ends⟩
          · split at known
            · next quote =>
                have here : place + 1 = found := Option.some.inj known
                subst here
                simp only [Bool.and_eq_true, decide_eq_true_eq] at quote
                exact Or.inr ⟨le_refl _, quote.1, quote.2, by omega⟩
            · exact Or.inl known
          · exact Or.inr ⟨by omega, quote, started, ends⟩

theorem open_quote_kind {leaf : Leaf} (quote : isOpenQuote leaf = true) :
    leaf.kind = .stray .stray ∧ (Literal.opening leaf.text.toList).2 ≠ [] := by
  simpa [isOpenQuote] using quote

theorem open_quote_has_text {leaf : Leaf} (quote : isOpenQuote leaf = true) : leaf.text ≠ "" := by
  intro empty
  have opens := (open_quote_kind quote).2
  rw [empty] at opens
  exact opens rfl

/-- No terminated literal starts where another leaf with text does. -/
theorem not_terminated_at (tiled : parsed.WellTiled) {place : Nat} {span : Span} (bound : place < parsed.leaves.size)
    (filled : (leafAt parsed.leaves place).text ≠ "") (kind : (leafAt parsed.leaves place).kind ≠ .string)
    (starts : span.start = (leafAt parsed.leaves place).start) : ¬IsTerminated parsed span := by
  rintro ⟨other, otherBound, literal, same⟩
  have otherFilled : (leafAt parsed.leaves other).text ≠ "" := by
    intro empty
    have opens := (tiled.terminated other otherBound literal).1
    rw [empty] at opens
    exact opens rfl
  have here : other = place := by
    refine tiled.place_unique otherBound bound otherFilled filled ?_
    rw [← starts, ← same]
    rfl
  rw [here] at literal
  exact kind literal

/-- A leaf with no spacing before it starts where the leaf before it ends. -/
theorem unspaced_meets (tiled : parsed.WellTiled) {before : Nat} (bound : before + 1 < parsed.leaves.size)
    (filled : (leafAt parsed.leaves (before + 1)).text ≠ "")
    (unspaced : (leafAt parsed.leaves (before + 1)).spacing = "") :
    (leafAt parsed.leaves before).stop = (leafAt parsed.leaves (before + 1)).start := by
  have gap := tiled.spaced (before + 1) bound filled
  have within := tiled.stop_before_le (show before < parsed.leaves.size by omega)
  have order := tiled.stop_le_start (show before < before + 1 by omega) bound
  have inside := tiled.stop_le_size bound
  have width := tiled.start_le_stop bound
  rw [unspaced, Parsed.slice] at gap
  have empty : (parsed.text.extract (parsed.stopBefore (before + 1))
      (leafAt parsed.leaves (before + 1)).start).toList = [] := by
    rw [← @String.toList_ofList (parsed.text.extract _ _).toList, ← gap]
    rfl
  have size := congrArg List.length empty
  rw [Array.length_toList, Array.size_extract, List.length_nil] at size
  omega

/-- What stands between the start of an open literal and its quote are letters of literals. -/
theorem open_start_letters (tiled : parsed.WellTiled) {place : Nat} (bound : place < parsed.leaves.size)
    (filled : (leafAt parsed.leaves place).text ≠ "") :
    openStart parsed.leaves place ≤ (leafAt parsed.leaves place).start ∧
      (∀ letter ∈ (parsed.text.extract (openStart parsed.leaves place)
          (leafAt parsed.leaves place).start).toList, Literal.letters.contains letter = true) ∧
      (openStart parsed.leaves place = (leafAt parsed.leaves place).start ∨
        ∃ before < parsed.leaves.size, (leafAt parsed.leaves before).kind = .name ∧
          (leafAt parsed.leaves before).text ≠ "" ∧
          openStart parsed.leaves place = (leafAt parsed.leaves before).start) := by
  cases place with
  | zero => exact ⟨le_refl _, by simp [openStart], Or.inl rfl⟩
  | succ before =>
      simp only [openStart]
      split
      · next adjacent =>
          simp only [Bool.and_eq_true, decide_eq_true_eq] at adjacent
          obtain ⟨⟨name, unspaced⟩, known⟩ := adjacent
          have beforeBound : before < parsed.leaves.size := by omega
          have meets := unspaced_meets tiled bound filled unspaced
          have text := tiled.text_eq beforeBound
          have length := tiled.text_length beforeBound
          have lettersWidth := tiled.start_le_stop beforeBound
          rw [meets] at text
          refine ⟨by omega, ?_, ?_⟩
          · rw [← text]
            intro letter member
            have spelled := List.all_eq_true.mp known letter member
            rw [List.contains_iff_mem] at spelled ⊢
            have literal : ['r', 'R', 'u', 'U', 'b', 'B'] ⊆ Literal.letters := by decide
            exact literal spelled
          · by_cases lettersFilled : (leafAt parsed.leaves before).text = ""
            · left
              rw [lettersFilled] at length
              have none : "".length = 0 := rfl
              omega
            · exact Or.inr ⟨before, beforeBound, name, lettersFilled, rfl⟩
      · exact ⟨le_refl _, by simp, Or.inl rfl⟩

/-- A literal over several lines has the rest of the source to itself. -/
theorem long_open_string (tiled : parsed.WellTiled) (inside : cursor ≤ parsed.text.size) {found : Nat}
    (bound : found < parsed.leaves.size) (quote : isOpenQuote (leafAt parsed.leaves found) = true)
    (long : 1 < (leafAt parsed.leaves found).text.length)
    (started : (leafAt parsed.leaves found).start ≤ cursor) :
    GivesAround parsed cursor
      (some <$> stringNode parsed (leafSpan (leafAt parsed.leaves found)) false) := by
  obtain ⟨kind, opens⟩ := open_quote_kind quote
  have text := tiled.text_eq bound
  have stop := tiled.unterminated found bound quote long
  obtain ⟨node, made, span, sound⟩ := string_node_ok cursor (leafSpan (leafAt parsed.leaves found)) false
    (tiled.start_le_stop bound) (tiled.stop_le_size bound)
    (by rw [slice_toList]; exact text ▸ opens)
    (by
      simp only [Bool.false_eq_true, if_false]
      exact not_terminated_at tiled bound (open_quote_has_text quote) (by simp [kind]) rfl)
  rw [made]
  refine gives_node (by rw [Node.start, span]; exact started) ?_ sound
  rw [Node.stop, span]
  show cursor ≤ (leafAt parsed.leaves found).stop
  omega

/-- A lone quote is one character of the source, and its leaf is that character. -/
theorem lone_quote_at (tiled : parsed.WellTiled) {found : Nat} (bound : found < parsed.leaves.size)
    (quote : isOpenQuote (leafAt parsed.leaves found) = true)
    (short : ¬1 < (leafAt parsed.leaves found).text.length) :
    ∃ character, (leafAt parsed.leaves found).text.toList = [character] ∧ Literal.IsQuote character ∧
      (leafAt parsed.leaves found).stop = (leafAt parsed.leaves found).start + 1 ∧
      parsed.text.toList[(leafAt parsed.leaves found).start]? = some character := by
  obtain ⟨kind, opens⟩ := open_quote_kind quote
  obtain ⟨character, only, isQuote⟩ := Literal.lone_quote (by rw [String.length_toList]; omega) opens
  have length := tiled.text_length bound
  have order := tiled.start_le_stop bound
  have one : (leafAt parsed.leaves found).text.length = 1 := by
    rw [← String.length_toList, only]
    rfl
  have stopEq : (leafAt parsed.leaves found).stop = (leafAt parsed.leaves found).start + 1 := by omega
  refine ⟨character, only, isQuote, stopEq, ?_⟩
  have text := tiled.text_eq bound
  rw [only, stopEq] at text
  have first := congrArg (fun list : List Char => list[0]?) text
  simp only [List.getElem?_cons_zero] at first
  rw [first, Array.getElem?_toList, Array.getElem?_toList, Array.getElem?_extract]
  simp

/-- From where an open literal starts the source reads as the letters up to its quote and a quote after them. -/
theorem lone_quote_reads (tiled : parsed.WellTiled) {found stop : Nat} {character : Char}
    (bound : found < parsed.leaves.size) (filled : (leafAt parsed.leaves found).text ≠ "")
    (only : (leafAt parsed.leaves found).text.toList = [character])
    (isQuote : Literal.IsQuote character) (after : (leafAt parsed.leaves found).stop ≤ stop) :
    ∃ rest, Literal.opening (parsed.slice (openStart parsed.leaves found) stop).toList =
      ((parsed.text.extract (openStart parsed.leaves found) (leafAt parsed.leaves found).start).toList,
        Literal.quoteAt (character :: rest)) := by
  obtain ⟨startBefore, letters, _⟩ := open_start_letters tiled bound filled
  have width := tiled.start_le_stop bound
  have text := tiled.text_eq bound
  refine ⟨(parsed.text.extract (leafAt parsed.leaves found).stop stop).toList, ?_⟩
  rw [slice_toList, extract_split parsed.text startBefore (show _ ≤ stop by omega),
    extract_split parsed.text width after, ← text, only]
  exact Literal.opening_after_letters _ letters isQuote

/-- A lone quote on the cursor's line takes the line to its end. -/
theorem lone_open_string (tiled : parsed.WellTiled) (inside : cursor ≤ parsed.text.size) {found : Nat}
    (bound : found < parsed.leaves.size) (quote : isOpenQuote (leafAt parsed.leaves found) = true)
    (short : ¬1 < (leafAt parsed.leaves found).text.length)
    (started : (leafAt parsed.leaves found).start ≤ cursor)
    (below : parsed.lines.lineAt cursor ≤ (leafAt parsed.leaves found).stopLine) :
    ∃ stop node, parsed.lines.lineEnd? (parsed.lines.lineAt cursor) = some stop ∧
      stringNode parsed ⟨openStart parsed.leaves found, stop⟩ false = .ok node ∧
      node.start ≤ cursor ∧ RunsToLineEnd parsed cursor node ∧ Sound parsed cursor node := by
  have kind := (open_quote_kind quote).1
  have filled := open_quote_has_text quote
  obtain ⟨character, only, isQuote, stopEq, here⟩ := lone_quote_at tiled bound quote short
  have plain := Literal.quote_is_no_break isQuote
  -- A quote does not end a line, so the leaf stands on one line, and that is the cursor's.
  have sameLine : parsed.lines.lineAt (leafAt parsed.leaves found).start = parsed.lines.lineAt cursor := by
    have next := line_at_succ _ here plain
    have order := line_at_mono parsed.text.toList started
    rw [tiled.stopLine found bound, stopEq] at below
    rw [tiled.lines] at below ⊢
    omega
  obtain ⟨stop, ends, after, stopInside⟩ := offset_before_line_end _ here plain
  rw [← tiled.lines, sameLine] at ends
  obtain ⟨startBefore, _, owner⟩ := open_start_letters tiled bound filled
  have stopBound : stop ≤ parsed.text.size := by simpa using stopInside
  obtain ⟨rest, reads⟩ := lone_quote_reads tiled bound filled only isQuote (show _ ≤ stop by omega)
  have opened : (Literal.opening (parsed.slice (openStart parsed.leaves found) stop).toList).2 ≠ [] := by
    rw [reads]
    exact Literal.quote_at_nonempty isQuote rest
  have unterminated : ¬IsTerminated parsed ⟨openStart parsed.leaves found, stop⟩ := by
    rcases owner with same | ⟨before, beforeBound, name, lettersFilled, same⟩
    · exact not_terminated_at tiled bound filled (by simp [kind]) same
    · exact not_terminated_at tiled beforeBound lettersFilled (by simp [name]) same
  obtain ⟨node, made, span, sound⟩ := string_node_ok cursor ⟨openStart parsed.leaves found, stop⟩ false
    (show openStart parsed.leaves found ≤ stop by omega) stopBound opened
    (by simpa only [Bool.false_eq_true, if_false] using unterminated)
  have nodeStart : node.start = openStart parsed.leaves found := by rw [Node.start, span]
  have nodeStop : node.stop = stop := by rw [Node.stop, span]
  have one : (leafAt parsed.leaves found).text.length = 1 := by
    rw [← String.length_toList, only]
    rfl
  refine ⟨stop, node, ends, made, by omega, ⟨by rw [span, made], ?_, by rw [nodeStop, ends], ?_⟩, sound⟩
  · exact ⟨found, bound, quote, one, by omega, started, sameLine⟩
  · intro between past before
    rw [tiled.lines] at ends
    have broken := breaks_after_line_end parsed.text.toList (by simpa using inside) ends
      (show stop ≤ between by omega) before
    simpa using broken

/-- The unterminated literal that holds the cursor: around it, or on its line to the end. -/
theorem open_string_ok (tiled : parsed.WellTiled) (inside : cursor ≤ parsed.text.size) {place : Nat}
    (bound : place < parsed.leaves.size) :
    ∃ result, openString parsed cursor place = .ok result ∧ ∀ node ∈ result, node.start ≤ cursor ∧
      (cursor ≤ node.stop ∨ RunsToLineEnd parsed cursor node) ∧ Sound parsed cursor node := by
  simp only [openString]
  cases scan : openQuoteFrom parsed.leaves (parsed.lines.lineAt cursor) cursor place none with
  | none => exact ⟨none, rfl, by simp⟩
  | some found =>
      rcases open_quote_spec scan with impossible | ⟨order, quote, started, below⟩
      · simp at impossible
      · have foundBound : found < parsed.leaves.size := by omega
        by_cases long : 1 < (leafAt parsed.leaves found).text.length
        · obtain ⟨result, made, around⟩ := long_open_string tiled inside foundBound quote long started
          refine ⟨result, by simpa only [long, if_true] using made, ?_⟩
          intro node member
          obtain ⟨start, stop, sound⟩ := around node member
          exact ⟨start, Or.inl stop, sound⟩
        · obtain ⟨stop, node, ends, made, start, runs, sound⟩ :=
            lone_open_string tiled inside foundBound quote long started below
          refine ⟨some node, by simp only [long, if_false, ends, Option.getD_some, made]; rfl, ?_⟩
          intro other member
          rw [← Option.mem_some.mp member]
          exact ⟨start, Or.inr runs, sound⟩

/-! ### Locating -/

theorem line_end_exists (tiled : parsed.WellTiled) (offset : Nat) :
    (parsed.lines.lineEnd? (parsed.lines.lineAt offset)).isSome = true := by
  obtain ⟨positive, within, _⟩ := line_at_bounds parsed.text.toList offset
  rw [tiled.lines, line_end_eq _ positive (by omega)]
  rfl

theorem clamp_cursor_le (length : Nat) (cursor : Int) : clampCursor length cursor ≤ length := by
  unfold clampCursor
  omega

/-- Locating inside a tiled source succeeds, and its node is around the cursor or runs to the end of its line. -/
theorem locate_in_ok (tiled : parsed.WellTiled) (inside : cursor ≤ parsed.text.size) :
    ∃ result, locateIn parsed cursor = .ok result ∧ ∀ node ∈ result, node.start ≤ cursor ∧
      (cursor ≤ node.stop ∨ RunsToLineEnd parsed cursor node) ∧ Sound parsed cursor node := by
  obtain ⟨place, found, bound, reached, earlier⟩ := tiled.leaf_at_offset inside
  have touches : Touches parsed cursor place := ⟨bound, reached, earlier⟩
  obtain ⟨string, opened, shape⟩ := open_string_ok tiled inside bound
  simp only [locateIn, found, opened]
  cases string with
  | some node => exact ⟨some node, rfl, shape⟩
  | none =>
      have exit : GivesAround parsed cursor
          (let leaf := leafAt parsed.leaves place
          let before := previous? parsed.leaves place
          if leaf.text = "" || cursor < leaf.start then afterLeaf parsed cursor before
          else if leaf.kind = .newline then
            afterLeaf parsed cursor (if cursor = leaf.stop then some place else before)
          else touched parsed cursor (settleTie parsed cursor place)) := by
        have beforeCursor : GivesAround parsed cursor (afterLeaf parsed cursor (previous? parsed.leaves place)) :=
          after_leaf_around tiled inside fun before member => previous_follows tiled touches member
        simp only
        split
        · exact beforeCursor
        · next filled =>
            simp only [Bool.or_eq_true, decide_eq_true_eq, not_or, Nat.not_lt] at filled
            split
            · next newline =>
                split
                · exact ⟨none, by simp [afterLeaf, newline]; rfl, by simp⟩
                · exact beforeCursor
            · rcases settle_tie_cases parsed cursor place with same | ⟨within, starts, word⟩
              · rw [same]
                exact touched_around tiled inside bound filled.2 reached fun _ => touches
              · have width := tiled.start_le_stop within
                exact touched_around tiled inside within (by omega) (by omega) fun operator => by
                  rw [word] at operator
                  exact absurd operator Bool.false_ne_true
      obtain ⟨result, made, around⟩ := exit
      refine ⟨result, made, ?_⟩
      intro node member
      obtain ⟨start, stop, sound⟩ := around node member
      exact ⟨start, Or.inl stop, sound⟩

theorem locate_eq (source : String) (cursor : Int) :
    locate source cursor = locateIn (parse source) (clampCursor source.length cursor) := by
  rw [← String.length_toList]
  rfl

theorem parse_size (source : String) : (parse source).text.size = source.length := by
  rw [← String.length_toList]
  rfl

/-- Locating never fails on a source that its leaves tile: the cursor's line is there, and so is what is asked of
it. The node encloses the cursor, which is first taken into the source; only a literal that its line leaves open
may end before it, at the break of that line. -/
theorem locate_encloses_cursor (source : String) (cursor : Int) (tiled : (parse source).Tiled) :
    ((parse source).lines.lineEnd?
      ((parse source).lines.lineAt (clampCursor source.length cursor))).isSome = true ∧
    ∃ found, locate source cursor = .ok found ∧ ∀ node ∈ found,
      node.start ≤ clampCursor source.length cursor ∧ node.start ≤ node.stop ∧ node.stop ≤ source.length ∧
      (clampCursor source.length cursor ≤ node.stop ∨
        RunsToLineEnd (parse source) (clampCursor source.length cursor) node) := by
  have inside := clamp_cursor_le source.length cursor
  rw [← parse_size] at inside
  obtain ⟨found, made, shape⟩ := locate_in_ok (well_tiled_of_tiled tiled) inside
  rw [← parse_size, locate_eq, ← parse_size]
  refine ⟨line_end_exists (well_tiled_of_tiled tiled) _, found, made, ?_⟩
  intro node member
  obtain ⟨start, stop, sound⟩ := shape node member
  exact ⟨start, sound.fits.1, sound.fits.2.1, stop⟩

theorem locate_encloses_cursor_in_open_literal :
    (parse "f('a").Tiled ∧
    ((parse "f('a").lines.lineEnd?
      ((parse "f('a").lines.lineAt (clampCursor "f('a".length 9))).isSome = true ∧
    ∃ found, locate "f('a" 9 = .ok found ∧ ∀ node ∈ found,
      node.start ≤ clampCursor "f('a".length 9 ∧ node.start ≤ node.stop ∧ node.stop ≤ "f('a".length ∧
      (clampCursor "f('a".length 9 ≤ node.stop ∨
        RunsToLineEnd (parse "f('a") (clampCursor "f('a".length 9) node) := by
  have tiled : (parse "f('a").Tiled := by decide +kernel
  exact ⟨tiled, locate_encloses_cursor "f('a" 9 tiled⟩

/-- Every node of a located tree, the innermost ones included, keeps the shape of its kind. -/
theorem located_tree_well_formed (source : String) (cursor : Int) (tiled : (parse source).Tiled) :
    ∃ found, locate source cursor = .ok found ∧ ∀ node ∈ found, ∀ part, node.Reaches part →
      Fits (parse source) (clampCursor source.length cursor) part := by
  have inside := clamp_cursor_le source.length cursor
  rw [← parse_size] at inside
  obtain ⟨found, made, shape⟩ := locate_in_ok (well_tiled_of_tiled tiled) inside
  rw [← parse_size, locate_eq, ← parse_size]
  exact ⟨found, made, fun node member => (shape node member).2.2⟩

theorem located_tree_well_formed_in_call :
    (parse "f(a, 'b')").Tiled ∧ ∃ found, locate "f(a, 'b')" 9 = .ok found ∧ ∀ node ∈ found, ∀ part,
      node.Reaches part → Fits (parse "f(a, 'b')") (clampCursor "f(a, 'b')".length 9) part := by
  have tiled : (parse "f(a, 'b')").Tiled := by decide +kernel
  exact ⟨tiled, located_tree_well_formed "f(a, 'b')" 9 tiled⟩

end LiveShell.Locate
