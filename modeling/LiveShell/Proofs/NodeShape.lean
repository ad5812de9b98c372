import LiveShell.Proofs.Tiling

/-!
The shape of nodes rebuilt from leaves. Over leaves that tile their source every builder succeeds, on whatever
brackets, and every node in what it builds covers the piece of the source that it tells of. The grammar has no say
here, so the depth of the rebuilding is what the inductions go along.
-/

namespace LiveShell

open Source

set_option autoImplicit false

namespace Node

/-- The nodes that a node holds directly. -/
def children : Node → List Node
  | .member _ object property _ => [object, property]
  | .call _ callee arguments => callee :: arguments
  | .string .. | .identifier .. | .other _ => []

/-- The nodes within a node, itself included. -/
inductive Reaches : Node → Node → Prop
  | self (node : Node) : Reaches node node
  | child {node child part : Node} : child ∈ node.children → Reaches child part → Reaches node part

end Node

namespace Locate

/-- Some string literal that is terminated covers just this span. -/
def IsTerminated (parsed : Parsed) (span : Span) : Prop :=
  ∃ place < parsed.leaves.size,
    (leafAt parsed.leaves place).kind = .string ∧ leafSpan (leafAt parsed.leaves place) = span

/-- A string node: letters, a quote, the value, and the quote again if the literal is terminated. Neither bytes
nor a formatted literal. The letters and the quote are those that completing inside the literal goes by. -/
structure StringShape (parsed : Parsed) (span : Span) (value raw : String) : Prop where
  covers : raw = parsed.slice span.start span.stop
  written : ∃ letters quote closing : List Char,
    Completion.literalOpening raw.toList = (letters, quote) ∧ quote ≠ [] ∧
      (∀ letter ∈ letters, letter ∉ ['b', 'B', 'f', 'F']) ∧ raw.toList = letters ++ quote ++ value.toList ++ closing ∧
      (closing = quote ∧ IsTerminated parsed span ∨ closing = [] ∧ ¬IsTerminated parsed span)

/-- Where the group that an opening bracket starts ends: with its closer, else with the source. -/
def groupStop (parsed : Parsed) (opener : Nat) : Nat :=
  ((matchingCloser? parsed.leaves opener).map fun place => (leafAt parsed.leaves place).stop).getD
    parsed.text.size

/-- A call: its callee ends right before an opening parenthesis, and its arguments follow one another between
that and the end of the call. -/
structure CallShape (parsed : Parsed) (span : Span) (callee : Node) (arguments : List Node) : Prop where
  callee_start : callee.start = span.start
  opened : ∃ opener < parsed.leaves.size,
    isOneOf ["("] (leafAt parsed.leaves opener) = true ∧ span.stop = groupStop parsed opener ∧
      (∃ last first, previous? parsed.leaves opener = some last ∧
        endsOperand (leafAt parsed.leaves last) = true ∧
        primaryStart? parsed.leaves last = some first ∧ (leafAt parsed.leaves first).start = span.start) ∧
      arguments.Pairwise (fun left right => left.stop ≤ right.start) ∧
      ∀ argument ∈ arguments,
        (leafAt parsed.leaves opener).stop ≤ argument.start ∧ argument.stop ≤ span.stop

/-- What a single node keeps, whatever it holds being kept apart. -/
def Fits (parsed : Parsed) (cursor : Nat) (node : Node) : Prop :=
  node.start ≤ node.stop ∧ node.stop ≤ parsed.text.size ∧
    match node with
    | .identifier span name =>
        name = parsed.slice span.start span.stop ∨ name = placeholder ∧ span = ⟨cursor, cursor⟩
    | .string span value raw => StringShape parsed span value raw
    | .member span object property computed =>
        object.start = span.start ∧ property.stop ≤ span.stop ∧
          (computed = false → property.stop = span.stop)
    | .call span callee arguments => CallShape parsed span callee arguments
    | .other _ => True

/-- All nodes within a node keep what a node has to keep. -/
def Sound (parsed : Parsed) (cursor : Nat) (node : Node) : Prop :=
  ∀ part, node.Reaches part → Fits parsed cursor part

variable {parsed : Parsed} {cursor : Nat}

theorem Sound.fits {node : Node} (sound : Sound parsed cursor node) : Fits parsed cursor node :=
  sound node (.self node)

theorem sound_of_children {node : Node} (fits : Fits parsed cursor node)
    (children : ∀ child ∈ node.children, Sound parsed cursor child) : Sound parsed cursor node := by
  intro part reaches
  cases reaches with
  | self => exact fits
  | child member rest => exact children _ member part rest

/-! ### Single leaves -/

theorem slice_toList (parsed : Parsed) (start stop : Nat) :
    (parsed.slice start stop).toList = (parsed.text.extract start stop).toList := by
  rw [Parsed.slice, String.toList_ofList]

/-- A literal over a span of the source becomes a node over that span: a string node if its letters are those of
plain strings. -/
theorem string_node_ok (cursor : Nat) (span : Span) (closed : Bool) (order : span.start ≤ span.stop)
    (inside : span.stop ≤ parsed.text.size)
    (opens : (Literal.opening (parsed.slice span.start span.stop).toList).2 ≠ [])
    (ends : if closed then IsTerminated parsed span ∧
        ∃ body, (parsed.slice span.start span.stop).toList =
          (Literal.opening (parsed.slice span.start span.stop).toList).1 ++
            (Literal.opening (parsed.slice span.start span.stop).toList).2 ++ body ++
            (Literal.opening (parsed.slice span.start span.stop).toList).2
      else ¬IsTerminated parsed span) :
    ∃ node, stringNode parsed span closed = .ok node ∧ node.span = span ∧ Sound parsed cursor node := by
  have rawEq := slice_toList parsed span.start span.stop
  rw [rawEq] at opens ends
  generalize rawDef : (parsed.text.extract span.start span.stop).toList = raw at *
  rcases openingDef : Literal.opening raw with ⟨letters, quote⟩
  simp only [openingDef] at opens ends
  have nonempty : quote.isEmpty = false := by simpa using opens
  by_cases plain : Literal.isPlain letters = true
  · -- The value is the payload, without the closing quote of a terminated literal.
    let payload := raw.drop (letters.length + quote.length)
    let value := if closed then
      payload.take (raw.length - quote.length - (letters.length + quote.length)) else payload
    have made : stringNode parsed span closed = .ok (.string span (String.ofList value) (String.ofList raw)) := by
      simp only [stringNode, rawDef, openingDef, nonempty, plain]
      rfl
    have unmarked : ∀ letter ∈ letters, letter ∉ ['b', 'B', 'f', 'F'] := by
      simpa [Literal.isPlain, List.all_eq_true] using plain
    have split : raw = letters ++ quote ++ payload := by
      have whole := Literal.opening_split raw
      rw [openingDef] at whole
      exact whole
    have shape : StringShape parsed span (String.ofList value) (String.ofList raw) := by
      refine ⟨by rw [← rawEq, String.ofList_toList], letters, quote, ?_⟩
      rw [String.toList_ofList, String.toList_ofList, Literal.literal_opening_eq, openingDef]
      cases closed with
      | true =>
          simp only [if_true] at ends
          obtain ⟨terminated, body, whole⟩ := ends
          have payloadEq : payload = body ++ quote := by
            rw [List.append_assoc] at whole
            exact List.append_cancel_left (split.symm.trans whole)
          have valueEq : value = body := by
            simp only [value, if_true, payloadEq]
            rw [whole]
            apply List.take_left'
            simp only [List.length_append]
            omega
          exact ⟨quote, rfl, opens, unmarked, by rw [valueEq, whole], Or.inl ⟨rfl, terminated⟩⟩
      | false =>
          simp only [Bool.false_eq_true, if_false] at ends
          exact ⟨[], rfl, opens, unmarked, by simpa [value] using split, Or.inr ⟨rfl, ends⟩⟩
    refine ⟨_, made, rfl, sound_of_children ⟨order, inside, shape⟩ (by simp [Node.children])⟩
  · have made : stringNode parsed span closed = .ok (.other span) := by
      have notPlain : Literal.isPlain letters = false := by simpa using plain
      simp only [stringNode, rawDef, openingDef, nonempty, notPlain]
      rfl
    exact ⟨_, made, rfl, sound_of_children ⟨order, inside, trivial⟩ (by simp [Node.children])⟩

theorem leaf_node_ok (tiled : parsed.WellTiled) (cursor : Nat) {place : Nat} (bound : place < parsed.leaves.size) :
    ∃ node, leafNode parsed place = .ok node ∧ node.span = leafSpan (leafAt parsed.leaves place) ∧
      Sound parsed cursor node := by
  have order := tiled.start_le_stop bound
  have inside := tiled.stop_le_size bound
  by_cases named : (isName (leafAt parsed.leaves place) || isKeywordLeaf (leafAt parsed.leaves place)) = true
  · refine ⟨_, by simp only [leafNode, named, if_true]; rfl, rfl, ?_⟩
    exact sound_of_children ⟨order, inside, Or.inl (tiled.covers place bound).2⟩ (by simp [Node.children])
  · by_cases literal : (leafAt parsed.leaves place).kind = .string
    · have text := (tiled.covers place bound).2
      have opens := (tiled.terminated place bound literal).1
      obtain ⟨body, whole⟩ := tiled.string_body bound literal
      simp only [leafNode, named, literal, if_true, Bool.false_eq_true, if_false]
      rw [text] at opens whole
      exact string_node_ok cursor _ true order inside opens (by
        simp only [if_true]
        exact ⟨⟨place, bound, literal, rfl⟩, body, whole⟩)
    · refine ⟨_, by simp only [leafNode, named, literal, Bool.false_eq_true, if_false]; rfl, rfl, ?_⟩
      exact sound_of_children ⟨order, inside, trivial⟩ (by simp [Node.children])

theorem span_node_ok (tiled : parsed.WellTiled) (cursor : Nat) {first last : Nat} (order : first ≤ last)
    (bound : last < parsed.leaves.size) :
    ∃ node, spanNode parsed first last = .ok node ∧
      node.span = ⟨(leafAt parsed.leaves first).start, (leafAt parsed.leaves last).stop⟩ ∧
      Sound parsed cursor node := by
  by_cases same : first = last
  · subst same
    obtain ⟨node, made, span, sound⟩ := leaf_node_ok tiled cursor bound
    exact ⟨node, by simpa [spanNode] using made, span, sound⟩
  · refine ⟨_, by simp only [spanNode, same, if_false]; rfl, rfl, ?_⟩
    have starts := tiled.start_mono order bound
    have width := tiled.start_le_stop bound
    exact sound_of_children ⟨le_trans starts width, tiled.stop_le_size bound, trivial⟩
      (by simp [Node.children])

/-! ### Arguments -/

/-- A node over leaves between two places. -/
def IsBetween (parsed : Parsed) (cursor low high : Nat) (node : Node) : Prop :=
  ∃ first last, low ≤ first ∧ first ≤ last ∧ last < high ∧
    node.span = ⟨(leafAt parsed.leaves first).start, (leafAt parsed.leaves last).stop⟩ ∧
    Sound parsed cursor node

theorem IsBetween.widen {low high lower higher : Nat} {node : Node} (between : IsBetween parsed cursor low high node)
    (below : lower ≤ low) (above : high ≤ higher) : IsBetween parsed cursor lower higher node := by
  obtain ⟨first, last, start, order, stop, span, sound⟩ := between
  exact ⟨first, last, by omega, order, by omega, span, sound⟩

/-- Nodes over leaves on two sides of a place stand apart. -/
theorem IsBetween.apart (tiled : parsed.WellTiled) {low middle high : Nat} {left right : Node}
    (bound : high ≤ parsed.leaves.size) (before : IsBetween parsed cursor low middle left)
    (after : IsBetween parsed cursor middle high right) : left.stop ≤ right.start := by
  obtain ⟨_, last, _, _, inside, leftSpan, _⟩ := before
  obtain ⟨first, _, beyond, order, limit, rightSpan, _⟩ := after
  rw [Node.stop, Node.start, leftSpan, rightSpan]
  exact tiled.stop_le_start (by omega) (by omega)

theorem finish_piece_ok (tiled : parsed.WellTiled) (cursor : Nat) {piece : Option (Nat × Nat)} {low high : Nat}
    (bound : high ≤ parsed.leaves.size)
    (inside : ∀ first last, piece = some (first, last) → low ≤ first ∧ first ≤ last ∧ last < high) :
    ∃ nodes, argumentsFrom.finishPiece parsed piece = .ok nodes ∧
      nodes.Pairwise (fun left right => left.stop ≤ right.start) ∧
      ∀ node ∈ nodes, IsBetween parsed cursor low high node := by
  match piece with
  | none => exact ⟨[], rfl, List.Pairwise.nil, by simp⟩
  | some (first, last) =>
      obtain ⟨start, order, stop⟩ := inside first last rfl
      obtain ⟨node, made, span, sound⟩ := span_node_ok tiled cursor order (by omega)
      refine ⟨[node], by rw [argumentsFrom.finishPiece, made]; rfl, List.pairwise_singleton _ _, ?_⟩
      intro argument member
      rw [List.mem_singleton.mp member]
      exact ⟨first, last, start, order, stop, span, sound⟩

/-- The scan for arguments succeeds with nodes in order, none of which reaches the closer. -/
theorem arguments_from_ok (tiled : parsed.WellTiled) (cursor : Nat) {closer : Option Nat}
    {limit count place low : Nat} (depth : Int) {piece : Option (Nat × Nat)} (limitBound : limit ≤ parsed.leaves.size)
    (stops : closer = some limit ∨ closer = none ∧ limit = parsed.leaves.size)
    (bound : place + count ≤ parsed.leaves.size) (start : low ≤ place) (before : place ≤ limit)
    (inside : ∀ first last, piece = some (first, last) → low ≤ first ∧ first ≤ last ∧ last < place) :
    ∃ nodes, argumentsFrom parsed closer count place depth piece = .ok nodes ∧
      nodes.Pairwise (fun left right => left.stop ≤ right.start) ∧
      ∀ node ∈ nodes, IsBetween parsed cursor low limit node := by
  induction count generalizing place low depth piece with
  | zero =>
      rw [argumentsFrom]
      exact finish_piece_ok tiled cursor limitBound fun first last here => by
        have bounds := inside first last here
        omega
  | succ count induction =>
      have keep : ∀ first last, piece = some (first, last) → low ≤ first ∧ first ≤ last ∧ last < place + 1 :=
        fun first last here => by
          have bounds := inside first last here
          omega
      rw [argumentsFrom]
      by_cases ends : (decide (closer = some place) ||
          decide ((leafAt parsed.leaves place).kind = .finish)) = true
      · simp only [ends, if_true]
        exact finish_piece_ok tiled cursor limitBound fun first last here => by
          have bounds := inside first last here
          omega
      · have goesOn : closer ≠ some place := by
          intro here
          simp [here] at ends
        have beforeLimit : place < limit := by
          rcases stops with closed | ⟨_, whole⟩
          · rcases Nat.eq_or_lt_of_le before with same | less
            · exact absurd (same ▸ closed) goesOn
            · exact less
          · omega
        simp only [ends, Bool.false_eq_true, if_false]
        split
        · exact induction _ (by omega) (by omega) (by omega) keep
        · split
          · -- A comma: the piece under way ends before it, and what comes starts after it.
            obtain ⟨nodes, made, apart, within⟩ := finish_piece_ok tiled cursor
              (show place + 1 ≤ parsed.leaves.size by omega) keep
            have none_under : ∀ first last, none = some (first, last) →
                place + 1 ≤ first ∧ first ≤ last ∧ last < place + 1 := by simp
            obtain ⟨rest, restMade, restApart, restWithin⟩ :=
              induction depth (by omega) (le_refl _) (by omega) none_under
            refine ⟨nodes ++ rest, by rw [made, restMade]; rfl, ?_, ?_⟩
            · refine List.pairwise_append.mpr ⟨apart, restApart, ?_⟩
              intro left leftMember right rightMember
              exact (within left leftMember).apart tiled limitBound (restWithin right rightMember)
            · intro node member
              rcases List.mem_append.mp member with early | late
              · exact (within node early).widen (le_refl _) (by omega)
              · exact (restWithin node late).widen (by omega) (le_refl _)
          · split
            · exact induction _ (by omega) (by omega) (by omega) keep
            · refine induction _ (by omega) (by omega) (by omega) ?_
              intro first last here
              simp only [Option.some.injEq, Prod.mk.injEq] at here
              obtain ⟨rfl, rfl⟩ := here
              match piece with
              | none => exact ⟨start, le_refl _, Nat.lt_succ_self _⟩
              | some (first, last) =>
                  have bounds := inside first last rfl
                  simp only [Option.map_some, Option.getD_some]
                  omega

/-- What an opening bracket starts ends no earlier than the bracket itself. -/
theorem group_stop_bounds (tiled : parsed.WellTiled) {opener : Nat} (bound : opener < parsed.leaves.size)
    (opens : isOpener (leafAt parsed.leaves opener) = true) :
    (leafAt parsed.leaves opener).stop ≤ groupStop parsed opener ∧
      groupStop parsed opener ≤ parsed.text.size := by
  unfold groupStop
  cases closed : matchingCloser? parsed.leaves opener with
  | none => exact ⟨tiled.stop_le_size bound, le_refl _⟩
  | some closer =>
      obtain ⟨after, inside, _, _, _⟩ := matching_closer_depth _ opens bound closed
      exact ⟨tiled.stop_mono (by omega) inside, tiled.stop_le_size inside⟩

/-- The arguments of a group stand in order between its brackets. -/
theorem argument_nodes_ok (tiled : parsed.WellTiled) (cursor : Nat) {opener : Nat} (bound : opener < parsed.leaves.size)
    (opens : isOpener (leafAt parsed.leaves opener) = true) :
    ∃ nodes, argumentNodes parsed opener (matchingCloser? parsed.leaves opener) = .ok nodes ∧
      nodes.Pairwise (fun left right => left.stop ≤ right.start) ∧
      ∀ node ∈ nodes, (leafAt parsed.leaves opener).stop ≤ node.start ∧
        node.stop ≤ groupStop parsed opener ∧ Sound parsed cursor node := by
  have scanned : ∃ limit ≤ parsed.leaves.size, opener + 1 ≤ limit ∧
      (matchingCloser? parsed.leaves opener = some limit ∨
        matchingCloser? parsed.leaves opener = none ∧ limit = parsed.leaves.size) ∧
      ∀ place < limit, (leafAt parsed.leaves place).stop ≤ groupStop parsed opener := by
    unfold groupStop
    cases closed : matchingCloser? parsed.leaves opener with
    | none =>
        exact ⟨_, le_refl _, by omega, Or.inr ⟨rfl, rfl⟩, fun place inside => tiled.stop_le_size inside⟩
    | some closer =>
        obtain ⟨after, inside, _, _, _⟩ := matching_closer_depth _ opens bound closed
        exact ⟨closer, by omega, by omega, Or.inl rfl,
          fun place before => tiled.stop_mono (by omega) inside⟩
  obtain ⟨limit, limitBound, after, stops, within⟩ := scanned
  have none_under : ∀ first last, none = some (first, last) →
      opener + 1 ≤ first ∧ first ≤ last ∧ last < opener + 1 := by simp
  obtain ⟨nodes, made, apart, between⟩ := arguments_from_ok tiled cursor 0 limitBound stops
    (show opener + 1 + (parsed.leaves.size - (opener + 1)) ≤ _ by omega) (le_refl _) after none_under
  refine ⟨nodes, made, apart, ?_⟩
  intro node member
  obtain ⟨first, last, beyond, order, before, span, sound⟩ := between node member
  rw [Node.start, Node.stop, span]
  exact ⟨tiled.stop_le_start (by omega) (by omega), within last before, sound⟩

/-! ### Trailers -/

/-- A builder of primaries does its work on all leaves before a place: its node starts with the first leaf. -/
def BuildsBefore (parsed : Parsed) (cursor place : Nat) (expression : Nat → Nat → Except Fault Node) : Prop :=
  ∀ first last, first ≤ last → last < place → ∃ node, expression first last = .ok node ∧
    node.start = (leafAt parsed.leaves first).start ∧ Sound parsed cursor node

theorem attribute_node_ok (tiled : parsed.WellTiled) {expression : Nat → Nat → Except Fault Node} {dot : Nat}
    {property : Node} (bound : dot < parsed.leaves.size) (builds : BuildsBefore parsed cursor dot expression)
    (after : (leafAt parsed.leaves dot).stop ≤ property.stop) (sound : Sound parsed cursor property) :
    ∃ result, attributeNode expression parsed dot property = .ok result ∧
      ∀ node ∈ result, node.stop = property.stop ∧ node.start ≤ (leafAt parsed.leaves dot).start ∧
        Sound parsed cursor node := by
  unfold attributeNode
  cases before : previous? parsed.leaves dot with
  | none => exact ⟨none, rfl, by simp⟩
  | some last =>
      have lastBefore := (previous_bounds _ before).1
      by_cases ends : endsOperand (leafAt parsed.leaves last) = true
      · simp only [ends, if_true]
        cases started : primaryStart? parsed.leaves last with
        | none => exact ⟨none, rfl, by simp⟩
        | some first =>
            have order := primary_start_le _ started
            obtain ⟨object, made, start, objectSound⟩ := builds first last order lastBefore
            have startBefore := tiled.start_mono (show first ≤ dot by omega) bound
            have dotWidth := tiled.start_le_stop bound
            refine ⟨_, by simp only [made]; rfl, ?_⟩
            intro node member
            have same : node = .member ⟨object.start, property.stop⟩ object property false := by
              simpa using member.symm
            subst same
            refine ⟨rfl, by rw [← start] at startBefore; exact startBefore, ?_⟩
            refine sound_of_children ⟨?_, sound.fits.2.1, rfl, le_refl _, fun _ => rfl⟩ ?_
            · show object.start ≤ property.stop
              omega
            · intro child member
              rcases List.mem_pair.mp member with rfl | rfl
              · exact objectSound
              · exact sound
      · simp only [ends, Bool.false_eq_true, if_false]
        exact ⟨none, rfl, by simp⟩

/-- Where the piece between the brackets of a subscript ends: before its closer, else with the source. -/
def indexStop (parsed : Parsed) (opener : Nat) : Nat :=
  ((matchingCloser? parsed.leaves opener).map fun place => (leafAt parsed.leaves place).start).getD
    (groupStop parsed opener)

theorem index_stop_bounds (tiled : parsed.WellTiled) {opener : Nat} (bound : opener < parsed.leaves.size)
    (opens : isOpener (leafAt parsed.leaves opener) = true) :
    (leafAt parsed.leaves opener).stop ≤ indexStop parsed opener ∧
      indexStop parsed opener ≤ groupStop parsed opener := by
  unfold indexStop
  cases closed : matchingCloser? parsed.leaves opener with
  | none => exact ⟨(group_stop_bounds tiled bound opens).1, le_refl _⟩
  | some closer =>
      obtain ⟨after, inside, _, _, _⟩ := matching_closer_depth _ opens bound closed
      refine ⟨tiled.stop_le_start after inside, ?_⟩
      simp only [groupStop, closed, Option.map_some, Option.getD_some]
      exact tiled.start_le_stop inside

theorem plain_group_sound (tiled : parsed.WellTiled) {opener : Nat} (bound : opener < parsed.leaves.size)
    (opens : isOpener (leafAt parsed.leaves opener) = true) :
    Sound parsed cursor (.other ⟨(leafAt parsed.leaves opener).start, groupStop parsed opener⟩) := by
  obtain ⟨stopAfter, stopInside⟩ := group_stop_bounds tiled bound opens
  have width := tiled.start_le_stop bound
  refine sound_of_children ⟨?_, stopInside, trivial⟩ (by simp [Node.children])
  show (leafAt parsed.leaves opener).start ≤ groupStop parsed opener
  omega

/-- A call over a primary that ends right before an opening parenthesis. -/
theorem call_group_ok (tiled : parsed.WellTiled) {opener before first : Nat} {callee : Node}
    (bound : opener < parsed.leaves.size) (opens : isOpener (leafAt parsed.leaves opener) = true)
    (round : (leafAt parsed.leaves opener).text = "(") (previous : previous? parsed.leaves opener = some before)
    (ends : endsOperand (leafAt parsed.leaves before) = true)
    (started : primaryStart? parsed.leaves before = some first)
    (start : callee.start = (leafAt parsed.leaves first).start)
    (startBefore : callee.start ≤ (leafAt parsed.leaves opener).start) (sound : Sound parsed cursor callee) :
    ∃ arguments, argumentNodes parsed opener (matchingCloser? parsed.leaves opener) = .ok arguments ∧
      Sound parsed cursor (.call ⟨callee.start, groupStop parsed opener⟩ callee arguments) := by
  obtain ⟨stopAfter, stopInside⟩ := group_stop_bounds tiled bound opens
  have width := tiled.start_le_stop bound
  obtain ⟨arguments, made, apart, within⟩ := argument_nodes_ok tiled cursor bound opens
  have operator : isOneOf ["("] (leafAt parsed.leaves opener) = true := by
    simp only [isOpener, isOneOf, Bool.and_eq_true] at opens ⊢
    exact ⟨opens.1, by simp [round]⟩
  have shape : CallShape parsed ⟨callee.start, groupStop parsed opener⟩ callee arguments :=
    ⟨rfl, opener, bound, operator, rfl, ⟨before, first, previous, ends, started, start.symm⟩, apart,
      fun argument member => ⟨(within argument member).1, (within argument member).2.1⟩⟩
  refine ⟨arguments, made, sound_of_children ⟨?_, stopInside, shape⟩ ?_⟩
  · show callee.start ≤ groupStop parsed opener
    omega
  · intro child member
    rcases List.mem_cons.mp member with rfl | argument
    · exact sound
    · exact (within child argument).2.2

/-- An access over a primary that ends right before another opening bracket. -/
theorem index_group_sound (tiled : parsed.WellTiled) {opener : Nat} {object : Node}
    (bound : opener < parsed.leaves.size) (opens : isOpener (leafAt parsed.leaves opener) = true)
    (startBefore : object.start ≤ (leafAt parsed.leaves opener).start) (sound : Sound parsed cursor object) :
    Sound parsed cursor (.member ⟨object.start, groupStop parsed opener⟩ object
      (.other ⟨(leafAt parsed.leaves opener).stop, indexStop parsed opener⟩) true) := by
  obtain ⟨stopAfter, stopInside⟩ := group_stop_bounds tiled bound opens
  obtain ⟨after, within⟩ := index_stop_bounds tiled bound opens
  have width := tiled.start_le_stop bound
  refine sound_of_children ⟨?_, stopInside, rfl, within, by simp⟩ ?_
  · show object.start ≤ groupStop parsed opener
    omega
  · intro child member
    rcases List.mem_pair.mp member with rfl | rfl
    · exact sound
    · exact sound_of_children ⟨after, le_trans within stopInside, trivial⟩ (by simp [Node.children])

/-- What an opening bracket starts runs from no later than the bracket to the end of the group. -/
theorem group_node_ok (tiled : parsed.WellTiled) {expression : Nat → Nat → Except Fault Node} {opener : Nat}
    (bound : opener < parsed.leaves.size) (opens : isOpener (leafAt parsed.leaves opener) = true)
    (builds : BuildsBefore parsed cursor opener expression) :
    ∃ node, groupNode expression parsed opener = .ok node ∧ node.stop = groupStop parsed opener ∧
      node.start ≤ (leafAt parsed.leaves opener).start ∧ Sound parsed cursor node := by
  have plain := (plain_group_sound tiled bound opens : Sound parsed cursor _)
  unfold groupNode
  cases previous : previous? parsed.leaves opener with
  | none => exact ⟨_, rfl, rfl, le_refl _, plain⟩
  | some before =>
      have order := (previous_bounds _ previous).1
      by_cases trailer : (opensTrailer (leafAt parsed.leaves opener) &&
          endsOperand (leafAt parsed.leaves before)) = true
      · simp only [trailer, if_true]
        cases started : primaryStart? parsed.leaves before with
        | none => exact ⟨_, rfl, rfl, le_refl _, plain⟩
        | some first =>
            have firstBefore := primary_start_le _ started
            obtain ⟨target, made, start, targetSound⟩ := builds first before firstBefore order
            have startBefore := tiled.start_mono (show first ≤ opener by omega) bound
            rw [← start] at startBefore
            by_cases round : (leafAt parsed.leaves opener).text = "("
            · have ends := (Bool.and_eq_true_iff.mp trailer).2
              obtain ⟨arguments, argumentsMade, sound⟩ :=
                call_group_ok tiled bound opens round previous ends started start startBefore targetSound
              exact ⟨.call ⟨target.start, groupStop parsed opener⟩ target arguments,
                by simp only [made, round, if_true, argumentsMade]; rfl, rfl, startBefore, sound⟩
            · exact ⟨.member ⟨target.start, groupStop parsed opener⟩ target
                  (.other ⟨(leafAt parsed.leaves opener).stop, indexStop parsed opener⟩) true,
                by simp only [made, round, if_false]; rfl, rfl, startBefore,
                index_group_sound tiled bound opens startBefore targetSound⟩
      · simp only [trailer, Bool.false_eq_true, if_false]
        exact ⟨_, rfl, rfl, le_refl _, plain⟩

/-! ### Primaries -/

theorem trailer_node_ok (tiled : parsed.WellTiled) {expression : Nat → Nat → Except Fault Node} (first : Nat)
    {last : Nat} (bound : last < parsed.leaves.size)
    (builds : ∀ place ≤ last, BuildsBefore parsed cursor place expression) :
    ∃ result, trailerNode expression parsed first last = .ok result ∧
      ∀ node ∈ result, Sound parsed cursor node := by
  simp only [trailerNode]
  split
  · cases before : previous? parsed.leaves last with
    | none => exact ⟨none, rfl, by simp⟩
    | some dot =>
        have dotBefore := (previous_bounds _ before).1
        obtain ⟨property, made, span, sound⟩ := leaf_node_ok tiled cursor bound
        have after : (leafAt parsed.leaves dot).stop ≤ property.stop := by
          rw [Node.stop, span]
          exact tiled.stop_mono (by omega) bound
        obtain ⟨result, resultMade, shape⟩ :=
          attribute_node_ok tiled (by omega) (builds dot (by omega)) after sound
        exact ⟨result, by simp only [made]; exact resultMade, fun node member => (shape node member).2.2⟩
  · split
    · next closes =>
        have isClosing : isCloser (leafAt parsed.leaves last) = true := one_of_more (by decide) closes
        cases matched : matchingOpener? parsed.leaves last with
        | none => exact ⟨none, rfl, by simp⟩
        | some opener =>
            obtain ⟨before, opens, _⟩ := matching_opener_depth _ isClosing matched
            by_cases whole : opener = first
            · exact ⟨none, by simp only [whole, if_true]; rfl, by simp⟩
            · obtain ⟨node, made, _, _, sound⟩ :=
                group_node_ok tiled (by omega) opens (builds opener (by omega))
              refine ⟨some node, by simp only [whole, if_false, made]; rfl, ?_⟩
              intro other member
              rw [← Option.mem_some.mp member]
              exact sound
    · exact ⟨none, rfl, by simp⟩

/-- Every primary has a node that starts with its first leaf, whatever depth is left. -/
theorem expression_within_ok (tiled : parsed.WellTiled) (depth : Nat) :
    BuildsBefore parsed cursor parsed.leaves.size (expressionWithin parsed depth) := by
  induction depth with
  | zero =>
      intro first last order bound
      obtain ⟨node, made, span, sound⟩ := span_node_ok tiled cursor order bound
      exact ⟨node, made, by rw [Node.start, span], sound⟩
  | succ depth induction =>
      intro first last order bound
      rw [expressionWithin]
      by_cases single : first = last
      · obtain ⟨node, made, span, sound⟩ := leaf_node_ok tiled cursor bound
        exact ⟨node, by simpa only [single, if_true] using made, by rw [Node.start, span, single]; rfl, sound⟩
      · obtain ⟨whole, wholeMade, wholeSpan, wholeSound⟩ := span_node_ok tiled cursor order bound
        have wholeStart : whole.start = (leafAt parsed.leaves first).start := by rw [Node.start, wholeSpan]
        obtain ⟨result, made, sound⟩ := trailer_node_ok tiled first bound
          fun place before left right order inside => induction left right order (by omega)
        simp only [single, if_false, made]
        cases result with
        | none => exact ⟨whole, wholeMade, wholeStart, wholeSound⟩
        | some node =>
            by_cases reaches : node.start = (leafAt parsed.leaves first).start
            · refine ⟨node, ?_, reaches, sound node rfl⟩
              show (if node.start = _ then _ else _) = _
              rw [if_pos reaches]
              rfl
            · refine ⟨whole, ?_, wholeStart, wholeSound⟩
              show (if node.start = _ then _ else _) = _
              rw [if_neg reaches]
              exact wholeMade

theorem expression_node_ok (tiled : parsed.WellTiled) {place : Nat} (bound : place ≤ parsed.leaves.size) :
    BuildsBefore parsed cursor place (expressionNode parsed) :=
  fun first last order before => expression_within_ok tiled (last + 1) first last order (by omega)

end Locate

end LiveShell
