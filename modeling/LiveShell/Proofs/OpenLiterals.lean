import LiveShell.Proofs.LocatedNode

/-!
The literal that a line leaves open. The first quote that is never closed and stands on a line, or above it and goes on
over it, owns the line from there: every cursor behind it gives the same node, whatever else stands on the line. The
scan for the quote starts at a leaf that depends on the cursor, but it goes on to the left as long as leaves reach the
line, so it always ends with the first quote.
-/

namespace LiveShell.Locate

open Source

set_option autoImplicit false

variable {parsed : Parsed} {line place : Nat}

/-! ### The first open quote of a line -/

/-- An open quote that starts on a line or above it, and does not end above it. -/
structure OpensOver (parsed : Parsed) (line place : Nat) : Prop where
  quote : isOpenQuote (leafAt parsed.leaves place) = true
  starts : parsed.lines.lineAt (leafAt parsed.leaves place).start ≤ line
  reaches : line ≤ (leafAt parsed.leaves place).stopLine

/-- The first of the open quotes over a line. -/
structure OwnsLine (parsed : Parsed) (line place : Nat) : Prop extends OpensOver parsed line place where
  bound : place < parsed.leaves.size
  first : ∀ before < place, ¬OpensOver parsed line before

/-- Where no quote is found the scan comes back with what it had before. -/
theorem open_quote_kept {leaves : Array Leaf} {cursor : Nat} {before : Option Nat}
    (none : ∀ other ≤ place, isOpenQuote (leafAt leaves other) = true → (leafAt leaves other).start ≤ cursor →
      (leafAt leaves other).stopLine < line) :
    openQuoteFrom leaves line cursor place before = before := by
  have passed : ∀ other ≤ place, ¬(leafAt leaves other).stopLine < line →
      (isOpenQuote (leafAt leaves other) && decide ((leafAt leaves other).start ≤ cursor)) = false := by
    intro other order reaches
    rw [Bool.and_eq_false_imp]
    exact fun quote => decide_eq_false fun started => reaches (none other order quote started)
  induction place with
  | zero =>
      rw [openQuoteFrom]
      split
      · rfl
      · next reaches => simp [passed 0 (le_refl _) reaches]
  | succ place induction =>
      rw [openQuoteFrom]
      split
      · rfl
      · next reaches =>
          simp only [passed _ (le_refl _) reaches, Bool.false_eq_true, if_false]
          exact induction (fun other order => none other (Nat.le_succ_of_le order))
            fun other order => passed other (Nat.le_succ_of_le order)

/-- From any place on, the scan finds the first quote if every leaf in between reaches the line. -/
theorem open_quote_found {leaves : Array Leaf} {cursor found : Nat} {before : Option Nat} (order : found ≤ place)
    (quote : isOpenQuote (leafAt leaves found) = true) (started : (leafAt leaves found).start ≤ cursor)
    (reach : ∀ between, found ≤ between → between ≤ place → line ≤ (leafAt leaves between).stopLine)
    (first : ∀ other < found, isOpenQuote (leafAt leaves other) = true → (leafAt leaves other).start ≤ cursor →
      (leafAt leaves other).stopLine < line) :
    openQuoteFrom leaves line cursor place before = some found := by
  induction place generalizing before with
  | zero =>
      obtain rfl : found = 0 := by omega
      have here := reach 0 (le_refl _) (le_refl _)
      rw [openQuoteFrom, if_neg (by omega), if_pos (by simp [quote, started])]
  | succ place induction =>
      have here := reach (place + 1) order (le_refl _)
      rw [openQuoteFrom, if_neg (by omega)]
      rcases Nat.eq_or_lt_of_le order with rfl | earlier
      · rw [if_pos (by simp [quote, started])]
        exact open_quote_kept fun other below => first other (Nat.lt_succ_of_le below)
      · exact induction (Nat.le_of_lt_succ earlier) fun between low high => reach between low (by omega)

/-- Whatever leaf a cursor touches behind the first open quote of its line, the scan ends with that quote. -/
theorem owner_found {cursor touched : Nat} (tiled : parsed.WellTiled) (owner : OwnsLine parsed line place)
    (onLine : parsed.lines.lineAt cursor = line) (behind : (leafAt parsed.leaves place).start < cursor)
    (touches : Touches parsed cursor touched) :
    openQuoteFrom parsed.leaves line cursor touched none = some place := by
  have reached := touches.reached
  have order : place ≤ touched := by
    by_contra after
    have before := tiled.stop_le_start (Nat.lt_of_not_le after) owner.bound
    omega
  refine open_quote_found order owner.quote (Nat.le_of_lt behind) ?_ ?_
  · intro between low high
    have inside : between < parsed.leaves.size := Nat.lt_of_le_of_lt high touches.bound
    have stops := line_at_mono parsed.text.toList (tiled.stop_mono low inside)
    have ends := owner.reaches
    rw [tiled.stopLine _ owner.bound, tiled.lines] at ends
    rw [tiled.stopLine _ inside, tiled.lines]
    exact ends.trans stops
  · intro other earlier quote started
    by_contra reaches
    refine owner.first other earlier ⟨quote, ?_, Nat.le_of_not_lt reaches⟩
    rw [← onLine, tiled.lines]
    exact line_at_mono _ started

/-! ### Its literal -/

/-- The name right before a quote, if letters of literals are all that it is made of. -/
structure LettersBefore (parsed : Parsed) (place before : Nat) : Prop where
  next : place = before + 1
  name : (leafAt parsed.leaves before).kind = .name
  filled : (leafAt parsed.leaves before).text ≠ ""
  letters : ∀ letter ∈ (leafAt parsed.leaves before).text.toList, letter ∈ ['r', 'R', 'u', 'U', 'b', 'B']
  meets : (leafAt parsed.leaves before).stop = (leafAt parsed.leaves place).start

theorem LettersBefore.before_bound {before : Nat} (letters : LettersBefore parsed place before)
    (bound : place < parsed.leaves.size) : before < parsed.leaves.size := by
  rw [letters.next] at bound
  exact Nat.lt_of_succ_lt bound

/-- What an open quote makes its literal, as a span and the letters in front of the quote. A quote with more behind it
in its leaf keeps to the leaf. A lone one takes the letters right before it and the rest of the line. -/
inductive OpensLiteral (parsed : Parsed) (line place : Nat) : Span → List Char → Prop
  | continued (several : 1 < (leafAt parsed.leaves place).text.length) :
      OpensLiteral parsed line place (leafSpan (leafAt parsed.leaves place))
        (Literal.opening (leafAt parsed.leaves place).text.toList).1
  | lettered {before stop : Nat} (alone : (leafAt parsed.leaves place).text.length = 1)
      (letters : LettersBefore parsed place before) (ends : parsed.lines.lineEnd? line = some stop) :
      OpensLiteral parsed line place ⟨(leafAt parsed.leaves before).start, stop⟩
        (leafAt parsed.leaves before).text.toList
  | bare {stop : Nat} (alone : (leafAt parsed.leaves place).text.length = 1)
      (noLetters : ∀ before, ¬LettersBefore parsed place before) (ends : parsed.lines.lineEnd? line = some stop) :
      OpensLiteral parsed line place ⟨(leafAt parsed.leaves place).start, stop⟩ []

/-- The node of a literal that is left open: a string with all that follows its quote, unless its letters make it a
bytes or formatted literal. -/
inductive IsOpenLiteral (parsed : Parsed) (span : Span) (letters : List Char) : Node → Prop
  | plain {mark : Char} {quote value : List Char} (plain : ∀ letter ∈ letters, letter ∉ ['b', 'B', 'f', 'F'])
      (isQuote : Literal.IsQuote mark) (known : quote = [mark] ∨ quote = [mark, mark, mark])
      (split : (parsed.slice span.start span.stop).toList = letters ++ quote ++ value) :
      IsOpenLiteral parsed span letters (.string span (String.ofList value) (parsed.slice span.start span.stop))
  | marked {letter : Char} (member : letter ∈ letters) (marks : letter ∈ ['b', 'B', 'f', 'F']) :
      IsOpenLiteral parsed span letters (.other span)

/-- A piece of the source that reads as an open literal becomes its node. -/
theorem open_literal_node {span : Span} (opens : (Literal.opening (parsed.slice span.start span.stop).toList).2 ≠ []) :
    ∃ node, stringNode parsed span false = .ok node ∧
      IsOpenLiteral parsed span (Literal.opening (parsed.slice span.start span.stop).toList).1 node := by
  have split := Literal.opening_split (parsed.slice span.start span.stop).toList
  obtain ⟨mark, isQuote, known⟩ := Literal.quote_at_known opens
  rw [stringNode, ← slice_toList]
  rcases reads : Literal.opening (parsed.slice span.start span.stop).toList with ⟨letters, quote⟩
  rw [reads] at opens split
  have filled : quote.isEmpty = false := by simpa using opens
  by_cases plain : Literal.isPlain letters = true
  · have same : quote = Literal.quoteAt _ := (congrArg Prod.snd reads).symm
    rw [← same] at known
    refine ⟨_, by simp [filled, plain]; rfl, .plain ?_ isQuote known split⟩
    simpa [Literal.isPlain, List.all_eq_true] using plain
  · obtain ⟨letter, member, marks⟩ : ∃ letter ∈ letters, letter ∈ ['b', 'B', 'f', 'F'] := by
      by_contra none
      simp only [not_exists, not_and] at none
      exact plain (by simpa [Literal.isPlain, List.all_eq_true] using none)
    exact ⟨.other span, by simp [filled, plain]; rfl, .marked member marks⟩

/-- The literal of a lone quote starts with the letters before it, if there are such letters, and else with the quote. -/
theorem open_start_cases (tiled : parsed.WellTiled) (bound : place < parsed.leaves.size)
    (filled : (leafAt parsed.leaves place).text ≠ "") :
    (∃ before, LettersBefore parsed place before ∧
      openStart parsed.leaves place = (leafAt parsed.leaves before).start) ∨
    (∀ before, ¬LettersBefore parsed place before) ∧
      openStart parsed.leaves place = (leafAt parsed.leaves place).start := by
  cases place with
  | zero => exact Or.inr ⟨fun before letters => (by simpa using letters.next), rfl⟩
  | succ before =>
      have beforeBound : before < parsed.leaves.size := Nat.lt_of_succ_lt bound
      by_cases letters : LettersBefore parsed (before + 1) before
      · left
        refine ⟨before, letters, ?_⟩
        have stop : parsed.stopBefore (before + 1) = (leafAt parsed.leaves before).stop := by
          have here : previous? parsed.leaves (before + 1) = some before := by
            rw [previous?, if_neg (by simp [isEmpty, letters.filled])]
          rw [Parsed.stopBefore, here]
        have unspaced := tiled.spaced (before + 1) bound filled
        rw [stop, letters.meets, Parsed.slice, Array.extract_empty_of_stop_le_start (le_refl _)] at unspaced
        have only : onlyLiteralLetters (leafAt parsed.leaves before).text = true :=
          List.all_eq_true.mpr fun letter member => List.contains_iff_mem.mpr (letters.letters letter member)
        simp [openStart, letters.name, unspaced, only]
      · right
        refine ⟨fun other isLetters => letters ?_, ?_⟩
        · obtain rfl : before = other := by simpa using isLetters.next
          exact isLetters
        · simp only [openStart]
          split
          · next adjacent =>
              -- A name that is not there in letters starts where it ends, and that is where the quote starts.
              simp only [Bool.and_eq_true, decide_eq_true_eq] at adjacent
              obtain ⟨⟨name, unspaced⟩, only⟩ := adjacent
              have meets := unspaced_meets tiled bound filled unspaced
              have none : (leafAt parsed.leaves before).text = "" := by
                by_contra some
                refine letters ⟨rfl, name, some, fun letter member => ?_, meets⟩
                exact List.contains_iff_mem.mp (List.all_eq_true.mp only letter member)
              have width := tiled.text_length beforeBound
              have order := tiled.start_le_stop beforeBound
              rw [none] at width
              have zero : "".length = 0 := rfl
              omega
          · rfl

/-- A lone quote that owns a line stands on that line, before the line's end. -/
theorem lone_owner_ends (tiled : parsed.WellTiled) (owner : OwnsLine parsed line place)
    (alone : ¬1 < (leafAt parsed.leaves place).text.length) :
    ∃ stop, parsed.lines.lineEnd? line = some stop ∧ (leafAt parsed.leaves place).stop ≤ stop := by
  obtain ⟨character, only, isQuote, stopEq, here⟩ := lone_quote_at tiled owner.bound owner.quote alone
  have plain := Literal.quote_is_no_break isQuote
  have sameLine : parsed.lines.lineAt (leafAt parsed.leaves place).start = line := by
    have next := line_at_succ _ here plain
    have starts := owner.starts
    have reaches := owner.reaches
    rw [tiled.stopLine _ owner.bound, stopEq] at reaches
    rw [tiled.lines] at starts reaches ⊢
    omega
  obtain ⟨stop, ends, after, _⟩ := offset_before_line_end _ here plain
  rw [← tiled.lines, sameLine] at ends
  exact ⟨stop, ends, by omega⟩

/-- The span of the literal that the owner of a line opens. -/
def ownedSpan (parsed : Parsed) (line place : Nat) : Span :=
  if 1 < (leafAt parsed.leaves place).text.length then leafSpan (leafAt parsed.leaves place)
  else ⟨openStart parsed.leaves place, (parsed.lines.lineEnd? line).getD parsed.text.size⟩

/-- Behind the owner of its line a cursor is in the owner's literal. -/
theorem open_string_of_owner {cursor touched : Nat} (tiled : parsed.WellTiled) (owner : OwnsLine parsed line place)
    (onLine : parsed.lines.lineAt cursor = line) (behind : (leafAt parsed.leaves place).start < cursor)
    (touches : Touches parsed cursor touched) :
    openString parsed cursor touched = some <$> stringNode parsed (ownedSpan parsed line place) false := by
  rw [openString, onLine, owner_found tiled owner onLine behind touches, ownedSpan]
  simp only
  split <;> rfl

/-- That literal reads as letters, those of the quote or those before it, and a quote. -/
theorem owned_span_opens (tiled : parsed.WellTiled) (owner : OwnsLine parsed line place) :
    let written := (parsed.slice (ownedSpan parsed line place).start (ownedSpan parsed line place).stop).toList
    OpensLiteral parsed line place (ownedSpan parsed line place) (Literal.opening written).1 ∧
      (Literal.opening written).2 ≠ [] := by
  have filled := open_quote_has_text owner.quote
  by_cases several : 1 < (leafAt parsed.leaves place).text.length
  · have text := tiled.text_eq owner.bound
    rw [← slice_toList] at text
    rw [ownedSpan, if_pos several]
    simp only [leafSpan, ← text]
    exact ⟨.continued several, (open_quote_kind owner.quote).2⟩
  · obtain ⟨character, only, isQuote, _⟩ := lone_quote_at tiled owner.bound owner.quote several
    obtain ⟨stop, ends, after⟩ := lone_owner_ends tiled owner several
    obtain ⟨rest, reads⟩ := lone_quote_reads tiled owner.bound filled only isQuote after
    have alone : (leafAt parsed.leaves place).text.length = 1 := by
      rw [← String.length_toList, only]
      rfl
    rw [ownedSpan, if_neg several, ends, Option.getD_some]
    simp only [reads]
    refine ⟨?_, Literal.quote_at_nonempty isQuote rest⟩
    rcases open_start_cases tiled owner.bound filled with ⟨before, letters, starts⟩ | ⟨noLetters, starts⟩
    · have text := tiled.text_eq (letters.before_bound owner.bound)
      rw [letters.meets] at text
      rw [starts, ← text]
      exact .lettered alone letters ends
    · rw [starts, Array.extract_empty_of_stop_le_start (le_refl _)]
      exact .bare alone noLetters ends

/-- An open quote owns the rest of its line: every cursor of the line behind the first one is in one and the same
literal. It starts at the quote, or at the letters right before a lone quote, goes on to the end of a lone quote's line or
of a longer quote's leaf, and is a string unless its letters are those of bytes or formatted literals. -/
theorem open_literal_owns_line (source : String) (tiled : (parse source).Tiled) {line place : Nat}
    (owner : OwnsLine (parse source) line place) :
    ∃ span letters node, OpensLiteral (parse source) line place span letters ∧
      IsOpenLiteral (parse source) span letters node ∧
      ∀ cursor : Int, (parse source).lines.lineAt (clampCursor source.length cursor) = line →
        (leafAt (parse source).leaves place).start < clampCursor source.length cursor →
          locate source cursor = .ok (some node) := by
  have wellTiled := well_tiled_of_tiled tiled
  obtain ⟨opensLiteral, opens⟩ := owned_span_opens wellTiled owner
  obtain ⟨node, made, isLiteral⟩ := open_literal_node opens
  refine ⟨_, _, node, opensLiteral, isLiteral, fun cursor onLine behind => ?_⟩
  have inside : clampCursor source.length cursor ≤ (parse source).text.size := by
    rw [parse_size]
    exact clamp_cursor_le _ _
  obtain ⟨touched, first, bound, reached, earlier⟩ := wellTiled.leaf_at_offset inside
  have opened := open_string_of_owner wellTiled owner onLine behind ⟨bound, reached, earlier⟩
  rw [made] at opened
  rw [locate_eq]
  simp only [locateIn, first, opened]
  rfl

theorem open_literal_owns_line_over_call :
    let source := "g(r'a(b, \"c\").d"
    (parse source).Tiled ∧ OwnsLine (parse source) 1 3 ∧
      ∃ span letters node, OpensLiteral (parse source) 1 3 span letters ∧
        IsOpenLiteral (parse source) span letters node ∧
        ∀ cursor : Int, (parse source).lines.lineAt (clampCursor source.length cursor) = 1 →
          (leafAt (parse source).leaves 3).start < clampCursor source.length cursor →
            locate source cursor = .ok (some node) := by
  intro source
  obtain ⟨tiled, quote, starts, reaches, bound, others⟩ : (parse source).Tiled ∧
      isOpenQuote (leafAt (parse source).leaves 3) = true ∧
      (parse source).lines.lineAt (leafAt (parse source).leaves 3).start ≤ 1 ∧
      1 ≤ (leafAt (parse source).leaves 3).stopLine ∧ 3 < (parse source).leaves.size ∧
      ∀ before < 3, isOpenQuote (leafAt (parse source).leaves before) = false := by
    decide +kernel
  have owner : OwnsLine (parse source) 1 3 := by
    refine ⟨⟨quote, starts, reaches⟩, bound, fun before earlier opens => ?_⟩
    have known := opens.quote
    rw [others before earlier] at known
    cases known
  exact ⟨tiled, owner, open_literal_owns_line source tiled owner⟩

end LiveShell.Locate
