import Mathlib.Tactic.IntervalCases
import LiveShell.Proofs.LineBounds
import LiveShell.Proofs.QuoteForms
import LiveShell.Source.Scan

/-!
The literals among scanned tokens. A token of a string opens with letters and a quote and ends with the same quote.
Of the stray tokens that open a literal, all but lone quotes go on to the end of the source. Both hold of every
text, since they are kept by each round of the scanner, whatever the line holds.
-/

namespace LiveShell.Source

set_option autoImplicit false

/-! ### Matchers -/

theorem extract_split {α : Type} (row : Array α) {low middle high : Nat} (first : low ≤ middle)
    (second : middle ≤ high) :
    (row.extract low high).toList = (row.extract low middle).toList ++ (row.extract middle high).toList := by
  rw [← Array.toList_append, Array.extract_append_extract, Nat.min_eq_left first, Nat.max_eq_right second]

theorem starts_with_eq {row : Array Char} {column : Nat} {text : List Char}
    (starts : startsWith row column text = true) : (row.extract column (column + text.length)).toList = text := by
  simpa [startsWith] using starts

theorem starts_with_within {row : Array Char} {column : Nat} {text : List Char}
    (starts : startsWith row column text = true) (filled : text ≠ []) : column + text.length ≤ row.size := by
  have length := congrArg List.length (starts_with_eq starts)
  have positive := List.length_pos_iff.mpr filled
  rw [Array.length_toList, Array.size_extract] at length
  omega

theorem holds_at_iff {row : Array Char} {column : Nat} {belongs : Char → Bool} :
    holdsAt row column belongs = true ↔ ∃ character, row[column]? = some character ∧ belongs character = true := by
  unfold holdsAt
  cases row[column]? <;> simp

theorem extract_one {row : Array Char} {column : Nat} {character : Char} (here : row[column]? = some character) :
    (row.extract column (column + 1)).toList = [character] := by
  rw [Array.toList_extract, List.extract_eq_take_drop, Nat.add_sub_cancel_left, List.take_one, List.head?_drop,
    Array.getElem?_toList, here]
  rfl

theorem run_end_spec (row : Array Char) (belongs : Char → Bool) {column : Nat} (inside : column ≤ row.size) :
    column ≤ runEnd row belongs column ∧ runEnd row belongs column ≤ row.size ∧
      ∀ character ∈ (row.extract column (runEnd row belongs column)).toList, belongs character = true := by
  fun_induction runEnd row belongs column with
  | case1 column bound known induction =>
      obtain ⟨ahead, within, all⟩ := induction bound
      refine ⟨by omega, within, ?_⟩
      rw [extract_split row (Nat.le_add_right column 1) ahead, extract_one (Array.getElem?_eq_getElem bound)]
      exact List.forall_mem_cons.mpr ⟨known, all⟩
  | case2 => exact ⟨le_refl _, inside, by simp⟩
  | case3 => exact ⟨le_refl _, inside, by simp⟩

/-- Where a literal's tail ends, its quote stands. -/
theorem closing_end_spec {quote : List Char} {row : Array Char} {column stop : Nat}
    (found : closingEnd? quote row column = some stop) (filled : quote ≠ []) :
    ∃ place, column ≤ place ∧ stop = place + quote.length ∧ stop ≤ row.size ∧
      (row.extract place stop).toList = quote := by
  fun_induction closingEnd? quote row column with
  | case1 column bound escape follows induction =>
      obtain ⟨place, after, rest⟩ := induction found
      exact ⟨place, by omega, rest⟩
  | case2 => simp at found
  | case3 column bound plain starts =>
      have same := Option.some.inj found
      exact ⟨column, le_refl _, same.symm, same ▸ starts_with_within starts filled, same ▸ starts_with_eq starts⟩
  | case4 column bound plain other induction =>
      obtain ⟨place, after, rest⟩ := induction found
      exact ⟨place, by omega, rest⟩
  | case5 => simp at found

theorem other_here {row : Array Char} {column : Nat} {quote : Char} {bound : column < row.size}
    (other : ¬row[column] = quote) : row[column]? ≠ some quote := by
  rw [Array.getElem?_eq_getElem bound]
  exact fun same => other (Option.some.inj same)

/-- A literal within a line ends with its quote, or else with the break of the line. It ends at once where the
quote stands. -/
theorem single_end_spec {quote : Char} {row : Array Char} {column stop : Nat}
    (found : singleEnd? quote row column = some stop) :
    column < stop ∧ stop ≤ row.size ∧ (row[column]? = some quote → stop = column + 1) ∧
      ∃ last, row[stop - 1]? = some last ∧ (last = quote ∨ last = '\r' ∨ last = '\n') := by
  fun_induction singleEnd? quote row column with
  | case1 column bound here =>
      have same := Option.some.inj found
      subst same
      exact ⟨by omega, bound, fun _ => rfl, row[column], Array.getElem?_eq_getElem bound, Or.inl here⟩
  | case2 column bound other escape starts =>
      have same := Option.some.inj found
      subst same
      have within := starts_with_within starts (by simp)
      have last : row[column + 2]? = some '\n' := by
        have break_ := congrArg (fun list : List Char => list[1]?) (starts_with_eq starts)
        simpa [Array.getElem?_extract] using break_
      simp only [List.length_cons, List.length_nil] at within
      exact ⟨by omega, by omega, (absurd · (other_here other)), '\n', last, Or.inr (Or.inr rfl)⟩
  | case3 column bound other escape notBoth follows =>
      have same := Option.some.inj found
      subst same
      obtain ⟨next, here, known⟩ := holds_at_iff.mp follows
      have within := (Array.getElem?_eq_some_iff.mp here).1
      exact ⟨by omega, by omega, (absurd · (other_here other)), next, here, Or.inr (by simpa using known)⟩
  | case4 column bound other escape notBoth notBreak more induction =>
      obtain ⟨after, within, _, ends⟩ := induction found
      exact ⟨by omega, within, (absurd · (other_here other)), ends⟩
  | case5 => simp at found
  | case6 => simp at found
  | case7 column bound other plain inLine induction =>
      obtain ⟨after, within, _, ends⟩ := induction found
      exact ⟨by omega, within, (absurd · (other_here other)), ends⟩
  | case8 => simp at found

/-! ### How literals open -/

/-- Letters of literals, and a quote for them. -/
structure LiteralStart (letters : List Char) (quote : Char) : Prop where
  letters : ∀ letter ∈ letters, Literal.letters.contains letter = true
  quote : Literal.IsQuote quote

theorem is_quote_iff {character : Char} : isQuote character = true ↔ Literal.IsQuote character := by
  simp [isQuote, Literal.IsQuote, Literal.singleQuote, Literal.doubleQuote]

theorem opening_triple {letters : List Char} {quote : Char} (start : LiteralStart letters quote)
    (rest : List Char) :
    Literal.opening (letters ++ quote :: quote :: quote :: rest) = (letters, [quote, quote, quote]) := by
  have known := start.quote
  rw [Literal.opening_after_letters _ start.letters known]
  simp only [Literal.IsQuote] at known
  simp [Literal.quoteAt, known]

/-- One quote opens a literal, unless another one follows that is not the last character. -/
theorem opening_single {letters rest : List Char} {quote : Char} (start : LiteralStart letters quote)
    (alone : rest.head? = some quote → rest = [quote]) :
    Literal.opening (letters ++ quote :: rest) = (letters, [quote]) := by
  have known := start.quote
  rw [Literal.opening_after_letters _ start.letters known]
  simp only [Literal.IsQuote] at known
  rcases rest with _ | ⟨second, _ | ⟨third, more⟩⟩
  · simp [Literal.quoteAt, known]
  · simp [Literal.quoteAt, known]
  · have other : second ≠ quote := fun same => by simp [same] at alone
    simp [Literal.quoteAt, known, other]

theorem lower_letter {character : Char} (known : character.toLower ∈ ['b', 'r', 'u']) :
    Literal.letters.contains character = true := by
  by_cases capital : 65 ≤ character.toNat ∧ character.toNat ≤ 90
  · obtain ⟨low, high⟩ := capital
    have same := Char.ofNat_toNat character
    interval_cases character.toNat <;> subst same <;> revert known <;> decide
  · have same : character.toLower = character := dif_neg capital
    rw [same] at known
    simp only [List.mem_cons, List.not_mem_nil, or_false] at known
    rcases known with rfl | rfl | rfl <;> decide

/-- Before a quote that starts a plain literal there are its letters. -/
theorem letters_before_quote {row : Array Char} {column : Nat} {lowered : List Char}
    (found : lettersBeforeQuote? row column = some lowered) (plain : literalLetters.contains lowered = true) :
    ∃ letters quote, LiteralStart letters quote ∧ letters.length = lowered.length ∧
      (row.extract column (column + letters.length)).toList = letters ∧
      row[column + letters.length]? = some quote := by
  obtain ⟨count, _, holds⟩ := List.exists_of_findSome?_eq_some found
  simp only [Option.ite_none_right_eq_some] at holds
  obtain ⟨quoted, same⟩ := holds
  obtain ⟨quote, here, isQuoted⟩ := holds_at_iff.mp quoted
  have bound := (Array.getElem?_eq_some_iff.mp here).1
  have width : (row.extract column (column + count)).toList.length = count := by
    rw [Array.length_toList, Array.size_extract]
    omega
  have lower := Option.some.inj same
  refine ⟨_, quote, ⟨?_, is_quote_iff.mp isQuoted⟩, ?_, by rw [width], by rw [width]; exact here⟩
  · intro letter member
    apply lower_letter
    have known : letter.toLower ∈ lowered := by
      rw [← lower]
      exact List.mem_map_of_mem member
    have spelled : literalLetters.all (fun word => word.all ['b', 'r', 'u'].contains) = true := by decide
    have inWord := List.all_eq_true.mp spelled lowered (List.contains_iff_mem.mp plain)
    exact List.contains_iff_mem.mp (List.all_eq_true.mp inWord _ known)
  · rw [← lower, lowerLetters, List.length_map]

/-! ### Pieces -/

/-- A piece with letters and three quotes. -/
def Piece.StartsTriple (row : Array Char) (piece : Piece) : Prop :=
  piece.stop ≤ row.size ∧ ∃ letters quote, LiteralStart letters quote ∧
    piece.stop = piece.start + letters.length + 3 ∧
    (row.extract piece.start piece.stop).toList = letters ++ [quote, quote, quote]

/-- A piece with letters, one quote, and either all of the literal or all that its line has of it. -/
def Piece.IsSingle (row : Array Char) (piece : Piece) : Prop :=
  piece.start < piece.stop ∧ piece.stop ≤ row.size ∧ ∃ letters quote rest last, LiteralStart letters quote ∧
    (row.extract piece.start piece.stop).toList = letters ++ quote :: rest ∧
    (rest.head? = some quote → rest = [quote]) ∧ rest.getLast? = some last ∧
    (last = quote ∨ last = '\r' ∨ last = '\n')

/-- A piece of name characters. -/
def Piece.IsName (row : Array Char) (piece : Piece) : Prop :=
  piece.stop ≤ row.size ∧
    ∀ character ∈ (row.extract piece.start piece.stop).toList, isNameCharacter character = true

theorem triple_shape {row : Array Char} {column : Nat} {lowered triple : List Char}
    (found : lettersBeforeQuote? row column = some lowered) (plain : literalLetters.contains lowered = true)
    (three : tripleAt? row (column + lowered.length) = some triple) :
    Piece.StartsTriple row ⟨.tripleStart, column, column + lowered.length + triple.length⟩ := by
  obtain ⟨letters, quote, start, width, before, here⟩ := letters_before_quote found plain
  rw [← width] at three ⊢
  simp only [tripleAt?, here, Option.ite_none_right_eq_some, Bool.and_eq_true] at three
  obtain ⟨⟨_, starts⟩, same⟩ := three
  have tripleEq := Option.some.inj same
  subst tripleEq
  refine ⟨starts_with_within starts (by simp), letters, quote, start, rfl, ?_⟩
  show (row.extract column (column + letters.length + 3)).toList = _
  rw [extract_split row (Nat.le_add_right column letters.length) (Nat.le_add_right _ 3), before]
  exact congrArg (letters ++ ·) (starts_with_eq starts)

theorem last_of_extract {row : Array Char} {low high : Nat} (order : low < high) (bound : high ≤ row.size) :
    (row.extract low high).toList.getLast? = row[high - 1]? := by
  have last := Array.getElem?_eq_getElem (show high - 1 < row.size by omega)
  rw [extract_split row (show low ≤ high - 1 by omega) (show high - 1 ≤ high by omega), last]
  have one := extract_one last
  rw [Nat.sub_add_cancel (by omega)] at one
  rw [one, List.getLast?_concat]

theorem single_shape {row : Array Char} {column stop : Nat} {lowered : List Char}
    (found : lettersBeforeQuote? row column = some lowered) (plain : literalLetters.contains lowered = true)
    (ends : singleEnd? (row.getD (column + lowered.length) ' ') row (column + lowered.length + 1) = some stop) :
    Piece.IsSingle row ⟨.single, column, stop⟩ := by
  obtain ⟨letters, quote, start, width, before, here⟩ := letters_before_quote found plain
  rw [← width, Array.getD_eq_getD_getElem?, here, Option.getD_some] at ends
  obtain ⟨after, within, atOnce, last, ending, known⟩ := single_end_spec ends
  refine ⟨show column < stop by omega, within, letters, quote,
    (row.extract (column + letters.length + 1) stop).toList, last, start, ?_, ?_, ?_, known⟩
  · show (row.extract column stop).toList = _
    rw [extract_split row (Nat.le_add_right column letters.length) (show _ ≤ stop by omega),
      extract_split row (Nat.le_add_right (column + letters.length) 1) (show _ ≤ stop by omega), before,
      extract_one here]
    rfl
  · intro next
    have second : row[column + letters.length + 1]? = some quote := by
      rw [← next, Array.toList_extract, List.extract_eq_take_drop, List.head?_take, List.head?_drop,
        if_neg (by omega), Array.getElem?_toList]
    rw [atOnce second]
    exact extract_one second
  · rw [last_of_extract after within, ending]

/-- Whatever starts at a column, a piece that is told to be a literal or a name looks like one. -/
theorem piece_shapes {row : Array Char} {column : Nat} {piece : Piece} (found : pieceAt? row column = some piece) :
    (piece.kind = .tripleStart → piece.StartsTriple row) ∧ (piece.kind = .single → piece.IsSingle row) ∧
      (piece.kind = .name → piece.IsName row) := by
  have other : ∀ {kind start stop}, kind ≠ .tripleStart ∧ kind ≠ .single ∧ kind ≠ .name →
      some (Piece.mk kind start stop) = some piece →
      (piece.kind = .tripleStart → piece.StartsTriple row) ∧ (piece.kind = .single → piece.IsSingle row) ∧
        (piece.kind = .name → piece.IsName row) := by
    intro kind start stop apart same
    rw [← Option.some.inj same]
    exact ⟨(absurd · apart.1), (absurd · apart.2.1), (absurd · apart.2.2)⟩
  simp only [pieceAt?] at found
  split at found
  · exact other (by decide) found
  split at found
  · exact other (by decide) found
  split at found
  · exact other (by decide) found
  split at found
  · exact other (by decide) found
  split at found
  · next triple three =>
      obtain ⟨lowered, known, tripled⟩ := Option.bind_eq_some_iff.mp three
      obtain ⟨letters, plain⟩ := Option.filter_eq_some_iff.mp known
      rw [letters] at tripled found
      rw [← Option.some.inj found]
      exact ⟨fun _ => triple_shape letters plain tripled, by simp, by simp⟩
  split at found
  · exact other (by decide) found
  split at found
  · exact other (by decide) found
  split at found
  · exact other (by decide) found
  split at found
  · next stop single =>
      obtain ⟨lowered, known, ends⟩ := Option.bind_eq_some_iff.mp single
      obtain ⟨letters, plain⟩ := Option.filter_eq_some_iff.mp known
      rw [letters] at ends
      rw [← Option.some.inj found]
      exact ⟨by simp, fun _ => single_shape letters plain ends, by simp⟩
  · obtain ⟨stop, named, same⟩ := Option.bind_eq_some_iff.mp found
    simp only [nameEnd?, Option.ite_none_right_eq_some] at named
    obtain ⟨starts, ends⟩ := named
    obtain ⟨character, here, _⟩ := holds_at_iff.mp starts
    have bound := (Array.getElem?_eq_some_iff.mp here).1
    obtain ⟨_, within, all⟩ := run_end_spec row isNameCharacter (Nat.le_of_lt bound)
    rw [← Option.some.inj same, ← Option.some.inj ends]
    exact ⟨by simp, by simp, fun _ => ⟨within, all⟩⟩

/-! ### Rounds -/

/-- A text that opens a literal and ends with the same quote. -/
def IsClosedLiteral (text : List Char) : Prop :=
  (Literal.opening text).2 ≠ [] ∧
    (Literal.opening text).2 <:+ text.drop ((Literal.opening text).1.length + (Literal.opening text).2.length)

/-- What holds of every token that is given out before the end of the text. -/
structure Token.IsRead (token : Token) : Prop where
  closed : token.kind = .string → IsClosedLiteral token.text
  lone : token.kind = .stray → (Literal.opening token.text).2 ≠ [] → token.text.length ≤ 1
  notFinish : token.kind ≠ .finish

/-- A literal that goes on over its line opens with its quote, whatever follows. -/
def OpenString.Opens (literal : OpenString) : Prop :=
  literal.quote ≠ [] ∧ ∃ letters rest, literal.text = letters ++ literal.quote ++ rest ∧
    ∀ more, Literal.opening (literal.text ++ more) = (letters, literal.quote)

/-- An open literal that starts on a row and has all the rest of it. -/
structure OpenString.StartsOn (number : Nat) (row : Array Char) (literal : OpenString) : Prop where
  line : literal.line = number
  column : literal.column < row.size
  text : literal.text = (row.extract literal.column row.size).toList
  opens : literal.Opens

/-- No literal is open, and all tokens are as tokens are to be. -/
def ScanState.Reads (state : ScanState) : Prop :=
  state.openString = none ∧ ∀ token ∈ state.tokens, token.IsRead

/-- After a line a literal may be open that starts on the line. -/
def ScanState.ReadsLine (number : Nat) (row : Array Char) (state : ScanState) : Prop :=
  (∀ token ∈ state.tokens, token.IsRead) ∧ ∀ literal ∈ state.openString, literal.StartsOn number row

def Round.Reads (number : Nat) (row : Array Char) : Round → Prop
  | .more state _ => state.Reads
  | .lineDone state => state.ReadsLine number row

/-- Tokens of most kinds may hold any text. -/
theorem plain_token_read {kind : TokenKind} (apart : kind ≠ .string ∧ kind ≠ .stray ∧ kind ≠ .finish)
    (text : List Char) (line column : Nat) (spacing : List Char) :
    Token.IsRead ⟨kind, text, line, column, spacing⟩ :=
  ⟨(absurd · apart.1), (absurd · apart.2.1), apart.2.2⟩

theorem closed_of_split {letters quote body : List Char} (filled : quote ≠ [])
    (opens : Literal.opening (letters ++ quote ++ body ++ quote) = (letters, quote)) :
    IsClosedLiteral (letters ++ quote ++ body ++ quote) := by
  rw [IsClosedLiteral, opens]
  refine ⟨filled, ?_⟩
  rw [List.append_assoc (letters ++ quote), ← List.length_append, List.drop_left]
  exact List.suffix_append body quote

theorem opens_triple {letters rest : List Char} {quote : Char} (start : LiteralStart letters quote)
    (line column : Nat) :
    OpenString.Opens ⟨letters ++ [quote, quote, quote] ++ rest, line, column, [quote, quote, quote]⟩ := by
  refine ⟨by simp, letters, rest, rfl, fun more => ?_⟩
  simpa using opening_triple start (rest ++ more)

theorem opens_single {letters rest : List Char} {quote : Char} (start : LiteralStart letters quote)
    (filled : rest ≠ []) (other : rest.head? ≠ some quote) (line column : Nat) :
    OpenString.Opens ⟨letters ++ [quote] ++ rest, line, column, [quote]⟩ := by
  refine ⟨by simp, letters, rest, rfl, fun more => ?_⟩
  have opened : Literal.opening (letters ++ quote :: (rest ++ more)) = (letters, [quote]) :=
    opening_single start fun same => by
      rw [List.head?_append_of_ne_nil _ filled] at same
      exact absurd same other
  simpa using opened

variable {state : ScanState} {number : Nat} {row : Array Char}

theorem ScanState.Reads.line (reads : state.Reads) : state.ReadsLine number row :=
  ⟨reads.2, by simp [reads.1]⟩

theorem tokens_push {keeps : Token → Prop} {tokens : Array Token} {token : Token}
    (kept : ∀ token ∈ tokens, keeps token) (own : keeps token) : ∀ other ∈ tokens.push token, keeps other := by
  intro other member
  rcases Array.mem_push.mp member with old | rfl
  · exact kept other old
  · exact own

theorem reads_emit (reads : state.Reads) {kind : TokenKind} {text : List Char} {line column : Nat}
    {spacing : List Char} (own : Token.IsRead ⟨kind, text, line, column, spacing⟩) :
    (state.emit kind text line column spacing).Reads :=
  ⟨reads.1, tokens_push reads.2 own⟩

theorem reads_emit_plain (reads : state.Reads) {kind : TokenKind}
    (apart : kind ≠ .string ∧ kind ≠ .stray ∧ kind ≠ .finish) (text : List Char) (line column : Nat)
    (spacing : List Char) : (state.emit kind text line column spacing).Reads :=
  reads_emit reads (plain_token_read apart text line column spacing)

theorem reads_dedent_to (reads : state.Reads) (line tokenColumn column : Nat) :
    (state.dedentTo line tokenColumn column).Reads := by
  have closed : ∀ (levels : List Nat) (tokens : Array Token), (∀ token ∈ tokens, token.IsRead) →
      ∀ token ∈ (ScanState.dedentTo.close line tokenColumn column levels tokens).2, token.IsRead := by
    intro levels tokens read
    fun_induction ScanState.dedentTo.close line tokenColumn column levels tokens with
    | case1 => exact tokens_push read (plain_token_read (by decide) _ _ _ _)
    | case2 _ _ _ _ _ _ induction => exact induction (tokens_push read (plain_token_read (by decide) _ _ _ _))
    | case3 => exact read
    | case4 => exact read
  exact ⟨reads.1, closed state.levels state.tokens reads.2⟩

theorem reads_indent_to (reads : state.Reads) (line column : Nat) : (state.indentTo line column).Reads := by
  unfold ScanState.indentTo
  apply reads_dedent_to
  split
  · exact reads_emit_plain reads (by decide) [] line column []
  · exact reads

/-! ### Taking pieces -/

theorem take_triple_reads (reads : state.Reads) {piece : Piece} (shape : piece.StartsTriple row) :
    (state.takeTriple number row piece).Reads number row := by
  obtain ⟨within, letters, quote, start, stopEq, text⟩ := shape
  have width : (letters.length + 3) + piece.start = piece.stop := by omega
  have quoteEq : (row.extract (piece.stop - 3) piece.stop).toList = [quote, quote, quote] := by
    have split := extract_split row (show piece.start ≤ piece.stop - 3 by omega)
      (show piece.stop - 3 ≤ piece.stop by omega)
    have length : (row.extract piece.start (piece.stop - 3)).toList.length = letters.length := by
      rw [Array.length_toList, Array.size_extract]
      omega
    rw [text] at split
    exact (List.append_inj_right split length.symm).symm
  simp only [ScanState.takeTriple, quoteEq]
  cases closed : closingEnd? [quote, quote, quote] row piece.stop with
  | some stop =>
      obtain ⟨place, after, stopIs, inside, ends⟩ := closing_end_spec closed (by simp)
      refine reads_emit reads ⟨fun _ => ?_, by simp, by simp⟩
      have whole : (row.extract piece.start stop).toList = letters ++ [quote, quote, quote] ++
          (row.extract piece.stop place).toList ++ [quote, quote, quote] := by
        rw [extract_split row (show piece.start ≤ piece.stop by omega) (show piece.stop ≤ stop by omega),
          extract_split row after (show place ≤ stop by omega), text, ends, List.append_assoc _ _ [quote, quote, quote]]
      show IsClosedLiteral (row.extract piece.start stop).toList
      rw [whole]
      apply closed_of_split (by simp)
      simpa using opening_triple start ((row.extract piece.stop place).toList ++ [quote, quote, quote])
  | none =>
      refine ⟨reads.2, ?_⟩
      intro literal member
      rw [← Option.some.inj member]
      refine ⟨rfl, show piece.start < row.size by omega, rfl, ?_⟩
      rw [extract_split row (show piece.start ≤ piece.stop by omega) within, text]
      exact opens_triple start number piece.start

/-- The first quote of a text after letters is the quote of its literal. -/
theorem find_quote {letters rest : List Char} {quote : Char} (start : LiteralStart letters quote) :
    (letters ++ quote :: rest).find? isQuote = some quote := by
  have none : letters.find? isQuote = none := by
    refine List.find?_eq_none.mpr fun letter member quoted => ?_
    have known := start.letters letter member
    rw [Literal.quote_is_no_letter (is_quote_iff.mp quoted)] at known
    exact Bool.false_ne_true known
  rw [List.find?_append, none, List.find?_cons_of_pos (is_quote_iff.mpr start.quote)]
  rfl

theorem take_single_reads (reads : state.Reads) {piece : Piece} (shape : piece.IsSingle row) :
    (state.takeSingle number row piece).Reads number row := by
  obtain ⟨order, within, letters, quote, rest, last, start, text, atOnce, ending, known⟩ := shape
  have filled : rest ≠ [] := by
    intro empty
    rw [empty] at ending
    simp at ending
  have lastEq : (letters ++ quote :: rest).getLast? = some last := by
    rw [List.getLast?_append, List.getLast?_cons, ending]
    rfl
  simp only [ScanState.takeSingle, text, lastEq, find_quote start]
  split
  · next broken =>
      have isBreak : last = '\r' ∨ last = '\n' := by simpa using broken
      have other : rest.head? ≠ some quote := by
        intro same
        rw [atOnce same] at ending
        have quoted : quote = last := by simpa using ending
        have plain := Literal.quote_is_no_break start.quote
        rw [quoted] at plain
        exact isBreak.elim plain.2 plain.1
      refine ⟨reads.2, ?_⟩
      intro literal member
      rw [← Option.some.inj member]
      refine ⟨rfl, show piece.start < row.size by omega, rfl, ?_⟩
      rw [extract_split row (Nat.le_of_lt order) within, text]
      have opens : OpenString.Opens ⟨letters ++ [quote] ++ (rest ++ (row.extract piece.stop row.size).toList), number,
          piece.start, [quote]⟩ :=
        opens_single start (by simp [filled]) (by rw [List.head?_append_of_ne_nil _ filled]; exact other)
          number piece.start
      simpa using opens
  · next plain =>
      have quoted : last = quote := by
        have notBreak : ¬(last = '\r' ∨ last = '\n') := by simpa using plain
        exact known.resolve_right notBreak
      refine reads_emit reads ⟨fun _ => ?_, by simp, by simp⟩
      obtain ⟨body, split⟩ : ∃ body, rest = body ++ [quote] := by
        obtain ⟨body, split⟩ := List.getLast?_eq_some_iff.mp ending
        exact ⟨body, by rw [split, quoted]⟩
      have whole : letters ++ quote :: rest = letters ++ [quote] ++ body ++ [quote] := by
        rw [split]
        simp
      show IsClosedLiteral (letters ++ quote :: rest)
      rw [whole]
      apply closed_of_split (by simp)
      rw [← whole]
      exact opening_single start atOnce

/-- Name characters open no literal. -/
theorem names_open_nothing {text : List Char} (named : ∀ character ∈ text, isNameCharacter character = true) :
    (Literal.opening text).2 = [] := by
  have rest : ∀ character ∈ text.dropWhile Literal.letters.contains, isNameCharacter character = true :=
    fun character member => named character ((List.dropWhile_sublist _).subset member)
  simp only [Literal.opening]
  cases dropped : text.dropWhile Literal.letters.contains with
  | nil => rfl
  | cons first more =>
      have name := rest first (by simp [dropped])
      have noQuote : ¬Literal.IsQuote first := by
        rintro (rfl | rfl) <;> exact absurd name (by decide)
      exact Literal.quote_at_other noQuote more

theorem split_at_strays_spec (column : Nat) (text : List Char) :
    ∀ entry ∈ splitAtStrays column text, (entry.1 = .name ∨ entry.1 = .stray) ∧
      ∀ character ∈ entry.2.1, character ∈ text := by
  fun_induction splitAtStrays column text with
  | case1 => simp
  | case2 column first rest piece induction =>
      refine List.forall_mem_cons.mpr ⟨⟨?_, ?_⟩, ?_⟩
      · show (if _ then TokenKind.name else .stray) = .name ∨ (if _ then TokenKind.name else .stray) = .stray
        split
        · exact Or.inl rfl
        · exact Or.inr rfl
      · intro character member
        rcases List.mem_cons.mp member with rfl | later
        · exact List.mem_cons_self
        · exact List.mem_cons_of_mem _ ((List.takeWhile_sublist _).subset later)
      · intro entry member
        obtain ⟨kinds, characters⟩ := induction entry member
        refine ⟨kinds, fun character inside => ?_⟩
        exact List.mem_cons_of_mem _ ((List.dropWhile_sublist _).subset (characters character inside))

theorem reads_emit_run (reads : state.Reads) {text : List Char} (line column : Nat)
    (named : ∀ character ∈ text, isNameCharacter character = true) : (state.emitRun text line column).Reads := by
  refine List.foldlRecOn (motive := ScanState.Reads) _ _ reads fun state under entry member => ?_
  obtain ⟨kinds, characters⟩ := split_at_strays_spec column text entry member
  obtain ⟨kind, piece, start⟩ := entry
  have nothing := names_open_nothing fun character inside => named character (characters character inside)
  refine reads_emit under ⟨?_, fun _ opens => absurd nothing opens, ?_⟩
  · intro isString
    rcases kinds with rfl | rfl <;> simp at isString
  · intro isFinish
    rcases kinds with rfl | rfl <;> simp at isFinish

theorem take_name_reads (reads : state.Reads) {piece : Piece} (shape : piece.IsName row) :
    (state.takeName number row piece).Reads number row := by
  have settled : ∀ {state : ScanState}, state.Reads →
      (state.emitRun (row.extract piece.start piece.stop).toList number piece.start).Reads :=
    fun reads => reads_emit_run reads number piece.start shape.2
  simp only [ScanState.takeName]
  split
  · split
    · exact settled (reads_dedent_to ⟨reads.1, reads.2⟩ _ _ _)
    · exact settled ⟨reads.1, reads.2⟩
  · exact settled reads

theorem take_line_break_reads (reads : state.Reads) (text : List Char) (piece : Piece) :
    (state.takeLineBreak number text piece).Reads number row := by
  have settled : ∀ {state : ScanState}, state.Reads →
      (Round.more { state with fresh := true } piece.stop).Reads number row := fun reads => ⟨reads.1, reads.2⟩
  simp only [ScanState.takeLineBreak]
  apply settled
  generalize (if (state.literals.any fun literal => !literal.spansLines) = true then []
    else state.literals) = literals
  split
  · exact ⟨reads.1, (reads_emit_plain reads (by decide) text number piece.start state.spacing).2⟩
  · exact ⟨reads.1, reads.2⟩

theorem reads_update (reads : state.Reads) (change : OpenFormatted → OpenFormatted) :
    (state.updateInnermost change).Reads := ⟨reads.1, reads.2⟩

theorem take_operator_reads (reads : state.Reads) (text : List Char) (piece : Piece) :
    (state.takeOperator number text piece).Reads number row := by
  have emitted : ∀ {state : ScanState}, state.Reads → ∀ text spacing,
      (state.emit .operator text number piece.start spacing).Reads := fun reads text spacing =>
    reads_emit_plain reads (by decide) text number piece.start spacing
  simp only [ScanState.takeOperator]
  split
  · exact emitted ⟨reads.1, reads.2⟩ _ _
  · split
    · exact emitted (reads_update reads _) _ _
    · split
      · exact emitted (reads_update reads _) _ _
      · split
        · exact emitted (reads_update reads _) _ _
        · exact emitted reads _ _

theorem take_piece_reads (reads : state.Reads) {piece : Piece}
    (triple : piece.kind = .tripleStart → piece.StartsTriple row)
    (single : piece.kind = .single → piece.IsSingle row) (name : piece.kind = .name → piece.IsName row) :
    (state.takePiece number row piece).Reads number row := by
  cases isKind : piece.kind with
  | number =>
      simp only [ScanState.takePiece, isKind]
      exact reads_emit_plain reads (by decide) _ _ _ _
  | name =>
      simp only [ScanState.takePiece, isKind]
      exact take_name_reads reads (name isKind)
  | comment =>
      simp only [ScanState.takePiece, isKind]
      split
      · exact reads_emit reads ⟨by simp, fun _ _ => by simp, by simp⟩
      · exact ⟨reads.1, reads.2⟩
  | tripleStart =>
      simp only [ScanState.takePiece, isKind]
      exact take_triple_reads reads (triple isKind)
  | single =>
      simp only [ScanState.takePiece, isKind]
      exact take_single_reads reads (single isKind)
  | formattedStart =>
      simp only [ScanState.takePiece, isKind]
      exact ⟨reads.1, tokens_push reads.2 (plain_token_read (by decide) _ _ _ _)⟩
  | continuation =>
      simp only [ScanState.takePiece, isKind]
      split
      · exact ⟨reads.2, by simp [reads.1]⟩
      · exact reads_emit_plain reads (by decide) _ _ _ _
  | ending =>
      simp only [ScanState.takePiece, isKind]
      exact ⟨reads.2, by simp [reads.1]⟩
  | operator =>
      simp only [ScanState.takePiece, isKind]
      split
      · exact take_line_break_reads reads _ _
      · exact take_operator_reads reads _ _

/-! ### Lines -/

theorem field_line_part (literals : List OpenFormatted) (row : Array Char) (column : Nat) :
    ∃ size, fieldLine literals row column = row.extract 0 size := by
  refine List.foldlRecOn (motive := fun cut => ∃ size, cut = row.extract 0 size) literals _
    ⟨row.size, by simp⟩ fun cut known literal _ => ?_
  split
  · split
    · exact ⟨_, rfl⟩
    · exact known
  · exact known

theorem extract_of_part {size high : Nat} (low : Nat) (within : high ≤ (row.extract 0 size).size) :
    high ≤ row.size ∧ (row.extract 0 size).extract low high = row.extract low high := by
  rw [Array.size_extract] at within
  refine ⟨by omega, ?_⟩
  rw [Array.extract_extract, Nat.zero_add, Nat.zero_add, Nat.min_eq_left (by omega)]

/-- What a piece of a part of a row looks like, it looks like on the row. -/
theorem shapes_of_part {size : Nat} {piece : Piece} :
    (piece.StartsTriple (row.extract 0 size) → piece.StartsTriple row) ∧
      (piece.IsSingle (row.extract 0 size) → piece.IsSingle row) ∧
      (piece.IsName (row.extract 0 size) → piece.IsName row) := by
  refine ⟨?_, ?_, ?_⟩
  · rintro ⟨within, shape⟩
    obtain ⟨bound, same⟩ := extract_of_part piece.start within
    exact ⟨bound, same ▸ shape⟩
  · rintro ⟨order, within, shape⟩
    obtain ⟨bound, same⟩ := extract_of_part piece.start within
    exact ⟨order, bound, same ▸ shape⟩
  · rintro ⟨within, shape⟩
    obtain ⟨bound, same⟩ := extract_of_part piece.start within
    exact ⟨bound, same ▸ shape⟩

theorem take_next_reads (reads : state.Reads) (column : Nat) :
    (state.takeNext number row column).Reads number row := by
  have settled : ∀ {state : ScanState} (atStart : Bool) (start : Nat), state.Reads →
      (if atStart then state.indentTo number start else state).Reads := by
    intro state atStart start reads
    split
    · exact reads_indent_to reads number start
    · exact reads
  obtain ⟨size, visible⟩ : ∃ size, (if state.literals.isEmpty then row else fieldLine state.literals row column) =
      row.extract 0 size := by
    split
    · exact ⟨row.size, by simp⟩
    · exact field_line_part _ _ _
  simp only [ScanState.takeNext, visible]
  split
  · next piece found =>
      obtain ⟨triple, single, name⟩ := piece_shapes found
      obtain ⟨tripleRow, singleRow, nameRow⟩ := @shapes_of_part row size piece
      split
      · next ending =>
          simp only [ScanState.takePiece, ending]
          exact ⟨reads.2, by simp [reads.1]⟩
      · refine take_piece_reads ?_ (fun kind => tripleRow (triple kind)) (fun kind => singleRow (single kind))
          (fun kind => nameRow (name kind))
        split
        · exact settled _ _ ⟨reads.1, reads.2⟩
        · exact ⟨reads.1, reads.2⟩
  · have short : ∀ start, (row.extract start (start + 1)).toList.length ≤ 1 := by
      intro start
      rw [Array.length_toList, Array.size_extract]
      omega
    have emitted : ∀ {state : ScanState} (spacing : List Char) (start : Nat), state.Reads →
        (Round.more { state.emit .stray (row.extract start (start + 1)).toList number start spacing with
          carried := [], fresh := false } (start + 1)).Reads number row := fun spacing start reads =>
      ⟨reads.1, (reads_emit reads ⟨by simp, fun _ _ => short start, by simp⟩).2⟩
    apply emitted
    split
    · exact settled _ _ ⟨reads.1, reads.2⟩
    · exact reads

theorem after_text_reads (reads : state.Reads) (column : Nat) :
    (state.afterText number row column).Reads number row := by
  simp only [ScanState.afterText]
  split
  · exact ⟨reads.1, tokens_push reads.2 (plain_token_read (by decide) _ _ _ _)⟩
  · exact take_next_reads reads column

theorem round_reads (reads : state.Reads) (column : Nat) : (state.round number row column).Reads number row := by
  have lineOver : ∀ {state : ScanState}, state.Reads → ∀ stop,
      (if stop = row.size then Round.lineDone state else state.afterText number row stop).Reads number row := by
    intro state reads stop
    split
    · exact reads.line
    · exact after_text_reads reads stop
  simp only [ScanState.round]
  split
  · exact take_next_reads reads column
  · split
    · exact after_text_reads reads column
    · refine lineOver ?_ _
      split
      · exact reads_update reads _
      · split
        · exact reads_update reads _
        · exact reads_emit_plain (reads_update reads _) (by decide) _ _ _ _

theorem rounds_read (reads : state.Reads) (fuel column : Nat) :
    (ScanState.rounds number row fuel state column).ReadsLine number row := by
  induction fuel generalizing state column with
  | zero => exact reads.line
  | succ fuel induction =>
      rw [ScanState.rounds]
      split
      · have kept : (state.round number row column).Reads number row := round_reads reads column
        split
        · next again =>
            rw [again] at kept
            exact induction kept _
        · next finished =>
            rw [finished] at kept
            exact kept
      · exact reads.line

/-! ### All lines -/

/-- A literal that is open after some rows has all that stands from its place to their end. -/
structure OpenString.Spans (rows : List (List Char)) (literal : OpenString) : Prop where
  opens : literal.Opens
  positive : 0 < literal.line
  text : ∃ first rest, rows.drop (literal.line - 1) = first :: rest ∧ literal.column < first.length ∧
    literal.text = first.drop literal.column ++ rest.flatten

/-- What is kept from line to line. -/
structure ScanState.Holds (rows : List (List Char)) (state : ScanState) : Prop where
  tokens : ∀ token ∈ state.tokens, token.IsRead
  openString : ∀ literal ∈ state.openString, literal.Spans rows

theorem spans_of_starts {rows : List (List Char)} {row : List Char} {literal : OpenString}
    (starts : literal.StartsOn (rows.length + 1) row.toArray) : literal.Spans (rows ++ [row]) := by
  refine ⟨starts.opens, by rw [starts.line]; exact Nat.succ_pos _, row, [], ?_, ?_, ?_⟩
  · rw [starts.line, Nat.add_sub_cancel, List.drop_left]
  · simpa using starts.column
  · rw [starts.text, Array.toList_extract, List.extract_eq_take_drop, List.take_of_length_le (by simp)]
    simp

theorem spans_next {rows : List (List Char)} {literal : OpenString} (spans : literal.Spans rows) (row : List Char) :
    OpenString.Spans (rows ++ [row]) { literal with text := literal.text ++ row } := by
  obtain ⟨⟨filled, letters, body, split, opening⟩, positive, first, rest, found, inside, text⟩ := spans
  refine ⟨⟨filled, letters, body ++ row, by simp [split], fun more => ?_⟩, positive, first, rest ++ [row], ?_, inside,
    by simp [text]⟩
  · rw [List.append_assoc]
    exact opening (row ++ more)
  · have within : literal.line - 1 < rows.length := by
      have length := congrArg List.length found
      rw [List.length_drop, List.length_cons] at length
      omega
    rw [List.drop_append_of_le_length (Nat.le_of_lt within), found]
    rfl

/-- Where an open literal's quote comes at last, the literal is closed. -/
theorem closed_after {literal : OpenString} {row : Array Char} {stop : Nat} (opens : literal.Opens)
    (found : closingEnd? literal.quote row 0 = some stop) :
    IsClosedLiteral (literal.text ++ (row.extract 0 stop).toList) := by
  obtain ⟨filled, letters, body, split, opening⟩ := opens
  obtain ⟨place, after, stopIs, _, ends⟩ := closing_end_spec found filled
  have whole : literal.text ++ (row.extract 0 stop).toList =
      letters ++ literal.quote ++ (body ++ (row.extract 0 place).toList) ++ literal.quote := by
    rw [split, extract_split row after (show place ≤ stop by omega), ends]
    simp
  have opened := opening (row.extract 0 stop).toList
  rw [whole] at opened ⊢
  exact closed_of_split filled opened

theorem scan_line_holds {rows : List (List Char)} {state : ScanState} (holds : state.Holds rows) (row : List Char) :
    (state.scanLine (rows.length + 1) row.toArray).Holds (rows ++ [row]) := by
  have scanned : ∀ {state : ScanState}, state.Reads → ∀ column,
      (ScanState.rounds (rows.length + 1) row.toArray (2 * row.toArray.size + 2) state column).Holds
        (rows ++ [row]) := by
    intro state reads column
    have read : (ScanState.rounds (rows.length + 1) row.toArray (2 * row.toArray.size + 2) state column).ReadsLine
        (rows.length + 1) row.toArray := rounds_read reads _ column
    exact ⟨read.1, fun literal member => spans_of_starts (read.2 literal member)⟩
  simp only [ScanState.scanLine]
  split
  · next none => exact scanned ⟨none, holds.tokens⟩ 0
  · next literal opened =>
      have spans := holds.openString literal opened
      split
      · refine ⟨holds.tokens, ?_⟩
        intro extended member
        rw [← Option.some.inj member]
        exact spans_next spans row
      · next stop found =>
          refine scanned ⟨rfl, tokens_push holds.tokens ⟨fun _ => ?_, by simp, by simp⟩⟩ stop
          exact closed_after spans.opens found

/-! ### The end of the text -/

/-- A token ends on a line before a column. -/
def Token.EndsAt (line column : Nat) (token : Token) : Prop :=
  token.line + ((linesOf token.text).length - 1) = line ∧
    ((linesOf token.text).getLastD []).length +
      (if (linesOf token.text).length - 1 = 0 then token.column else 0) = column

/-- What holds of every token of a text that ends on a line before a column. -/
structure Token.IsScanned (line column : Nat) (token : Token) : Prop where
  closed : token.kind = .string → IsClosedLiteral token.text
  unterminated : token.kind = .stray → (Literal.opening token.text).2 ≠ [] → 1 < token.text.length →
    token.EndsAt line column
  finish : token.kind = .finish → token.EndsAt line column

theorem Token.IsRead.scanned {token : Token} (read : token.IsRead) (line column : Nat) :
    token.IsScanned line column :=
  ⟨read.closed, fun stray opens long => absurd (read.lone stray opens) (Nat.not_le.mpr long),
    (absurd · read.notFinish)⟩

/-- A literal that is open at the end of the text ends there. -/
theorem spans_ends {text : List Char} {literal : OpenString} (spans : literal.Spans (linesOf text))
    (kind : TokenKind) (spacing : List Char) :
    Token.EndsAt (linesOf text).length ((linesOf text).getLastD []).length
      ⟨kind, literal.text, literal.line, literal.column, spacing⟩ := by
  obtain ⟨⟨filled, letters, body, split, opening⟩, positive, first, rest, found, inside, textEq⟩ := spans
  have head : (Literal.opening literal.text).2 ≠ [] := by
    have opened := opening []
    rw [List.append_nil] at opened
    rw [opened]
    exact filled
  obtain ⟨start, more, starts, plain⟩ := Literal.opening_head head
  have here : first[literal.column]? = some start := by
    have same := congrArg List.head? (textEq.symm.trans starts)
    rw [List.head?_append_of_ne_nil _ (by simpa using inside), List.head?_drop] at same
    exact same
  have bound : literal.line - 1 < (linesOf text).length := by
    by_contra beyond
    rw [List.drop_eq_nil_iff.mpr (Nat.not_lt.mp beyond)] at found
    simp at found
  obtain ⟨later, laterLines⟩ := lines_of_drop text bound
  have pieces := lines_of_column (laterLines.trans found) here plain
  have whole := List.take_append_drop (literal.line - 1) (linesOf text)
  rw [found] at whole
  have total := congrArg List.length whole
  rw [List.length_append, List.length_take_of_le (Nat.le_of_lt bound), List.length_cons] at total
  rw [Token.EndsAt, textEq, pieces, ← whole]
  refine ⟨?_, ?_⟩
  · simp only [List.length_cons, List.length_append, List.length_take_of_le (Nat.le_of_lt bound)]
    omega
  · cases rest with
    | nil => simp [List.getLastD_eq_getLast?, Nat.sub_add_cancel (Nat.le_of_lt inside)]
    | cons second others => simp [List.getLastD_eq_getLast?, List.getLast?_cons]

theorem scanned_emit_plain {state : ScanState} {line column : Nat}
    (scanned : ∀ token ∈ state.tokens, token.IsScanned line column) {kind : TokenKind}
    (apart : kind ≠ .string ∧ kind ≠ .stray ∧ kind ≠ .finish) (text : List Char) (row place : Nat)
    (spacing : List Char) : ∀ token ∈ (state.emit kind text row place spacing).tokens, token.IsScanned line column :=
  tokens_push scanned ((plain_token_read apart text row place spacing).scanned _ _)

theorem give_open_scanned {text : List Char} {state : ScanState} (holds : state.Holds (linesOf text)) :
    ∀ token ∈ state.giveOpen.tokens,
      token.IsScanned (linesOf text).length ((linesOf text).getLastD []).length := by
  have read : ∀ token ∈ state.tokens, token.IsScanned (linesOf text).length ((linesOf text).getLastD []).length :=
    fun token member => (holds.tokens token member).scanned _ _
  have pending : ∀ {state : ScanState},
      (∀ token ∈ state.tokens, token.IsScanned (linesOf text).length ((linesOf text).getLastD []).length) →
      ∀ literal : OpenFormatted, ∀ token ∈ (if literal.pending.isEmpty then state
        else state.emit .formattedText literal.pending literal.pendingLine literal.pendingColumn []).tokens,
        token.IsScanned (linesOf text).length ((linesOf text).getLastD []).length := by
    intro state scanned literal
    split
    · exact scanned
    · exact scanned_emit_plain scanned (by decide) _ _ _ _
  simp only [ScanState.giveOpen]
  cases isOpen : state.openString with
  | none =>
      split
      · exact pending read _
      · exact read
  | some literal =>
      have ends := spans_ends (holds.openString literal isOpen) .stray state.spacing
      have given := tokens_push read (Token.IsScanned.mk (by simp) (fun _ _ _ => ends) (by simp))
      split
      · exact pending given _
      · exact given

/-- The tokens that close a text, after its lines. -/
theorem finish_scanned {text : List Char} {state : ScanState} (holds : state.Holds (linesOf text)) :
    ∀ token ∈ state.finish (linesOf text).length ((linesOf text).getLastD []).length,
      token.IsScanned (linesOf text).length ((linesOf text).getLastD []).length := by
  simp only [ScanState.finish]
  apply tokens_push
  · exact List.foldlRecOn (motive := fun state : ScanState => ∀ token ∈ state.tokens,
      token.IsScanned (linesOf text).length ((linesOf text).getLastD []).length) _ _ (give_open_scanned holds)
      fun state scanned _ _ => scanned_emit_plain scanned (by decide) _ _ _ _
  · refine ⟨by simp, by simp, fun _ => ⟨?_, ?_⟩⟩
    · simp [linesOf]
    · simp [linesOf]

theorem rows_hold (rows : List (List Char)) {before : List (List Char)} {state : ScanState}
    (holds : state.Holds before) :
    let scanned := rows.foldl (fun (state, number) row =>
      (ScanState.scanLine state (number + 1) row.toArray, number + 1)) (state, before.length)
    scanned.1.Holds (before ++ rows) ∧ scanned.2 = (before ++ rows).length := by
  induction rows generalizing before state with
  | nil => simpa using holds
  | cons row rows induction =>
      have later := induction (scan_line_holds holds row)
      rw [List.length_append, List.append_assoc] at later
      exact later

/-- The mark that may stand first is no part of the lines that are scanned. -/
theorem unmarked_lines (rest : List Char) :
    ((linesOf (byteOrderMark :: rest)).headD []).drop 1 :: (linesOf (byteOrderMark :: rest)).drop 1 =
      linesOf rest := by
  rw [linesOf, if_neg (by decide)]
  · cases found : linesOf rest with
    | nil => exact absurd found (lines_nonempty rest)
    | cons line lines => rfl
  · intro more isReturn
    exact absurd isReturn (by decide)

theorem marked_text {text : List Char} (marked : (linesOf text).head?.bind List.head? = some byteOrderMark) :
    ∃ rest, text = byteOrderMark :: rest := by
  obtain ⟨first, isFirst, isHead⟩ := Option.bind_eq_some_iff.mp marked
  obtain ⟨lines, split⟩ := List.head?_eq_some_iff.mp isFirst
  obtain ⟨more, starts⟩ := List.head?_eq_some_iff.mp isHead
  have whole := lines_flatten text
  rw [split, starts] at whole
  exact ⟨_, whole.symm⟩

theorem scan_rows_scanned (text : List Char) {start : ScanState} (fresh : start.Holds []) :
    ∀ token ∈ start.scanRows (linesOf text),
      token.IsScanned (linesOf text).length ((linesOf text).getLastD []).length := by
  obtain ⟨kept, number⟩ := rows_hold (linesOf text) fresh
  rw [List.nil_append] at kept number
  simp only [ScanState.scanRows]
  rw [List.length_nil] at kept number
  rw [number]
  exact finish_scanned kept

/-- Every token of a text is as tokens are to be, for the place where the text ends. -/
theorem scan_scanned (text : List Char) :
    ∃ line column, ∀ token ∈ scan (linesOf text), token.IsScanned line column := by
  have fresh : ∀ carried, ScanState.Holds [] { ScanState.start with carried } :=
    fun carried => ⟨by simp [ScanState.start], by simp [ScanState.start]⟩
  unfold scan
  split
  · next marked =>
      obtain ⟨rest, rfl⟩ := marked_text marked
      rw [unmarked_lines]
      exact ⟨_, _, scan_rows_scanned rest (fresh [byteOrderMark])⟩
  · exact ⟨_, _, scan_rows_scanned text (fresh [])⟩

end LiveShell.Source
