import LiveShell.Proofs.Tiling

/-!
Where scanned names stand. A name is cut out of one row and ends on it, so a leaf that a name becomes lies inside the
source. Unlike tiling this holds of every source: when the columns of the first line do not count a leading byte order
mark, they are only smaller.
-/

namespace LiveShell.Source

open LiveShell.Locate

set_option autoImplicit false

/-! ### One row -/

/-- A property that tokens may keep while a row is scanned: of tokens that are no names nothing is asked, and of names
only that they lie on the row. -/
structure KeepsNames (keeps : Token → Prop) (number : Nat) (row : Array Char) : Prop where
  other : ∀ token : Token, token.kind ≠ .name → keeps token
  name : ∀ (text : List Char) (column : Nat) (spacing : List Char),
    (∀ character ∈ text, isNameCharacter character = true) → column + text.length ≤ row.size →
      keeps ⟨.name, text, number, column, spacing⟩

def ScanState.Keeps (keeps : Token → Prop) (state : ScanState) : Prop := ∀ token ∈ state.tokens, keeps token

def Round.Keeps (keeps : Token → Prop) : Round → Prop
  | .more state _ | .lineDone state => state.Keeps keeps

variable {keeps : Token → Prop} {number : Nat} {row : Array Char} {state : ScanState}

theorem keeps_emit (kept : state.Keeps keeps) {kind : TokenKind} {text : List Char} {line column : Nat}
    {spacing : List Char} (own : keeps ⟨kind, text, line, column, spacing⟩) :
    (state.emit kind text line column spacing).Keeps keeps :=
  tokens_push kept own

section Row

variable (names : KeepsNames keeps number row)
include names

theorem keeps_other (kept : state.Keeps keeps) {kind : TokenKind} (apart : kind ≠ .name) (text : List Char)
    (line column : Nat) (spacing : List Char) : (state.emit kind text line column spacing).Keeps keeps :=
  keeps_emit kept (names.other _ apart)

theorem keeps_dedent_to (kept : state.Keeps keeps) (line tokenColumn column : Nat) :
    (state.dedentTo line tokenColumn column).Keeps keeps := by
  have closed : ∀ (levels : List Nat) (tokens : Array Token), (∀ token ∈ tokens, keeps token) →
      ∀ token ∈ (ScanState.dedentTo.close line tokenColumn column levels tokens).2, keeps token := by
    intro levels tokens kept
    fun_induction ScanState.dedentTo.close line tokenColumn column levels tokens with
    | case1 => exact tokens_push kept (names.other _ (by simp))
    | case2 _ _ _ _ _ _ induction => exact induction (tokens_push kept (names.other _ (by simp)))
    | case3 => exact kept
    | case4 => exact kept
  exact closed state.levels state.tokens kept

theorem keeps_indent_to (kept : state.Keeps keeps) (line column : Nat) :
    (state.indentTo line column).Keeps keeps := by
  unfold ScanState.indentTo
  apply keeps_dedent_to names
  split
  · exact keeps_other names kept (by decide) [] line column []
  · exact kept

omit names in
/-- The pieces of a run of name characters lie on the run one after another. -/
theorem split_at_strays_within (column : Nat) (text : List Char) :
    ∀ entry ∈ splitAtStrays column text, entry.2.2 + entry.2.1.length ≤ column + text.length := by
  fun_induction splitAtStrays column text with
  | case1 => simp
  | case2 column first rest piece induction =>
      have split : (rest.takeWhile (joinsRun first)).length + (rest.dropWhile (joinsRun first)).length = rest.length := by
        rw [← List.length_append, List.takeWhile_append_dropWhile]
      have width : piece.length = (rest.takeWhile (joinsRun first)).length + 1 := rfl
      have whole : (first :: rest).length = rest.length + 1 := rfl
      refine List.forall_mem_cons.mpr ⟨?_, fun entry member => ?_⟩
      · show column + piece.length ≤ column + (first :: rest).length
        omega
      · have later := induction entry member
        omega

theorem keeps_emit_run (kept : state.Keeps keeps) {text : List Char} {column : Nat}
    (named : ∀ character ∈ text, isNameCharacter character = true)
    (inside : text ≠ [] → column + text.length ≤ row.size) : (state.emitRun text number column).Keeps keeps := by
  refine List.foldlRecOn (motive := ScanState.Keeps keeps) _ _ kept fun state under entry member => ?_
  obtain ⟨kinds, characters⟩ := split_at_strays_spec column text entry member
  have within := split_at_strays_within column text entry member
  have filled : text ≠ [] := by
    rintro rfl
    rw [splitAtStrays] at member
    exact absurd member List.not_mem_nil
  obtain ⟨kind, piece, start⟩ := entry
  apply keeps_emit under
  rcases kinds with rfl | rfl
  · exact names.name piece start _ (fun character inside => named character (characters character inside))
      (Nat.le_trans within (inside filled))
  · exact names.other _ (by simp)

theorem keeps_take_name (kept : state.Keeps keeps) {piece : Piece} (shape : piece.IsName row) :
    (state.takeName number row piece).Keeps keeps := by
  have inside : (row.extract piece.start piece.stop).toList ≠ [] →
      piece.start + (row.extract piece.start piece.stop).toList.length ≤ row.size := by
    intro filled
    have positive := List.length_pos_iff.mpr filled
    rw [Array.length_toList, Array.size_extract] at positive ⊢
    omega
  have settled : ∀ {state : ScanState}, state.Keeps keeps →
      (state.emitRun (row.extract piece.start piece.stop).toList number piece.start).Keeps keeps :=
    fun kept => keeps_emit_run names kept shape.2 inside
  simp only [ScanState.takeName]
  split
  · split
    · exact settled (keeps_dedent_to names kept _ _ _)
    · exact settled kept
  · exact settled kept

theorem keeps_take_operator (kept : state.Keeps keeps) (text : List Char) (piece : Piece) :
    (state.takeOperator number text piece).Keeps keeps := by
  have emitted : ∀ {state : ScanState}, state.Keeps keeps → ∀ text,
      (state.emit .operator text number piece.start state.spacing).Keeps keeps := fun kept text =>
    keeps_other names kept (by decide) text number piece.start _
  simp only [ScanState.takeOperator]
  repeat' split
  all_goals exact emitted kept _

theorem keeps_take_line_break (kept : state.Keeps keeps) (text : List Char) (piece : Piece) :
    (state.takeLineBreak number text piece).Keeps keeps := by
  simp only [ScanState.takeLineBreak]
  generalize (if (state.literals.any fun literal => !literal.spansLines) = true then []
    else state.literals) = literals
  have without : ScanState.Keeps keeps { state with literals } := kept
  show ScanState.Keeps keeps (ite _ _ _)
  split
  · exact keeps_other names without (by decide) text number piece.start state.spacing
  · exact kept

theorem keeps_take_piece (kept : state.Keeps keeps) {piece : Piece} (name : piece.kind = .name → piece.IsName row) :
    (state.takePiece number row piece).Keeps keeps := by
  cases isKind : piece.kind with
  | number =>
      simp only [ScanState.takePiece, isKind]
      exact keeps_other names kept (by decide) _ _ _ _
  | name =>
      simp only [ScanState.takePiece, isKind]
      exact keeps_take_name names kept (name isKind)
  | comment =>
      simp only [ScanState.takePiece, isKind]
      split
      · exact keeps_other names kept (by decide) _ _ _ _
      · exact kept
  | tripleStart =>
      simp only [ScanState.takePiece, isKind, ScanState.takeTriple]
      split
      · exact keeps_other names kept (by decide) _ _ _ _
      · exact kept
  | single =>
      simp only [ScanState.takePiece, isKind, ScanState.takeSingle]
      split
      · exact kept
      · exact keeps_other names kept (by decide) _ _ _ _
  | formattedStart =>
      simp only [ScanState.takePiece, isKind]
      exact keeps_other names kept (by decide) _ _ _ _
  | continuation =>
      simp only [ScanState.takePiece, isKind]
      split
      · exact kept
      · exact keeps_other names kept (by decide) _ _ _ _
  | ending =>
      simp only [ScanState.takePiece, isKind]
      exact kept
  | operator =>
      simp only [ScanState.takePiece, isKind]
      split
      · exact keeps_take_line_break names kept _ _
      · exact keeps_take_operator names kept _ _

theorem keeps_take_next (kept : state.Keeps keeps) (column : Nat) : (state.takeNext number row column).Keeps keeps := by
  have settled : ∀ {state : ScanState} (atStart : Bool) (start : Nat), state.Keeps keeps →
      (if atStart then state.indentTo number start else state).Keeps keeps := by
    intro state atStart start kept
    split
    · exact keeps_indent_to names kept number start
    · exact kept
  obtain ⟨size, visible⟩ : ∃ size, (if state.literals.isEmpty then row else fieldLine state.literals row column) =
      row.extract 0 size := by
    split
    · exact ⟨row.size, by simp⟩
    · exact field_line_part _ _ _
  simp only [ScanState.takeNext, visible]
  split
  · next piece found =>
      have name := (piece_shapes found).2.2
      split
      · next ending =>
          simp only [ScanState.takePiece, ending]
          exact kept
      · refine keeps_take_piece names ?_ fun kind => (@shapes_of_part row size piece).2.2 (name kind)
        split
        · exact settled _ _ kept
        · exact kept
  · have emitted : ∀ {state : ScanState} (start : Nat) (spacing : List Char), state.Keeps keeps →
        (state.emit .stray (row.extract start (start + 1)).toList number start spacing).Keeps keeps :=
      fun start spacing kept => keeps_other names kept (by decide) _ number start spacing
    apply emitted
    split
    · exact settled _ _ kept
    · exact kept

theorem keeps_after_text (kept : state.Keeps keeps) (column : Nat) :
    (state.afterText number row column).Keeps keeps := by
  simp only [ScanState.afterText]
  split
  · exact keeps_other names kept (by decide) _ number _ _
  · exact keeps_take_next names kept column

theorem keeps_round (kept : state.Keeps keeps) (column : Nat) : (state.round number row column).Keeps keeps := by
  have lineOver : ∀ {state : ScanState}, state.Keeps keeps → ∀ stop,
      (if stop = row.size then Round.lineDone state else state.afterText number row stop).Keeps keeps := by
    intro state kept stop
    split
    · exact kept
    · exact keeps_after_text names kept stop
  simp only [ScanState.round]
  split
  · exact keeps_take_next names kept column
  · split
    · exact keeps_after_text names kept column
    · refine lineOver ?_ _
      split
      · exact kept
      · split
        · exact kept
        · have updated : ∀ update, (state.updateInnermost update).Keeps keeps := fun _ => kept
          exact keeps_other names (updated _) (by decide) _ _ _ _

theorem keeps_rounds (kept : state.Keeps keeps) (fuel column : Nat) :
    (ScanState.rounds number row fuel state column).Keeps keeps := by
  induction fuel generalizing state column with
  | zero => exact kept
  | succ fuel induction =>
      rw [ScanState.rounds]
      split
      · have later := keeps_round names kept column
        split
        · next again =>
            rw [again] at later
            exact induction later _
        · next finished =>
            rw [finished] at later
            exact later
      · exact kept

theorem keeps_scan_line (kept : state.Keeps keeps) : (state.scanLine number row).Keeps keeps := by
  simp only [ScanState.scanLine]
  split
  · exact keeps_rounds names kept _ _
  · split
    · exact kept
    · refine keeps_rounds names ?_ _ _
      exact keeps_other names kept (by decide) _ _ _ _

end Row

/-! ### All rows -/

/-- A name lies on the row of its line. -/
def Token.LiesOn (rows : List (List Char)) (token : Token) : Prop :=
  token.kind = .name → (∀ character ∈ token.text, isNameCharacter character = true) ∧
    ∃ row, rows[token.line - 1]? = some row ∧ token.column + token.text.length ≤ row.length

theorem row_keeps_names {rows : List (List Char)} {index : Nat} {row : List Char} (here : rows[index]? = some row) :
    KeepsNames (Token.LiesOn rows) (index + 1) row.toArray where
  other _ apart isName := absurd isName apart
  name _ _ _ named inside _ := ⟨named, row, here, by simpa using inside⟩

theorem keeps_finish {rows : List (List Char)} (kept : state.Keeps (Token.LiesOn rows)) (line column : Nat) :
    ∀ token ∈ state.finish line column, token.LiesOn rows := by
  have other : ∀ {state : ScanState} {kind : TokenKind} (text : List Char) (line column : Nat) (spacing : List Char),
      kind ≠ .name → state.Keeps (Token.LiesOn rows) →
        (state.emit kind text line column spacing).Keeps (Token.LiesOn rows) :=
    fun text line column spacing apart kept => keeps_emit kept fun isName => absurd isName apart
  have given : state.giveOpen.Keeps (Token.LiesOn rows) := by
    have pending : ∀ {state : ScanState} (literal : OpenFormatted), state.Keeps (Token.LiesOn rows) →
        (if literal.pending.isEmpty then state
          else state.emit .formattedText literal.pending literal.pendingLine literal.pendingColumn []).Keeps
            (Token.LiesOn rows) := by
      intro state literal kept
      split
      · exact kept
      · exact other _ _ _ _ (by decide) kept
    simp only [ScanState.giveOpen]
    cases state.openString with
    | none =>
        split
        · exact pending _ kept
        · exact kept
    | some literal =>
        have apart : TokenKind.stray ≠ .name := by decide
        have stray := other literal.text literal.line literal.column state.spacing apart kept
        split
        · exact pending _ stray
        · exact stray
  simp only [ScanState.finish]
  refine other _ _ _ _ (by decide) ?_
  exact List.foldlRecOn (motive := ScanState.Keeps (Token.LiesOn rows)) _ _ given
    fun state under _ _ => other _ _ _ _ (by decide) under

theorem rows_keep (all rows before : List (List Char)) (split : all = before ++ rows)
    (kept : state.Keeps (Token.LiesOn all)) :
    (rows.foldl (fun (state, number) row =>
      (ScanState.scanLine state (number + 1) row.toArray, number + 1)) (state, before.length)).1.Keeps
        (Token.LiesOn all) := by
  induction rows generalizing before state with
  | nil => exact kept
  | cons row rows induction =>
      have here : all[before.length]? = some row := by simp [split]
      have later := induction (before ++ [row]) (by simp [split]) (keeps_scan_line (row_keeps_names here) kept)
      rw [List.length_append] at later
      exact later

theorem scan_rows_lie (rows : List (List Char)) {start : ScanState} (fresh : start.tokens = #[]) :
    ∀ token ∈ start.scanRows rows, token.LiesOn rows := by
  have none : start.Keeps (Token.LiesOn rows) := by simp [ScanState.Keeps, fresh]
  exact keeps_finish (rows_keep rows rows [] rfl none) _ _

/-- Every name of a source lies on its line. The mark that may stand first only makes the line longer. -/
theorem scanned_names_lie (lines : List (List Char)) : ∀ token ∈ scan lines, token.LiesOn lines := by
  unfold scan
  split
  · next marked =>
    intro token member isName
    obtain ⟨named, row, here, inside⟩ := scan_rows_lie ((lines.headD []).drop 1 :: lines.drop 1) rfl token member isName
    refine ⟨named, ?_⟩
    cases lines with
    | nil => exact absurd marked (by simp)
    | cons first others =>
        cases index : token.line - 1 with
        | zero =>
            rw [index] at here
            obtain rfl := Option.some.inj here
            refine ⟨first, rfl, Nat.le_trans inside ?_⟩
            simp
        | succ index =>
            rw [index] at here
            exact ⟨row, here, inside⟩
  · exact scan_rows_lie lines rfl

/-! ### Leaves -/

/-- Words are leaves of name tokens. -/
theorem word_of_token {leaf : Leaf} {token : Token} {kind : LeafKind} {lines : Lines}
    (same : leaf = token.leaf lines kind) (kinds : kind = .stray token.kind ∨ ∃ back, kind = leafKind token back)
    (word : (isName leaf || isKeywordLeaf leaf) = true) : token.kind = .name := by
  have isKind : leaf.kind = kind := congrArg Leaf.kind same
  simp only [isName, isKeywordLeaf, isKind] at word
  rcases kinds with rfl | ⟨back, rfl⟩
  · cases isToken : token.kind <;> simp_all
  · unfold leafKind at word
    cases isToken : token.kind <;> simp_all

theorem names_hold_no_break {text : List Char} (named : ∀ character ∈ text, isNameCharacter character = true) :
    linesOf text = [text] := by
  induction text with
  | nil => rfl
  | cons first rest induction =>
      obtain ⟨isName, others⟩ := List.forall_mem_cons.mp named
      have plain : ¬(first = '\n' ∨ first = '\r') := by
        rintro (rfl | rfl) <;> exact absurd isName (by decide)
      rw [linesOf]
      · rw [if_neg plain, induction others]
      · rintro more rfl
        exact absurd (Or.inr rfl) plain

/-- A word of a source lies inside it. -/
theorem word_inside (source : String) (place : Nat)
    (word : (isName (leafAt (parse source).leaves place) ||
      isKeywordLeaf (leafAt (parse source).leaves place)) = true) :
    (leafAt (parse source).leaves place).start + (leafAt (parse source).leaves place).text.length ≤
      source.length := by
  by_cases bound : place < (parse source).leaves.size
  · obtain ⟨token, member, kind, same, kinds⟩ := parse_leaves_from source _ (Array.getElem_mem bound)
    rw [leaf_at_eq bound] at word ⊢
    have isName := word_of_token same kinds word
    obtain ⟨named, row, here, inside⟩ := scanned_names_lie _ token member isName
    have rows : (parse source).lines.texts.toList = linesOf source.toList := by simp [parse, Lines.of]
    rw [rows] at here
    obtain ⟨rowBound, isRow⟩ := List.getElem?_eq_some_iff.mp here
    have start := line_start_after_lines 0 (token.line - 1) (linesOf source.toList) rowBound
    have next := line_offset_succ source.toList (token.line - 1) rowBound
    have whole := line_offset_mono source.toList (show token.line - 1 + 1 ≤ _ from rowBound)
    rw [line_offset_end, String.length_toList] at whole
    have begins : (parse source).lines.starts[token.line - 1]? = some (lineOffset source.toList (token.line - 1)) := by
      simpa [parse, Lines.of, lineOffset] using start
    rw [same]
    simp only [Token.leaf, String.length_ofList, Lines.offsetAt, begins]
    rw [isRow] at next
    omega
  · rw [leafAt, Array.getD_eq_getD_getElem?, Array.getElem?_eq_none (Nat.not_lt.mp bound)]
    exact Nat.zero_le _

end LiveShell.Source
