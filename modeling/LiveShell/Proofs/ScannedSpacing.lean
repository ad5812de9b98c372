import LiveShell.Proofs.LeafOrder
import LiveShell.Proofs.Tiling

/-!
What may stand between two tokens. The scanner puts what it passes over into the spacing of the next token: blanks, line
breaks that end nothing, comments, and backslashes that join lines. Only the first token may also have the byte order
mark before it. A quote that closes a formatted literal is left out, since there any white space is passed over.
-/

namespace LiveShell.Source

open LiveShell.Locate

set_option autoImplicit false

/-! ### Spacing -/

/-- A line break, in one of its three forms. -/
def IsBreak (text : List Char) : Prop := text = ['\r', '\n'] ∨ text = ['\r'] ∨ text = ['\n']

/-- White space, comments and line continuations. A comment takes all of its line, so it does not matter where on the
line it is taken to end. -/
inductive IsSpacing : List Char → Prop
  | nothing : IsSpacing []
  | blank {character : Char} {rest : List Char} (white : isBlank character = true) (more : IsSpacing rest) :
      IsSpacing (character :: rest)
  | lineBreak {text rest : List Char} (breaks : IsBreak text) (more : IsSpacing rest) : IsSpacing (text ++ rest)
  | comment {text rest : List Char} (plain : ∀ character ∈ text, character ≠ '\r' ∧ character ≠ '\n')
      (more : IsSpacing rest) : IsSpacing ('#' :: text ++ rest)
  | continuation {text rest : List Char} (breaks : IsBreak text) (more : IsSpacing rest) :
      IsSpacing ('\\' :: text ++ rest)

theorem IsSpacing.append {first second : List Char} (spaces : IsSpacing first) (more : IsSpacing second) :
    IsSpacing (first ++ second) := by
  induction spaces with
  | nothing => exact more
  | blank white _ induction => exact .blank white induction
  | lineBreak breaks _ induction =>
      rw [List.append_assoc]
      exact .lineBreak breaks induction
  | comment plain _ induction =>
      rw [List.append_assoc]
      exact .comment plain induction
  | continuation breaks _ induction =>
      rw [List.append_assoc]
      exact .continuation breaks induction

theorem spacing_of_blanks {text : List Char} (blanks : ∀ character ∈ text, isBlank character = true) :
    IsSpacing text := by
  induction text with
  | nil => exact .nothing
  | cons first rest induction =>
      obtain ⟨white, others⟩ := List.forall_mem_cons.mp blanks
      exact .blank white (induction others)

theorem spacing_of_break {text : List Char} (breaks : IsBreak text) : IsSpacing text := by
  have alone := IsSpacing.lineBreak breaks .nothing
  rwa [List.append_nil] at alone

/-! ### Pieces -/

variable {row : Array Char} {number : Nat} {state : ScanState}

/-- The blanks before a piece are spacing, also when a formatted literal lets only a part of the row be seen. -/
theorem blanks_are_spacing (row : Array Char) (size column : Nat) :
    IsSpacing (row.extract column (runEnd (row.extract 0 size) isBlank column)).toList := by
  by_cases inside : column ≤ (row.extract 0 size).size
  · obtain ⟨_, within, blanks⟩ := run_end_spec (row.extract 0 size) isBlank inside
    rw [(extract_of_part column within).2] at blanks
    exact spacing_of_blanks blanks
  · have stays : runEnd (row.extract 0 size) isBlank column = column := by
      rw [runEnd, dif_neg (by omega)]
    rw [stays]
    simpa using IsSpacing.nothing

/-- What of a row is passed over: a comment, a backslash at the end of the row, a line break. -/
structure Piece.IsPassed (row : Array Char) (piece : Piece) : Prop where
  comment : piece.kind = .comment → piece.stop ≤ row.size ∧ IsSpacing (row.extract piece.start piece.stop).toList
  continuation : piece.kind = .continuation → piece.stop ≤ row.size ∧
    ∃ lineBreak, IsBreak lineBreak ∧ (row.extract piece.start piece.stop).toList = '\\' :: lineBreak
  lineBreak : piece.kind = .operator → piece.stop ≤ row.size ∧
    (((row.extract piece.start piece.stop).toList.head?.any fun character =>
        character = '\r' || character = '\n') = true →
      IsBreak (row.extract piece.start piece.stop).toList)

theorem operators_filled : ∀ text ∈ operators, text ≠ [] := by decide

theorem operators_break : ∀ text ∈ operators,
    (text.head?.any fun character => character = '\r' || character = '\n') = true →
      text = ['\r', '\n'] ∨ text = ['\r'] ∨ text = ['\n'] := by
  decide

/-- A hash takes the rest of the row up to its break along. -/
theorem comment_is_spacing {start : Nat} (hash : row[start]? = some '#') :
    let stop := runEnd row (fun character => character ≠ '\r' && character ≠ '\n') start
    stop ≤ row.size ∧ IsSpacing (row.extract start stop).toList := by
  have bound := (Array.getElem?_eq_some_iff.mp hash).1
  obtain ⟨_, within, plain⟩ :=
    run_end_spec row (fun character => character ≠ '\r' && character ≠ '\n') (Nat.le_of_lt bound)
  refine ⟨within, ?_⟩
  generalize runEnd row _ start = stop at plain ⊢
  cases text : (row.extract start stop).toList with
  | nil => exact .nothing
  | cons first rest =>
      have head := congrArg List.head? text
      rw [Array.toList_extract, List.extract_eq_take_drop, List.head?_take, List.head?_drop, Array.getElem?_toList,
        hash, List.head?_cons, Option.ite_none_left_eq_some] at head
      obtain rfl : '#' = first := Option.some.inj head.2
      rw [text] at plain
      have others : ∀ character ∈ rest, character ≠ '\r' ∧ character ≠ '\n' := fun character member => by
        simpa using plain character (List.mem_cons_of_mem _ member)
      have comment := IsSpacing.comment others .nothing
      rwa [List.append_nil] at comment

/-- A backslash before a break joins the next row to this one; of the break it takes one character along. -/
theorem backslash_joins {start : Nat}
    (joins : (holdsAt row start (· = '\\') && holdsAt row (start + 1) fun next => next = '\r' || next = '\n') = true) :
    start + 2 ≤ row.size ∧
      ∃ lineBreak, IsBreak lineBreak ∧ (row.extract start (start + 2)).toList = '\\' :: lineBreak := by
  obtain ⟨backslash, breaks⟩ := Bool.and_eq_true_iff.mp joins
  obtain ⟨first, here, isBackslash⟩ := holds_at_iff.mp backslash
  obtain ⟨second, next, isBreak⟩ := holds_at_iff.mp breaks
  refine ⟨(Array.getElem?_eq_some_iff.mp next).1, [second], ?_, ?_⟩
  · simp only [Bool.or_eq_true, decide_eq_true_eq] at isBreak
    rcases isBreak with rfl | rfl
    · exact Or.inr (Or.inl rfl)
    · exact Or.inr (Or.inr rfl)
  · rw [extract_split row (Nat.le_add_right _ 1) (Nat.le_succ _), extract_one here, extract_one next,
      of_decide_eq_true isBackslash]
    rfl

theorem passed_comment {start stop : Nat}
    (spaces : stop ≤ row.size ∧ IsSpacing (row.extract start stop).toList) :
    (Piece.mk .comment start stop).IsPassed row where
  comment _ := spaces
  continuation kind := PieceKind.noConfusion kind
  lineBreak kind := PieceKind.noConfusion kind

theorem passed_continuation {start stop : Nat} (joins : stop ≤ row.size ∧
      ∃ lineBreak, IsBreak lineBreak ∧ (row.extract start stop).toList = '\\' :: lineBreak) :
    (Piece.mk .continuation start stop).IsPassed row where
  comment kind := PieceKind.noConfusion kind
  continuation _ := joins
  lineBreak kind := PieceKind.noConfusion kind

theorem passed_operator {start : Nat} {text : List Char} (known : text ∈ operators)
    (starts : startsWith row start text = true) : (Piece.mk .operator start (start + text.length)).IsPassed row where
  comment kind := PieceKind.noConfusion kind
  continuation kind := PieceKind.noConfusion kind
  lineBreak _ := by
    refine ⟨starts_with_within starts (operators_filled text known), fun breaks => ?_⟩
    rw [starts_with_eq starts] at breaks ⊢
    exact operators_break text known breaks

theorem passed_pieces {column : Nat} {piece : Piece} (found : pieceAt? row column = some piece) :
    piece.IsPassed row := by
  have other : ∀ {kind start stop}, kind ≠ .comment ∧ kind ≠ .continuation ∧ kind ≠ .operator →
      some (Piece.mk kind start stop) = some piece → piece.IsPassed row := by
    intro kind start stop apart same
    rw [← Option.some.inj same]
    exact ⟨(absurd · apart.1), (absurd · apart.2.1), (absurd · apart.2.2)⟩
  simp only [pieceAt?] at found
  split at found
  · next joins =>
      rw [← Option.some.inj found]
      exact passed_continuation ⟨starts_with_within joins (by simp), _, Or.inl rfl, starts_with_eq joins⟩
  split at found
  · next joins =>
      rw [← Option.some.inj found]
      exact passed_continuation (backslash_joins joins)
  split at found
  · exact other (by decide) found
  split at found
  · next hash =>
      obtain ⟨first, here, isHash⟩ := holds_at_iff.mp hash
      rw [← Option.some.inj found]
      exact passed_comment (comment_is_spacing (of_decide_eq_true isHash ▸ here))
  split at found
  · exact other (by decide) found
  split at found
  · exact other (by decide) found
  split at found
  · exact other (by decide) found
  split at found
  · next stop ends =>
      obtain ⟨text, known, rfl⟩ := Option.map_eq_some_iff.mp ends
      rw [← Option.some.inj found]
      exact passed_operator (List.mem_of_find?_eq_some known) (List.find?_some known)
  split at found
  · exact other (by decide) found
  · obtain ⟨stop, _, same⟩ := Option.bind_eq_some_iff.mp found
    exact other (by decide) same

theorem passed_of_part {size : Nat} {piece : Piece} (passed : piece.IsPassed (row.extract 0 size)) :
    piece.IsPassed row where
  comment kind := by
    obtain ⟨within, spaces⟩ := passed.comment kind
    obtain ⟨bound, same⟩ := extract_of_part piece.start within
    exact ⟨bound, same ▸ spaces⟩
  continuation kind := by
    obtain ⟨within, joins⟩ := passed.continuation kind
    obtain ⟨bound, same⟩ := extract_of_part piece.start within
    exact ⟨bound, same ▸ joins⟩
  lineBreak kind := by
    obtain ⟨within, breaks⟩ := passed.lineBreak kind
    obtain ⟨bound, same⟩ := extract_of_part piece.start within
    exact ⟨bound, same ▸ breaks⟩

/-! ### Tokens -/

/-- A mark of indentation: it has no text, and the spacing before it goes to the next token. -/
structure Token.IsMark (token : Token) : Prop where
  kind : token.kind = .indent ∨ token.kind = .dedent ∨ token.kind = .misindent
  text : token.text = []
  spacing : token.spacing = []

theorem no_mark_of_kind {token : Token} (apart : token.kind ≠ .indent ∧ token.kind ≠ .dedent ∧ token.kind ≠ .misindent) :
    ¬token.IsMark := by
  intro mark
  rcases mark.kind with indent | dedent | misindent
  · exact apart.1 indent
  · exact apart.2.1 dedent
  · exact apart.2.2 misindent

/-- Of two tokens, one after the other: the spacing of the second one is all spacing, unless the first one left what was
before it to others. -/
def SpacedBehind (first second : Token) : Prop :=
  ¬first.IsMark → second.kind ≠ .formattedEnd → IsSpacing second.spacing

/-- Some token has taken what was before it. -/
def HasStarted (tokens : List Token) : Prop := ∃ token ∈ tokens, ¬token.IsMark

/-- What scanning keeps of spacing: that of the tokens so far, and that for the next one. Formatted literals are open
only behind the token that opened them. -/
structure KeepsSpacing (tokens : List Token) (carried : List Char) (literals : List OpenFormatted) : Prop where
  behind : tokens.Pairwise SpacedBehind
  carried : HasStarted tokens → IsSpacing carried
  literals : literals ≠ [] → HasStarted tokens

variable {tokens : List Token} {token : Token} {carried : List Char} {literals : List OpenFormatted}

theorem HasStarted.append (started : HasStarted tokens) (more : List Token) : HasStarted (tokens ++ more) := by
  obtain ⟨first, member, noMark⟩ := started
  exact ⟨first, List.mem_append_left more member, noMark⟩

theorem started_push (noMark : ¬token.IsMark) : HasStarted (tokens ++ [token]) :=
  ⟨token, List.mem_append_right _ (List.mem_singleton_self token), noMark⟩

theorem started_of_marks {marks : List Token} (allMarks : ∀ mark ∈ marks, mark.IsMark)
    (started : HasStarted (tokens ++ marks)) : HasStarted tokens := by
  obtain ⟨first, member, noMark⟩ := started
  rcases List.mem_append.mp member with known | mark
  · exact ⟨first, known, noMark⟩
  · exact absurd (allMarks first mark) noMark

/-- Marks take no spacing. -/
theorem KeepsSpacing.marks (keeps : KeepsSpacing tokens carried literals) {marks : List Token}
    (allMarks : ∀ mark ∈ marks, mark.IsMark) : KeepsSpacing (tokens ++ marks) carried literals where
  behind := by
    have behind : ∀ first, ∀ mark ∈ marks, SpacedBehind first mark := fun first mark member _ _ => by
      rw [(allMarks mark member).spacing]
      exact .nothing
    refine List.pairwise_append.mpr ⟨keeps.behind, ?_, fun first _ => behind first⟩
    exact List.pairwise_of_forall_mem_list fun first _ mark member => behind first mark member
  carried started := keeps.carried (started_of_marks allMarks started)
  literals opened := (keeps.literals opened).append marks

theorem behind_push (behind : tokens.Pairwise SpacedBehind)
    (own : HasStarted tokens → token.kind ≠ .formattedEnd → IsSpacing token.spacing) :
    (tokens ++ [token]).Pairwise SpacedBehind := by
  refine List.pairwise_append.mpr ⟨behind, List.pairwise_singleton _ _, ?_⟩
  intro first member second isToken noMark
  obtain rfl := List.mem_singleton.mp isToken
  exact own ⟨first, member, noMark⟩

/-- A token takes the spacing before it, and what is kept for the next one is spacing. -/
theorem KeepsSpacing.push (keeps : KeepsSpacing tokens carried literals)
    (own : HasStarted tokens → token.kind ≠ .formattedEnd → IsSpacing token.spacing) {next : List Char}
    (spacing : IsSpacing next) : KeepsSpacing (tokens ++ [token]) next literals where
  behind := behind_push keeps.behind own
  carried _ := spacing
  literals opened := (keeps.literals opened).append [token]

theorem KeepsSpacing.emit (keeps : KeepsSpacing state.tokens.toList carried literals) {kind : TokenKind}
    {text spacing next : List Char} {line column : Nat}
    (own : HasStarted state.tokens.toList → kind ≠ .formattedEnd → IsSpacing spacing) (clean : IsSpacing next) :
    KeepsSpacing (state.emit kind text line column spacing).tokens.toList next literals := by
  rw [ScanState.emit, Array.toList_push]
  exact keeps.push own clean

/-! ### Rounds -/

/-- Between two pieces of a row: no literal goes on over lines. -/
def ScanState.Spaces (state : ScanState) : Prop :=
  state.openString = none ∧ KeepsSpacing state.tokens.toList state.carried state.literals

/-- Before a piece is taken: what was carried is part of its spacing. -/
def ScanState.SpacesPiece (state : ScanState) : Prop :=
  state.Spaces ∧ state.carried = [] ∧ (HasStarted state.tokens.toList → IsSpacing state.spacing)

/-- Between two rows: the spacing of a literal that goes on is kept until it ends. -/
def ScanState.SpacesLine (state : ScanState) : Prop :=
  KeepsSpacing state.tokens.toList state.carried state.literals ∧ (state.openString.isSome = true →
    state.carried = [] ∧ (HasStarted state.tokens.toList → IsSpacing state.spacing))

def Round.Spaces : Round → Prop
  | .more state _ => state.Spaces
  | .lineDone state => state.SpacesLine

theorem ScanState.Spaces.line (spaces : state.Spaces) : state.SpacesLine :=
  ⟨spaces.2, by simp [spaces.1]⟩

/-- A state that has got marks of indentation, and is the same for spacing. -/
structure AddsMarks (before after : ScanState) : Prop where
  tokens : ∃ marks : List Token, (∀ mark ∈ marks, mark.IsMark) ∧ after.tokens.toList = before.tokens.toList ++ marks
  carried : after.carried = before.carried
  spacing : after.spacing = before.spacing
  literals : after.literals = before.literals
  openString : after.openString = before.openString

theorem dedent_to_marks (state : ScanState) (line tokenColumn column : Nat) :
    AddsMarks state (state.dedentTo line tokenColumn column) := by
  have closed : ∀ (levels : List Nat) (tokens : Array Token), ∃ marks : List Token, (∀ mark ∈ marks, mark.IsMark) ∧
      (ScanState.dedentTo.close line tokenColumn column levels tokens).2.toList = tokens.toList ++ marks := by
    intro levels tokens
    fun_induction ScanState.dedentTo.close line tokenColumn column levels tokens with
    | case1 => exact ⟨_, List.forall_mem_singleton.mpr ⟨Or.inr (Or.inr rfl), rfl, rfl⟩, Array.toList_push⟩
    | case2 _ _ _ _ _ _ induction =>
        obtain ⟨marks, allMarks, same⟩ := induction
        refine ⟨⟨.dedent, [], line, tokenColumn, []⟩ :: marks,
          List.forall_mem_cons.mpr ⟨⟨Or.inr (Or.inl rfl), rfl, rfl⟩, allMarks⟩, ?_⟩
        rw [same, Array.toList_push, List.append_assoc]
        rfl
    | case3 => exact ⟨[], by simp, by simp⟩
    | case4 => exact ⟨[], by simp, by simp⟩
  exact ⟨closed state.levels state.tokens, rfl, rfl, rfl, rfl⟩

theorem indent_to_marks (state : ScanState) (line column : Nat) : AddsMarks state (state.indentTo line column) := by
  unfold ScanState.indentTo
  split
  · obtain ⟨⟨marks, allMarks, same⟩, carried, spacing, literals, openString⟩ := dedent_to_marks
      { state.emit .indent [] line column [] with levels := column :: state.levels } line column column
    refine ⟨⟨⟨.indent, [], line, column, []⟩ :: marks,
      List.forall_mem_cons.mpr ⟨⟨Or.inl rfl, rfl, rfl⟩, allMarks⟩, ?_⟩, carried, spacing, literals, openString⟩
    rw [same]
    simp [ScanState.emit]
  · exact dedent_to_marks state line column column

theorem AddsMarks.spaces {after : ScanState} (adds : AddsMarks state after) (spaces : state.Spaces) : after.Spaces := by
  obtain ⟨⟨marks, allMarks, same⟩, carried, _, literals, openString⟩ := adds
  rw [ScanState.Spaces, same, carried, literals, openString]
  exact ⟨spaces.1, spaces.2.marks allMarks⟩

theorem AddsMarks.piece {after : ScanState} (adds : AddsMarks state after) (piece : state.SpacesPiece) :
    after.SpacesPiece := by
  obtain ⟨spaces, nothing, spacing⟩ := piece
  refine ⟨adds.spaces spaces, adds.carried.trans nothing, fun started => ?_⟩
  obtain ⟨marks, allMarks, same⟩ := adds.tokens
  rw [same] at started
  rw [adds.spacing]
  exact spacing (started_of_marks allMarks started)

/-- A token takes the spacing of its piece. -/
theorem spaces_emit (piece : state.SpacesPiece) (kind : TokenKind) (text : List Char) (line column : Nat) :
    (state.emit kind text line column state.spacing).Spaces := by
  obtain ⟨⟨closed, keeps⟩, nothing, spacing⟩ := piece
  exact ⟨closed, keeps.emit (fun started _ => spacing started) (nothing ▸ .nothing)⟩

/-- A token without spacing before it changes nothing, once what is carried is spacing. -/
theorem spaces_emit_joined (spaces : state.Spaces) (carried : IsSpacing state.carried) (kind : TokenKind)
    (text : List Char) (line column : Nat) : (state.emit kind text line column []).Spaces :=
  ⟨spaces.1, spaces.2.emit (fun _ _ => .nothing) carried⟩

/-- What is passed over is carried to the next token. -/
theorem spaces_carry (piece : state.SpacesPiece) {passed : List Char} (spacing : IsSpacing passed) :
    ScanState.Spaces { state with carried := state.spacing ++ passed } :=
  ⟨piece.1.1, piece.1.2.behind, fun started => (piece.2.2 started).append spacing, piece.1.2.literals⟩

theorem spaces_update (spaces : state.Spaces) (change : OpenFormatted → OpenFormatted) :
    (state.updateInnermost change).Spaces := by
  refine ⟨spaces.1, spaces.2.behind, spaces.2.carried, fun opened => spaces.2.literals ?_⟩
  intro none
  simp [ScanState.updateInnermost, none] at opened

theorem piece_update (taken : state.SpacesPiece) (change : OpenFormatted → OpenFormatted) :
    (state.updateInnermost change).SpacesPiece :=
  ⟨spaces_update taken.1 change, taken.2⟩

theorem take_triple_spaces (taken : state.SpacesPiece) (piece : Piece) :
    (state.takeTriple number row piece).Spaces := by
  simp only [ScanState.takeTriple]
  split
  · exact spaces_emit taken _ _ _ _
  · exact ⟨taken.1.2, fun _ => taken.2⟩

theorem take_single_spaces (taken : state.SpacesPiece) (piece : Piece) :
    (state.takeSingle number row piece).Spaces := by
  simp only [ScanState.takeSingle]
  split
  · exact ⟨taken.1.2, fun _ => taken.2⟩
  · exact spaces_emit taken _ _ _ _

theorem split_at_strays_after (column : Nat) (text : List Char) :
    ∀ entry ∈ splitAtStrays column text, column ≤ entry.2.2 := by
  fun_induction splitAtStrays column text with
  | case1 => simp
  | case2 column first rest piece induction =>
      refine List.forall_mem_cons.mpr ⟨le_refl _, fun entry member => ?_⟩
      have later := induction entry member
      omega

/-- Behind the first of the pieces that a run is cut into, nothing has spacing before it. -/
theorem emit_joined_spaces {entries : List (TokenKind × List Char × Nat)} {column : Nat}
    (behind : ∀ entry ∈ entries, column < entry.2.2) (spaces : state.Spaces) (nothing : state.carried = [])
    (line : Nat) : (entries.foldl (fun state (kind, piece, start) =>
      state.emit kind piece line start (if start = column then state.spacing else [])) state).Spaces := by
  induction entries generalizing state with
  | nil => exact spaces
  | cons entry rest induction =>
      obtain ⟨after, others⟩ := List.forall_mem_cons.mp behind
      obtain ⟨kind, piece, start⟩ := entry
      have apart : start ≠ column := Nat.ne_of_gt after
      simp only [List.foldl_cons, apart, if_false]
      exact induction others (spaces_emit_joined spaces (nothing ▸ .nothing) kind piece line start) nothing

theorem emit_run_spaces (taken : state.SpacesPiece) (text : List Char) (line column : Nat) :
    (state.emitRun text line column).Spaces := by
  unfold ScanState.emitRun
  cases text with
  | nil =>
      rw [splitAtStrays]
      exact taken.1
  | cons first rest =>
      rw [splitAtStrays, List.foldl_cons]
      simp only [if_true]
      refine emit_joined_spaces (fun entry member => ?_) (spaces_emit taken _ _ _ _) taken.2.1 line
      have after := split_at_strays_after _ _ entry member
      rw [List.length_cons] at after
      omega

theorem take_name_spaces (taken : state.SpacesPiece) (piece : Piece) : (state.takeName number row piece).Spaces := by
  simp only [ScanState.takeName]
  split
  · have without : ScanState.SpacesPiece { state with literals := [], brackets := 0 } :=
      ⟨⟨taken.1.1, taken.1.2.behind, taken.1.2.carried, (absurd rfl ·)⟩, taken.2⟩
    split
    · exact emit_run_spaces ((dedent_to_marks _ _ _ _).piece without) _ _ _
    · exact emit_run_spaces without _ _ _
  · exact emit_run_spaces taken _ _ _

theorem take_line_break_spaces (taken : state.SpacesPiece) {text : List Char} (breaks : IsBreak text) (piece : Piece) :
    (state.takeLineBreak number text piece).Spaces := by
  have without : ScanState.SpacesPiece { state with literals :=
      if (state.literals.any fun literal => !literal.spansLines) = true then [] else state.literals } := by
    refine ⟨⟨taken.1.1, taken.1.2.behind, taken.1.2.carried, fun opened => taken.1.2.literals ?_⟩, taken.2⟩
    rintro none
    simp [none] at opened
  simp only [ScanState.takeLineBreak]
  generalize (if (state.literals.any fun literal => !literal.spansLines) = true then [] else state.literals) =
    literals at without ⊢
  show ScanState.Spaces (ite _ _ _)
  split
  · exact spaces_emit without .newline text number piece.start
  · exact spaces_carry without (spacing_of_break breaks)

theorem take_operator_spaces (taken : state.SpacesPiece) (text : List Char) (piece : Piece) :
    (state.takeOperator number text piece).Spaces := by
  simp only [ScanState.takeOperator]
  repeat' split
  all_goals first
    | exact spaces_emit taken _ _ _ _
    | exact spaces_emit (piece_update taken _) _ _ _ _

theorem take_piece_spaces (taken : state.SpacesPiece) {piece : Piece} (passed : piece.IsPassed row) :
    (state.takePiece number row piece).Spaces := by
  cases isKind : piece.kind with
  | number =>
      simp only [ScanState.takePiece, isKind]
      exact spaces_emit taken _ _ _ _
  | name =>
      simp only [ScanState.takePiece, isKind]
      exact take_name_spaces taken piece
  | comment =>
      simp only [ScanState.takePiece, isKind]
      split
      · exact spaces_emit taken _ _ _ _
      · exact spaces_carry taken (passed.comment isKind).2
  | tripleStart =>
      simp only [ScanState.takePiece, isKind]
      exact take_triple_spaces taken piece
  | single =>
      simp only [ScanState.takePiece, isKind]
      exact take_single_spaces taken piece
  | formattedStart =>
      simp only [ScanState.takePiece, isKind]
      have emitted := spaces_emit taken .formattedStart (row.extract piece.start piece.stop).toList number piece.start
      refine ⟨emitted.1, emitted.2.behind, emitted.2.carried, fun _ => ?_⟩
      show HasStarted (state.tokens.push _).toList
      rw [Array.toList_push]
      exact started_push (no_mark_of_kind (by simp))
  | continuation =>
      simp only [ScanState.takePiece, isKind]
      split
      · next atEnd =>
          obtain ⟨_, lineBreak, breaks, text⟩ := passed.continuation isKind
          have joins := IsSpacing.continuation breaks .nothing
          rw [List.append_nil, ← text, atEnd] at joins
          rw [taken.2.1, List.nil_append]
          exact (spaces_carry taken joins).line
      · exact spaces_emit taken _ _ _ _
  | ending =>
      simp only [ScanState.takePiece, isKind]
      exact ScanState.Spaces.line ⟨taken.1.1, taken.1.2.behind, taken.2.2, taken.1.2.literals⟩
  | operator =>
      simp only [ScanState.takePiece, isKind]
      split
      · next breaks => exact take_line_break_spaces taken ((passed.lineBreak isKind).2 breaks) piece
      · exact take_operator_spaces taken _ piece

theorem piece_start {column : Nat} {piece : Piece} (found : pieceAt? row column = some piece) :
    piece.start = runEnd row isBlank column := by
  simp only [pieceAt?] at found
  repeat' split at found
  all_goals first
    | rw [← Option.some.inj found]
    | obtain ⟨stop, _, same⟩ := Option.bind_eq_some_iff.mp found
      rw [← Option.some.inj same]

theorem take_next_spaces (spaces : state.Spaces) (column : Nat) : (state.takeNext number row column).Spaces := by
  obtain ⟨size, visible⟩ : ∃ size, (if state.literals.isEmpty then row else fieldLine state.literals row column) =
      row.extract 0 size := by
    split
    · exact ⟨row.size, by simp⟩
    · exact field_line_part _ _ _
  simp only [ScanState.takeNext, visible]
  split
  · next piece found =>
      have taken : ScanState.SpacesPiece { state with
          spacing := state.carried ++ (row.extract column piece.start).toList, carried := [] } := by
        refine ⟨⟨spaces.1, spaces.2.behind, fun _ => .nothing, spaces.2.literals⟩, rfl, fun started => ?_⟩
        rw [piece_start found]
        exact (spaces.2.carried started).append (blanks_are_spacing row size column)
      split
      · exact take_piece_spaces taken (passed_pieces found)
      · refine take_piece_spaces ?_ (passed_of_part (passed_pieces found))
        split
        · split
          · exact (indent_to_marks _ _ _).piece taken
          · exact taken
        · exact taken
  · have blanks := blanks_are_spacing row row.size column
    rw [Array.extract_size] at blanks
    have emitted : ∀ {state : ScanState}, state.Spaces → ScanState.Spaces { state.emit .stray
        (row.extract (runEnd row isBlank column) (runEnd row isBlank column + 1)).toList number
        (runEnd row isBlank column) (state.carried ++ (row.extract column (runEnd row isBlank column)).toList) with
          carried := [], fresh := false } := fun spaces =>
      ⟨spaces.1, spaces.2.emit (fun started _ => (spaces.2.carried started).append blanks) .nothing⟩
    apply emitted
    split
    · split
      · exact (indent_to_marks _ _ _).spaces spaces
      · exact spaces
    · exact spaces

theorem after_text_spaces (spaces : state.Spaces) (column : Nat) : (state.afterText number row column).Spaces := by
  simp only [ScanState.afterText]
  split
  · next outside literal quoteAt found =>
      refine ⟨spaces.1, ?_⟩
      show KeepsSpacing (state.tokens.push _).toList [] outside
      rw [Array.toList_push]
      exact ⟨behind_push spaces.2.behind fun _ other => absurd rfl other, fun _ => .nothing,
        fun _ => started_push (no_mark_of_kind (by simp))⟩
  · exact take_next_spaces spaces column

theorem round_spaces (spaces : state.Spaces) (column : Nat) : (state.round number row column).Spaces := by
  have lineOver : ∀ {state : ScanState}, state.Spaces → ∀ stop,
      (if stop = row.size then Round.lineDone state else state.afterText number row stop).Spaces := by
    intro state spaces stop
    split
    · exact spaces.line
    · exact after_text_spaces spaces stop
  simp only [ScanState.round]
  split
  · exact take_next_spaces spaces column
  · next literal innermost =>
      have started : HasStarted state.tokens.toList := spaces.2.literals (by rintro none; simp [none] at innermost)
      split
      · exact after_text_spaces spaces column
      · refine lineOver ?_ _
        split
        · exact spaces_update spaces _
        · split
          · exact spaces_update spaces _
          · exact spaces_emit_joined (spaces_update spaces _) (spaces.2.carried started) _ _ _ _

theorem rounds_space (spaces : state.Spaces) (fuel column : Nat) :
    (ScanState.rounds number row fuel state column).SpacesLine := by
  induction fuel generalizing state column with
  | zero => exact spaces.line
  | succ fuel induction =>
      rw [ScanState.rounds]
      split
      · have later : (state.round number row column).Spaces := round_spaces spaces column
        split
        · next again =>
            rw [again] at later
            exact induction later _
        · next finished =>
            rw [finished] at later
            exact later
      · exact spaces.line

/-! ### All rows -/

theorem scan_line_spaces (spaces : state.SpacesLine) (number : Nat) (row : Array Char) :
    (state.scanLine number row).SpacesLine := by
  simp only [ScanState.scanLine]
  split
  · next none => exact rounds_space ⟨none, spaces.1⟩ _ _
  · next literal open_ =>
      obtain ⟨nothing, spacing⟩ := spaces.2 (by rw [open_]; rfl)
      split
      · exact ⟨spaces.1, fun _ => ⟨nothing, spacing⟩⟩
      · refine rounds_space ⟨rfl, ?_⟩ _ _
        exact spaces.1.emit (fun started _ => spacing started) (nothing ▸ .nothing)

theorem give_open_keeps (spaces : state.SpacesLine) :
    KeepsSpacing state.giveOpen.tokens.toList state.giveOpen.carried state.giveOpen.literals := by
  have pending : ∀ {state : ScanState} (literal : OpenFormatted), state.literals.getLast? = some literal →
      KeepsSpacing state.tokens.toList state.carried state.literals →
      KeepsSpacing (state.emit .formattedText literal.pending literal.pendingLine literal.pendingColumn []).tokens.toList
        state.carried state.literals := fun literal innermost keeps =>
    keeps.emit (fun _ _ => .nothing) (keeps.carried (keeps.literals (by rintro none; simp [none] at innermost)))
  simp only [ScanState.giveOpen]
  cases goesOn : state.openString with
  | none =>
      split
      · next innermost =>
          split
          · exact spaces.1
          · exact pending _ innermost spaces.1
      · exact spaces.1
  | some literal =>
      obtain ⟨nothing, spacing⟩ := spaces.2 (by rw [goesOn]; rfl)
      have stray : KeepsSpacing
          (state.emit .stray literal.text literal.line literal.column state.spacing).tokens.toList
          state.carried state.literals := spaces.1.emit (fun started _ => spacing started) (nothing ▸ .nothing)
      split
      · next innermost =>
          split
          · exact stray
          · exact pending _ innermost stray
      · exact stray

theorem finish_behind (spaces : state.SpacesLine) (line column : Nat) :
    (state.finish line column).toList.Pairwise SpacedBehind := by
  have closed : ∀ {state : ScanState}, KeepsSpacing state.tokens.toList state.carried state.literals →
      KeepsSpacing (state.emit .dedent [] line column []).tokens.toList state.carried state.literals := by
    intro state keeps
    rw [ScanState.emit, Array.toList_push]
    exact keeps.marks (List.forall_mem_singleton.mpr ⟨Or.inr (Or.inl rfl), rfl, rfl⟩)
  have keeps := List.foldlRecOn
    (motive := fun state : ScanState => KeepsSpacing state.tokens.toList state.carried state.literals)
    state.giveOpen.levels.dropLast (fun state _ => state.emit .dedent [] line column []) (give_open_keeps spaces)
    fun _ under _ _ => closed under
  simp only [ScanState.finish, ScanState.emit, Array.toList_push]
  exact behind_push keeps.behind fun started _ => keeps.carried started

theorem scan_rows_behind (rows : List (List Char)) {start : ScanState} (fresh : start.SpacesLine) :
    (start.scanRows rows).toList.Pairwise SpacedBehind := by
  simp only [ScanState.scanRows]
  apply finish_behind
  refine List.foldlRecOn (motive := fun under : ScanState × Nat => under.1.SpacesLine) rows _ fresh ?_
  intro under spaces row _
  exact scan_line_spaces spaces (under.2 + 1) row.toArray

/-- In every text, only what is before the first token that takes it may be more than spacing: a byte order mark. -/
theorem scan_behind (lines : List (List Char)) : (scan lines).toList.Pairwise SpacedBehind := by
  have fresh : ∀ carried, ScanState.SpacesLine { ScanState.start with carried } := fun carried =>
    ⟨⟨List.Pairwise.nil, fun ⟨_, member, _⟩ => absurd member List.not_mem_nil, (absurd rfl ·)⟩, nofun⟩
  unfold scan
  split
  · exact scan_rows_behind _ (fresh _)
  · exact scan_rows_behind _ (fresh _)

/-! ### Leaves -/

variable {leaf : Leaf} {lines : Lines}

theorem mark_ends_nothing (isOf : leaf.IsOf lines token) (mark : token.IsMark) : endsOperand leaf = false := by
  obtain ⟨kind, same, kinds⟩ := isOf
  have isKind : leaf.kind = kind := congrArg Leaf.kind same
  have noCloser : isCloser leaf = false := by
    have text : leaf.text = "" := by
      rw [same, Token.leaf, mark.text]
    simp [isCloser, isOneOf, text, closers]
  have known : kind = .operator ∨ kind = .stray .indent ∨ kind = .stray .dedent ∨ kind = .stray .misindent := by
    rcases kinds with rfl | ⟨back, rfl⟩
    · rcases mark.kind with isToken | isToken | isToken <;> simp [isToken]
    · rcases mark.kind with isToken | isToken | isToken <;> simp [leafKind, isToken]
  rcases known with rfl | rfl | rfl | rfl <;> simp [endsOperand, isName, isKeywordLeaf, isKind, noCloser]

theorem operator_of_other (isOf : leaf.IsOf lines token) (operator : isOperator leaf = true) :
    token.kind ≠ .formattedEnd := by
  intro isToken
  obtain ⟨kind, same, kinds⟩ := isOf
  have isKind : leaf.kind = kind := congrArg Leaf.kind same
  rw [isOperator, isKind] at operator
  rcases kinds with rfl | ⟨back, rfl⟩
  · simp [isToken] at operator
  · simp [leafKind, isToken] at operator

/-- What stands before an operator, somewhere behind an operand, is spacing only. -/
theorem operator_spacing (source : String) {operand place : Nat} (order : operand < place)
    (bound : place < (parse source).leaves.size) (ends : endsOperand (leafAt (parse source).leaves operand) = true)
    (operator : isOperator (leafAt (parse source).leaves place) = true) :
    IsSpacing (leafAt (parse source).leaves place).spacing.toList := by
  have behind : (parse source).leaves.toList.Pairwise fun first second =>
      endsOperand first = true → isOperator second = true → IsSpacing second.spacing.toList := by
    apply leaves_pairwise source (scan_behind _)
    intro first second firstLeaf secondLeaf firstIsOf secondIsOf spaced ends operator
    have noMark : ¬first.IsMark := fun mark => by simp [mark_ends_nothing firstIsOf mark] at ends
    have spacing := spaced noMark (operator_of_other secondIsOf operator)
    obtain ⟨kind, rfl, _⟩ := secondIsOf
    rw [Token.leaf, String.toList_ofList]
    exact spacing
  rw [leaf_at_eq (by omega)] at ends
  rw [leaf_at_eq bound] at operator ⊢
  have both := List.pairwise_iff_getElem.mp behind operand place (by simp; omega) (by simpa using bound) order
  simp only [Array.getElem_toList] at both
  exact both ends operator

end LiveShell.Source
