import LiveShell.Locate.Cursor
import LiveShell.Proofs.BracketScan
import LiveShell.Proofs.LeafOrigin
import LiveShell.Proofs.ScannedLiterals

/-!
Leaves that tile a source. This is what every question on leaves rests on: each leaf covers its own text, the
leaves stand in order, spacings fill what is between them, and the end stands last. A source that starts with a
byte order mark is not tiled, because the columns of its first line do not count the mark. What the leaves of
literals look like is no part of it: that is known of every source.
-/

namespace LiveShell.Source

open LiveShell.Locate

set_option autoImplicit false

/-- The end of the nearest leaf with text before a place, the start of the source if there is none. -/
def Parsed.stopBefore (parsed : Parsed) (place : Nat) : Nat :=
  match previous? parsed.leaves place with
  | some before => (leafAt parsed.leaves before).stop
  | none => 0

/-- What the leaves of a parsed source are taken to be. The marks of indentation have no text, so they may
stand anywhere between their neighbours. -/
structure Parsed.Tiled (parsed : Parsed) : Prop where
  nonempty : 0 < parsed.leaves.size
  /-- The last leaf is the end; it stands at the end of the source. -/
  finish : (leafAt parsed.leaves (parsed.leaves.size - 1)).kind = .finish
  finishStop : (leafAt parsed.leaves (parsed.leaves.size - 1)).stop = parsed.text.size
  /-- A leaf covers its text. -/
  covers : ∀ place < parsed.leaves.size,
    (leafAt parsed.leaves place).start ≤ (leafAt parsed.leaves place).stop ∧
      (leafAt parsed.leaves place).text =
        parsed.slice (leafAt parsed.leaves place).start (leafAt parsed.leaves place).stop
  /-- Leaves stand in order. -/
  ordered : ∀ place < parsed.leaves.size - 1,
    (leafAt parsed.leaves place).stop ≤ (leafAt parsed.leaves (place + 1)).start
  /-- The spacing of a leaf with text is all that stands between it and the text before it. -/
  spaced : ∀ place < parsed.leaves.size, (leafAt parsed.leaves place).text ≠ "" →
    (leafAt parsed.leaves place).spacing =
      parsed.slice (parsed.stopBefore place) (leafAt parsed.leaves place).start
  /-- The line of a leaf is the line of its end. -/
  stopLine : ∀ place < parsed.leaves.size,
    (leafAt parsed.leaves place).stopLine = parsed.lines.lineAt (leafAt parsed.leaves place).stop

instance (parsed : Parsed) : Decidable parsed.Tiled :=
  decidable_of_iff
    (0 < parsed.leaves.size ∧ (leafAt parsed.leaves (parsed.leaves.size - 1)).kind = .finish ∧
      (leafAt parsed.leaves (parsed.leaves.size - 1)).stop = parsed.text.size ∧
      (∀ place < parsed.leaves.size,
        (leafAt parsed.leaves place).start ≤ (leafAt parsed.leaves place).stop ∧
          (leafAt parsed.leaves place).text =
            parsed.slice (leafAt parsed.leaves place).start (leafAt parsed.leaves place).stop) ∧
      (∀ place < parsed.leaves.size - 1,
        (leafAt parsed.leaves place).stop ≤ (leafAt parsed.leaves (place + 1)).start) ∧
      (∀ place < parsed.leaves.size, (leafAt parsed.leaves place).text ≠ "" →
        (leafAt parsed.leaves place).spacing =
          parsed.slice (parsed.stopBefore place) (leafAt parsed.leaves place).start) ∧
      ∀ place < parsed.leaves.size,
        (leafAt parsed.leaves place).stopLine = parsed.lines.lineAt (leafAt parsed.leaves place).stop)
    ⟨fun ⟨nonempty, finish, finishStop, covers, ordered, spaced, stopLine⟩ =>
      ⟨nonempty, finish, finishStop, covers, ordered, spaced, stopLine⟩,
    fun tiled => ⟨tiled.nonempty, tiled.finish, tiled.finishStop, tiled.covers, tiled.ordered, tiled.spaced,
      tiled.stopLine⟩⟩

/-- A tiled source with what is known of its literals. -/
structure Parsed.WellTiled (parsed : Parsed) : Prop extends Parsed.Tiled parsed where
  lines : parsed.lines = Lines.of parsed.text.toList
  /-- A string literal opens with letters and a quote, and what follows ends with the same quote. -/
  terminated : ∀ place < parsed.leaves.size, (leafAt parsed.leaves place).kind = .string →
    IsClosedLiteral (leafAt parsed.leaves place).text.toList
  /-- An unterminated literal is a lone quote, unless it goes on over its line: then it takes the rest of the
  source. -/
  unterminated : ∀ place < parsed.leaves.size, isOpenQuote (leafAt parsed.leaves place) = true →
    1 < (leafAt parsed.leaves place).text.length →
      (leafAt parsed.leaves place).stop = parsed.text.size

theorem leaf_at_eq {leaves : Array Leaf} {place : Nat} (bound : place < leaves.size) :
    leafAt leaves place = leaves[place] := by
  rw [leafAt, Array.getD_eq_getD_getElem?, Array.getElem?_eq_getElem bound, Option.getD_some]

namespace Parsed.Tiled

variable {parsed : Parsed}

theorem stop_le_start (tiled : parsed.Tiled) {low high : Nat} (order : low < high)
    (bound : high < parsed.leaves.size) :
    (leafAt parsed.leaves low).stop ≤ (leafAt parsed.leaves high).start := by
  induction high with
  | zero => omega
  | succ high induction =>
      have step := tiled.ordered high (by omega)
      by_cases same : low = high
      · rw [same]
        exact step
      · have before := induction (by omega) (by omega)
        have covered := (tiled.covers high (by omega)).1
        omega

theorem start_le_stop (tiled : parsed.Tiled) {place : Nat} (bound : place < parsed.leaves.size) :
    (leafAt parsed.leaves place).start ≤ (leafAt parsed.leaves place).stop :=
  (tiled.covers place bound).1

theorem start_mono (tiled : parsed.Tiled) {low high : Nat} (order : low ≤ high)
    (bound : high < parsed.leaves.size) :
    (leafAt parsed.leaves low).start ≤ (leafAt parsed.leaves high).start := by
  rcases Nat.eq_or_lt_of_le order with rfl | before
  · exact Nat.le_refl _
  · have step := tiled.stop_le_start before bound
    have covered := tiled.start_le_stop (show low < parsed.leaves.size by omega)
    omega

theorem stop_mono (tiled : parsed.Tiled) {low high : Nat} (order : low ≤ high)
    (bound : high < parsed.leaves.size) :
    (leafAt parsed.leaves low).stop ≤ (leafAt parsed.leaves high).stop := by
  rcases Nat.eq_or_lt_of_le order with rfl | before
  · exact Nat.le_refl _
  · have step := tiled.stop_le_start before bound
    have covered := tiled.start_le_stop bound
    omega

theorem stop_le_size (tiled : parsed.Tiled) {place : Nat} (bound : place < parsed.leaves.size) :
    (leafAt parsed.leaves place).stop ≤ parsed.text.size := by
  rw [← tiled.finishStop]
  exact tiled.stop_mono (by omega) (by omega)

theorem stop_before_le (tiled : parsed.Tiled) {place : Nat} (bound : place < parsed.leaves.size) :
    parsed.stopBefore (place + 1) ≤ (leafAt parsed.leaves place).stop := by
  unfold stopBefore
  cases found : previous? parsed.leaves (place + 1) with
  | none => exact Nat.zero_le _
  | some before => exact tiled.stop_mono (Nat.le_of_lt_succ (previous_bounds _ found).1) bound

/-- The characters of a leaf are those of the source from its start to its stop. -/
theorem text_eq (tiled : parsed.Tiled) {place : Nat} (bound : place < parsed.leaves.size) :
    (leafAt parsed.leaves place).text.toList = (parsed.text.extract (leafAt parsed.leaves place).start
      (leafAt parsed.leaves place).stop).toList := by
  rw [(tiled.covers place bound).2, Parsed.slice, String.toList_ofList]

theorem text_length (tiled : parsed.Tiled) {place : Nat} (bound : place < parsed.leaves.size) :
    (leafAt parsed.leaves place).text.length =
      (leafAt parsed.leaves place).stop - (leafAt parsed.leaves place).start := by
  have inside := tiled.stop_le_size bound
  rw [← String.length_toList, tiled.text_eq bound, Array.length_toList, Array.size_extract,
    Nat.min_eq_left inside]

theorem start_lt_stop (tiled : parsed.Tiled) {place : Nat} (bound : place < parsed.leaves.size)
    (filled : (leafAt parsed.leaves place).text ≠ "") :
    (leafAt parsed.leaves place).start < (leafAt parsed.leaves place).stop := by
  have lengths := tiled.text_length bound
  have positive : 0 < (leafAt parsed.leaves place).text.length :=
    Nat.pos_of_ne_zero fun empty => filled (by simpa using empty)
  omega

/-- Two leaves with text that start at the same place are one. -/
theorem place_unique (tiled : parsed.Tiled) {left right : Nat} (leftBound : left < parsed.leaves.size)
    (rightBound : right < parsed.leaves.size) (leftFilled : (leafAt parsed.leaves left).text ≠ "")
    (rightFilled : (leafAt parsed.leaves right).text ≠ "")
    (same : (leafAt parsed.leaves left).start = (leafAt parsed.leaves right).start) : left = right := by
  have leftWidth := tiled.start_lt_stop leftBound leftFilled
  have rightWidth := tiled.start_lt_stop rightBound rightFilled
  rcases Nat.lt_trichotomy left right with before | equal | after
  · have order := tiled.stop_le_start before rightBound
    omega
  · exact equal
  · have order := tiled.stop_le_start after leftBound
    omega

/-- Every offset inside the source is reached by a leaf: the first one that ends at or after it. -/
theorem leaf_at_offset (tiled : parsed.Tiled) {offset : Nat} (inside : offset ≤ parsed.text.size) :
    ∃ place, parsed.leafAt? offset = some place ∧ place < parsed.leaves.size ∧
      offset ≤ (leafAt parsed.leaves place).stop ∧
      ∀ before < place, (leafAt parsed.leaves before).stop < offset := by
  have last := tiled.nonempty
  cases found : parsed.leafAt? offset with
  | none =>
      have none := Array.findIdx?_eq_none_iff.mp found parsed.leaves[parsed.leaves.size - 1] (by simp)
      rw [← leaf_at_eq (by omega), tiled.finishStop] at none
      simp [inside] at none
  | some place =>
      obtain ⟨bound, reached, earlier⟩ := Array.findIdx?_eq_some_iff_getElem.mp found
      refine ⟨place, rfl, bound, ?_, ?_⟩
      · rw [leaf_at_eq bound]
        simpa using reached
      · intro before less
        have missed := earlier before less
        rw [leaf_at_eq (by omega)]
        simpa using missed

end Parsed.Tiled

namespace Parsed.WellTiled

variable {parsed : Parsed}

/-- A string literal is letters, a quote, a body and the quote again. -/
theorem string_body (tiled : parsed.WellTiled) {place : Nat} (bound : place < parsed.leaves.size)
    (literal : (leafAt parsed.leaves place).kind = .string) :
    ∃ body, (leafAt parsed.leaves place).text.toList =
      (Literal.opening (leafAt parsed.leaves place).text.toList).1 ++
        (Literal.opening (leafAt parsed.leaves place).text.toList).2 ++ body ++
        (Literal.opening (leafAt parsed.leaves place).text.toList).2 := by
  obtain ⟨_, body, ends⟩ := tiled.terminated place bound literal
  refine ⟨body, ?_⟩
  rw [List.append_assoc _ body, ends]
  exact Literal.opening_split _

end Parsed.WellTiled

/-! ### Every source -/

theorem leaf_ends_at {lines : Lines} {token : Token} {line column : Nat} (ends : token.EndsAt line column)
    (kind : LeafKind) : (token.leaf lines kind).stop = lines.offsetAt line column := by
  obtain ⟨lineEq, columnEq⟩ := ends
  simp only [Token.leaf, lineEq, columnEq]

/-- Strings and the end are leaves of the tokens of that kind only. -/
theorem leaf_kind_of_token {token : Token} {back : Nat} :
    (leafKind token back = .string → token.kind = .string) ∧
      (leafKind token back = .finish → token.kind = .finish) ∧ leafKind token back ≠ .stray .stray := by
  unfold leafKind
  cases token.kind with
  | name => by_cases keyword : isKeyword token.text = true <;> simp [keyword]
  | _ => simp

/-- Each leaf of a source is made of a scanned token, of its own kind or as a stray one. -/
theorem leaves_scanned (source : String) : ∃ line column, ∀ place < (parse source).leaves.size,
    ∃ token kind, token.IsScanned line column ∧
      leafAt (parse source).leaves place = token.leaf (parse source).lines kind ∧
      (kind = .stray token.kind ∨ ∃ back, kind = leafKind token back) := by
  obtain ⟨line, column, scanned⟩ := scan_scanned source.toList
  refine ⟨line, column, fun place bound => ?_⟩
  obtain ⟨token, member, kind, same, kinds⟩ := parse_leaves_from source _ (Array.getElem_mem bound)
  exact ⟨token, kind, scanned token member, (leaf_at_eq bound).trans same, kinds⟩

theorem finish_of_scanned {lines : Lines} {leaf : Leaf} {token : Token} {kind : LeafKind} {line column : Nat}
    (read : token.IsScanned line column) (same : leaf = token.leaf lines kind)
    (kinds : kind = .stray token.kind ∨ ∃ back, kind = leafKind token back) (finish : leaf.kind = .finish) :
    leaf.stop = lines.offsetAt line column := by
  have isFinish : kind = .finish := (congrArg Leaf.kind same).symm.trans finish
  rcases kinds with stray | ⟨back, own⟩
  · rw [isFinish] at stray
    simp at stray
  · rw [same, leaf_ends_at (read.finish (leaf_kind_of_token.2.1 (own.symm.trans isFinish)))]

/-- What tiles a source is all that has to be asked of its leaves: the rest is known of scanned tokens. -/
theorem well_tiled_of_tiled {source : String} (tiled : (parse source).Tiled) : (parse source).WellTiled := by
  obtain ⟨line, column, origin⟩ := leaves_scanned source
  -- The last leaf tells the offset of the place where all that is open at the end of the text ends.
  have finishStop : (parse source).lines.offsetAt line column = (parse source).text.size := by
    obtain ⟨token, kind, read, same, kinds⟩ := origin _ (Nat.sub_lt tiled.nonempty Nat.one_pos)
    rw [← finish_of_scanned read same kinds tiled.finish]
    exact tiled.finishStop
  refine ⟨tiled, ?_, ?_, ?_⟩
  · simp [parse]
  · intro place bound literal
    obtain ⟨token, kind, read, same, kinds⟩ := origin place bound
    have isString : kind = .string := (congrArg Leaf.kind same).symm.trans literal
    rcases kinds with stray | ⟨back, own⟩
    · rw [isString] at stray
      simp at stray
    · have closed := read.closed (leaf_kind_of_token.1 (own.symm.trans isString))
      rw [same, Token.leaf, String.toList_ofList]
      exact closed
  · intro place bound quote long
    obtain ⟨token, kind, read, same, kinds⟩ := origin place bound
    simp only [isOpenQuote, Bool.and_eq_true, decide_eq_true_eq] at quote
    have isStray : kind = .stray .stray := (congrArg Leaf.kind same).symm.trans quote.1
    rcases kinds with stray | ⟨back, own⟩
    · have opens := quote.2
      rw [same, Token.leaf, String.toList_ofList] at opens
      rw [same, Token.leaf, String.length_ofList] at long
      have tokenStray : token.kind = .stray := by
        rw [isStray] at stray
        simpa using stray.symm
      rw [same, leaf_ends_at (read.unterminated tokenStray (by simpa using opens) long), finishStop]
    · exact absurd (own.symm.trans isStray) leaf_kind_of_token.2.2

/-- The end is nowhere but at the end of the source. -/
theorem finish_at_end {source : String} (tiled : (parse source).Tiled) :
    ∀ place < (parse source).leaves.size, (leafAt (parse source).leaves place).kind = .finish →
      (leafAt (parse source).leaves place).stop = (parse source).text.size := by
  obtain ⟨line, column, origin⟩ := leaves_scanned source
  intro place bound finish
  obtain ⟨last, lastKind, lastRead, lastSame, lastKinds⟩ := origin _ (Nat.sub_lt tiled.nonempty Nat.one_pos)
  obtain ⟨token, kind, read, same, kinds⟩ := origin place bound
  rw [finish_of_scanned read same kinds finish, ← finish_of_scanned lastRead lastSame lastKinds tiled.finish]
  exact tiled.finishStop

end LiveShell.Source
