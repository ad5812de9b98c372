import LiveShell.Proofs.ForbiddenParts
import Mathlib.Algebra.Order.Ring.Int

/-!
How far the arithmetic of an accepted expression can go. Before it accepts an operation, the guard looks at its
operands: the bits of integers, and the items that a repeated sequence comes to. What the operation gives is bounded by
that, wherever it is carried out on such operands: a power by the limit itself, a product and a shift by the widths of
the operands together, which may be twice the limit.
-/

namespace LiveShell

open Code (BinaryOperator Expr Part)

set_option autoImplicit false

namespace Guard

open Run
open Environment (module_cell)

/-! ### Bits -/

theorem bit_length_le_iff {number bits : Nat} : bitLength number ≤ bits ↔ number < 2 ^ bits := by
  by_cases zero : number = 0
  · simp only [bitLength, zero, if_true, Nat.zero_le, true_iff]
    exact Nat.two_pow_pos bits
  · rw [bitLength, if_neg zero, Nat.succ_le_iff, Nat.log2_lt zero]

theorem lt_bit_length (number : Nat) : number < 2 ^ bitLength number := bit_length_le_iff.mp (Nat.le_refl _)

theorem bit_length_mul (a b : Nat) : bitLength (a * b) ≤ bitLength a + bitLength b := by
  rw [bit_length_le_iff, Nat.pow_add]
  exact Nat.mul_lt_mul'' (lt_bit_length a) (lt_bit_length b)

theorem bit_length_shift (a count : Nat) : bitLength (a * 2 ^ count) ≤ bitLength a + count := by
  rw [bit_length_le_iff, Nat.pow_add]
  exact Nat.mul_lt_mul_of_pos_right (lt_bit_length a) (Nat.two_pow_pos count)

theorem bit_length_pow (a exponent : Nat) : bitLength (a ^ exponent) ≤ max 1 (bitLength a * exponent) := by
  cases exponent with
  | zero =>
      rw [Nat.pow_zero, Nat.mul_zero, bit_length_le_iff]
      decide
  | succ exponent =>
      refine Nat.le_trans ?_ (Nat.le_max_right _ _)
      rw [bit_length_le_iff, Nat.pow_mul]
      exact Nat.pow_lt_pow_left (lt_bit_length a) (Nat.succ_ne_zero exponent)

/-- How many bits the operators that are limited may take for two integers. -/
def widthOf (operator : BinaryOperator) (a b : Int) : Nat :=
  match operator with
  | .power => max 1 (bitLength a.natAbs * b.toNat)
  | .shiftLeft => bitLength a.natAbs + b.toNat
  | _ => bitLength a.natAbs + bitLength b.natAbs

/-- An integer or a truth value, and the integer that it counts as. -/
inductive IsWhole : Value → Int → Prop
  | whole (number : Int) : IsWhole (.whole number) number
  | boolean (value : Bool) : IsWhole (.boolean value) (if value then 1 else 0)

/-- A sequence and how many items it has in a world. -/
inductive IsSequence (world : World) : Value → Nat → Prop
  | text (text : String) : IsSequence world (.text text) text.length
  | bytes (bytes : List UInt8) : IsSequence world (.bytes bytes) bytes.length
  | tuple (items : List Value) : IsSequence world (.tuple items) items.length
  | list {address : Address} {items : Array Value} (here : world.cells[address]? = some (.list items)) :
      IsSequence world (.ref address) items.size

variable {a b result : Value} {x y : Int} {count : Nat} {world after : World} {operator : BinaryOperator}

theorem is_whole_iff : isWholeNumber a = true ↔ ∃ x, IsWhole a x := by
  constructor
  · intro whole
    cases a with
    | whole number => exact ⟨_, .whole number⟩
    | boolean value => exact ⟨_, .boolean value⟩
    | _ => cases whole
  · rintro ⟨_, _ | _⟩ <;> rfl

namespace IsWhole

theorem whole? (whole : IsWhole a x) : a.whole? = some x := by cases whole <;> rfl

theorem numeric? (whole : IsWhole a x) : a.numeric? = some (.whole x) := by cases whole <;> rfl

theorem isPlainNumber (whole : IsWhole a x) : Guard.isPlainNumber a = true := by cases whole <;> rfl

theorem bitsOf (whole : IsWhole a x) : Guard.bitsOf a = bitLength x.natAbs := by rw [Guard.bitsOf, whole.whole?]; rfl

end IsWhole

theorem IsSequence.not_whole (sequence : IsSequence world a count) : isWholeNumber a = false := by
  cases sequence <;> rfl

theorem IsSequence.not_number (sequence : IsSequence world a count) : isPlainNumber a = false := by
  cases sequence <;> rfl

/-! ### Operators on plain values -/

/-- A value without operators of its own, which stands for itself. -/
structure IsOperand (value : Value) (world : World) : Prop where
  noOwn : ∀ engine name arguments, (callOwn? engine value name arguments).runIn world = (.ok none, world)
  plain : (Run.plain value).runIn world = (.ok value, world)

theorem IsWhole.isOperand (whole : IsWhole a x) : IsOperand a world := by
  cases whole <;> exact ⟨fun _ _ _ => rfl, rfl⟩

theorem IsSequence.isOperand (sequence : IsSequence world a count) : IsOperand a world := by
  cases sequence with
  | list here =>
      refine ⟨fun engine name arguments => ?_, ?_⟩
      · simp only [callOwn?, ownMember?, run_in_bind, module_cell here]
        rfl
      · simp only [Run.plain, run_in_bind, module_cell here]
        rfl
  | _ => exact ⟨fun _ _ _ => rfl, rfl⟩

theorem own_operator_none (engine : Engine) (operand : IsOperand a world) (word : String) (other : Value) :
    (ownOperator? engine word a other).runIn world = (.ok none, world) := by
  rw [ownOperator?, run_in_bind, operand.noOwn]
  rfl

/-- An operator on such operands gives what their kinds define it to give. -/
theorem operate_operands {engine : Engine} {fill : Value → Value → Run Value} {changing : Bool}
    (left : IsOperand a world) (right : IsOperand b world)
    (given : (operate engine fill operator changing a b).runIn world = (.ok result, after)) :
    (onPlain? engine fill operator a b).runIn world = (.ok (some result), after) := by
  have own := own_operator_none engine left (operatorWord operator) b
  have reflected := own_operator_none engine right ("r" ++ operatorWord operator) a
  obtain ⟨first, firstTold⟩ := reads_class_of a world
  obtain ⟨second, secondTold⟩ := reads_class_of b world
  have told : ∃ inherits, (if first.same second = true then pure false
      else isSubclass second first : Run Bool).runIn world = (.ok inherits, world) := by
    split
    · exact ⟨false, rfl⟩
    · exact reads_bind (reads_order_of second) (fun _ => reads_pure _) world
  obtain ⟨inherits, told⟩ := told
  -- Whichever side is asked first, neither defines the operator.
  have asked : ∀ asks : Bool, (if asks = true then if first.same second = true then pure none
      else ownOperator? engine ("r" ++ operatorWord operator) b a else pure none).runIn world = (.ok none, world) := by
    intro asks
    split
    · split
      · rfl
      · exact reflected
    · rfl
  have askedLate : (if inherits = true then pure none else if first.same second = true then pure none
      else ownOperator? engine ("r" ++ operatorWord operator) b a).runIn world = (.ok none, world) := by
    cases inherits
    · exact asked true
    · rfl
  simp only [operate, run_in_bind, firstTold, secondTold, told, asked, own, askedLate, left.plain, right.plain] at given
  rcases outcome : (onPlain? engine fill operator a b).runIn world with ⟨_ | found, between⟩
  · rw [outcome] at given
    cases given
  · rw [outcome] at given
    cases found with
    | some found =>
        cases given
        rfl
    | none =>
        obtain ⟨_, _, _, later⟩ := run_of_bind given
        obtain ⟨_, _, _, unsupported⟩ := run_of_bind later
        cases unsupported

/-! ### What limited operators give -/

/-- The operators that the guard sets limits to. -/
def limited : List BinaryOperator := [.power, .shiftLeft, .multiply]

theorem limited_iff : operator ∈ limited ↔ operator = .power ∨ operator = .shiftLeft ∨ operator = .multiply := by
  simp [limited]

theorem on_plain_wholes {engine : Engine} {fill : Value → Value → Run Value} (left : IsWhole a x) (right : IsWhole b y)
    (isLimited : operator ∈ limited) : onPlain? engine fill operator a b = onWholes? operator x y := by
  unfold onPlain?
  simp only [left.numeric?, right.numeric?]
  rcases limited_iff.mp isLimited with rfl | rfl | rfl <;> rfl

theorem not_given_of_raises {α β : Type} {run : Run α} {next : α → Run β} {given : β} (raises : ¬Succeeds run) :
    (run >>= next).runIn world ≠ (.ok given, after) :=
  fun outcome => raises (succeeds_bind ⟨world, given, after, outcome⟩).1

theorem real_power_not_whole {base exponent : Float} {number : Int} :
    (realPower base exponent).runIn world ≠ (.ok (.whole number), after) := by
  intro given
  simp only [realPower] at given
  generalize (if (base == 1.0) = true then 1.0 else base.pow exponent) = power at given
  split at given
  · cases given
  · split at given
    · exact not_given_of_raises (not_succeeds_fail _ _) given
    · split at given
      · cases given
      · split at given
        · exact not_given_of_raises (not_succeeds_raise _ _) given
        · cases given

theorem whole_power_given {number : Int} (given : (wholePower x y).runIn world = (.ok (.whole number), after)) :
    number = x ^ y.toNat := by
  simp only [wholePower] at given
  split at given
  · split at given
    · exact absurd given (not_given_of_raises (not_succeeds_fail _ _))
    · cases given
      rfl
  · split at given
    · exact absurd given (not_given_of_raises (not_succeeds_fail _ _))
    · obtain ⟨_, _, _, later⟩ := run_of_bind given
      obtain ⟨_, _, _, real⟩ := run_of_bind later
      exact absurd real real_power_not_whole

theorem shift_given {number : Int}
    (given : (onWholes? .shiftLeft x y).runIn world = (.ok (some (.whole number)), after)) :
    number = x * (2 ^ y.toNat : Nat) := by
  simp only [onWholes?] at given
  split at given
  · exact absurd given (not_given_of_raises (not_succeeds_fail _ _))
  · split at given
    · exact absurd given (not_given_of_raises (not_succeeds_fail _ _))
    · cases given
      split
      · next zero => rw [zero, Int.zero_mul]
      · rfl

/-- An integer that a limited operator gives for two others is no wider than the two tell. -/
theorem operate_wholes {engine : Engine} {fill : Value → Value → Run Value} {changing : Bool} {number : Int}
    (left : IsWhole a x) (right : IsWhole b y) (isLimited : operator ∈ limited)
    (given : (operate engine fill operator changing a b).runIn world = (.ok (.whole number), after)) :
    bitLength number.natAbs ≤ widthOf operator x y := by
  have plain := operate_operands left.isOperand right.isOperand given
  rw [on_plain_wholes left right isLimited] at plain
  rcases limited_iff.mp isLimited with rfl | rfl | rfl
  · obtain ⟨_, _, raised, same⟩ := run_of_bind plain
    cases same
    rw [whole_power_given raised, Int.natAbs_pow]
    exact bit_length_pow x.natAbs y.toNat
  · rw [shift_given plain, Int.natAbs_mul]
    exact bit_length_shift x.natAbs y.toNat
  · cases plain
    rw [Int.natAbs_mul]
    exact bit_length_mul x.natAbs y.natAbs

theorem width_of_small (left : IsWhole a x) (right : IsWhole b y) (isLimited : operator ∈ limited)
    (small : (isSmall operator a b).runIn world = (.ok true, after)) :
    widthOf operator x y ≤ 2 * mostBits ∧ (operator = .power → widthOf operator x y ≤ mostBits) := by
  have within : isWithin mostExponent b = decide (y.natAbs ≤ mostExponent) := by cases right <;> rfl
  have wholes : isWholeNumber a = true ∧ isWholeNumber b = true :=
    ⟨is_whole_iff.mpr ⟨x, left⟩, is_whole_iff.mpr ⟨y, right⟩⟩
  have given : ∀ {kept : Bool}, (pure kept : Run Bool).runIn world = (.ok true, after) → kept = true :=
    fun outcome => Except.ok.inj (congrArg Prod.fst outcome)
  rcases limited_iff.mp isLimited with rfl | rfl | rfl
  · have kept := given small
    simp only [left.isPlainNumber, right.isPlainNumber, within, left.bitsOf, Bool.true_and, Bool.and_eq_true,
      decide_eq_true_eq] at kept
    obtain ⟨exponent, base⟩ := kept
    have raised : bitLength x.natAbs * y.toNat ≤ mostExponent * mostExponent :=
      Nat.mul_le_mul base (by omega)
    have width : widthOf .power x y ≤ mostBits := by
      simp only [widthOf, mostExponent, mostBits] at raised ⊢
      omega
    exact ⟨by omega, fun _ => width⟩
  · have kept := given small
    simp only [wholes, left.bitsOf, right.whole?, Option.getD_some, Bool.true_and, Bool.and_eq_true,
      decide_eq_true_eq] at kept
    simp only [widthOf]
    exact ⟨by omega, nofun⟩
  · simp only [isSmall, left.isPlainNumber, right.isPlainNumber, Bool.and_self, if_true] at small
    have kept := given small
    simp only [left.bitsOf, right.bitsOf, Bool.and_eq_true, decide_eq_true_eq] at kept
    simp only [widthOf]
    exact ⟨by omega, nofun⟩

/-! ### Repeated sequences -/

theorem repeat_text_length (text : String) (times : Int) :
    (repeatText text times).length = text.length * times.toNat := by
  unfold repeatText
  split
  · next empty => simp [String.isEmpty_iff.mp empty]
  · induction times.toNat with
    | zero => simp
    | succ times induction => rw [Nat.fold_succ, String.length_append, induction, Nat.mul_succ]

theorem repeat_array_size {α : Type} (items : Array α) (times : Int) :
    (repeatArray items times).size = items.size * times.toNat := by
  unfold repeatArray
  split
  · next empty => simp [Array.isEmpty_iff.mp empty]
  · rw [Array.mkEmpty_eq]
    induction times.toNat with
    | zero => simp
    | succ times induction => rw [Nat.fold_succ, Array.size_append, induction, Nat.mul_succ]

theorem repeat_items_length {α : Type} (items : List α) (times : Int) :
    (repeatItems items (if items.isEmpty then 0 else times)).length = items.length * times.toNat := by
  cases items <;> simp [repeatItems, Nat.mul_comm]

namespace IsSequence

variable {times : Int} {number : Value}

theorem not_numeric (sequence : IsSequence world a count) : a.numeric? = none := by cases sequence <;> rfl

theorem told (sequence : IsSequence world a count) : (isSequence a).runIn world = (.ok true, world) := by
  cases sequence with
  | list here =>
      rw [isSequence, run_in_bind, module_cell here]
      rfl
  | _ => rfl

theorem sizeOf (sequence : IsSequence world a count) : (Guard.sizeOf a).runIn world = (.ok count, world) := by
  cases sequence with
  | list here =>
      simp only [Guard.sizeOf, plainLength?, run_in_bind, module_cell here]
      rfl
  | _ => rfl

theorem repeated (sequence : IsSequence world a count)
    (given : (repeated? a times).runIn world = (.ok (some result), after)) :
    IsSequence after result (count * times.toNat) := by
  cases sequence with
  | text text =>
      cases given
      rw [← repeat_text_length]
      exact .text _
  | bytes bytes =>
      cases given
      rw [← repeat_items_length]
      exact .bytes _
  | tuple items =>
      cases given
      rw [← repeat_items_length]
      exact .tuple _
  | list here =>
      simp only [repeated?, run_in_bind, module_cell here] at given
      cases given
      rw [← repeat_array_size]
      exact .list Array.getElem?_push_size

theorem multiplied_left (sequence : IsSequence world a count) (whole : IsWhole number times)
    (given : (multiplied? a number).runIn world = (.ok (some result), after)) :
    IsSequence after result (count * times.toNat) := by
  have notSequence : ∀ between, (isSequence number).runIn between = (.ok false, between) := by
    intro between
    cases whole <;> rfl
  simp only [multiplied?, run_in_bind, sequence.told, whole.whole?, Bool.not_true, Bool.false_eq_true,
    if_false] at given
  rcases outcome : (repeated? a times).runIn world with ⟨_ | (_ | found), between⟩
  · rw [outcome] at given
    cases given
  · simp only [outcome, run_in_bind, notSequence] at given
    cases given
  · rw [outcome] at given
    cases given
    exact sequence.repeated outcome

theorem multiplied_right (sequence : IsSequence world a count) (whole : IsWhole number times)
    (given : (multiplied? number a).runIn world = (.ok (some result), after)) :
    IsSequence after result (count * times.toNat) := by
  have notSequence : (isSequence number).runIn world = (.ok false, world) := by cases whole <;> rfl
  simp only [multiplied?, run_in_bind, notSequence] at given
  have given : (do
      if !(← isSequence a) then return none
      repeated? a times : Run (Option Value)).runIn world = (.ok (some result), after) := by
    rw [← given]
    simp only [whole.whole?]
    rfl
  rw [run_in_bind, sequence.told] at given
  exact sequence.repeated given

end IsSequence

theorem on_plain_multiply {engine : Engine} {fill : Value → Value → Run Value}
    (sequence : IsSequence world a count ∨ IsSequence world b count) :
    onPlain? engine fill .multiply a b = multiplied? a b := by
  unfold onPlain?
  rcases sequence with left | right
  · simp only [left.not_numeric]
  · cases a.numeric? <;> simp only [right.not_numeric]

/-- A sequence and a number on either side of a multiplication. -/
inductive IsRepetition (world : World) : Value → Value → Nat → Int → Prop
  | left {a b : Value} {count : Nat} {times : Int} (sequence : IsSequence world a count) (whole : IsWhole b times) :
      IsRepetition world a b count times
  | right {a b : Value} {count : Nat} {times : Int} (sequence : IsSequence world b count) (whole : IsWhole a times) :
      IsRepetition world a b count times

theorem operate_repetition {engine : Engine} {fill : Value → Value → Run Value} {changing : Bool} {times : Int}
    (repetition : IsRepetition world a b count times)
    (given : (operate engine fill .multiply changing a b).runIn world = (.ok result, after)) :
    IsSequence after result (count * times.toNat) := by
  cases repetition with
  | left sequence whole =>
      have plain := operate_operands sequence.isOperand whole.isOperand given
      rw [on_plain_multiply (.inl sequence)] at plain
      exact sequence.multiplied_left whole plain
  | right sequence whole =>
      have plain := operate_operands whole.isOperand sequence.isOperand given
      rw [on_plain_multiply (.inr sequence)] at plain
      exact sequence.multiplied_right whole plain

theorem items_of_small {sequence number : Value} {isNumber : Bool} (isSequence : IsSequence world sequence count)
    (known : isWholeNumber number = isNumber)
    (small : (do
      if (← isOneOf sequence sequences) && isNumber then
        return (← Guard.sizeOf sequence) * (number.whole?.getD 0) ≤ mostItems
      else return false : Run Bool).runIn world = (.ok true, after)) :
    ∃ times, IsWhole number times ∧ count * times.toNat ≤ mostItems := by
  obtain ⟨plain, told⟩ := reads_is_one_of sequence sequences world
  rw [run_in_bind, told] at small
  simp only at small
  split at small
  · next both =>
      obtain ⟨times, whole⟩ := is_whole_iff.mp (known.trans (Bool.and_eq_true_iff.mp both).2)
      rw [run_in_bind, isSequence.sizeOf, whole.whole?] at small
      have few : (count : Int) * times ≤ mostItems := of_decide_eq_true (Except.ok.inj (congrArg Prod.fst small))
      refine ⟨times, whole, ?_⟩
      cases times with
      | ofNat times => exact Int.ofNat_le.mp few
      | negSucc times => simp
  · cases small

theorem small_on_left (left : IsSequence world a count)
    (small : (isSmall .multiply a b).runIn world = (.ok true, after)) :
    ∃ times, IsWhole b times ∧ count * times.toNat ≤ mostItems := by
  simp only [isSmall, left.not_number, left.not_whole, Bool.false_and, Bool.false_eq_true, if_false] at small
  exact items_of_small left rfl small

theorem small_on_right (right : IsSequence world b count)
    (small : (isSmall .multiply a b).runIn world = (.ok true, after)) :
    ∃ times, IsWhole a times ∧ count * times.toNat ≤ mostItems := by
  cases isWhole : isWholeNumber a with
  | true =>
      simp only [isSmall, right.not_number, isWhole, Bool.and_false, Bool.false_eq_true, if_false, if_true] at small
      exact items_of_small right isWhole small
  | false =>
      simp only [isSmall, right.not_number, isWhole, right.not_whole, Bool.and_false, Bool.false_eq_true,
        if_false] at small
      obtain ⟨_, _, _, refused⟩ := run_of_bind small
      cases refused

/-! ### What the guard saw -/

/-- Going over an expression from some world on, the guard comes to an operation, sees the values of its operands and
finds that it stays small. -/
def Saw (watch : Watch) (expression : Expr) (world : World) (left : Expr) (operator : BinaryOperator) (right : Expr)
    (a b : Value) (seen : World) : Prop :=
  ∃ whole come between, ComesTo watch (course false expression) world (.operation left operator right whole) come ∧
    (watch.value left).runIn come = (.ok a, between) ∧ (watch.value right).runIn between = (.ok b, seen) ∧
      (isSmall operator a b).runIn seen = (.ok true, seen)

theorem value_given {watch : Watch} {part : Expr} (given : (valueOf watch part).runIn world = (.ok result, after)) :
    (watch.value part).runIn world = (.ok result, after) := by
  rw [valueOf, run_in_catch] at given
  rcases outcome : (watch.value part).runIn world with ⟨error | _, between⟩
  · rw [outcome] at given
    obtain ⟨ordinary, told⟩ := reads_is_error error "Exception" between
    simp only [run_in_bind, told] at given
    cases ordinary <;> cases given
  · rw [outcome] at given
    exact given

theorem saw_of_passed {watch : Watch} {left right whole : Expr} (isLimited : operator ∈ limited)
    (passed : (checkOperation watch left operator right whole).runIn world = (.ok (), after)) :
    ∃ a b between seen, (watch.value left).runIn world = (.ok a, between) ∧
      (watch.value right).runIn between = (.ok b, seen) ∧ (isSmall operator a b).runIn seen = (.ok true, seen) := by
  have checked : (do
      let leftValue ← valueOf watch left
      let rightValue ← valueOf watch right
      if !(← isSmall operator leftValue rightValue) then refuse whole : Run Unit).runIn world = (.ok (), after) := by
    rcases limited_iff.mp isLimited with rfl | rfl | rfl <;> exact passed
  obtain ⟨a, between, leftGiven, afterLeft⟩ := run_of_bind checked
  obtain ⟨b, seen, rightGiven, afterRight⟩ := run_of_bind afterLeft
  obtain ⟨small, told⟩ := reads_is_small operator a b seen
  rw [run_in_bind, told] at afterRight
  cases small with
  | false => cases afterRight
  | true => exact ⟨a, b, between, seen, value_given leftGiven, value_given rightGiven, told⟩

theorem saw_of_accepted {watch : Watch} {expression left right : Expr} {part : Part}
    (accepted : (inspect watch false expression).runIn world = (.ok (), after))
    (holds : Part.Holds ⟨[], expression⟩ part) (isOperation : part.expression = .binary left operator right)
    (isLimited : operator ∈ limited) : ∃ a b seen, Saw watch expression world left operator right a b seen := by
  rw [inspect_course] at accepted
  rcases course_of_holds holds false with ⟨asTarget, within⟩ | ⟨refused, _, member⟩
  · have member : Check.operation left operator right part.expression ∈ course asTarget part.expression := by
      rw [course_eq, isOperation]
      exact List.mem_append_right _ List.mem_cons_self
    obtain ⟨come, next, comes, passed⟩ := passed_of_carried accepted (within.subset member)
    obtain ⟨a, b, between, seen, leftGiven, rightGiven, small⟩ := saw_of_passed isLimited passed
    exact ⟨a, b, seen, _, come, between, comes, leftGiven, rightGiven, small⟩
  · obtain ⟨between, next, _, passed⟩ := passed_of_carried accepted member
    exact absurd ⟨between, (), next, passed⟩ (not_succeeds_refuse refused)

/-- An operand that the guard saw in a world and one that is met in another are alike for it: the same integer, or
sequences of one length. -/
inductive IsAlike (seen met : World) (before now : Value) : Prop
  | whole {number : Int} (saw : IsWhole before number) (meets : IsWhole now number) : IsAlike seen met before now
  | sequence {count : Nat} (saw : IsSequence seen before count) (meets : IsSequence met now count) :
      IsAlike seen met before now

namespace IsAlike

variable {seen met : World} {before now : Value}

theorem saw_whole (alike : IsAlike seen met before now) (meets : IsWhole now x) : IsWhole before x := by
  cases alike with
  | whole saw other =>
      obtain rfl : _ = x := Option.some.inj (other.whole?.symm.trans meets.whole?)
      exact saw
  | sequence saw other => exact absurd (is_whole_iff.mpr ⟨x, meets⟩) (by rw [other.not_whole]; exact Bool.false_ne_true)

theorem meets_whole (alike : IsAlike seen met before now) (saw : IsWhole before x) : IsWhole now x := by
  cases alike with
  | whole other meets =>
      obtain rfl : _ = x := Option.some.inj (other.whole?.symm.trans saw.whole?)
      exact meets
  | sequence other meets => exact absurd (is_whole_iff.mpr ⟨x, saw⟩) (by rw [other.not_whole]; exact Bool.false_ne_true)

theorem saw_sequence (alike : IsAlike seen met before now) (meets : IsSequence met now count) :
    IsSequence seen before count := by
  cases alike with
  | whole saw other => exact absurd (is_whole_iff.mpr ⟨_, other⟩) (by rw [meets.not_whole]; exact Bool.false_ne_true)
  | sequence saw other =>
      obtain rfl : _ = count := Except.ok.inj (congrArg Prod.fst (other.sizeOf.symm.trans meets.sizeOf))
      exact saw

end IsAlike

/-- What an operation gives for two operands in a world: an integer from integers is at most twice as wide as the limit,
and no wider than the limit when it is a power or the operands tell so; a repeated sequence comes to few items. -/
structure StaysWithin (operator : BinaryOperator) (a b : Value) (met : World) (result : Value) (after : World) :
    Prop where
  width : ∀ x y number, IsWhole a x → IsWhole b y → result = .whole number →
    bitLength number.natAbs ≤ 2 * mostBits ∧
      (operator = .power ∨ widthOf operator x y ≤ mostBits → bitLength number.natAbs ≤ mostBits)
  items : operator = .multiply → ∀ count, IsSequence met a count ∨ IsSequence met b count →
    ∃ items ≤ mostItems, IsSequence after result items

theorem operate_stays_within {engine : Engine} {fill : Value → Value → Run Value} {changing : Bool} {seen met : World}
    {left right : Value} (isLimited : operator ∈ limited)
    (small : (isSmall operator left right).runIn seen = (.ok true, seen)) (alikeLeft : IsAlike seen met left a)
    (alikeRight : IsAlike seen met right b)
    (given : (operate engine fill operator changing a b).runIn met = (.ok result, after)) :
    StaysWithin operator a b met result after where
  width := by
    rintro x y number isLeft isRight rfl
    have bounded := operate_wholes isLeft isRight isLimited given
    obtain ⟨twice, power⟩ := width_of_small (alikeLeft.saw_whole isLeft) (alikeRight.saw_whole isRight) isLimited small
    refine ⟨Nat.le_trans bounded twice, fun narrow => Nat.le_trans bounded ?_⟩
    exact narrow.elim power id
  items := by
    rintro rfl count (sequence | sequence)
    · obtain ⟨times, whole, few⟩ := small_on_left (alikeLeft.saw_sequence sequence) small
      exact ⟨count * times.toNat, few, operate_repetition (.left sequence (alikeRight.meets_whole whole)) given⟩
    · obtain ⟨times, whole, few⟩ := small_on_right (alikeRight.saw_sequence sequence) small
      exact ⟨count * times.toNat, few, operate_repetition (.right sequence (alikeLeft.meets_whole whole)) given⟩

end Guard

namespace Environment

open Guard

/-- The guard accepts a power, a product or a shift within an expression only after it saw operands that keep it small.
Whenever the operation is carried out on operands that are alike, in whatever scope and through whatever gate, it stays
within what the guard allows for. -/
theorem accepted_arithmetic_stays_within (space : Address) (expression : Expr) (world after : World)
    (accepted : (inspect (watchOf .free space) false expression).runIn world = (.ok (), after))
    (part : Part) (holds : Part.Holds ⟨[], expression⟩ part) (left right : Expr) (operator : BinaryOperator)
    (isOperation : part.expression = .binary left operator right) (isLimited : operator ∈ limited) :
    ∃ a b seen, Saw (watchOf .free space) expression world left operator right a b seen ∧
      ∀ engine gate scope start first between second met result last,
        (Run.Gated.evaluate engine gate scope left).runIn start = (.ok first, between) →
        (Run.Gated.evaluate engine gate scope right).runIn between = (.ok second, met) →
        (Run.Gated.evaluate engine gate scope part.expression).runIn start = (.ok result, last) →
        IsAlike seen met a first → IsAlike seen met b second → StaysWithin operator first second met result last := by
  obtain ⟨a, b, seen, saw⟩ := saw_of_accepted accepted holds isOperation isLimited
  have small : (isSmall operator a b).runIn seen = (.ok true, seen) := by
    obtain ⟨_, _, _, _, _, _, small⟩ := saw
    exact small
  refine ⟨a, b, seen, saw, ?_⟩
  intro engine gate scope start first between second met result last leftGiven rightGiven given alikeLeft alikeRight
  rw [isOperation, Run.Gated.evaluate, Run.run_in_bind, leftGiven] at given
  simp only [Run.run_in_bind, rightGiven] at given
  exact operate_stays_within isLimited small alikeLeft alikeRight given

theorem literal_seen {space : Address} {literal : Code.Literal} {world after : World} {value : Value}
    (given : ((watchOf .free space).value (.literal literal)).runIn world = (.ok value, after)) :
    value = literalValue literal := by
  obtain ⟨_, _, _, evaluated⟩ := Run.run_of_bind given
  rw [Run.Gated.evaluate] at evaluated
  cases evaluated
  rfl

theorem small_shift_stays_within :
    let shift : Expr := .binary (.literal (.whole 1)) .shiftLeft (.literal (.whole 8))
    (∃ after, (inspect (watchOf .free 0) false shift).runIn { cells := #[.dict #[] none] } = (.ok (), after)) ∧
    ∀ engine gate scope start number last,
      (Run.Gated.evaluate engine gate scope shift).runIn start = (.ok (.whole number), last) →
      bitLength number.natAbs ≤ mostBits := by
  intro shift
  have passed : ((inspect (watchOf .free 0) false shift).runIn { cells := #[.dict #[] none] }).1 = .ok () :=
    Run.ok_of_some (by decide +kernel)
  refine ⟨⟨_, Prod.ext passed rfl⟩, ?_⟩
  intro engine gate scope start number last given
  obtain ⟨a, b, seen, ⟨whole, come, between, _, sawLeft, sawRight, _⟩, within⟩ :=
    accepted_arithmetic_stays_within 0 shift _ _ (Prod.ext passed rfl) ⟨[], shift⟩ (.self _) _ _ .shiftLeft rfl
      (by decide)
  obtain rfl := literal_seen sawLeft
  obtain rfl := literal_seen sawRight
  have limits := within engine gate scope start (.whole 1) start (.whole 8) start _ last
    (by rw [Run.Gated.evaluate]; rfl) (by rw [Run.Gated.evaluate]; rfl) given
    (.whole (.whole 1) (.whole 1)) (.whole (.whole 8) (.whole 8))
  exact (limits.width 1 8 number (.whole 1) (.whole 8) rfl).2 (.inr (by decide +kernel))

/-- Whether a value is an integer of more bits than the limit. -/
def isWide : Value → Bool
  | .whole number => mostBits < bitLength number.natAbs
  | _ => false

/-- The limit holds for the operands, not for what they come to. And what a property gives when the guard asks for it
need not be what it gives later. -/
theorem wide_results_accepted :
    ((valueOf 0 "1 << 4096" true).runIn { cells := #[.dict #[] none] }).1.toOption.any isWide = true ∧
    ((valueOf 0 "(1 << 4000) * (1 << 4000)" true).runIn { cells := #[.dict #[] none] }).1.toOption.any isWide = true ∧
    ((valueOf 0 "1 << x.v" true).runIn (afterInputs
      ["class C:\n    n = 0\n    @property\n    def v(self):\n        C.n = C.n + 5000\n        return C.n - 5000",
        "x = C()"])).1.toOption.any isWide = true := by
  decide +kernel

end Environment

end LiveShell
