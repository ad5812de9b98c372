import LiveShell.Evaluation.Engine
import LiveShell.Proofs.SparedOperations

/-!
The pure functions leave no trace in a tame world, whatever they are called with. The class of classes is among them
for telling the class of one value; called with more it makes a class.
-/

namespace LiveShell.Run

set_option autoImplicit false

variable {α β : Type} {space bound : Address} {engine : Engine} {world : World}

/-! ### Arguments -/

@[grind .]
theorem spares_refuse_named (function : String) (given : Given) : Spares space bound (refuseNamed function given) := by
  unfold refuseNamed
  grind

@[grind .]
theorem spares_require_between (function : String) (least most : Nat) (given : Given) :
    Spares space bound (requireBetween function least most given) := by
  unfold requireBetween
  grind

@[grind .]
theorem spares_require_listed (function : String) (least most : Nat) (given : Given) :
    Spares space bound (requireListed function least most given) := by
  unfold requireListed
  grind

@[grind .]
theorem spares_order_named (function : String) (least placed : Nat) (names : List String) (given : Given) :
    Spares space bound (orderNamed function least placed names given) := by
  unfold orderNamed
  grind

@[grind .]
theorem spares_order_arguments (owner function : String) (shape : Shape) (given : Given) :
    Spares space bound (orderArguments owner function shape given) := by
  unfold orderArguments
  grind

@[grind .]
theorem spares_text_argument (refusal : String → String) (value : Value) :
    Spares space bound (textArgument refusal value) := by
  unfold textArgument
  grind

/-! ### Numbers -/

@[grind .]
theorem spares_real_of (value : Value) : Spares space bound (realOf engine value) := by
  unfold realOf
  grind

@[grind .]
theorem spares_need_finite (number : Float) : Spares space bound (needFinite number : Run α) := by
  unfold needFinite
  grind

@[grind .]
theorem spares_truncate_real (number : Float) : Spares space bound (truncateReal number) := by
  unfold truncateReal
  grind

@[grind .]
theorem spares_round_real (number : Float) (places : Int) : Spares space bound (roundReal number places) := by
  unfold roundReal
  grind

@[grind .]
theorem spares_round_value (value : Value) (places : Option Value) :
    Spares space bound (roundValue engine value places) := by
  unfold roundValue
  grind

@[grind .]
theorem spares_absolute_of (value : Value) : Spares space bound (absoluteOf engine value) := by
  unfold absoluteOf
  grind

@[grind .]
theorem spares_divide_both (a b : Value) : Spares space bound (divideBoth engine a b) := by
  unfold divideBoth zeroDivision
  refine spares_bind (by grind) fun own => ?_
  split
  · exact spares_pure _
  · refine spares_bind (by grind) fun reflected => ?_
    split
    · exact spares_pure _
    · refine spares_bind (spares_plain _) fun first => spares_bind (spares_plain _) fun second => ?_
      split <;> grind

/-! ### Values of the built-in kinds -/

@[grind .]
theorem spares_coding_argument (value : Option Value) (name : String) :
    Spares space bound (codingArgument value name) := by
  unfold codingArgument
  grind

@[grind .]
theorem spares_decode_bytes (bytes : List UInt8) (name errors : String) :
    Spares space bound (decodeBytes bytes name errors) := by
  unfold decodeBytes findCoding
  grind

@[grind .]
theorem spares_to_text (given : Given) : Spares space bound (toText engine given) := by
  unfold toText
  refine spares_bind (spares_order_arguments _ _ _ _) fun arguments => ?_
  split
  · exact spares_pure _
  · grind
  · refine spares_bind (spares_plain _) fun inner => ?_
    split <;> grind
  · exact spares_pure _

@[grind .]
theorem spares_whole_of_text (text : String) (base : Nat) : Spares space bound (wholeOfText text base) := by
  unfold wholeOfText
  grind

@[grind .]
theorem spares_whole_of (value : Value) : Spares space bound (wholeOf engine value) := by
  unfold wholeOf
  refine spares_call_own_bind (spares_bind (spares_plain _) fun inner => ?_)
  split <;> grind

@[grind .]
theorem spares_to_whole (given : Given) : Spares space bound (toWhole engine given) := by
  unfold toWhole
  refine spares_bind (spares_order_arguments _ _ _ _) fun arguments => ?_
  split
  · exact spares_pure _
  · exact spares_type_error _
  · exact spares_whole_of _
  · refine spares_bind (spares_to_index _) fun base => ?_
    grind

@[grind .]
theorem spares_to_real_value (given : Given) : Spares space bound (toRealValue engine given) := by
  unfold toRealValue
  refine spares_bind (spares_order_arguments _ _ _ _) fun arguments => ?_
  split
  · exact spares_pure _
  · refine spares_bind (spares_plain _) fun inner => ?_
    split <;> grind

@[grind .]
theorem spares_to_complex (given : Given) : Spares space bound (toComplex engine given) := by
  unfold toComplex
  refine spares_bind (spares_order_arguments _ _ _ _) fun arguments => ?_
  lift_lets
  intro pairFrom isText
  have pairs (place : String) (value : Value) : Spares space bound (pairFrom place value) := by grind
  have texts (value : Option Value) : Spares space bound (isText value) := by grind
  clear_value pairFrom isText
  generalize argumentAt arguments 0 = first, argumentAt arguments 1 = second
  split
  · exact spares_pure _
  · refine spares_bind (texts _) fun firstIsText => ?_
    split
    · grind
    · grind

@[grind .]
theorem spares_to_range (given : Given) : Spares space bound (toRange engine given) := by
  unfold toRange
  grind

@[grind .]
theorem spares_to_slice (given : Given) : Spares space bound (toSlice given) := by
  unfold toSlice
  grind

/-! ### Pure functions -/

@[grind .]
theorem spares_shown_in_ascii (value : Value) : Spares space bound (shownInAscii engine value) := by
  unfold shownInAscii
  grind

@[grind .]
theorem spares_attribute_name (value : Value) : Spares space bound (attributeName value) := by
  unfold attributeName
  grind

@[grind .]
theorem spares_code_of (value : Value) : Spares space bound (codeOf value) := by
  unfold codeOf
  grind

@[grind .]
theorem spares_character_of (value : Value) : Spares space bound (characterOf engine value) := by
  unfold characterOf
  grind

@[grind ←]
theorem spares_test_classes {accepts : Value → Run Bool} (tests : ∀ cls, Spares space bound (accepts cls))
    (refusal : String) (depth : Nat) (classes : Value) :
    Spares space bound (testClasses accepts refusal depth classes) := by
  induction depth generalizing classes with
  | zero =>
      unfold testClasses
      exact spares_fail _ _
  | succ depth induction =>
      have among (items : List Value) : Spares space bound (testClasses.anyOf accepts refusal depth items) := by
        induction items with
        | nil =>
            unfold testClasses.anyOf
            exact spares_pure _
        | cons item rest later =>
            unfold testClasses.anyOf
            grind
      unfold testClasses
      grind

@[grind .]
theorem spares_names_of (value : Value) : Spares space bound (namesOf engine value) := by
  unfold namesOf
  refine spares_call_own_bind ?_
  grind

/-! ### Texts with places to fill in -/

@[grind .]
theorem spares_next_place_value (values : PlaceValues) : Spares space bound (nextPlaceValue values) := by
  unfold nextPlaceValue
  grind

@[grind .]
theorem spares_take_amount (values : PlaceValues) (text : List Char) :
    Spares space bound (takeAmount values text) := by
  unfold takeAmount
  grind

theorem next_place_keeps_mapping (values : PlaceValues) :
    Gives (nextPlaceValue values) fun result => result.2.mapping = values.mapping := by
  unfold nextPlaceValue
  split
  · exact gives_pure rfl
  · exact gives_fail

theorem amount_keeps_mapping (values : PlaceValues) (text : List Char) :
    Gives (takeAmount values text) fun result => result.2.1.mapping = values.mapping := by
  unfold takeAmount
  split
  · refine gives_bind (next_place_keeps_mapping values) fun taken same => ?_
    refine gives_bind (gives_any _) fun inner _ => ?_
    split
    · exact gives_pure same
    · exact gives_fail
  · extract_lets digits
    split
    · exact gives_pure rfl
    · exact gives_pure rfl

@[grind .]
theorem spares_whole_for_place (letter : Char) (value : Value) :
    Spares space bound (wholeForPlace engine letter value) := by
  unfold wholeForPlace
  refine spares_bind (spares_plain _) fun inner => ?_
  split <;> grind

@[grind .]
theorem spares_character_place (value : Value) : Spares space bound (characterPlace engine value) := by
  unfold characterPlace
  grind

@[grind .]
theorem spares_real_place (form : PlaceForm) (letter : Char) (number : Float) :
    Spares space bound (realPlace form letter number) := by
  unfold realPlace
  grind

@[grind .]
theorem spares_write_place (form : PlaceForm) (letter : Char) (index : Nat) (value : Value) :
    Spares space bound (writePlace engine form letter index value) := by
  unfold writePlace
  extract_lets limited
  split <;> grind

/-- Values that come without a mapping are all asked for in turn. -/
theorem spares_fill_places (length fuel : Nat) {values : PlaceValues} (missing : values.mapping = none)
    (text : List Char) : Spares space bound (fillPlaces engine length fuel values text) := by
  induction fuel generalizing values text with
  | zero => exact spares_pure _
  | succ fuel induction =>
      unfold fillPlaces
      split
      · exact spares_pure _
      · exact spares_pure _
      · next values turns text same =>
        cases same
        simp -zeta only [missing]
        refine spares_bind_gives (fun taken => taken.1 = none) ?_ ?_ ?_
        · split <;> grind
        · split
          · exact gives_fail
          · exact gives_pure rfl
        rintro ⟨named, text⟩ rfl
        dsimp -zeta only
        refine spares_bind_gives _ (spares_take_amount _ _) (amount_keeps_mapping _ _) ?_
        rintro ⟨width, values, text⟩ same
        dsimp -zeta only
        extract_lets form
        clear_value form
        refine spares_bind_gives (fun result => result.2.1.mapping = none) ?_ ?_ ?_
        · split <;> grind
        · split
          · refine gives_bind (amount_keeps_mapping _ _) fun taken kept => gives_pure ?_
            exact kept.trans (same.trans missing)
          · exact gives_pure (same.trans missing)
        rintro ⟨form, values, text⟩ same
        dsimp -zeta only
        extract_lets text
        clear_value text
        split
        · exact spares_value_error _
        · exact spares_bind (induction same _) fun _ => spares_pure _
        · refine spares_bind_gives _ (spares_next_place_value _) (next_place_keeps_mapping _) ?_
          rintro ⟨value, values⟩ kept
          refine spares_bind (spares_write_place _ _ _ _) fun written => ?_
          exact spares_bind (induction (kept.trans same) _) fun _ => spares_pure _
      · next same =>
        cases same
        exact spares_bind (induction missing _) fun _ => spares_pure _

/-- Whether a value stands for itself and can only be asked for its items in turn. -/
def givesInTurn : Value → Bool
  | .ref _ | .bytes _ | .range .. => false
  | _ => true

theorem not_serves_as_mapping (grounded : Grounded space bound world) {value : Value}
    (turn : givesInTurn value = true) : (servesAsMapping value).runIn world = (.ok false, world) := by
  unfold servesAsMapping
  rw [run_in_bind, own_member_none grounded]
  cases value <;> first | rfl | cases turn

theorem no_mapping (grounded : Grounded space bound world) {value : Value} (turn : givesInTurn value = true) :
    (do if ← servesAsMapping value then pure (some value) else pure none : Run (Option Value)).runIn world =
      (.ok none, world) := by
  rw [run_in_bind, not_serves_as_mapping grounded turn]
  rfl

theorem spares_fill_in (text : Value) {value : Value} (turn : givesInTurn value = true) :
    Spares space bound (fillIn engine text value) := by
  unfold fillIn
  extract_lets inBytes characters
  clear_value inBytes characters
  intro world grounded
  refine spares_at_read (no_mapping grounded turn) ?_ grounded
  refine spares_bind (spares_plain _) (fun inner => ?_) world
  extract_lets given
  exact spares_bind (spares_fill_places _ _ rfl _) fun _ => by grind

theorem direct_of_turn {value : Value} (turn : givesInTurn value = true) (address : Address) :
    value ≠ .ref address := by
  rintro rfl
  cases turn

/-! ### Sorting -/

section Sorting

variable {before : α → α → Run Bool}

@[grind ←]
theorem spares_run_length (compares : ∀ a b, Spares space bound (before a b)) (falling : Bool) (last : α)
    (items : List α) : Spares space bound (Sorting.runLength before falling last items) := by
  induction items generalizing last with
  | nil => exact spares_pure _
  | cons item rest induction =>
      unfold Sorting.runLength
      grind

@[grind ←]
theorem spares_place_for (compares : ∀ a b, Spares space bound (before a b)) (item : α) (sorted : Array α)
    (fuel low high : Nat) : Spares space bound (Sorting.placeFor before item sorted fuel low high) := by
  induction fuel generalizing low high with
  | zero => exact spares_pure _
  | succ fuel induction =>
      unfold Sorting.placeFor
      grind

@[grind ←]
theorem spares_insert_all (compares : ∀ a b, Spares space bound (before a b)) (sorted : Array α) (items : List α) :
    Spares space bound (Sorting.insertAll before sorted items) := by
  induction items generalizing sorted with
  | nil => exact spares_pure _
  | cons item rest induction =>
      unfold Sorting.insertAll
      grind

@[grind ←]
theorem spares_sort_short (compares : ∀ a b, Spares space bound (before a b)) (items : List α) :
    Spares space bound (Sorting.sortShort before items) := by
  unfold Sorting.sortShort
  grind

@[grind ←]
theorem spares_merge (compares : ∀ a b, Spares space bound (before a b)) (fuel : Nat) (done : Array α)
    (left right : List α) : Spares space bound (Sorting.merge before fuel done left right) := by
  fun_induction Sorting.merge before fuel done left right <;> grind

@[grind ←]
theorem spares_sort_by (compares : ∀ a b, Spares space bound (before a b)) (depth : Nat) (items : List α) :
    Spares space bound (Sorting.sortBy before depth items) := by
  induction depth generalizing items with
  | zero => exact spares_sort_short compares items
  | succ depth induction =>
      unfold Sorting.sortBy
      grind

end Sorting

@[grind .]
theorem spares_sort_values (values : Array Value) : Spares space bound (sortValues engine values) := by
  unfold sortValues sortByKeys
  grind

/-! ### Calls of pure functions -/

@[grind .]
theorem spares_call_routine {name : String} (pure : name ∈ Guard.pureNames) (given : Given) :
    Spares space bound (callRoutine engine name given) := by
  unfold callRoutine
  refine spares_bind (by grind) fun arguments => ?_
  extract_lets first second? second
  clear_value first second? second
  split
  all_goals first | exact absurd pure (by decide) | grind

/-- The classes among the pure functions, apart from the class of classes. -/
def pureKinds : List Kind := [.boolean, .complex, .real, .whole, .range, .slice, .text]

theorem spares_construct {kind : Kind} (pure : kind ∈ pureKinds) (given : Given) :
    Spares space bound (construct engine kind given) := by
  unfold construct
  simp only [pureKinds, List.mem_cons, List.not_mem_nil, or_false] at pure
  rcases pure with rfl | rfl | rfl | rfl | rfl | rfl | rfl <;> simp only [emptyContainer?] <;> grind

/-- Whether a value is a pure function: a class, the class of classes only for telling a class, or a routine. -/
def isPureCallee : Value → Bool
  | .kind kind => kind = .type || pureKinds.contains kind
  | .routine name => Guard.pureNames.contains name
  | _ => false

/-- What the names of the pure functions stand for. -/
theorem pure_callee_of_name {name : String} (pure : name ∈ Guard.pureNames) :
    ∃ callee, builtinValue? name = some callee ∧ isPureCallee callee = true ∧
      (callee = .kind .type → name = "type") := by
  have known : ∀ name ∈ Guard.pureNames, (builtinValue? name).any fun callee =>
      isPureCallee callee && (name = "type" || !callee.same (.kind .type)) := by
    decide +kernel
  have told := known name pure
  cases found : builtinValue? name with
  | none => simp [found] at told
  | some callee =>
      simp only [found, Option.any_some, Bool.and_eq_true, Bool.or_eq_true, decide_eq_true_eq] at told
      refine ⟨callee, rfl, told.1, ?_⟩
      rintro rfl
      simpa [Value.same] using told.2

theorem undotted_of_pure {name : String} (pure : name ∈ Guard.pureNames) :
    ∀ library function, Text.splitAtEach '.' name.toList ≠ [library, function] := by
  have short : ∀ name ∈ Guard.pureNames, (Text.splitAtEach '.' name.toList).length = 1 := by
    decide +kernel
  intro library function same
  have length := short name pure
  rw [same] at length
  cases length

/-- A call of a pure function. The class of classes is called with one value only. -/
theorem spares_call_value {callee : Value} (pure : isPureCallee callee = true) {given : Given}
    (one : callee = .kind .type → ∃ value, given = { positional := [value], named := [] }) :
    Spares space bound (callValue engine callee given) := by
  cases callee with
  | kind kind =>
      by_cases isType : kind = .type
      · subst isType
        obtain ⟨value, rfl⟩ := one rfl
        exact spares_class_of value
      · have known : kind ∈ pureKinds := by simpa [isPureCallee, isType] using pure
        rw [callValue]
        · exact spares_construct known given
        · exact isType
  | routine name =>
      have known : name ∈ Guard.pureNames := by simpa [isPureCallee] using pure
      unfold callValue
      simp only
      split
      · next same => exact absurd same (undotted_of_pure known _ _)
      · exact spares_call_routine known given
  | _ => cases pure

end LiveShell.Run
