import LiveShell.Evaluation.Engine
import LiveShell.Proofs.SparedValues

/-!
Operators, parts of values and attributes leave no trace in a tame world. Filling a text in is the exception: it asks
a mapping for values, and a mapping may make up what it does not have, so it is asked for only where the right operand
stands for itself.
-/

namespace LiveShell.Run

set_option autoImplicit false

variable {α β : Type} {space bound : Address} {engine : Engine}

/-! ### Arithmetic -/

@[grind .]
theorem spares_to_real (value : Int) : Spares space bound (toReal value) := by
  unfold toReal
  grind

@[grind .]
theorem spares_real_power (a b : Float) : Spares space bound (realPower a b) := by
  unfold realPower zeroDivision rangeError
  grind

@[grind .]
theorem spares_whole_power (a b : Int) : Spares space bound (wholePower a b) := by
  unfold wholePower zeroDivision
  grind

@[grind .]
theorem spares_whole_quotient (a b : Int) : Spares space bound (wholeQuotient a b) := by
  unfold wholeQuotient zeroDivision
  grind

@[grind .]
theorem spares_on_wholes (operator : Code.BinaryOperator) (a b : Int) :
    Spares space bound (onWholes? operator a b) := by
  unfold onWholes? zeroDivision
  split <;> grind

@[grind .]
theorem spares_on_reals (operator : Code.BinaryOperator) (a b : Float) :
    Spares space bound (onReals? operator a b) := by
  unfold onReals? zeroDivision
  split <;> grind

@[grind .]
theorem spares_on_pairs (operator : Code.BinaryOperator) (a b : Pair) :
    Spares space bound (onPairs? operator a b) := by
  unfold onPairs? zeroDivision
  split <;> grind

@[grind .]
theorem spares_to_pair (number : Numeric) : Spares space bound (toPair number) := by
  unfold toPair
  grind

@[grind .]
theorem spares_on_numbers (operator : Code.BinaryOperator) (a b : Numeric) :
    Spares space bound (onNumbers? operator a b) := by
  unfold onNumbers?
  split <;> grind

@[grind .]
theorem spares_repeated (value : Value) (count : Int) : Spares space bound (repeated? value count) := by
  unfold repeated?
  grind

@[grind .]
theorem spares_is_sequence (value : Value) : Spares space bound (isSequence value) := by
  unfold isSequence
  grind

@[grind .]
theorem spares_multiplied (a b : Value) : Spares space bound (multiplied? a b) := by
  unfold multiplied?
  grind

@[grind .]
theorem spares_added (a b : Value) : Spares space bound (added? a b) := by
  unfold added?
  split
  case h_7 =>
      refine spares_bind (spares_cell _) fun found => ?_
      split <;> grind
  all_goals grind

@[grind .]
theorem spares_members_where (members others : Array Value) (present : Bool) :
    Spares space bound (membersWhere engine members others present) := by
  unfold membersWhere
  grind

@[grind .]
theorem spares_on_sets (operator : Code.BinaryOperator) (a b : Array Value) :
    Spares space bound (onSets? engine operator a b) := by
  unfold onSets?
  grind

@[grind .]
theorem spares_on_containers (operator : Code.BinaryOperator) (a b : Value) :
    Spares space bound (onContainers? engine operator a b) := by
  unfold onContainers?
  refine spares_bind (spares_set_members _) fun first => spares_bind (spares_set_members _) fun second => ?_
  split
  · refine spares_bind (spares_on_sets _ _ _) fun members => ?_
    split <;> grind
  · split
    · refine spares_bind (spares_cell _) fun here => spares_bind (spares_cell _) fun there => ?_
      split
      · refine spares_allocate_bind rfl fun address fresh => ?_
        grind
      · exact spares_pure _
    all_goals exact spares_pure _

@[grind ←]
theorem spares_on_plain {fillIn : Value → Value → Run Value} {operator : Code.BinaryOperator} {a b : Value}
    (fills : operator = .modulo → ∀ text, Spares space bound (fillIn text b)) :
    Spares space bound (onPlain? engine fillIn operator a b) := by
  unfold onPlain?
  grind

theorem plain_of_no_reference {value : Value} (direct : ∀ address, value ≠ .ref address) :
    plain value = pure value := by
  cases value <;> first | rfl | exact absurd rfl (direct _)

@[grind .]
theorem spares_own_operator (word : String) (a b : Value) : Spares space bound (ownOperator? engine word a b) := by
  unfold ownOperator?
  grind

/-- Operators run no code but what fills a text in, and that is asked for only where the right operand is a value by
itself. -/
theorem spares_operate {fillIn : Value → Value → Run Value} {operator : Code.BinaryOperator} {b : Value}
    (fills : operator = .modulo → (∀ address, b ≠ .ref address) ∧ ∀ text, Spares space bound (fillIn text b))
    (changing : Bool) (a : Value) : Spares space bound (operate engine fillIn operator changing a b) := by
  unfold operate
  refine spares_bind (spares_class_of _) fun first => spares_bind (spares_class_of _) fun second => ?_
  refine spares_bind (by grind) fun reflectedFirst => spares_bind (by grind) fun early => ?_
  split
  · exact spares_pure _
  · refine spares_bind (spares_own_operator _ _ _) fun own => ?_
    split
    · exact spares_pure _
    · refine spares_bind (by grind) fun late => ?_
      split
      · exact spares_pure _
      · refine spares_bind (spares_plain _) fun inner => ?_
        by_cases fillsIn : operator = .modulo
        · rw [plain_of_no_reference (fills fillsIn).1, pure_bind]
          exact spares_bind (spares_on_plain fun _ => (fills fillsIn).2) fun _ => by grind
        · refine spares_bind (spares_plain _) fun other => ?_
          exact spares_bind (spares_on_plain fun isModulo => absurd isModulo fillsIn) fun _ => by grind

@[grind .]
theorem spares_operate_on (operator : Code.UnaryOperator) (value : Value) :
    Spares space bound (operateOn engine operator value) := by
  unfold operateOn
  grind

@[grind .]
theorem spares_to_index_if_any (value : Value) : Spares space bound (toIndex? engine value) := by
  unfold toIndex?
  grind

@[grind .]
theorem spares_to_index (value : Value) : Spares space bound (toIndex engine value) := by
  unfold toIndex
  grind

/-! ### Items -/

@[grind .]
theorem spares_slice_bound (value : Value) : Spares space bound (sliceBound? engine value) := by
  unfold sliceBound?
  grind

@[grind .]
theorem spares_bounds_of (lower upper step : Value) (size : Nat) :
    Spares space bound (boundsOf engine lower upper step size) := by
  unfold boundsOf
  grind

@[grind .]
theorem spares_index_error (message : String) : Spares space bound (indexError message : Run α) := spares_fail _ _

@[grind ←]
theorem spares_part_of_sequence {items : Array α} {single : α → Run Value} {several : Array α → Run Value}
    (one : ∀ item, Spares space bound (single item)) (more : ∀ items, Spares space bound (several items))
    (index : Value) (refusal outside : String) :
    Spares space bound (partOfSequence engine items index single several refusal outside) := by
  unfold partOfSequence
  refine spares_bind (spares_plain _) fun inner => ?_
  split
  · grind
  · grind

@[grind .]
theorem spares_part_of_range (start step : Int) (size : Nat) (index : Value) :
    Spares space bound (partOfRange engine start step size index) := by
  unfold partOfRange
  grind

@[grind .]
theorem spares_missing_key (key : Value) : Spares space bound (missingKey key : Run α) := spares_raise _ _

@[grind .]
theorem spares_has_among (item : Value) (candidates : List Value) :
    Spares space bound (hasAmong engine item candidates) := by
  induction candidates with
  | nil => exact spares_pure _
  | cons candidate rest induction =>
      unfold hasAmong
      grind

/-! ### Attributes -/

@[grind .]
theorem spares_dict_of_texts (pairs : List (String × Value)) : Spares space bound (dictOfTexts pairs) := by
  unfold dictOfTexts
  grind

@[grind .]
theorem spares_copy_of_space (address : Address) : Spares space bound (copyOfSpace address) := by
  unfold copyOfSpace
  grind

@[grind .]
theorem spares_function_field (data : FunctionData) (name : String) :
    Spares space bound (functionField? data name) := by
  unfold functionField?
  split <;> grind

@[grind .]
theorem spares_host_field (name qualified field : String) : Spares space bound (hostField? name qualified field) := by
  unfold hostField?
  split <;> grind

@[grind .]
theorem spares_class_field (cls : Value) (name : String) : Spares space bound (classField? cls name) := by
  unfold classField?
  split <;> grind

@[grind .]
theorem spares_error_field (cls : Value) (arguments : List Value) (name : String) :
    Spares space bound (errorField? cls arguments name) := by
  unfold errorField?
  split <;> grind

@[grind .]
theorem spares_plain_field (value : Value) (name : String) : Spares space bound (plainField? value name) := by
  unfold plainField?
  split <;> grind

@[grind .]
theorem spares_cell_field (cell : Cell) (name : String) : Spares space bound (cellField? cell name) := by
  unfold cellField?
  split <;> grind

@[grind .]
theorem spares_new_bound (self function : Value) : Spares space bound (new (.bound self function)) := spares_new rfl

@[grind .]
theorem spares_class_attribute (cls : Value) (name : String) : Spares space bound (classAttribute? cls name) := by
  unfold classAttribute?
  refine spares_bind (spares_class_field _ _) fun field => ?_
  split
  · exact spares_pure _
  · refine spares_bind (spares_member_of _ _) fun member => ?_
    split
    · split
      · refine spares_bind (spares_cell _) fun found => ?_
        split <;> grind
      · exact spares_pure _
    · grind
    · grind

@[grind .]
theorem spares_module_attribute (name : String) (address : Address) (member : String) :
    Spares space bound (moduleAttribute? name address member) := by
  unfold moduleAttribute?
  grind

/-- An error has no members but built-in ones and what it holds itself. -/
theorem spares_instance_attribute {kind : Kind} (value : Value) (own : Address) (payload : Option Value)
    (name : String) : Spares space bound (instanceAttribute? engine value (.kind kind) own payload name) := by
  obtain ⟨found, told, builtin⟩ := member_of_kind kind name
  obtain ⟨getter, gets, none⟩ := member_of_kind kind "__getattr__"
  unfold instanceAttribute?
  simp only [told, gets, pure_bind]
  rcases found with _ | ⟨member | base⟩
  · grind
  · exact absurd rfl (builtin member)
  · simp only
    split
    · exact spares_pure _
    · refine spares_bind (spares_name _ _) fun ownMember => ?_
      split
      · exact spares_pure _
      · split
        · exact spares_pure _
        · split <;> grind

@[grind .]
theorem spares_attribute_if_known (value : Value) (name : String) :
    Spares space bound (attribute? engine value name) := by
  unfold attribute?
  split
  · grind
  · refine spares_bind (spares_is_class _) fun isClass => ?_
    split
    · grind
    · lift_lets
      intro kindMember
      clear_value kindMember
      split
      · refine spares_cell_bind fun found tame => ?_
        split
        · obtain ⟨error, rfl⟩ := Cell.error_of_tame (tame _ rfl)
          exact spares_instance_attribute _ _ _ _
        · exact spares_module_attribute _ _ _
        · cases tame _ rfl
        · refine spares_bind (spares_cell_field _ _) fun field => ?_
          split
          · exact spares_pure _
          · split
            · exact spares_pure _
            · split <;> grind
        all_goals grind
      · grind

@[grind .]
theorem spares_missing_attribute_text (value : Value) (name : String) :
    Spares space bound (missingAttributeText value name) := by
  unfold missingAttributeText
  grind

@[grind .]
theorem spares_attribute_of (value : Value) (name : String) : Spares space bound (attributeOf engine value name) := by
  unfold attributeOf
  grind

@[grind .]
theorem spares_attribute_if_any (value : Value) (name : String) :
    Spares space bound (attributeIfAny? engine value name) := by
  unfold attributeIfAny?
  grind

@[grind .]
theorem spares_names_along (order : List Value) : Spares space bound (namesAlong order) := by
  fun_induction namesAlong order <;> grind

@[grind .]
theorem spares_plain_names (value : Value) : Spares space bound (plainNames value) := by
  unfold plainNames
  refine spares_bind (spares_is_class _) fun isClass => ?_
  split
  · grind
  · split <;> grind

end LiveShell.Run
