import LiveShell.Proofs.SparedCells

/-!
Looking at values leaves no trace in a tame world: asking for their class, comparing, hashing and showing them, and
finding them among the items of a container. The methods that values may have of their own are asked for first, and
there are none.
-/

namespace LiveShell.Run

set_option autoImplicit false

variable {α β : Type} {space bound : Address} {engine : Engine}

@[grind .]
theorem spares_cell (address : Address) : Spares space bound (cellAt? address) := spares_of_reads (reads_cell _)

@[grind .]
theorem spares_entries (address : Address) : Spares space bound (entriesAt address) := spares_of_reads (reads_entries _)

@[grind .]
theorem spares_name (address : Address) (name : String) : Spares space bound (nameIn? address name) :=
  spares_of_reads (reads_name _ _)

@[grind .]
theorem spares_names (address : Address) : Spares space bound (namesIn address) := spares_of_reads (reads_names _)

@[grind .]
theorem spares_class_of (value : Value) : Spares space bound (classOf value) := spares_of_reads (reads_class_of _)

@[grind .]
theorem spares_order_of (cls : Value) : Spares space bound (orderOf cls) := spares_of_reads (reads_order_of _)

@[grind .]
theorem spares_name_of_class (cls : Value) : Spares space bound (nameOfClass cls) :=
  spares_of_reads (reads_name_of_class _)

@[grind .]
theorem spares_type_name (value : Value) : Spares space bound (typeName value) := spares_of_reads (reads_type_name _)

@[grind .]
theorem spares_is_class (value : Value) : Spares space bound (isClass value) := spares_of_reads (reads_is_class _)

@[grind .]
theorem spares_is_kind (value : Value) (kind : Kind) : Spares space bound (isKind value kind) :=
  spares_of_reads (reads_is_kind _ _)

@[grind .]
theorem spares_plain (value : Value) : Spares space bound (plain value) := spares_of_reads (reads_plain _)

@[grind .]
theorem spares_member_of (cls : Value) (name : String) : Spares space bound (memberOf? cls name) :=
  spares_of_reads (reads_member_of _ _)

@[grind .]
theorem spares_is_subclass (cls ancestor : Value) : Spares space bound (isSubclass cls ancestor) := by
  unfold isSubclass
  grind

@[grind .]
theorem spares_is_instance (value cls : Value) : Spares space bound (isInstance value cls) := by
  unfold isInstance
  grind

@[grind .]
theorem spares_base_kind (cls : Value) : Spares space bound (baseKind cls) := by
  unfold baseKind
  grind

/-! ### Comparing -/

@[grind .]
theorem spares_plain_length (value : Value) : Spares space bound (plainLength? value) := by
  unfold plainLength?
  grind

@[grind .]
theorem spares_length_of (value : Value) : Spares space bound (lengthOf engine value) := by
  unfold lengthOf
  grind

@[grind .]
theorem spares_holds (value : Value) : Spares space bound (holds engine value) := by
  unfold holds
  split
  · exact spares_pure _
  · exact spares_pure _
  · refine spares_call_own_bind ?_
    grind

@[grind .]
theorem spares_set_members (value : Value) : Spares space bound (setMembers? value) := by
  unfold setMembers?
  grind

section Relations

variable {equal : Value → Value → Run Bool} {relate : Code.Relation → Value → Value → Run Bool}

@[grind ←]
theorem spares_find_key_by (equals : ∀ a b, Spares space bound (equal a b)) (keys : Array Value) (key : Value) :
    Spares space bound (findKeyBy equal keys key) := by
  unfold findKeyBy
  grind

@[grind ←]
theorem spares_relate_items (relates : ∀ relation a b, Spares space bound (relate relation a b))
    (relation : Code.Relation) (first second : List Value) :
    Spares space bound (relateItems relate relation first second) := by
  fun_induction relateItems relate relation first second <;> grind

@[grind ←]
theorem spares_all_among (equals : ∀ a b, Spares space bound (equal a b)) (values others : Array Value) :
    Spares space bound (allAmong equal values others) := by
  unfold allAmong
  grind

@[grind ←]
theorem spares_relate_sets (equals : ∀ a b, Spares space bound (equal a b)) (relation : Code.Relation)
    (first second : Array Value) : Spares space bound (relateSets equal relation first second) := by
  unfold relateSets
  grind

@[grind ←]
theorem spares_entries_equal (equals : ∀ a b, Spares space bound (equal a b)) (first second : Array (Value × Value)) :
    Spares space bound (entriesEqual equal first second) := by
  unfold entriesEqual
  grind

@[grind ←]
theorem spares_relate_plain (relates : ∀ relation a b, Spares space bound (relate relation a b))
    (relation : Code.Relation) (a b : Value) : Spares space bound (relatePlain? relate relation a b) := by
  unfold relatePlain?
  cases a.numeric? <;> cases b.numeric?
  · simp only
    split
    case h_7 first second =>
        refine spares_bind (spares_cell first) fun here => spares_bind (spares_cell second) fun there => ?_
        split <;> grind
    all_goals grind
  · grind
  · grind
  · grind

end Relations

@[grind .]
theorem spares_relate_own (relation : Code.Relation) (a b : Value) :
    Spares space bound (relateOwn? engine relation a b) := by
  unfold relateOwn?
  grind

@[grind .]
theorem spares_relate_at (depth : Nat) (relation : Code.Relation) (a b : Value) :
    Spares space bound (relateAt engine depth relation a b) := by
  induction depth generalizing relation a b with
  | zero => exact spares_fail _ _
  | succ depth induction =>
      unfold relateAt
      refine spares_bind (spares_relate_own _ _ _) fun own => ?_
      split
      · exact spares_pure _
      · refine spares_bind (spares_relate_own _ _ _) fun reflectedOwn => ?_
        split
        · exact spares_pure _
        · grind

@[grind .]
theorem spares_relate (relation : Code.Relation) (a b : Value) : Spares space bound (relate engine relation a b) :=
  spares_relate_at _ _ _ _

@[grind .]
theorem spares_equal (a b : Value) : Spares space bound (equal engine a b) := by
  unfold equal
  grind

@[grind .]
theorem spares_alike (a b : Value) : Spares space bound (alike engine a b) := by
  unfold alike
  grind

@[grind .]
theorem spares_less (a b : Value) : Spares space bound (less engine a b) := by
  unfold less
  grind

@[grind .]
theorem spares_find_key (keys : Array Value) (key : Value) : Spares space bound (findKey engine keys key) := by
  unfold findKey
  grind

@[grind .]
theorem spares_unhashable (value : Value) : Spares space bound (unhashable value : Run α) := by
  unfold unhashable
  grind

@[grind .]
theorem spares_hash_at (depth : Nat) (value : Value) : Spares space bound (hashAt engine depth value) := by
  induction depth generalizing value with
  | zero => exact spares_fail _ _
  | succ depth induction =>
      unfold hashAt
      refine spares_own_member_bind (spares_bind (spares_of_reads (reads_plain _)) fun inner => ?_)
      split <;> grind

@[grind .]
theorem spares_hash_of (value : Value) : Spares space bound (hashOf engine value) := spares_hash_at _ _

@[grind .]
theorem spares_require_hashable (value : Value) : Spares space bound (requireHashable engine value) := by
  unfold requireHashable
  grind

/-! ### Containers -/

@[grind .]
theorem spares_key_index (entries : Array (Value × Value)) (key : Value) :
    Spares space bound (keyIndex? engine entries key) := by
  unfold keyIndex?
  grind

@[grind .]
theorem spares_entry_at (address : Address) (key : Value) : Spares space bound (entryAt? engine address key) := by
  unfold entryAt?
  grind

@[grind ←]
theorem spares_set_entry {address : Address} (fresh : bound ≤ address) (key value : Value) :
    Spares space bound (setEntry engine address key value) := by
  unfold setEntry
  grind

@[grind .]
theorem spares_list_at (address : Address) : Spares space bound (listAt address) := by
  unfold listAt
  grind

@[grind .]
theorem spares_members_at (address : Address) : Spares space bound (membersAt address) := by
  unfold membersAt
  grind

@[grind .]
theorem spares_with_member (members : Array Value) (member : Value) :
    Spares space bound (withMember engine members member) := by
  unfold withMember
  grind

@[grind .]
theorem spares_set_of (values : Array Value) : Spares space bound (setOf engine values) := by
  unfold setOf
  grind

@[grind .]
theorem spares_new_set (members : Array Value) (frozen : Bool) : Spares space bound (newSet members frozen) :=
  spares_new rfl

/-! ### Going through items -/

@[grind ←]
theorem spares_unless_raised {names : List String} {run : Run α} (spares : Spares space bound run) :
    Spares space bound (unlessRaised names run) := by
  unfold unlessRaised isError
  grind

theorem is_tame_of_named (name : String) (cursor : Cursor) : (Cell.iterator (.named name) cursor).isTame = true := by
  simp [Cell.isTame, Guard.plainContainers]

@[grind .]
theorem spares_new_iterator (name : String) (cursor : Cursor) : Spares space bound (newIterator name cursor) :=
  spares_new (is_tame_of_named _ _)

@[grind .]
theorem spares_is_iterator (value : Value) : Spares space bound (isIterator value) := by
  unfold isIterator
  grind

@[grind .]
theorem spares_plain_iterator (value : Value) : Spares space bound (plainIterator? value) := by
  unfold plainIterator?
  grind

@[grind .]
theorem spares_iterate (value : Value) : Spares space bound (iterate engine value) := by
  unfold iterate
  refine spares_own_member_bind ?_
  grind

@[grind .]
theorem spares_snapshot (value : Value) : Spares space bound (snapshot? value) := by
  unfold snapshot?
  grind

/-! ### Written forms -/

@[grind .]
theorem spares_show_whole (value : Int) : Spares space bound (showWhole value) := by
  unfold showWhole
  grind

@[grind .]
theorem spares_qualified_name (function : Value) : Spares space bound (qualifiedName function) := by
  unfold qualifiedName
  grind

@[grind .]
theorem spares_full_class_name (cls : Value) : Spares space bound (fullClassName cls) := by
  unfold fullClassName
  grind

section Shown

variable {shown : Value → Run String}

@[grind ←]
theorem spares_show_plain (shows : ∀ value, Spares space bound (shown value)) (value : Value) :
    Spares space bound (showPlain shown value) := by
  unfold showPlain
  split <;> grind

@[grind ←]
theorem spares_show_arguments (shows : ∀ value, Spares space bound (shown value)) (arguments : List Value) :
    Spares space bound (showArguments shown arguments) := by
  unfold showArguments
  grind

@[grind ←]
theorem spares_show_cell (shows : ∀ value, Spares space bound (shown value)) (value : Value) (cell : Cell) :
    Spares space bound (showCell shown value cell) := by
  unfold showCell
  split <;> grind

@[grind .]
theorem spares_error_arguments (cls : Value) (arguments : List Value) :
    Spares space bound (errorArguments cls arguments) := by
  unfold errorArguments
  grind

@[grind ←]
theorem spares_show_own_set (shows : ∀ value, Spares space bound (shown value)) (name : String)
    (members : Array Value) : Spares space bound (showOwnSet shown name members) := by
  unfold showOwnSet
  grind

@[grind ←]
theorem spares_error_text {text : Value → Run String} (texts : ∀ value, Spares space bound (text value))
    (shows : ∀ value, Spares space bound (shown value)) (cls : Value) (arguments : List Value) :
    Spares space bound (errorText text shown cls arguments) := by
  unfold errorText
  split
  · grind
  · grind
  · grind

end Shown

@[grind .]
theorem spares_show_at (depth : Nat) (within : List Address) (value : Value) :
    Spares space bound (showAt engine depth within value) := by
  induction depth generalizing within value with
  | zero => exact spares_fail _ _
  | succ depth induction =>
      unfold showAt
      split
      · refine spares_call_own_bind (spares_bind (spares_cell _) fun found => ?_)
        split
        · refine spares_bind (spares_name_of_class _) fun name => spares_bind (spares_is_subclass _ _) fun isError => ?_
          split <;> grind
        · grind
        · grind
      · grind

@[grind .]
theorem spares_shown (value : Value) : Spares space bound (shown engine value) := spares_show_at _ _ _

@[grind .]
theorem spares_text_at (depth : Nat) (value : Value) : Spares space bound (textAt engine depth value) := by
  induction depth generalizing value with
  | zero => exact spares_fail _ _
  | succ depth induction =>
      unfold textAt
      split
      · exact spares_pure _
      · exact spares_pure _
      · refine spares_call_own_bind (spares_bind (spares_cell _) fun found => ?_)
        split <;> grind
      · grind

@[grind .]
theorem spares_text_of (value : Value) : Spares space bound (textOf engine value) := spares_text_at _ _

@[grind .]
theorem spares_lay_out (value : Value) (spec : String) : Spares space bound (layOut engine value spec) := by
  unfold layOut
  refine spares_call_own_bind ?_
  grind

end LiveShell.Run
