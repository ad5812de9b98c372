import LiveShell.Proofs.SparedCalls

/-!
Built-in containers in tame worlds. What is known of a container of a namespace stays known, and going through it,
searching it or asking it for a part changes nothing but an iterator made on the way.
-/

namespace LiveShell

set_option autoImplicit false

/-- Among tame cells the kind tells a container. -/
theorem Cell.container_of_kind {cell : Cell} (tame : cell.isTame = true) (plain : cell.kind ∈ Guard.plainContainers) :
    (∃ items, cell = .list items) ∨ (∃ entries, cell = .dict entries none) ∨
      ∃ members frozen, cell = .set members frozen := by
  cases cell with
  | list items => exact .inl ⟨items, rfl⟩
  | dict entries factory =>
      cases factory with
      | none => exact .inr (.inl ⟨entries, rfl⟩)
      | some => simp [Cell.kind, Guard.plainContainers] at plain
  | set members frozen => exact .inr (.inr ⟨members, frozen, rfl⟩)
  | iterator kind =>
      rw [Cell.isTame, Bool.not_eq_true', List.contains_eq_mem, decide_eq_false_iff_not] at tame
      exact absurd plain tame
  | wrapped isClass => cases isClass <;> simp [Cell.kind, Guard.plainContainers] at plain
  | view part => cases part <;> simp [Cell.kind, Guard.plainContainers] at plain
  | _ => simp [Cell.kind, Guard.plainContainers] at plain

namespace Run

variable {α β : Type} {space bound : Address} {engine : Engine} {world : World}

/-- A value that is a built-in container itself. -/
inductive IsContainer (world : World) : Value → Prop
  | text (text : String) : IsContainer world (.text text)
  | bytes (bytes : List UInt8) : IsContainer world (.bytes bytes)
  | tuple (items : List Value) : IsContainer world (.tuple items)
  | range (start stop step : Int) : IsContainer world (.range start stop step)
  | list {address : Address} {items : Array Value} (found : world.cells[address]? = some (.list items)) :
      IsContainer world (.ref address)
  | dict {address : Address} {entries : Array (Value × Value)}
      (found : world.cells[address]? = some (.dict entries none)) : IsContainer world (.ref address)
  | set {address : Address} {members : Array Value} {frozen : Bool}
      (found : world.cells[address]? = some (.set members frozen)) : IsContainer world (.ref address)

theorem IsContainer.of_cell {address : Address} {cell : Cell} (found : world.cells[address]? = some cell)
    (tame : cell.isTame = true) (plain : cell.kind ∈ Guard.plainContainers) : IsContainer world (.ref address) := by
  rcases Cell.container_of_kind tame plain with ⟨items, rfl⟩ | ⟨entries, rfl⟩ | ⟨members, frozen, rfl⟩
  · exact .list found
  · exact .dict found
  · exact .set found

theorem IsContainer.cell {address : Address} (container : IsContainer world (.ref address)) :
    ∃ cell, world.cells[address]? = some cell ∧ cell.kind ∈ Guard.plainContainers := by
  cases container with
  | list found => exact ⟨_, found, by simp [Cell.kind, Guard.plainContainers]⟩
  | dict found => exact ⟨_, found, by simp [Cell.kind, Guard.plainContainers]⟩
  | @set _ _ frozen found => exact ⟨_, found, by cases frozen <;> simp [Cell.kind, Guard.plainContainers]⟩

/-- A container stays one. -/
theorem IsContainer.after {after : World} {value : Value} (grounded : Grounded space bound world)
    (spared : Spared space bound world after) (container : IsContainer world value) : IsContainer after value := by
  cases value with
  | ref address =>
      obtain ⟨cell, found, plain⟩ := container.cell
      obtain ⟨later, known, remains⟩ := spared.remains address cell found
      exact .of_cell known (remains.tame (grounded.tame_cell found)) (remains.kind ▸ plain)
  | text | bytes | tuple | range => constructor
  | _ => cases container

theorem run_in_cell {address : Address} {cell : Cell} (found : world.cells[address]? = some cell) :
    (cellAt? address).runIn world = (.ok (some cell), world) := by
  rw [← found]
  rfl

theorem foreign_kind_other (library name : String) : foreignKind library name ∉ Guard.plainContainers := by
  unfold foreignKind
  repeat' split
  all_goals simp [Guard.plainContainers]

theorem descriptor_kind_other (owner : Kind) (name : String) :
    (Value.descriptor owner name).kindOf ∉ Guard.plainContainers := by
  rw [Value.kindOf]
  repeat' split
  all_goals simp [Guard.plainContainers]

/-- In a tame world the class of a value tells whether it is a container. -/
theorem container_of_class (grounded : Grounded space bound world) {value : Value} {kind : Kind}
    (told : (classOf value).runIn world = (.ok (.kind kind), world)) (plain : kind ∈ Guard.plainContainers) :
    IsContainer world value := by
  cases value with
  | ref address =>
      simp only [classOf] at told
      rcases found : world.cells[address]? with _ | cell
      · rw [run_in_bind, show (cellAt? address).runIn world = (.ok none, world) from by rw [← found]; rfl] at told
        cases told
        simp [Guard.plainContainers] at plain
      · have tame := grounded.tame_cell found
        rw [run_in_bind, run_in_cell found] at told
        cases cell with
        | instanceOf cls =>
            obtain ⟨name, rfl⟩ := Cell.error_of_tame tame
            cases told
            simp [Guard.plainContainers] at plain
        | _ =>
            refine .of_cell found tame ?_
            cases told
            exact plain
  | text | bytes | tuple | range => constructor
  | foreign library name =>
      cases told
      exact absurd plain (foreign_kind_other _ _)
  | descriptor owner name =>
      cases told
      exact absurd plain (descriptor_kind_other _ _)
  | _ =>
      cases told
      simp [Value.kindOf, Guard.plainContainers] at plain

/-! ### Going through containers -/

/-- An iterator that was made on the way, which asks nothing but containers for its items. -/
def IsWalk (bound : Address) (world : World) (iterator : Value) : Prop :=
  ∃ address cell, iterator = .ref address ∧ bound ≤ address ∧ world.cells[address]? = some cell ∧
    cell.stepsPlainly = true

theorem IsWalk.after {after : World} {iterator : Value} (spared : Spared space bound world after)
    (walk : IsWalk bound world iterator) : IsWalk bound after iterator := by
  obtain ⟨address, cell, rfl, fresh, found, steps⟩ := walk
  obtain ⟨later, known, remains⟩ := spared.remains address cell found
  exact ⟨address, later, rfl, fresh, known, remains.steps steps⟩

theorem walk_of_new_iterator (grounded : Grounded space bound world) {name : String} {cursor : Cursor}
    (plain : cursor.isPlain = true) {iterator : Value} {after : World}
    (made : (newIterator name cursor).runIn world = (.ok iterator, after)) : IsWalk bound after iterator := by
  cases made
  exact ⟨_, _, rfl, grounded.size, Array.getElem?_push_size, plain⟩

theorem plain_container {value : Value} (container : IsContainer world value) :
    (plain value).runIn world = (.ok value, world) := by
  cases container with
  | list found | dict found | set found =>
      simp only [plain]
      rw [run_in_bind, run_in_cell found]
      rfl
  | _ => rfl

/-- A container is gone through by an iterator of its own. -/
theorem iterate_container (grounded : Grounded space bound world) {value : Value}
    (container : IsContainer world value) : ∃ name cursor, cursor.isPlain = true ∧
      (iterate engine value).runIn world = (newIterator name cursor).runIn world := by
  have made : ∃ name cursor, cursor.isPlain = true ∧
      (plainIterator? value).runIn world = (some <$> newIterator name cursor).runIn world := by
    cases container with
    | list found | dict found | set found =>
        simp only [plainIterator?]
        rw [run_in_bind, run_in_cell found]
        exact ⟨_, _, rfl, rfl⟩
    | _ => exact ⟨_, _, rfl, rfl⟩
  obtain ⟨name, cursor, isPlain, told⟩ := made
  refine ⟨name, cursor, isPlain, ?_⟩
  unfold iterate
  rw [run_in_bind, own_member_none grounded]
  simp only
  rw [run_in_bind, plain_container container]
  simp only
  rw [run_in_bind, told]
  rfl

/-- An iterator over a container stays one at each step. -/
theorem spares_step_cursor_bind {cursor : Cursor} (isPlain : cursor.isPlain = true)
    {next : Option (Value × Cursor) → Run β}
    (later : ∀ step, (∀ item cursor, step = some (item, cursor) → cursor.isPlain = true) →
      Spares space bound (next step)) : Spares space bound (stepCursor engine cursor >>= next) := by
  have ends : Spares space bound (next none) := later none (by simp)
  have goes {item : Value} {cursor : Cursor} (isPlain : cursor.isPlain = true) :
      Spares space bound (next (some (item, cursor))) := by
    refine later _ fun _ _ same => ?_
    cases same
    exact isPlain
  have goesTo {γ : Type} {found : Option γ} {step : γ → Value × Cursor}
      (isPlain : ∀ item, (step item).2.isPlain = true) : Spares space bound (next (found.map step)) := by
    cases found with
    | none => exact ends
    | some item => exact goes (isPlain item)
  unfold stepCursor
  cases cursor with
  | list source index =>
      simp only [bind_assoc, pure_bind]
      exact spares_bind (spares_list_at _) fun items => goesTo fun _ => rfl
  | reversedList source left =>
      cases left with
      | zero => simpa using ends
      | succ left =>
          simp only [bind_assoc, pure_bind]
          exact spares_bind (spares_list_at _) fun items => goesTo fun _ => rfl
  | items rest | characters rest =>
      cases rest with
      | nil => simpa using ends
      | cons => simpa using goes rfl
  | range start step left =>
      cases left with
      | zero => simpa using ends
      | succ => simpa using goes rfl
  | entries part source index size =>
      simp only [bind_assoc]
      refine spares_bind (spares_entries _) fun entries => ?_
      split
      · rw [bind_assoc]
        exact spares_bind (spares_fail _ _) fun _ => by simpa using goesTo fun _ => rfl
      · simpa using goesTo fun _ => rfl
  | members source size rest =>
      clear isPlain
      simp only [bind_assoc]
      refine spares_bind (spares_members_at _) fun members => ?_
      cases rest with
      | nil =>
          split
          · rw [bind_assoc]
            exact spares_bind (spares_fail _ _) fun _ => by simpa using ends
          · simpa using ends
      | cons item rest =>
          split
          · rw [bind_assoc]
            exact spares_bind (spares_fail _ _) fun _ => by simpa using goes rfl
          · simpa using goes rfl
  | finished => simpa using ends
  | _ => cases isPlain

/-- The next item of an iterator over a container. -/
theorem spares_at_next {iterator : Value} (walk : IsWalk bound world iterator) :
    SparesAt space bound world (nextOf engine iterator) := by
  obtain ⟨address, cell, rfl, fresh, found, steps⟩ := walk
  cases cell with
  | iterator kind cursor =>
      simp only [nextOf]
      refine spares_at_read (run_in_cell found) ?_
      simp only [nextWith]
      refine spares_at_read (run_in_cell found) ?_
      refine spares_step_cursor_bind steps (fun step isPlain => ?_) world
      cases step with
      | none => exact spares_bind (spares_set_cursor fresh rfl) fun _ => spares_pure _
      | some step =>
          obtain ⟨item, cursor⟩ := step
          exact spares_bind (spares_set_cursor fresh (isPlain item cursor rfl)) fun _ => spares_pure _
  | _ => cases steps

/-- What holds of a grounded world stays so when the world is spared. -/
def Lasts (space bound : Address) (holds : World → Prop) : Prop :=
  ∀ {before after : World}, Grounded space bound before → Spared space bound before after → holds before → holds after

/-- A computation that spares what is below the bound in every grounded world of some sort. -/
def SparesWhile (space bound : Address) (holds : World → Prop) (run : Run α) : Prop :=
  ∀ world, holds world → SparesAt space bound world run

/-- An engine that steps iterators over containers, and spares what is below the bound. -/
def StepsQuietly (space bound : Address) (engine : Engine) : Prop :=
  ∀ {world : World} {iterator : Value}, IsWalk bound world iterator → SparesAt space bound world (engine.next iterator)

section Lasting

variable {holds : World → Prop}

theorem spares_while {run : Run α} (spares : Spares space bound run) : SparesWhile space bound holds run :=
  fun world _ => spares world

theorem spares_while_bind (lasts : Lasts space bound holds) {run : Run α} {next : α → Run β}
    (first : SparesWhile space bound holds run) (later : ∀ value, SparesWhile space bound holds (next value)) :
    SparesWhile space bound holds (run >>= next) := by
  intro world here grounded
  exact spares_at_bind (first world here)
    (fun value after _ spared => later value after (lasts grounded spared here)) grounded

theorem spares_while_for_each (lasts : Lasts space bound holds) (steps : StepsQuietly space bound engine)
    {action : Value → Run Bool} (acts : ∀ item, SparesWhile space bound holds (action item)) (iterator : Value)
    (turns : Nat) : SparesWhile space bound (fun world => holds world ∧ IsWalk bound world iterator)
      (forEachFrom engine iterator action turns) := by
  induction turns with
  | zero => exact spares_while (spares_raise _ _)
  | succ turns induction =>
      intro world here grounded
      unfold forEachFrom
      refine spares_at_bind (steps here.2) (fun step after _ spared => ?_) grounded
      have later := lasts grounded spared here.1
      have walk := here.2.after spared
      cases step with
      | none => exact spares_pure _ after
      | some item =>
          refine fun grounded => spares_at_bind (acts item after later) (fun goesOn last _ spared => ?_) grounded
          cases goesOn with
          | false => exact spares_pure _ last
          | true => exact induction last ⟨lasts grounded spared later, walk.after spared⟩

end Lasting

theorem spares_at_iterate_bind {value : Value} (container : IsContainer world value) {next : Value → Run β}
    (later : ∀ iterator after, Spared space bound world after → IsWalk bound after iterator →
      SparesAt space bound after (next iterator)) : SparesAt space bound world (iterate engine value >>= next) := by
  intro grounded
  refine spares_at_bind (spares_iterate value world) (fun iterator after given spared => ?_) grounded
  obtain ⟨name, cursor, isPlain, told⟩ := iterate_container grounded container
  rw [told] at given
  exact later iterator after spared (walk_of_new_iterator grounded isPlain given)

theorem spares_search (steps : StepsQuietly space bound engine) (item iterator : Value) (turns : Nat) :
    SparesWhile space bound (IsWalk bound · iterator) (hasByIterating.search engine item iterator turns) := by
  induction turns with
  | zero => exact spares_while (spares_raise _ _)
  | succ turns induction =>
      intro world walk grounded
      unfold hasByIterating.search
      refine spares_at_bind (steps walk) (fun step after _ spared => ?_) grounded
      have walk := walk.after spared
      cases step with
      | none => exact spares_pure _ after
      | some candidate =>
          refine fun grounded =>
            spares_at_bind (spares_alike candidate item after) (fun found last _ spared => ?_) grounded
          cases found with
          | true => exact spares_pure _ last
          | false => exact induction last (walk.after spared)

/-- After what spares a container it is still one. -/
theorem spares_at_bind_container {value : Value} (container : IsContainer world value) {run : Run α}
    {next : α → Run β} (first : Spares space bound run)
    (later : ∀ found after, IsContainer after value → SparesAt space bound after (next found)) :
    SparesAt space bound world (run >>= next) := fun grounded =>
  spares_at_bind (first world)
    (fun found after _ spared => later found after (container.after grounded spared)) grounded

theorem spares_at_has_by_iterating (steps : StepsQuietly space bound engine) {container : Value} (item : Value)
    (isContainer : IsContainer world container) :
    SparesAt space bound world (hasByIterating engine container item) := by
  unfold hasByIterating
  refine spares_at_bind_container isContainer (spares_plain _) fun inner _ isContainer => ?_
  refine spares_at_bind_container isContainer (spares_plain_iterator _) fun _ _ isContainer => ?_
  refine spares_at_bind_container isContainer (spares_own_member _ _) fun _ _ isContainer => ?_
  refine spares_at_bind_container isContainer (spares_own_member _ _) fun _ after isContainer => ?_
  split
  · exact spares_bind (spares_type_name _) (fun _ => spares_fail_bind) after
  · refine spares_at_iterate_bind isContainer fun iterator after _ walk => ?_
    exact spares_search steps item iterator patience after walk

theorem spares_at_contains (steps : StepsQuietly space bound engine) {container : Value} (item : Value)
    (isContainer : IsContainer world container) : SparesAt space bound world (contains engine container item) := by
  intro grounded
  unfold contains
  refine spares_at_read (own_member_none grounded _ _) ?_ grounded
  simp only
  refine spares_at_read (own_member_none grounded _ _) ?_
  simp only [Option.isSome_none, Bool.false_eq_true, if_false]
  refine spares_at_read (plain_container isContainer) ?_
  cases isContainer with
  | list found | dict found | set found =>
      refine spares_at_read (run_in_cell found) ?_
      simp only
      exact (by grind : Spares space bound _) world
  | range start stop step =>
      simp only
      refine spares_at_bind_container (.range start stop step) (spares_plain _) fun inner after isContainer => ?_
      split
      · exact spares_pure _ after
      · exact spares_at_has_by_iterating steps item isContainer
  | _ =>
      simp only
      exact (by grind : Spares space bound _) world

/-- The items of a container are read off it. -/
theorem spares_at_collect {value : Value} (container : IsContainer world value) :
    SparesAt space bound world (collect engine value) := by
  intro grounded
  unfold collect
  refine spares_at_read (own_member_none grounded _ _) ?_ grounded
  simp only [Option.isNone_none, if_true]
  refine spares_at_read (plain_container container) ?_
  have found : ∃ items, (snapshot? value).runIn world = (.ok (some items), world) := by
    cases container with
    | list found | dict found | set found =>
        simp only [snapshot?]
        rw [run_in_bind, run_in_cell found]
        exact ⟨_, rfl⟩
    | _ => exact ⟨_, rfl⟩
  obtain ⟨items, told⟩ := found
  exact spares_at_read told (spares_pure items world)

@[grind .]
theorem spares_has_items (value : Value) : Spares space bound (hasItems value) := by
  unfold hasItems
  grind

theorem spares_at_items_behind_star {value : Value} (container : IsContainer world value) :
    SparesAt space bound world (itemsBehindStar engine value) := by
  unfold itemsBehindStar
  refine spares_at_bind_container container (spares_has_items _) fun has after container => ?_
  split
  · exact spares_bind (spares_type_name _) (fun _ => spares_fail_bind) after
  · exact fun grounded =>
      spares_at_bind (spares_at_collect container) (fun items last _ _ => spares_pure _ last) grounded

/-- A mapping that makes up no values stays one. -/
theorem dict_after {after : World} {address : Address} {entries : Array (Value × Value)}
    (grounded : Grounded space bound world) (spared : Spared space bound world after)
    (found : world.cells[address]? = some (.dict entries none)) :
    ∃ later, after.cells[address]? = some (.dict later none) := by
  obtain ⟨cell, known, remains⟩ := spared.remains address _ found
  have kind : cell.kind = .dict := remains.kind
  have tame := remains.tame (grounded.tame_cell found)
  rcases Cell.container_of_kind tame (by simp [kind, Guard.plainContainers]) with
    ⟨items, rfl⟩ | ⟨entries, rfl⟩ | ⟨members, frozen, rfl⟩
  · cases kind
  · exact ⟨entries, known⟩
  · cases frozen <;> cases kind

theorem spares_at_value_of_key {mapping : Value} {address : Address} (key : Value)
    {entries : Array (Value × Value)} (found : world.cells[address]? = some (.dict entries none)) :
    SparesAt space bound world (valueOfKey engine mapping address key) := by
  intro grounded
  unfold valueOfKey
  refine spares_at_bind (spares_entry_at _ _ world) (fun known after _ spared => ?_) grounded
  cases known with
  | some value => exact spares_pure value after
  | none =>
      obtain ⟨later, same⟩ := dict_after grounded spared found
      refine fun grounded => spares_at_read (call_own_none grounded _ _ _ _) ?_ grounded
      exact spares_at_read (run_in_cell same) (spares_missing_key key after)

theorem spares_at_item_of {value : Value} (index : Value) (container : IsContainer world value) :
    SparesAt space bound world (itemOf engine value index) := by
  intro grounded
  unfold itemOf
  refine spares_at_read (call_own_none grounded _ _ _ _) ?_ grounded
  refine spares_at_read (plain_container container) ?_
  cases container with
  | list found | set found =>
      refine spares_at_read (run_in_cell found) ?_
      simp only
      exact (by grind : Spares space bound _) world
  | dict found =>
      refine spares_at_read (run_in_cell found) ?_
      exact spares_at_value_of_key index found
  | _ =>
      simp only
      exact (by grind : Spares space bound _) world

end Run

end LiveShell
