import LiveShell.Proofs.RaisedErrors
import LiveShell.Session.Guard
import LiveShell.Session.Loading

/-!
What a computation leaves alone. Below a bound no cell changes, the namespace aside, which may get the entry for the
built-in names. Cells above the bound are made on the way: they may change, but each stays of its kind. This holds in
tame worlds, in which nothing but the built-in members of a value is looked for: what is done about a value there runs
no code of the value's own.
-/

namespace LiveShell

set_option autoImplicit false

/-- Whether an iterator takes its items from what it holds itself or from a built-in container, and asks nothing else
for them. -/
def Cursor.isPlain : Cursor → Bool
  | .mapped .. | .filtered .. | .zipped .. | .counted .. | .called .. | .indexed .. => false
  | _ => true

namespace Cell

/-- Whether a cell holds an iterator that runs no code when it steps. -/
def stepsPlainly : Cell → Bool
  | .iterator _ cursor => cursor.isPlain
  | _ => false

/-- Whether what lives in a cell has built-in members only, and is no iterator that passes for a container. An error
is an instance of a class too, but of a built-in one. -/
def isTame : Cell → Bool
  | .instanceOf (.kind (.error _)) _ _ => true
  | .instanceOf .. | .superOf .. => false
  | .iterator kind _ => !Guard.plainContainers.contains kind
  | _ => true

/-- What a cell made on the way keeps when it changes. -/
structure Remains (before after : Cell) : Prop where
  kind : after.kind = before.kind
  steps : before.stepsPlainly = true → after.stepsPlainly = true
  tame : before.isTame = true → after.isTame = true

theorem Remains.refl (cell : Cell) : cell.Remains cell := ⟨rfl, id, id⟩

theorem Remains.trans {first second third : Cell} (earlier : first.Remains second) (later : second.Remains third) :
    first.Remains third :=
  ⟨later.kind.trans earlier.kind, later.steps ∘ earlier.steps, later.tame ∘ earlier.tame⟩

/-- Whether there is an entry that tells where the built-in names are found. -/
def tellsBuiltins (entries : Array (Value × Value)) : Bool :=
  entries.any fun (key, _) => Run.isText Run.builtinsName key

theorem error_of_tame {cls : Value} {space : Address} {payload : Option Value}
    (tame : (Cell.instanceOf cls space payload).isTame = true) : ∃ name, cls = .kind (.error name) := by
  unfold isTame at tame
  split at tame <;> simp_all

/-- A namespace with an entry for the built-in names. -/
def withBuiltins : Cell → Cell
  | .dict entries factory =>
      if tellsBuiltins entries then .dict entries factory
      else .dict (entries.push (.text Run.builtinsName, .foreign "builtins" Run.builtinsName)) factory
  | cell => cell

theorem with_builtins_twice (cell : Cell) : cell.withBuiltins.withBuiltins = cell.withBuiltins := by
  cases cell with
  | dict entries factory =>
      by_cases known : tellsBuiltins entries = true
      · simp only [withBuiltins, known, if_true]
      · have told : tellsBuiltins (entries.push (.text Run.builtinsName, .foreign "builtins" Run.builtinsName)) =
            true := by
          simp [tellsBuiltins, Run.isText]
        simp only [withBuiltins, known, told, if_true, Bool.false_eq_true, if_false]
  | _ => rfl

theorem with_builtins_remains (cell : Cell) : cell.Remains cell.withBuiltins := by
  cases cell with
  | dict entries factory =>
      simp only [withBuiltins]
      split
      · exact .refl _
      · cases factory <;> exact ⟨rfl, nofun, fun _ => rfl⟩
  | _ => exact .refl _

end Cell

/-- Nothing in a world has members that code made, so looking at a value runs no code. -/
def World.IsTame (world : World) : Prop := ∀ cell ∈ world.cells, cell.isTame = true

instance (world : World) : Decidable world.IsTame := inferInstanceAs (Decidable (∀ cell ∈ world.cells, _))

namespace Run

variable {α β : Type} {space bound : Address} {world : World}

/-- What is there below a bound in the first world is there in the second one just as well, and nothing outside of the
cells is changed. -/
structure Spared (space bound : Address) (before after : World) : Prop where
  rest : after = { before with cells := after.cells }
  grows : before.cells.size ≤ after.cells.size
  old : ∀ address < bound, address ≠ space → after.cells[address]? = before.cells[address]?
  home : after.cells[space]? = before.cells[space]? ∨
    after.cells[space]? = (before.cells[space]?).map Cell.withBuiltins
  remains : ∀ (address : Address) (cell : Cell), before.cells[address]? = some cell →
    ∃ later, after.cells[address]? = some later ∧ cell.Remains later
  tame : before.IsTame → after.IsTame

theorem Spared.refl (space bound : Address) (world : World) : Spared space bound world world :=
  ⟨rfl, Nat.le_refl _, fun _ _ _ => rfl, .inl rfl, fun _ cell found => ⟨cell, found, .refl cell⟩, id⟩

theorem Spared.trans {first second third : World} (earlier : Spared space bound first second)
    (later : Spared space bound second third) : Spared space bound first third where
  rest := by rw [later.rest, earlier.rest]
  grows := Nat.le_trans earlier.grows later.grows
  old address below apart := (later.old address below apart).trans (earlier.old address below apart)
  home := by
    rcases earlier.home with first | first <;> rcases later.home with second | second <;>
      rw [second, first] <;> simp [Function.comp_def, Cell.with_builtins_twice]
  remains address cell found := by
    obtain ⟨between, known, toBetween⟩ := earlier.remains address cell found
    obtain ⟨last, here, toLast⟩ := later.remains address between known
    exact ⟨last, here, toBetween.trans toLast⟩
  tame := later.tame ∘ earlier.tame

/-- A tame world in which everything below a bound is there, a namespace among it. -/
structure Grounded (space bound : Address) (world : World) : Prop where
  home : space < bound
  size : bound ≤ world.cells.size
  tame : world.IsTame

theorem Grounded.after {before after : World} (grounded : Grounded space bound before)
    (spared : Spared space bound before after) : Grounded space bound after :=
  ⟨grounded.home, Nat.le_trans grounded.size spared.grows, spared.tame grounded.tame⟩

theorem Grounded.tame_cell {address : Address} {cell : Cell} (grounded : Grounded space bound world)
    (found : world.cells[address]? = some cell) : cell.isTame = true :=
  grounded.tame cell (Array.mem_of_getElem? found)

/-- Carried out in a grounded world, a computation spares what is below the bound, whether it raises or not. -/
def SparesAt (space bound : Address) (world : World) (run : Run α) : Prop :=
  Grounded space bound world → Spared space bound world (run.runIn world).2

/-- A computation that spares what is below the bound in every grounded world. -/
def Spares (space bound : Address) (run : Run α) : Prop := ∀ world, SparesAt space bound world run

/-! ### Steps -/

theorem spares_at_bind {run : Run α} {next : α → Run β} (first : SparesAt space bound world run)
    (later : ∀ value after, run.runIn world = (.ok value, after) → Spared space bound world after →
      SparesAt space bound after (next value)) : SparesAt space bound world (run >>= next) := by
  intro grounded
  have spared := first grounded
  rw [run_in_bind]
  rcases outcome : run.runIn world with ⟨error | value, after⟩
  · rw [outcome] at spared
    exact spared
  · rw [outcome] at spared
    exact spared.trans (later value after outcome spared (grounded.after spared))

/-- What is read off a world decides how a computation goes on there. -/
theorem spares_at_read {run : Run α} {next : α → Run β} {value : α} (told : run.runIn world = (.ok value, world))
    (later : SparesAt space bound world (next value)) : SparesAt space bound world (run >>= next) := by
  intro grounded
  rw [run_in_bind, told]
  exact later grounded

theorem spares_of_reads {run : Run α} (reads : Reads run) : Spares space bound run := by
  intro world _
  obtain ⟨value, told⟩ := reads world
  rw [told]
  exact .refl space bound world

@[grind .]
theorem spares_pure (value : α) : Spares space bound (pure value : Run α) := spares_of_reads (reads_pure value)

@[grind .]
theorem spares_throw (error : Value) : Spares space bound (throw error : Run α) :=
  fun world _ => .refl space bound world

@[grind ←]
theorem spares_bind {run : Run α} {next : α → Run β} (first : Spares space bound run)
    (later : ∀ value, Spares space bound (next value)) : Spares space bound (run >>= next) :=
  fun world => spares_at_bind (first world) fun value after _ _ => later value after

@[grind ←]
theorem spares_map {run : Run α} {change : α → β} (spares : Spares space bound run) :
    Spares space bound (change <$> run) := by
  rw [map_eq_pure_bind]
  exact spares_bind spares fun _ => spares_pure _

theorem spares_at_catch {run : Run α} {handler : Value → Run α} (first : SparesAt space bound world run)
    (later : ∀ error, Spares space bound (handler error)) : SparesAt space bound world (tryCatch run handler) := by
  intro grounded
  have spared := first grounded
  rw [run_in_catch]
  rcases outcome : run.runIn world with ⟨error | value, after⟩
  · rw [outcome] at spared
    exact spared.trans (later error after (grounded.after spared))
  · rw [outcome] at spared
    exact spared

@[grind ←]
theorem spares_catch {run : Run α} {handler : Value → Run α} (first : Spares space bound run)
    (later : ∀ error, Spares space bound (handler error)) : Spares space bound (tryCatch run handler) :=
  fun world => spares_at_catch (first world) later

@[grind ←]
theorem spares_each {items : List β} {start : α} {body : β → α → Run (ForInStep α)}
    (each : ∀ item state, Spares space bound (body item state)) : Spares space bound (forIn items start body) := by
  induction items generalizing start with
  | nil => exact spares_pure _
  | cons item rest induction =>
      rw [List.forIn_cons]
      refine spares_bind (each item start) fun step => ?_
      cases step with
      | done => exact spares_pure _
      | yield => exact induction

@[grind ←]
theorem spares_each_array {items : Array β} {start : α} {body : β → α → Run (ForInStep α)}
    (each : ∀ item state, Spares space bound (body item state)) : Spares space bound (forIn items start body) := by
  rw [← Array.forIn_toList]
  exact spares_each each

@[grind ←]
theorem spares_map_list {items : List β} {change : β → Run α} (each : ∀ item, Spares space bound (change item)) :
    Spares space bound (items.mapM change) := by
  induction items with
  | nil => exact spares_pure _
  | cons item rest induction =>
      rw [List.mapM_cons]
      exact spares_bind (each item) fun _ => spares_bind induction fun _ => spares_pure _

/-- What a computation gives, when it gives something. -/
def Gives (run : Run α) (good : α → Prop) : Prop :=
  ∀ world value after, run.runIn world = (.ok value, after) → good value

theorem gives_pure {good : α → Prop} {value : α} (known : good value) : Gives (pure value) good := by
  intro world found after given
  cases given
  exact known

theorem gives_bind {run : Run α} {next : α → Run β} {good : α → Prop} {best : β → Prop} (first : Gives run good)
    (later : ∀ value, good value → Gives (next value) best) : Gives (run >>= next) best := by
  intro world result after given
  obtain ⟨value, between, earlier, rest⟩ := run_of_bind given
  exact later value (first _ _ _ earlier) _ _ _ rest

theorem gives_any (run : Run α) : Gives run fun _ => True := fun _ _ _ _ => trivial

theorem gives_fail {name message : String} {good : α → Prop} : Gives (fail name message) good :=
  fun world value after given => absurd ⟨world, value, after, given⟩ (not_succeeds_fail name message)

theorem gives_fail_bind {name message : String} {next : α → Run β} {best : β → Prop} :
    Gives (fail name message >>= next) best :=
  fun world value after given => absurd (succeeds_bind ⟨world, value, after, given⟩).1 (not_succeeds_fail name message)

theorem spares_bind_gives {run : Run α} {next : α → Run β} (good : α → Prop) (first : Spares space bound run)
    (gives : Gives run good) (later : ∀ value, good value → Spares space bound (next value)) :
    Spares space bound (run >>= next) :=
  fun world => spares_at_bind (first world) fun value after given _ => later value (gives _ _ _ given) after

/-! ### Cells -/

theorem spared_push (grounded : Grounded space bound world) {cell : Cell} (tame : cell.isTame = true) :
    Spared space bound world { world with cells := world.cells.push cell } where
  rest := rfl
  grows := by simp
  old address below _ := by
    rw [Array.getElem?_push, if_neg (Nat.ne_of_lt (Nat.lt_of_lt_of_le below grounded.size))]
  home := by
    rw [Array.getElem?_push, if_neg (Nat.ne_of_lt (Nat.lt_of_lt_of_le grounded.home grounded.size))]
    exact .inl rfl
  remains address found known := by
    obtain ⟨lives, _⟩ := Array.getElem?_eq_some_iff.mp known
    refine ⟨found, ?_, .refl found⟩
    rw [Array.getElem?_push_lt lives, ← known, Array.getElem?_eq_getElem lives]
  tame kept found member := by
    rcases Array.mem_push.mp member with here | rfl
    · exact kept found here
    · exact tame

@[grind ←]
theorem spares_allocate {cell : Cell} (tame : cell.isTame = true) : Spares space bound (allocate cell) :=
  fun _ grounded => spared_push grounded tame

/-- What is made lives above the bound. -/
theorem spares_allocate_bind {cell : Cell} {next : Address → Run β} (tame : cell.isTame = true)
    (later : ∀ address, bound ≤ address → Spares space bound (next address)) :
    Spares space bound (allocate cell >>= next) := by
  intro world grounded
  refine spares_at_bind (spares_allocate tame world) ?_ grounded
  intro address after outcome _
  cases outcome
  exact later _ grounded.size _

/-- What a change of one cell leaves of all cells. -/
theorem modify_remains {address : Address} {change : Cell → Cell}
    (changes : ∀ cell, world.cells[address]? = some cell → cell.Remains (change cell)) (other : Address) (cell : Cell)
    (found : world.cells[other]? = some cell) :
    ∃ later, (world.cells.modify address change)[other]? = some later ∧ cell.Remains later := by
  rw [Array.getElem?_modify, found]
  split
  · next same => exact ⟨_, rfl, changes cell (same ▸ found)⟩
  · exact ⟨cell, rfl, .refl cell⟩

theorem tame_of_remains {before after : World} (size : after.cells.size = before.cells.size)
    (remains : ∀ (address : Address) (cell : Cell), before.cells[address]? = some cell →
      ∃ later, after.cells[address]? = some later ∧ cell.Remains later) (tame : before.IsTame) : after.IsTame := by
  intro cell member
  obtain ⟨place, lives, rfl⟩ := Array.mem_iff_getElem.mp member
  have livesBefore : place < before.cells.size := size ▸ lives
  obtain ⟨later, known, toLater⟩ := remains place _ (Array.getElem?_eq_getElem livesBefore)
  obtain rfl := Option.some.inj ((Array.getElem?_eq_getElem lives).symm.trans known)
  exact toLater.tame (tame _ (Array.getElem_mem livesBefore))

theorem spared_modify (grounded : Grounded space bound world) {address : Address} (fresh : bound ≤ address)
    {change : Cell → Cell} (remains : ∀ cell : Cell, cell.Remains (change cell)) :
    Spared space bound world { world with cells := world.cells.modify address change } where
  rest := rfl
  grows := by simp
  old other below _ := by
    rw [Array.getElem?_modify, if_neg (Nat.ne_of_gt (Nat.lt_of_lt_of_le below fresh))]
  home := by
    rw [Array.getElem?_modify, if_neg (Nat.ne_of_gt (Nat.lt_of_lt_of_le grounded.home fresh))]
    exact .inl rfl
  remains := modify_remains fun cell _ => remains cell
  tame := tame_of_remains (by simp) (modify_remains fun cell _ => remains cell)

/-- The namespace itself may get the entry for the built-in names. -/
theorem spared_at_home {change : Cell → Cell} (changes : ∀ cell, world.cells[space]? = some cell →
    change cell = cell ∨ change cell = cell.withBuiltins) :
    Spared space bound world { world with cells := world.cells.modify space change } := by
  have remains (cell : Cell) (found : world.cells[space]? = some cell) : cell.Remains (change cell) := by
    rcases changes cell found with same | prepared
    · rw [same]
      exact .refl cell
    · rw [prepared]
      exact cell.with_builtins_remains
  refine ⟨rfl, by simp, fun other _ apart => ?_, ?_, modify_remains remains,
    tame_of_remains (by simp) (modify_remains remains)⟩
  · rw [Array.getElem?_modify, if_neg (Ne.symm apart)]
  · rw [Array.getElem?_modify, if_pos rfl]
    rcases found : world.cells[space]? with _ | cell
    · exact .inl rfl
    · rcases changes cell found with same | prepared
      · exact .inl (congrArg some same)
      · exact .inr (congrArg some prepared)

theorem spares_modify {address : Address} (fresh : bound ≤ address) {change : Cell → Cell}
    (remains : ∀ cell : Cell, cell.Remains (change cell)) :
    Spares space bound (modify fun world => { world with cells := world.cells.modify address change }) :=
  fun _ grounded => spared_modify grounded fresh remains

@[grind ←]
theorem spares_new {cell : Cell} (tame : cell.isTame = true) : Spares space bound (new cell) :=
  spares_bind (spares_allocate tame) fun _ => spares_pure _

@[grind .]
theorem spares_new_list (items : Array Value) : Spares space bound (newList items) := spares_new rfl

@[grind .]
theorem spares_new_dict (entries : Array (Value × Value)) : Spares space bound (newDict entries) :=
  spares_allocate rfl

@[grind .]
theorem spares_raise (name : String) (arguments : List Value) : Spares space bound (raise name arguments : Run α) :=
  spares_bind (spares_bind (spares_new_dict _) fun _ => spares_new rfl) spares_throw

@[grind .]
theorem spares_fail (name message : String) : Spares space bound (fail name message : Run α) := spares_raise _ _

@[grind .]
theorem spares_type_error (message : String) : Spares space bound (typeError message : Run α) := spares_raise _ _

@[grind .]
theorem spares_value_error (message : String) : Spares space bound (valueError message : Run α) := spares_raise _ _

/-- What would follow an error does not matter. -/
theorem spares_raise_bind {name : String} {arguments : List Value} {next : α → Run β} :
    Spares space bound (raise name arguments >>= next) := by
  rw [bind_congr_raises (not_succeeds_raise name arguments) next fun _ => throw .nothing]
  exact spares_bind (spares_raise _ _) fun _ => spares_throw _

theorem spares_fail_bind {name message : String} {next : α → Run β} :
    Spares space bound (fail name message >>= next) := spares_raise_bind

/-! ### Changes above the bound -/

section Fresh

variable {address : Address}

@[grind ←]
theorem spares_write_entries (fresh : bound ≤ address) (entries : Array (Value × Value)) :
    Spares space bound (writeEntries address entries) := by
  refine spares_modify fresh fun cell => ?_
  cases cell with
  | dict _ factory => cases factory <;> exact ⟨rfl, nofun, fun _ => rfl⟩
  | _ => exact .refl _

@[grind ←]
theorem spares_set_name (fresh : bound ≤ address) (name : String) (value : Value) :
    Spares space bound (setName address name value) := by
  refine spares_modify fresh fun cell => ?_
  cases cell with
  | dict _ factory => cases factory <;> simp only <;> split <;> exact ⟨rfl, nofun, fun _ => rfl⟩
  | _ => exact .refl _

@[grind ←]
theorem spares_modify_list (fresh : bound ≤ address) (change : Array Value → Array Value) :
    Spares space bound (modifyList address change) := by
  refine spares_modify fresh fun cell => ?_
  cases cell with
  | list => exact ⟨rfl, nofun, fun _ => rfl⟩
  | _ => exact .refl _

@[grind ←]
theorem spares_write_members (fresh : bound ≤ address) (members : Array Value) :
    Spares space bound (writeMembers address members) := by
  refine spares_modify fresh fun cell => ?_
  cases cell with
  | set => exact ⟨rfl, nofun, fun _ => rfl⟩
  | _ => exact .refl _

theorem spares_set_cursor (fresh : bound ≤ address) {cursor : Cursor} (plain : cursor.isPlain = true) :
    Spares space bound (setCursor address cursor) := by
  refine spares_modify fresh fun cell => ?_
  cases cell with
  | iterator => exact ⟨rfl, fun _ => plain, id⟩
  | _ => exact .refl _

theorem spares_bind_in_frame (fresh : bound ≤ address) (name : String) (value : Value) :
    Spares space bound (bindInFrame address name value) := by
  refine spares_modify fresh fun cell => ?_
  cases cell with
  | frame => exact ⟨rfl, nofun, fun _ => rfl⟩
  | _ => exact .refl _

end Fresh

/-! ### What tame worlds tell -/

/-- What is found in a tame world is tame. -/
theorem spares_cell_bind {address : Address} {next : Option Cell → Run β}
    (later : ∀ found : Option Cell, (∀ cell ∈ found, cell.isTame = true) → Spares space bound (next found)) :
    Spares space bound (cellAt? address >>= next) := by
  intro world grounded
  rw [run_in_bind]
  exact later _ (fun cell found => grounded.tame_cell found) world grounded

theorem member_along_kinds {name : String} {kinds : List Kind} :
    ∃ found, memberAlong? name (kinds.map .kind) = pure found ∧ ∀ member, found ≠ some (.made member) := by
  induction kinds with
  | nil => exact ⟨none, rfl, nofun⟩
  | cons kind rest induction =>
      rw [List.map_cons, memberAlong?]
      split
      · exact ⟨_, rfl, nofun⟩
      · exact induction

/-- The built-in kinds have no members that code made. -/
theorem member_of_kind (kind : Kind) (name : String) :
    ∃ found, memberOf? (.kind kind) name = pure found ∧ ∀ member, found ≠ some (.made member) :=
  member_along_kinds

theorem own_member_none (grounded : Grounded space bound world) (value : Value) (name : String) :
    (ownMember? value name).runIn world = (.ok none, world) := by
  cases value with
  | ref address =>
      simp only [ownMember?]
      rw [run_in_bind]
      rcases found : world.cells[address]? with _ | cell
      · have read : (cellAt? address).runIn world = (.ok none, world) := by
          rw [← found]
          rfl
        rw [read]
        rfl
      · have read : (cellAt? address).runIn world = (.ok (some cell), world) := by
          rw [← found]
          rfl
        rw [read]
        cases cell with
        | instanceOf cls own payload =>
            have tame := grounded.tame_cell found
            cases cls with
            | kind kind =>
                obtain ⟨member, told, builtin⟩ := member_of_kind kind name
                simp only [told, pure_bind]
                rcases member with _ | ⟨made | _⟩
                · rfl
                · exact absurd rfl (builtin made)
                · rfl
            | _ => cases tame
        | _ => rfl
  | _ => rfl

/-- No value has members that code made. -/
theorem spares_own_member_bind {value : Value} {name : String} {next : Option Value → Run β}
    (later : Spares space bound (next none)) : Spares space bound (ownMember? value name >>= next) := by
  intro world grounded
  rw [run_in_bind, own_member_none grounded]
  exact later world grounded

theorem call_own_none (grounded : Grounded space bound world) (engine : Engine) (value : Value) (name : String)
    (arguments : List Value) : (callOwn? engine value name arguments).runIn world = (.ok none, world) := by
  rw [callOwn?, run_in_bind, own_member_none grounded]
  rfl

theorem spares_call_own_bind {engine : Engine} {value : Value} {name : String} {arguments : List Value}
    {next : Option Value → Run β} (later : Spares space bound (next none)) :
    Spares space bound (callOwn? engine value name arguments >>= next) := by
  intro world grounded
  rw [run_in_bind, call_own_none grounded]
  exact later world grounded

@[grind .]
theorem spares_own_member (value : Value) (name : String) : Spares space bound (ownMember? value name) := by
  intro world grounded
  rw [own_member_none grounded]
  exact .refl space bound world

@[grind .]
theorem spares_call_own (engine : Engine) (value : Value) (name : String) (arguments : List Value) :
    Spares space bound (callOwn? engine value name arguments) := by
  intro world grounded
  rw [call_own_none grounded]
  exact .refl space bound world

end Run

end LiveShell
