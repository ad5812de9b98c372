import LiveShell.Proofs.RaisedErrors
import LiveShell.Session.Loading

/-!
What making a module ready leaves alone. A computation frames a namespace when it changes neither its entries nor what
the loaded modules stand for; modules may be added. Libraries are opened in cells of their own and only added to the
table, and so is a module from a file before its code runs.
-/

namespace LiveShell.Run

set_option autoImplicit false

variable {α β : Type} {space : Address} {world : World}

/-- Every name that was loaded stands for the same module afterwards. -/
def KeepsModules (before after : World) : Prop :=
  ∀ name module, before.modules.lookup name = some module → after.modules.lookup name = some module

/-- A namespace is as it was, and so are the loaded modules. -/
structure Untouched (space : Address) (before after : World) : Prop where
  cell : after.cells[space]? = before.cells[space]?
  modules : KeepsModules before after

theorem Untouched.refl (space : Address) (world : World) : Untouched space world world := ⟨rfl, fun _ _ known => known⟩

theorem Untouched.trans {first second third : World} (earlier : Untouched space first second)
    (later : Untouched space second third) : Untouched space first third :=
  ⟨later.cell.trans earlier.cell, fun name module known => later.modules name module (earlier.modules name module known)⟩

theorem Untouched.lives {before after : World} (untouched : Untouched space before after)
    (lives : space < before.cells.size) : space < after.cells.size := by
  have known := untouched.cell
  rw [Array.getElem?_eq_getElem lives] at known
  exact (Array.getElem?_eq_some_iff.mp known).1

/-- In every world that has the namespace, a computation leaves it and the loaded modules alone, and it only gives
values of some kind. -/
def Frames (space : Address) (run : Run α) (given : α → Prop) : Prop :=
  ∀ world : World, space < world.cells.size →
    Untouched space world (run.runIn world).2 ∧ ∀ value, (run.runIn world).1 = .ok value → given value

def anything (_ : α) : Prop := True

theorem frames_reads {run : Run α} (reads : Reads run) : Frames space run anything := by
  intro world _
  obtain ⟨value, told⟩ := reads world
  rw [told]
  exact ⟨.refl space world, fun _ _ => trivial⟩

theorem frames_pure {given : α → Prop} {value : α} (known : given value) : Frames space (pure value) given := by
  intro world _
  refine ⟨.refl space world, fun other same => ?_⟩
  cases same
  exact known

theorem frames_throw {given : α → Prop} (error : Value) : Frames space (throw error : Run α) given :=
  fun world _ => ⟨.refl space world, nofun⟩

theorem frames_bind {run : Run α} {next : α → Run β} {between : α → Prop} {given : β → Prop}
    (frames : Frames space run between) (goesOn : ∀ value, between value → Frames space (next value) given) :
    Frames space (run >>= next) given := by
  intro world lives
  obtain ⟨first, told⟩ := frames world lives
  rw [run_in_bind]
  rcases outcome : run.runIn world with ⟨error | value, after⟩
  · rw [outcome] at first
    exact ⟨first, nofun⟩
  · rw [outcome] at first told
    obtain ⟨later, result⟩ := goesOn value (told value rfl) after (first.lives lives)
    exact ⟨first.trans later, result⟩

theorem frames_allocate (cell : Cell) : Frames space (allocate cell) (· ≠ space) := by
  intro world lives
  refine ⟨⟨?_, fun _ _ known => known⟩, ?_⟩
  · show (world.cells.push cell)[space]? = world.cells[space]?
    rw [Array.getElem?_push_lt lives, Array.getElem?_eq_getElem lives]
  · intro address same
    cases same
    exact (Nat.ne_of_lt lives).symm

theorem frames_new (cell : Cell) : Frames space (new cell) anything :=
  frames_bind (frames_allocate cell) fun _ _ => frames_pure trivial

theorem frames_raise {given : α → Prop} (name : String) (arguments : List Value) :
    Frames space (raise name arguments : Run α) given := by
  have made : Frames space (makeError name arguments) anything :=
    frames_bind (frames_allocate _) fun _ _ => frames_new _
  exact frames_bind made fun error _ => frames_throw error

theorem frames_raise_bind {given : β → Prop} (name : String) (arguments : List Value) (next : α → Run β) :
    Frames space (raise name arguments >>= next) given := by
  have raised : Frames space (raise name arguments : Run α) fun _ => False := frames_raise name arguments
  exact frames_bind raised fun _ impossible => impossible.elim

theorem frames_set_name {address : Address} (apart : address ≠ space) (name : String) (value : Value) :
    Frames space (setName address name value) anything := by
  intro world _
  refine ⟨⟨?_, fun _ _ known => known⟩, fun _ _ => trivial⟩
  show (world.cells.modify address _)[space]? = world.cells[space]?
  rw [Array.getElem?_modify, if_neg apart]

theorem lookup_added {modules more : List (String × Value)} {name : String} {module : Value}
    (known : modules.lookup name = some module) : (modules ++ more).lookup name = some module := by
  rw [List.lookup_append, known]
  rfl

theorem frames_register (name : String) (module : Value) :
    Frames space (modify fun world => { world with modules := world.modules ++ [(name, module)] }) anything :=
  fun _ _ => ⟨⟨rfl, fun _ _ known => lookup_added known⟩, fun _ _ => trivial⟩

theorem frames_each {items : List β} {body : β → PUnit → Run (ForInStep PUnit)}
    (each : ∀ item, Frames space (body item ⟨⟩) anything) : Frames space (forIn items ⟨⟩ body) anything := by
  induction items with
  | nil => exact frames_pure trivial
  | cons item rest induction =>
      rw [List.forIn_cons]
      apply frames_bind (each item)
      intro step _
      cases step with
      | done => exact frames_pure trivial
      | yield => exact induction

/-! ### Libraries -/

/-- Opening a library fills cells of its own, and adds the library to the table. -/
theorem frames_open_library (depth : Nat) (name : String) : Frames space (openLibrary depth name) anything := by
  induction depth generalizing name with
  | zero =>
      unfold openLibrary
      apply frames_bind (frames_allocate _)
      intro address apart
      apply frames_bind (frames_new _)
      intro library _
      apply frames_bind (frames_register name library)
      intro _ _
      exact frames_pure trivial
  | succ depth induction =>
      unfold openLibrary
      apply frames_bind (frames_reads fun _ => ⟨_, rfl⟩)
      intro table _
      split
      · exact frames_pure trivial
      · apply frames_bind (frames_allocate _)
        intro address apart
        apply frames_bind (frames_new _)
        intro library _
        apply frames_bind (frames_register name library)
        intro _ _
        refine frames_bind (frames_each ?_) fun _ _ => frames_pure trivial
        rintro ⟨member, part⟩
        apply frames_bind (induction part)
        intro value _
        apply frames_bind (frames_set_name apart member value)
        intro _ _
        exact frames_pure trivial

theorem frames_load_named (depth : Nat) (name : String) : Frames space (loadNamed depth name) anything := by
  induction depth generalizing name with
  | zero => exact frames_raise _ _
  | succ depth induction =>
      unfold loadNamed
      apply frames_bind (frames_reads fun _ => ⟨_, rfl⟩)
      intro table _
      split
      · exact frames_pure trivial
      · split
        · exact frames_open_library _ _
        · have found : Frames space
              (if Library.exists? name then openLibrary libraryDepth (Library.properName name) else noModule name)
              anything := by
            split
            · exact frames_open_library _ _
            · exact frames_raise _ _
          simp only
          split
          · apply frames_bind (induction _)
            intro parent _
            split
            · exact frames_raise_bind _ _ _
            · exact found
          · exact found

/-- Loading a library leaves every namespace and every loaded module as they were, also when there is none. -/
theorem frames_load_library (name : String) : Frames space (loadLibrary name) anything := by
  unfold loadLibrary
  by_cases relative : name.startsWith "." = true
  · simp only [relative, if_true]
    exact frames_raise_bind _ _ _
  · by_cases empty : name = ""
    · simp only [empty, if_true]
      exact frames_raise_bind _ _ _
    · simp only [relative, empty, if_false]
      exact frames_load_named _ _

/-! ### Files -/

/-- Makes the module of a file ready, before any of its code runs. -/
def registerFile (path file : String) (isPackage : Bool) : Run (Address × Value) := do
  let space ← newDict #[]
  for (entry, value) in moduleEntries (moduleNameOf path) file path isPackage do setName space entry value
  let module ← new (.module (moduleNameOf path) space)
  modify fun world => { world with modules := world.modules ++ [(moduleNameOf path, module)] }
  return (space, module)

/-- Runs the code of a file in a namespace. -/
def runFile (file : String) (space : Address) : Run Unit := do
  let world ← get
  match world.files.read world.place.current file.toList with
  | .error fault => raiseFault fault (.text file)
  | .ok source =>
      requireText source
      let program ← readOrRaise (Code.readProgram (withoutMark source))
      match leadingText? program with
      | some doc => setName space "__doc__" (.text doc)
      | none => pure ()
      runProgram space program

theorem attempt_get (next : World → Run α) : attempt (get >>= next) = get >>= fun world => attempt (next world) := by
  apply run_ext
  intro world
  rw [run_in_attempt, run_in_bind, run_in_bind]
  exact (run_in_attempt (next world) world).symm

/-- Loading a file makes its module ready, runs its code, and takes the module back when that raises. -/
theorem load_file_eq (path : String) : loadFile path = (do
    match ← moduleFile? path with
    | none => return none
    | some (file, isPackage) =>
        let (space, module) ← registerFile path file isPackage
        match ← attempt (runFile file space) with
        | .ok _ => return some module
        | .error error =>
            forgetModule (moduleNameOf path)
            throw error) := by
  unfold loadFile registerFile
  apply bind_congr
  intro found
  cases found with
  | none => rfl
  | some place =>
      obtain ⟨file, isPackage⟩ := place
      simp only [bind_assoc, pure_bind]
      apply bind_congr
      intro space
      apply bind_congr
      intro _
      apply bind_congr
      intro module
      apply bind_congr
      intro _
      rw [runFile, attempt_get]
      exact (bind_assoc (m := Run) _ _ _).symm

theorem frames_register_file (path file : String) (isPackage : Bool) :
    Frames space (registerFile path file isPackage) anything := by
  unfold registerFile
  apply frames_bind (frames_allocate _)
  intro address apart
  refine frames_bind (frames_each ?_) fun _ _ => ?_
  · rintro ⟨entry, value⟩
    exact frames_bind (frames_set_name apart entry value) fun _ _ => frames_pure trivial
  · apply frames_bind (frames_new _)
    intro module _
    exact frames_bind (frames_register _ module) fun _ _ => frames_pure trivial

theorem lookup_without {modules : List (String × Value)} {name other : String} (apart : other ≠ name) :
    (modules.filter (·.1 ≠ name)).lookup other = modules.lookup other := by
  induction modules with
  | nil => rfl
  | cons entry rest induction =>
      rw [List.filter_cons]
      split
      · rw [List.lookup_cons, List.lookup_cons, induction]
      · next dropped =>
          have same : entry.1 = name := by simpa using dropped
          have other : (other == entry.1) = false := beq_eq_false_iff_ne.mpr (same ▸ apart)
          rw [List.lookup_cons, other, induction]

/-- A module that is forgotten was not there before it was loaded. -/
theorem untouched_forgotten {before between after : World} {name : String} (absent : before.modules.lookup name = none)
    (untouched : Untouched space before between) (forgotten : (forgetModule name).runIn between = (.ok (), after)) :
    Untouched space before after := by
  cases forgotten
  refine ⟨untouched.cell, fun other module known => ?_⟩
  have apart : other ≠ name := by
    rintro rfl
    rw [absent] at known
    cases known
  exact (lookup_without apart).trans (untouched.modules other module known)

theorem reads_module_file (path : String) : Reads (moduleFile? path) := by
  unfold moduleFile?
  apply reads_bind fun world => ⟨world, rfl⟩
  intro world
  simp only
  split
  · exact reads_pure _
  · split <;> exact reads_pure _

/-- When the code of a file leaves a namespace and the loaded modules alone, loading the file does so too, whether the
code runs through or raises. -/
theorem load_file_untouched {path : String} (lives : space < world.cells.size)
    (absent : world.modules.lookup (moduleNameOf path) = none)
    (harmless : ∀ file isPackage address module registered,
      (moduleFile? path).runIn world = (.ok (some (file, isPackage)), world) →
        (registerFile path file isPackage).runIn world = (.ok (address, module), registered) →
          Untouched space registered ((runFile file address).runIn registered).2) :
    Untouched space world ((loadFile path).runIn world).2 := by
  obtain ⟨found, told⟩ := reads_module_file path world
  rw [load_file_eq, run_in_bind, told]
  cases found with
  | none => exact .refl space world
  | some place =>
      obtain ⟨file, isPackage⟩ := place
      obtain ⟨made, _⟩ := frames_register_file path file isPackage world lives
      simp only
      rw [run_in_bind]
      rcases registering : (registerFile path file isPackage).runIn world with ⟨error | ⟨address, module⟩, registered⟩
      · rw [registering] at made
        exact made
      · rw [registering] at made
        have untouched := made.trans (harmless file isPackage address module registered told registering)
        simp only
        rw [run_in_bind, run_in_attempt]
        rcases ran : (runFile file address).runIn registered with ⟨error | _, after⟩
        · rw [ran] at untouched
          -- The code raised: the module that is taken back was not loaded before, so nothing that was is lost.
          exact untouched_forgotten absent untouched rfl
        · rw [ran] at untouched
          exact untouched

end LiveShell.Run
