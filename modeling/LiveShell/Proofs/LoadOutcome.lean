import LiveShell.Proofs.ModuleLoading

/-!
How loading a file ends. A file's module is put into the table before its code runs and is taken back when that raises,
so what counts is what happens afterwards: the name to bind the module to is read from the module itself, behind the
guard. As long as the module still has such a name, either all of a load is done or nothing of it stays.
-/

namespace LiveShell.Environment

open Completion (Evaluation)

set_option autoImplicit false

variable {α β : Type} {space : Address} {world : World} {environment : Environment} {specifier : String}

/-! ### The table of modules -/

/-- A computation that gives a value in every world and leaves the table of modules as it is. -/
def KeepsTable (run : Run α) : Prop :=
  ∀ world, ∃ value after, run.runIn world = (.ok value, after) ∧ after.modules = world.modules

theorem keeps_table_pure (value : α) : KeepsTable (pure value) := fun world => ⟨value, world, rfl, rfl⟩

theorem keeps_table_bind {run : Run α} {next : α → Run β} (keeps : KeepsTable run)
    (goesOn : ∀ value, KeepsTable (next value)) : KeepsTable (run >>= next) := by
  intro world
  obtain ⟨value, between, first, same⟩ := keeps world
  obtain ⟨result, after, later, sameToo⟩ := goesOn value between
  rw [Run.run_in_bind, first]
  exact ⟨result, after, later, sameToo.trans same⟩

theorem keeps_table_each (items : List β) {body : β → PUnit → Run (ForInStep PUnit)}
    (each : ∀ item, KeepsTable (body item ⟨⟩)) : KeepsTable (forIn items ⟨⟩ body) := by
  induction items with
  | nil => exact keeps_table_pure _
  | cons item rest induction =>
      rw [List.forIn_cons]
      apply keeps_table_bind (each item)
      intro step
      cases step with
      | done => exact keeps_table_pure _
      | yield => exact induction

/-- Making the module of a file ready always succeeds, and adds the module to the table. -/
theorem register_file_adds (path file : String) (isPackage : Bool) (world : World) :
    ∃ address module registered,
      (Run.registerFile path file isPackage).runIn world = (.ok (address, module), registered) ∧
        registered.modules = world.modules ++ [(Run.moduleNameOf path, module)] := by
  have creates : KeepsTable (Run.newDict #[]) := fun world => ⟨_, _, rfl, rfl⟩
  have fills (address : Address) :
      KeepsTable (forIn (Run.moduleEntries (Run.moduleNameOf path) file path isPackage) PUnit.unit fun item _ => do
        Run.setName address item.1 item.2
        pure (ForInStep.yield PUnit.unit)) := by
    apply keeps_table_each
    intro item
    exact keeps_table_bind (fun world => ⟨_, _, rfl, rfl⟩) fun _ => keeps_table_pure _
  have makes (address : Address) : KeepsTable (Run.new (.module (Run.moduleNameOf path) address)) :=
    fun world => ⟨_, _, rfl, rfl⟩
  obtain ⟨address, first, created, sameFirst⟩ := creates world
  obtain ⟨_, second, filled, sameSecond⟩ := fills address first
  obtain ⟨module, third, made, sameThird⟩ := makes address second
  refine ⟨address, module, { third with modules := third.modules ++ [(Run.moduleNameOf path, module)] }, ?_, ?_⟩
  · rw [Run.registerFile, Run.run_in_bind, created]
    simp only
    rw [Run.run_in_bind, filled]
    simp only
    rw [Run.run_in_bind, made]
    rfl
  · simp only [sameThird, sameSecond, sameFirst]

theorem lookup_forgotten (modules : List (String × Value)) (name : String) :
    (modules.filter (·.1 ≠ name)).lookup name = none := by
  rw [List.lookup_eq_none_iff]
  intro entry member
  obtain ⟨_, other⟩ := List.mem_filter.mp member
  simpa using Ne.symm (of_decide_eq_true other)

/-! ### What a load keeps -/

/-- The namespace, and what the table holds under the last part of a path, are as they were. -/
structure Kept (space : Address) (specifier : String) (before after : World) : Prop where
  cell : after.cells[space]? = before.cells[space]?
  entry : after.modules.lookup (Run.moduleNameOf specifier) = before.modules.lookup (Run.moduleNameOf specifier)

theorem Kept.refl (space : Address) (specifier : String) (world : World) : Kept space specifier world world :=
  ⟨rfl, rfl⟩

theorem Kept.trans {first second third : World} (earlier : Kept space specifier first second)
    (later : Kept space specifier second third) : Kept space specifier first third :=
  ⟨later.cell.trans earlier.cell, later.entry.trans earlier.entry⟩

/-- The code of what is loaded keeps to itself: it changes neither the namespace nor the entry of its module. And what
is loaded then has a name that can be read, and is a module still. -/
structure Contained (space : Address) (specifier : String) (world : World) : Prop where
  apart : ∀ before after, OwnCode space specifier world before after → Kept space specifier before after
  named : ∀ module between, (moduleOf specifier).runIn world = (.ok (some module), between) →
    ∃ name after, (Run.bindingNameOf module).runIn between = (.ok name, after)
  isModule : ∀ module between bound, (moduleOf specifier).runIn world = (.ok (some module), between) →
    (bindModule space module).runIn between = (.ok (), bound) → IsModule module bound

/-- What looking for a module at a path leaves: a module under the path's name, or what was there. -/
theorem module_of_path (absolute : specifier.toList.head? = some Files.separator) (lives : space < world.cells.size)
    (contained : Contained space specifier world) {result : Except Value (Option Value)} {after : World}
    (looked : (moduleOf specifier).runIn world = (result, after)) :
    (∃ module, result = .ok (some module) ∧ after.cells[space]? = world.cells[space]? ∧
      after.modules.lookup (Run.moduleNameOf specifier) = some module) ∨
    (∀ module, result ≠ .ok (some module)) ∧ Kept space specifier world after := by
  by_cases imported : IsImported specifier world
  · rw [moduleOf, if_pos absolute, Run.run_in_bind, imported] at looked
    cases looked
    exact Or.inr ⟨by simp, .refl _ _ _⟩
  obtain ⟨unknown, absent⟩ := absent_of_not_imported imported
  obtain ⟨found, told⟩ := Run.reads_module_file specifier world
  rw [moduleOf, if_pos absolute, Run.run_in_bind, unknown] at looked
  simp only [Bool.false_eq_true, if_false] at looked
  rw [Run.load_file_eq, Run.run_in_bind, told] at looked
  cases found with
  | none =>
      cases looked
      exact Or.inr ⟨by simp, .refl _ _ _⟩
  | some place =>
      obtain ⟨file, isPackage⟩ := place
      obtain ⟨address, module, registered, registering, table⟩ := register_file_adds specifier file isPackage world
      have made := (Run.frames_register_file specifier file isPackage world lives).1
      rw [registering] at made
      have entry : registered.modules.lookup (Run.moduleNameOf specifier) = some module := by
        rw [table, List.lookup_append, absent]
        simp
      have own := contained.apart _ _ (.file absolute imported told registering)
      simp only at looked
      rw [Run.run_in_bind, registering] at looked
      simp only at looked
      rw [Run.run_in_bind, Run.run_in_attempt] at looked
      rcases ran : (Run.runFile file address).runIn registered with ⟨error | _, last⟩
      · rw [ran] at looked own
        cases looked
        exact Or.inr ⟨by simp, own.cell.trans made.cell, (lookup_forgotten _ _).trans absent.symm⟩
      · rw [ran] at looked own
        cases looked
        exact Or.inl ⟨module, rfl, own.cell.trans made.cell, own.entry.trans entry⟩

/-! ### Binding a module -/

/-- A namespace is there, as a mapping. -/
def IsSpace (space : Address) (world : World) : Prop :=
  ∃ entries factory, world.cells[space]? = some (.dict entries factory)

theorem IsSpace.lives (isSpace : IsSpace space world) : space < world.cells.size := by
  obtain ⟨entries, factory, here⟩ := isSpace
  exact (Array.getElem?_eq_some_iff.mp here).1

theorem entries_of_cell {before after : World} (same : after.cells[space]? = before.cells[space]?) :
    entriesIn space after = entriesIn space before := by
  rw [entriesIn, same, entriesIn]

theorem bound_of_name {name : String} {value : Value}
    (told : (Run.nameIn? space name).runIn world = (.ok (some value), world)) :
    (.text name, value) ∈ entriesIn space world := by
  rw [Run.nameIn?, Run.run_in_bind, entries_at_eq] at told
  have found : ((entriesIn space world).find? fun entry => Run.isText name entry.1).map (·.2) = some value :=
    Except.ok.inj (Prod.mk.inj told).1
  obtain ⟨entry, first, rfl⟩ := Option.map_eq_some_iff.mp found
  obtain ⟨key, value⟩ := entry
  have isName := Array.find?_some first
  obtain rfl : key = .text name := is_text_iff.mp isName
  exact Array.mem_of_find?_eq_some first

theorem set_name_binds {name : String} {value : Value} (isSpace : IsSpace space world)
    (unbound : (Run.nameIn? space name).runIn world = (.ok none, world)) :
    (.text name, value) ∈ entriesIn space ((Run.setName space name value).runIn world).2 := by
  obtain ⟨entries, factory, here⟩ := isSpace
  have absent := unbound_iff.mp unbound
  have cell : ((Run.setName space name value).runIn world).2.cells[space]? = world.cells[space]?.map _ :=
    Array.getElem?_modify.trans (if_pos rfl)
  unfold entriesIn at absent ⊢
  rw [here] at absent
  rw [cell, here]
  simp only [Option.map_some]
  rw [Array.findIdx?_eq_none_iff.mpr ?_]
  · exact Array.mem_push_self
  · intro entry member
    exact Bool.eq_false_iff.mpr fun isName => absent entry member (is_text_iff.mp isName)

/-- The last part of a module's name is bound afterwards: to the module, or as it was before. -/
theorem bind_module_binds {module : Value} {name : String} {named : World} (isSpace : IsSpace space world)
    (naming : (Run.bindingNameOf module).runIn world = (.ok name, named))
    (cell : named.cells[space]? = world.cells[space]?) :
    ∃ bound, (bindModule space module).runIn world = (.ok (), bound) ∧ bound.modules = named.modules ∧
      ∃ value, (.text name, value) ∈ entriesIn space bound ∧
        (value = module ∨ (.text name, value) ∈ entriesIn space world) := by
  obtain ⟨known, told⟩ := Run.reads_name space name named
  rw [bindModule, Run.run_in_bind, naming]
  simp only
  rw [Run.run_in_bind, told]
  cases known with
  | some value =>
      have here := bound_of_name told
      exact ⟨named, rfl, rfl, value, here, Or.inr (entries_of_cell cell ▸ here)⟩
  | none =>
      have there : IsSpace space named := by
        obtain ⟨entries, factory, here⟩ := isSpace
        exact ⟨entries, factory, cell.trans here⟩
      exact ⟨_, rfl, rfl, module, set_name_binds there told, Or.inl rfl⟩

/-- A module is told of as an object. -/
theorem describe_module_object {module : Value} (isModule : IsModule module world) :
    ∃ description, (describe module).runIn world = (.ok description, world) ∧ description.sort = .object := by
  obtain ⟨address, name, own, rfl, here⟩ := isModule
  have cell := module_cell here
  have plain : (Run.plain (.ref address)).runIn world = (.ok (.ref address), world) := by
    rw [Run.plain, Run.run_in_bind, cell]
    rfl
  have cls : (Run.classOf (.ref address)).runIn world = (.ok (.kind .module), world) := by
    rw [Run.classOf, Run.run_in_bind, cell]
    rfl
  have whole : (Run.isKind (.ref address) .whole).runIn world = (.ok false, world) := by
    rw [Run.isKind, Run.isInstance, Run.run_in_bind, cls]
    rfl
  have real : (Run.isKind (.ref address) .real).runIn world = (.ok false, world) := by
    rw [Run.isKind, Run.isInstance, Run.run_in_bind, cls]
    rfl
  have noClass : (Run.isClass (.ref address)).runIn world = (.ok false, world) := by
    rw [Run.isClass, Run.run_in_bind, cell]
    rfl
  have noFunction : (isFunction (.ref address)).runIn world = (.ok false, world) := by
    rw [isFunction, Run.run_in_bind, noClass]
    simp only [Bool.false_eq_true, if_false, Run.run_in_bind, cell]
    rfl
  have sorted : (sortOf (.ref address)).runIn world = (.ok (.object, .nothing), world) := by
    rw [sortOf, Run.run_in_bind, plain]
    simp only [Run.run_in_bind, whole, real, Bool.or_self, Bool.false_eq_true, if_false, noFunction]
    rfl
  obtain ⟨description, described⟩ := described_of_shown (shown_module here)
  refine ⟨description, described, ?_⟩
  rw [describe, Run.run_in_bind, sorted] at described
  obtain ⟨form, between, _, told⟩ := Run.run_of_bind described
  obtain ⟨className, last, _, made⟩ := Run.run_of_bind told
  cases made
  rfl

/-! ### All or nothing -/

/-- A load is done: an object is told of, its module is in the table under the last part of the path, and the
namespace binds the last part of the module's name, to the module unless it bound that before. -/
def IsDone (space : Address) (specifier : String) (world : World) (result : Except Value Evaluation) (after : World) :
    Prop :=
  ∃ evaluation module between name value, result = .ok evaluation ∧ evaluation.result.sort = .object ∧
    (moduleOf specifier).runIn world = (.ok (some module), between) ∧
    ((Run.bindingNameOf module).runIn between).1 = .ok name ∧
    after.modules.lookup (Run.moduleNameOf specifier) = some module ∧
    (.text name, value) ∈ entriesIn space after ∧ (value = module ∨ (.text name, value) ∈ entriesIn space world)

/-- Nothing of a load stays: no value is told of, and the namespace and the table's entry are as they were. -/
def IsUndone (space : Address) (specifier : String) (world : World) (result : Except Value Evaluation) (after : World) :
    Prop :=
  (∀ evaluation, result = .ok evaluation → evaluation.result = .undefined) ∧ Kept space specifier world after

theorem naming_keeps {module : Value} {between named : World} {name : String}
    (contained : Contained space specifier world)
    (loaded : (moduleOf specifier).runIn world = (.ok (some module), between))
    (naming : (Run.bindingNameOf module).runIn between = (.ok name, named)) : Kept space specifier between named := by
  by_cases plain : IsNamed module between
  · obtain ⟨_, same⟩ := binding_name_of_module plain
    rw [naming] at same
    cases same
    exact .refl _ _ _
  · have own := contained.apart _ _ (.naming loaded plain)
    rw [naming] at own
    exact own

theorem telling_keeps {error : Value} {between : World} (contained : Contained space specifier world)
    (raised : (moduleOf specifier).runIn world = (.error error, between)) :
    Kept space specifier between ((describeFailure error).runIn between).2 := by
  by_cases plain : IsPlainError error between
  · rw [describe_plain_error plain]
    exact .refl _ _ _
  · exact contained.apart _ _ (.failure raised plain)

/-- A module that was found is bound and told of. -/
theorem load_done (isSpace : IsSpace environment.space world)
    (contained : Contained environment.space specifier world) {module : Value} {between : World}
    (loaded : (moduleOf specifier).runIn world = (.ok (some module), between))
    (cell : between.cells[environment.space]? = world.cells[environment.space]?)
    (entry : between.modules.lookup (Run.moduleNameOf specifier) = some module) :
    ∃ result after, (environment.loadModule specifier).runIn world = (result, after) ∧
      IsDone environment.space specifier world result after := by
  obtain ⟨name, named, naming⟩ := contained.named module between loaded
  have kept := naming_keeps contained loaded naming
  have there : IsSpace environment.space between := by
    obtain ⟨entries, factory, here⟩ := isSpace
    exact ⟨entries, factory, cell.trans here⟩
  obtain ⟨bound, binding, modules, value, member, origin⟩ := bind_module_binds there naming kept.cell
  obtain ⟨description, described, sort⟩ :=
    describe_module_object (contained.isModule module between bound loaded binding)
  rw [entries_of_cell cell] at origin
  refine ⟨.ok { result := description }, bound, ?_, { result := description }, module, between, name, value, rfl, sort,
    loaded, ?_, ?_, member, origin⟩
  · rw [loadModule, Run.run_in_bind, or_failure_ok.mpr loaded]
    simp only
    rw [bind_module_then_tell, Run.run_in_bind, binding]
    simp only
    rw [Run.run_in_bind, described]
    rfl
  · rw [naming]
  · rw [modules]
    exact kept.entry.trans entry

/-- What ends without a module leaves the namespace and the table's entry as they were. -/
theorem load_undone (contained : Contained environment.space specifier world) {result : Except Value (Option Value)}
    {between : World} (looked : (moduleOf specifier).runIn world = (result, between))
    (nothing : ∀ module, result ≠ .ok (some module)) (kept : Kept environment.space specifier world between) :
    ∃ result after, (environment.loadModule specifier).runIn world = (result, after) ∧
      IsUndone environment.space specifier world result after := by
  rw [loadModule, Run.run_in_bind]
  rcases guarded : (orFailure (moduleOf specifier)).runIn world with ⟨outcome, after⟩
  by_cases succeeds : ∃ found, outcome = .ok (.ok found)
  · obtain ⟨found, rfl⟩ := succeeds
    have loaded := or_failure_ok.mp guarded
    rw [looked] at loaded
    cases loaded
    cases found with
    | none =>
        refine ⟨.ok { result := .undefined }, between, rfl, fun evaluation same => ?_, kept⟩
        rw [← Except.ok.inj same]
    | some module => exact absurd rfl (nothing module)
  · obtain ⟨error, last, raised, told⟩ := or_failure_world guarded fun value same => succeeds ⟨value, same⟩
    have keptAfter : Kept environment.space specifier world after := by
      have telling := telling_keeps contained raised
      obtain rfl : between = last := (Prod.mk.inj (looked.symm.trans raised)).2
      rcases told with same | same
      · rw [same]
        exact kept
      · rw [same]
        exact kept.trans telling
    rcases outcome with cause | failure | found
    · refine ⟨.error cause, after, rfl, fun evaluation same => ?_, keptAfter⟩
      cases same
    · refine ⟨.ok { result := .undefined, failure := some failure }, after, rfl, fun evaluation same => ?_, keptAfter⟩
      rw [← Except.ok.inj same]
    · exact absurd ⟨found, rfl⟩ succeeds

/-- Loading a path is all or nothing, whatever the file tree and the text of the file are: as long as the code in the
file keeps to itself and leaves a module that can be named. -/
theorem load_all_or_nothing (environment : Environment) (world : World) (specifier : String)
    (absolute : specifier.toList.head? = some Files.separator) (isSpace : IsSpace environment.space world)
    (contained : Contained environment.space specifier world) :
    ∃ result after, (environment.loadModule specifier).runIn world = (result, after) ∧
      (IsDone environment.space specifier world result after ∨
        IsUndone environment.space specifier world result after) := by
  rcases looked : (moduleOf specifier).runIn world with ⟨result, between⟩
  rcases module_of_path absolute isSpace.lives contained looked with ⟨module, rfl, cell, entry⟩ | ⟨nothing, kept⟩
  · obtain ⟨result, after, ran, done⟩ := load_done isSpace contained looked cell entry
    exact ⟨result, after, ran, Or.inl done⟩
  · obtain ⟨result, after, ran, undone⟩ := load_undone contained looked nothing kept
    exact ⟨result, after, ran, Or.inr undone⟩

/-- Code that assigns one plain name keeps to itself, and its module can be named. -/
theorem assignment_contained : Contained 0 "/m" (Shared.besideFile "m.py" "x = 1\n").world where
  apart before after own := by
    obtain ⟨cell, modules⟩ := Shared.assignment_harmless before after own
    obtain ⟨file, isPackage, address, module, _, registering, _⟩ :=
      Shared.own_code_of_module Shared.assignment_loads own
    obtain ⟨_, made, registered, registeringToo, table⟩ :=
      register_file_adds "/m" file isPackage (Shared.besideFile "m.py" "x = 1\n").world
    rw [registering] at registeringToo
    cases registeringToo
    have entry : before.modules.lookup (Run.moduleNameOf "/m") = some module := by
      rw [table]
      exact List.lookup_cons_self
    exact ⟨cell, (modules _ _ entry).trans entry.symm⟩
  named module between loaded := by
    have told := Shared.assignment_loads
    rw [Shared.loadsModule, loaded] at told
    obtain ⟨name, naming⟩ := binding_name_of_module (is_named_iff.mp (Bool.and_eq_true_iff.mp told).1)
    exact ⟨name, between, naming⟩
  isModule module between bound loaded binding := by
    have told := Shared.assignment_loads
    rw [Shared.loadsModule, loaded] at told
    have isModule := (Bool.and_eq_true_iff.mp told).2
    rw [binding] at isModule
    exact is_module_iff.mp isModule

theorem load_all_or_nothing_of_assignment :
    let shared := Shared.besideFile "m.py" "x = 1\n"
    "/m".toList.head? = some Files.separator ∧ IsSpace 0 shared.world ∧ Contained 0 "/m" shared.world ∧
      ∃ result after, (shared.environment.loadModule "/m").runIn shared.world = (result, after) ∧
        (IsDone 0 "/m" shared.world result after ∨ IsUndone 0 "/m" shared.world result after) := by
  intro shared
  have absolute : "/m".toList.head? = some Files.separator := by decide
  have isSpace : IsSpace 0 shared.world := ⟨#[], none, rfl⟩
  exact ⟨absolute, isSpace, assignment_contained,
    load_all_or_nothing shared.environment shared.world "/m" absolute isSpace assignment_contained⟩

/-- Whether a load raises and leaves a module in the table under a name that had none. -/
def staysHalfDone (specifier : String) (world : World) (ran : Except Value Evaluation × World) : Bool :=
  !ran.1.isOk && (world.modules.lookup (Run.moduleNameOf specifier)).isNone &&
    (ran.2.modules.lookup (Run.moduleNameOf specifier)).isSome

/-- A module that calls itself by a number cannot be named: its load raises, and leaves the module in the table. -/
theorem load_half_done :
    let shared := Shared.besideFile "m.py" "__name__ = 1\n"
    let ran := (shared.environment.loadModule "/m").runIn shared.world
    ¬IsDone 0 "/m" shared.world ran.1 ran.2 ∧ ¬IsUndone 0 "/m" shared.world ran.1 ran.2 := by
  intro shared ran
  have seen : staysHalfDone "/m" shared.world ran = true := by decide +kernel
  simp only [staysHalfDone, Bool.and_eq_true] at seen
  obtain ⟨⟨raises, absent⟩, present⟩ := seen
  constructor
  · rintro ⟨evaluation, module, between, name, value, succeeds, _⟩
    rw [succeeds] at raises
    cases raises
  · rintro ⟨_, kept⟩
    rw [kept.entry, Option.isNone_iff_eq_none.mp absent] at present
    cases present

end LiveShell.Environment
