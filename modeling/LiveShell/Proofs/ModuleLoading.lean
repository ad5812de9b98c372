import LiveShell.Proofs.HandleLifecycle
import LiveShell.Proofs.LoadFrames
import LiveShell.Proofs.PlainDescriptions

/-!
Loading modules in an environment in use. Whatever is loaded, and in whichever order: what the namespace binds stays
bound, at most one name is added, and every loaded module stays what it is, also when loading fails. This leaves out
what the code of the modules does itself.
-/

namespace LiveShell.Environment

open Completion (Description Evaluation Request)
open Run (Frames KeepsModules Reads Untouched anything reads_bind reads_pure)

set_option autoImplicit false

variable {α : Type} {space : Address} {world : World} {environment : Environment} {specifier : String}

/-! ### What is kept -/

/-- The entries of a namespace in a world. -/
def entriesIn (space : Address) (world : World) : Array (Value × Value) :=
  match world.cells[space]? with
  | some (.dict entries _) => entries
  | _ => #[]

/-- The entries of a namespace stay, with at most one more for a name that was not bound, and so do loaded modules. -/
structure Preserves (space : Address) (before after : World) : Prop where
  names : entriesIn space after = entriesIn space before ∨ ∃ name value,
    (∀ entry ∈ entriesIn space before, entry.1 ≠ .text name) ∧
      entriesIn space after = (entriesIn space before).push (.text name, value)
  modules : KeepsModules before after
  lives : space < before.cells.size → space < after.cells.size

theorem entries_of_untouched {before after : World} (untouched : Untouched space before after) :
    entriesIn space after = entriesIn space before := by
  rw [entriesIn, untouched.cell, entriesIn]

theorem preserves_of_untouched {before after : World} (untouched : Untouched space before after) :
    Preserves space before after :=
  ⟨Or.inl (entries_of_untouched untouched), untouched.modules, untouched.lives⟩

theorem Preserves.after {first second third : World} (kept : Preserves space second third)
    (earlier : Untouched space first second) : Preserves space first third where
  names := by
    rw [← entries_of_untouched earlier]
    exact kept.names
  modules name module known := kept.modules name module (earlier.modules name module known)
  lives there := kept.lives (earlier.lives there)

theorem Preserves.before {first second third : World} (kept : Preserves space first second)
    (later : Untouched space second third) : Preserves space first third where
  names := by
    rw [entries_of_untouched later]
    exact kept.names
  modules name module known := later.modules name module (kept.modules name module known)
  lives there := later.lives (kept.lives there)

theorem is_text_iff {name : String} {key : Value} : Run.isText name key = true ↔ key = .text name := by
  unfold Run.isText
  split
  · next text => simp
  · next other =>
      constructor
      · nofun
      · rintro rfl
        exact absurd rfl (other name)

theorem entries_at_eq (space : Address) (world : World) :
    (Run.entriesAt space).runIn world = (.ok (entriesIn space world), world) := by
  have looked : (Run.cellAt? space).runIn world = (.ok world.cells[space]?, world) := rfl
  rw [Run.entriesAt, Run.run_in_bind, looked, entriesIn]
  cases world.cells[space]? with
  | none => rfl
  | some cell => cases cell <;> rfl

theorem unbound_iff {name : String} :
    (Run.nameIn? space name).runIn world = (.ok none, world) ↔
      ∀ entry ∈ entriesIn space world, entry.1 ≠ .text name := by
  have told : (Run.nameIn? space name).runIn world =
      (.ok (((entriesIn space world).find? fun entry => Run.isText name entry.1).map (·.2)), world) := by
    rw [Run.nameIn?, Run.run_in_bind, entries_at_eq]
    rfl
  rw [told]
  simp only [Prod.mk.injEq, Except.ok.injEq, Option.map_eq_none_iff, Array.find?_eq_none, is_text_iff, and_true]

theorem set_name_preserves {name : String} {value : Value}
    (unbound : (Run.nameIn? space name).runIn world = (.ok none, world)) :
    Preserves space world ((Run.setName space name value).runIn world).2 := by
  have absent := unbound_iff.mp unbound
  have size : ((Run.setName space name value).runIn world).2.cells.size = world.cells.size := Array.size_modify
  refine ⟨?_, fun _ _ known => known, fun lives => size ▸ lives⟩
  have cell : ((Run.setName space name value).runIn world).2.cells[space]? = world.cells[space]?.map _ :=
    Array.getElem?_modify.trans (if_pos rfl)
  unfold entriesIn at absent ⊢
  rw [cell]
  cases here : world.cells[space]? with
  | none => exact Or.inl rfl
  | some found =>
      rw [here] at absent
      cases found with
      | dict entries factory =>
          refine Or.inr ⟨name, value, absent, ?_⟩
          simp only [Option.map_some]
          rw [Array.findIdx?_eq_none_iff.mpr ?_]
          intro entry member
          exact Bool.eq_false_iff.mpr fun isName => absent entry member (is_text_iff.mp isName)
      | _ => exact Or.inl rfl

/-! ### Code of modules -/

/-- Binds a loaded module, unless its name is bound already. -/
def bindModule (space : Address) (module : Value) : Run Unit := do
  let name ← Run.bindingNameOf module
  if (← Run.nameIn? space name).isNone then Run.setName space name module

/-- Whether a library or a file was loaded under the last part of a path. -/
def IsImported (specifier : String) (world : World) : Prop :=
  (Run.isLoaded (Run.moduleNameOf specifier)).runIn world = (.ok true, world)

/-- The worlds before and after each part of a load that may run code of what is loaded: the code in a file; the forms
of an error, unless it is a plain one of a built-in class; a name that is no text; and the form of what is no module
any more. -/
inductive OwnCode (space : Address) (specifier : String) (world : World) : World → World → Prop
  | file {file : String} {isPackage : Bool} {address : Address} {module : Value} {registered : World}
      (absolute : specifier.toList.head? = some Files.separator) (unknown : ¬IsImported specifier world)
      (found : (Run.moduleFile? specifier).runIn world = (.ok (some (file, isPackage)), world))
      (registering : (Run.registerFile specifier file isPackage).runIn world = (.ok (address, module), registered)) :
      OwnCode space specifier world registered ((Run.runFile file address).runIn registered).2
  | failure {error : Value} {between : World} (raised : (moduleOf specifier).runIn world = (.error error, between))
      (own : ¬IsPlainError error between) :
      OwnCode space specifier world between ((describeFailure error).runIn between).2
  | naming {module : Value} {between : World} (loaded : (moduleOf specifier).runIn world = (.ok (some module), between))
      (own : ¬IsNamed module between) :
      OwnCode space specifier world between ((Run.bindingNameOf module).runIn between).2
  | describing {module : Value} {between bound : World}
      (loaded : (moduleOf specifier).runIn world = (.ok (some module), between))
      (binding : (bindModule space module).runIn between = (.ok (), bound)) (own : ¬IsModule module bound) :
      OwnCode space specifier world bound ((describe module).runIn bound).2

/-- No code of what is loaded changes the namespace or takes the place of a loaded module. -/
def Harmless (space : Address) (specifier : String) (world : World) : Prop :=
  ∀ before after, OwnCode space specifier world before after → Untouched space before after

/-! ### One load -/

theorem is_imported_iff : IsImported specifier world ↔
    Library.loadedFromStart.contains (Run.moduleNameOf specifier) = true ∨
      (world.modules.lookup (Run.moduleNameOf specifier)).isSome = true := by
  have told : (Run.isLoaded (Run.moduleNameOf specifier)).runIn world =
      (.ok (Library.loadedFromStart.contains (Run.moduleNameOf specifier) ||
        (world.modules.lookup (Run.moduleNameOf specifier)).isSome), world) := rfl
  rw [IsImported, told, ← Bool.or_eq_true]
  simp

theorem absent_of_not_imported (unknown : ¬IsImported specifier world) :
    (Run.isLoaded (Run.moduleNameOf specifier)).runIn world = (.ok false, world) ∧
      world.modules.lookup (Run.moduleNameOf specifier) = none := by
  constructor
  · obtain ⟨known, told⟩ : ∃ known, (Run.isLoaded (Run.moduleNameOf specifier)).runIn world = (.ok known, world) :=
      ⟨_, rfl⟩
    cases known with
    | true => exact absurd told unknown
    | false => exact told
  · rw [is_imported_iff, not_or, Bool.not_eq_true, Bool.not_eq_true, Option.isSome_eq_false_iff] at unknown
    exact Option.isNone_iff_eq_none.mp unknown.2

theorem module_of_untouched (lives : space < world.cells.size) (harmless : Harmless space specifier world) :
    Untouched space world ((moduleOf specifier).runIn world).2 := by
  unfold moduleOf
  split
  · next absolute =>
      by_cases imported : IsImported specifier world
      · rw [Run.run_in_bind, imported]
        exact .refl space world
      · obtain ⟨unknown, absent⟩ := absent_of_not_imported imported
        rw [Run.run_in_bind, unknown]
        apply Run.load_file_untouched lives absent
        intro file isPackage address module registered found registering
        exact harmless _ _ (.file absolute imported found registering)
  · have framed : Frames space (Run.loadLibrary specifier) anything := Run.frames_load_library specifier
    rw [Run.world_bind_pure]
    exact (framed world lives).1

/-- A guarded computation that raises is over, or its error was told of. -/
theorem or_failure_world {run : Run α} {result : Except Value (Except Completion.Failure α)} {after : World}
    (guarded : (orFailure run).runIn world = (result, after)) (raises : ∀ value, result ≠ .ok (.ok value)) :
    ∃ error between, run.runIn world = (.error error, between) ∧
      (after = between ∨ after = ((describeFailure error).runIn between).2) := by
  rcases outcome : run.runIn world with ⟨error | value, between⟩
  · obtain ⟨ordinary, told⟩ := Run.reads_is_error error "Exception" between
    refine ⟨error, between, rfl, ?_⟩
    rw [orFailure, Run.run_in_bind, Run.run_in_attempt, outcome] at guarded
    simp only [Run.run_in_bind, told] at guarded
    cases ordinary with
    | false =>
        cases guarded
        exact Or.inl rfl
    | true =>
        have left := congrArg Prod.snd guarded
        rw [if_pos rfl, Run.world_bind_pure] at left
        exact Or.inr left.symm
  · rw [or_failure_ok.mpr outcome] at guarded
    cases guarded
    exact absurd rfl (raises value)

theorem bind_module_then_tell (space : Address) (module : Value) : (do
      let name ← Run.bindingNameOf module
      if (← Run.nameIn? space name).isNone then Run.setName space name module
      return { result := ← describe module } : Run Evaluation) =
    (bindModule space module >>= fun _ => do return { result := ← describe module }) := by
  unfold bindModule
  rw [bind_assoc]
  apply bind_congr
  intro name
  rw [bind_assoc]
  apply bind_congr
  intro bound
  cases bound with
  | none => rfl
  | some value => rfl

theorem bind_module_preserves {module : Value}
    (naming : Untouched space world ((Run.bindingNameOf module).runIn world).2) :
    Preserves space world ((bindModule space module).runIn world).2 := by
  rw [bindModule, Run.run_in_bind]
  rcases named : (Run.bindingNameOf module).runIn world with ⟨error | name, between⟩
  · rw [named] at naming
    exact preserves_of_untouched naming
  · rw [named] at naming
    obtain ⟨bound, told⟩ := Run.reads_name space name between
    simp only
    rw [Run.run_in_bind, told]
    cases bound with
    | some value => exact preserves_of_untouched naming
    | none => exact (set_name_preserves told).after naming

theorem bind_and_tell_preserves {module : Value} {between : World} (harmless : Harmless space specifier world)
    (loaded : (moduleOf specifier).runIn world = (.ok (some module), between)) :
    Preserves space between ((bindModule space module >>= fun _ => do
      return ({ result := ← describe module } : Evaluation)).runIn between).2 := by
  have naming : Untouched space between ((Run.bindingNameOf module).runIn between).2 := by
    by_cases named : IsNamed module between
    · obtain ⟨name, naming⟩ := binding_name_of_module named
      rw [naming]
      exact .refl _ _
    · exact harmless _ _ (.naming loaded named)
  have kept := bind_module_preserves naming
  rw [Run.run_in_bind]
  rcases binding : (bindModule space module).runIn between with ⟨cause | _, bound⟩
  · rw [binding] at kept
    exact kept
  · rw [binding] at kept
    simp only
    rw [Run.world_bind_pure]
    apply kept.before
    by_cases isModule : IsModule module bound
    · rw [describe_module isModule]
      exact .refl _ _
    · exact harmless _ _ (.describing loaded binding isModule)

theorem telling_untouched {error : Value} {between : World} (harmless : Harmless space specifier world)
    (raised : (moduleOf specifier).runIn world = (.error error, between)) :
    Untouched space between ((describeFailure error).runIn between).2 := by
  by_cases plain : IsPlainError error between
  · rw [describe_plain_error plain]
    exact .refl _ _
  · exact harmless _ _ (.failure raised plain)

/-- Loading a module leaves every loaded module and every bound name as they were, whether it succeeds or fails. -/
theorem load_module_preserves (lives : environment.space < world.cells.size)
    (harmless : Harmless environment.space specifier world) :
    Preserves environment.space world ((environment.loadModule specifier).runIn world).2 := by
  have opened := module_of_untouched lives harmless
  rw [loadModule, Run.run_in_bind]
  rcases guarded : (orFailure (moduleOf specifier)).runIn world with ⟨result, after⟩
  -- An error that is no ordinary one ends the load before anything is told of it, so success is what the cases are on.
  by_cases succeeds : ∃ found, result = .ok (.ok found)
  · obtain ⟨found, rfl⟩ := succeeds
    have loaded := or_failure_ok.mp guarded
    rw [loaded] at opened
    cases found with
    | none => exact preserves_of_untouched opened
    | some module =>
        simp only
        rw [bind_module_then_tell]
        exact (bind_and_tell_preserves harmless loaded).after opened
  · obtain ⟨error, between, raised, told⟩ := or_failure_world guarded fun value same => succeeds ⟨value, same⟩
    rw [raised] at opened
    have untouched : Untouched environment.space world after := by
      rcases told with rfl | rfl
      · exact opened
      · exact opened.trans (telling_untouched harmless raised)
    rcases result with cause | failure | found
    · exact preserves_of_untouched untouched
    · exact preserves_of_untouched untouched
    · exact absurd ⟨found, rfl⟩ succeeds

/-- A path to a module whose name is loaded already runs nothing and changes nothing. -/
theorem imported_path_skipped (environment : Environment) (absolute : specifier.toList.head? = some Files.separator)
    (imported : IsImported specifier world) :
    answerIn (.loadModule specifier) (environment, world) =
      (.ok ({ result := .undefined } : Evaluation), environment, world) := by
  have nothing : (moduleOf specifier).runIn world = (.ok none, world) := by
    rw [moduleOf, if_pos absolute, Run.run_in_bind, imported]
    rfl
  have loaded : (environment.loadModule specifier).runIn world = (.ok { result := .undefined }, world) := by
    rw [loadModule, Run.run_in_bind, or_failure_ok.mpr nothing]
    rfl
  apply answer_given
  show (do return (← environment.loadModule specifier, environment) : Run (Evaluation × Environment)).runIn world = _
  rw [Run.run_in_bind, loaded]
  rfl

/-! ### Runs -/

theorem answer_world (request : Request) (environment : Environment) (world : World) :
    (answerIn request (environment, world)).2.2 = ((environment.answer request).runIn world).2 := by
  rcases ran : (environment.answer request).runIn world with ⟨error | given, after⟩
  · have trouble : Reads (troubleOf error) := by
      apply reads_bind (Run.reads_is_error error "Exception")
      intro ordinary
      split <;> exact reads_pure _
    obtain ⟨cause, told⟩ := trouble after
    simp only [answerIn, ran, told]
  · simp only [answerIn, ran]

theorem load_preserves (lives : environment.space < world.cells.size)
    (harmless : Harmless environment.space specifier world) :
    Preserves environment.space world (answerIn (.loadModule specifier) (environment, world)).2.2 := by
  rw [answer_world]
  show Preserves environment.space world
    ((do return (← environment.loadModule specifier, environment) : Run (Evaluation × Environment)).runIn world).2
  rw [Run.world_bind_pure]
  exact load_module_preserves lives harmless

theorem space_of_undergoes {events : List (HandleEvent Value)} {after : Environment}
    (undergoes : Undergoes environment events after) : after.space = environment.space := by
  induction undergoes with
  | nothing => rfl
  | issued value later induction => exact induction
  | released handle later induction => exact induction
  | closed later induction => exact induction

namespace Shared

/-- The module that an operation loads, if it loads one: by a request, or for a completion that goes on with one. -/
def loadOf? (shared : Shared) : Operation → Option String
  | .request (.loadModule specifier) => some specifier
  | .advance number =>
      match shared.underway[number]? with
      | some (.ask (.loadModule specifier) _) => some specifier
      | _ => none
  | _ => none

theorem perform_load {shared : Shared} {operation : Operation} (loads : shared.loadOf? operation = some specifier) :
    (shared.perform operation).2.world = (answerIn (.loadModule specifier) (shared.environment, shared.world)).2.2 := by
  unfold loadOf? at loads
  split at loads
  · cases loads
    rfl
  · split at loads
    · next underway =>
        cases loads
        rw [perform, underway]
    · cases loads
  · cases loads

/-- Along a run, the code of what is loaded is harmless, and nothing else takes the namespace away. -/
def Steady : Shared → List Operation → Prop
  | _, [] => True
  | shared, operation :: rest =>
      (match shared.loadOf? operation with
        | some specifier => Harmless shared.environment.space specifier shared.world
        | none => shared.environment.space < (shared.perform operation).2.world.cells.size) ∧
      Steady (shared.perform operation).2 rest

theorem step_preserves {shared : Shared} {operation : Operation} {rest : List Operation}
    (lives : shared.environment.space < shared.world.cells.size) (steady : Steady shared (operation :: rest))
    (loads : shared.loadOf? operation = some specifier) :
    Preserves shared.environment.space shared.world (shared.perform operation).2.world := by
  obtain ⟨harmless, _⟩ := steady
  rw [loads] at harmless
  rw [perform_load loads]
  exact load_preserves lives harmless

/-- The namespace is there after every step of a steady run. -/
theorem step_lives {shared : Shared} {operation : Operation} {rest : List Operation}
    (lives : shared.environment.space < shared.world.cells.size) (steady : Steady shared (operation :: rest)) :
    (shared.perform operation).2.environment.space < (shared.perform operation).2.world.cells.size := by
  rw [space_of_undergoes (perform_undergoes shared operation)]
  cases loads : shared.loadOf? operation with
  | some specifier => exact (step_preserves lives steady loads).lives lives
  | none =>
      obtain ⟨there, _⟩ := steady
      rw [loads] at there
      exact there

/-- A session with an empty namespace next to a file of code. -/
def besideFile (name text : String) : Shared where
  environment := { space := 0 }
  world := {
    cells := #[.dict #[] none]
    files := Files.Tree.put ⟨[]⟩ [name.toList] (some text)
    place := ⟨[], "/home".toList, []⟩ }

theorem harmless_of_imported (absolute : specifier.toList.head? = some Files.separator)
    (imported : IsImported specifier world) : Harmless space specifier world := by
  have nothing : (moduleOf specifier).runIn world = (.ok none, world) := by
    rw [moduleOf, if_pos absolute, Run.run_in_bind, imported]
    rfl
  intro before after own
  cases own with
  | file absolute unknown found registering => exact absurd imported unknown
  | failure raised own =>
      rw [nothing] at raised
      cases raised
  | naming loaded own =>
      rw [nothing] at loaded
      cases loaded
  | describing loaded binding own =>
      rw [nothing] at loaded
      cases loaded

/-- Whether an empty namespace stays empty, and the only loaded module stays so. -/
def staysEmpty (space : Address) (before after : World) : Bool :=
  match before.cells[space]?, after.cells[space]?, before.modules, after.modules with
  | some (Cell.dict first none), some (Cell.dict second none), [(name, Value.ref a)], [(other, Value.ref b)] =>
      first.isEmpty && second.isEmpty && decide (name = other ∧ a = b)
  | _, _, _, _ => false

theorem untouched_of_empty {before after : World} (seen : staysEmpty space before after = true) :
    Untouched space before after := by
  unfold staysEmpty at seen
  split at seen
  · next here there known same =>
      obtain ⟨⟨first, second⟩, modules⟩ := by simpa using seen
      obtain ⟨rfl, rfl⟩ := modules
      subst first second
      exact ⟨there.trans here.symm, fun _ _ loaded => by rwa [same, ← known]⟩
  · cases seen

/-- Whether what is loaded for a path is a module, stays one when it is bound, and has a name to be bound to. -/
def loadsModule (space : Address) (specifier : String) (world : World) : Bool :=
  let loaded := (moduleOf specifier).runIn world
  loaded.1.toOption.join.any fun module =>
    isNamed module loaded.2 && isModule module ((bindModule space module).runIn loaded.2).2

/-- Whether the code of a file leaves an empty namespace empty, once its module is ready. -/
def runsApart (space : Address) (path file : String) (world : World) : Bool :=
  let registered := (Run.registerFile path file false).runIn world
  registered.1.toOption.any fun made =>
    staysEmpty space registered.2 ((Run.runFile file made.1).runIn registered.2).2

/-- When a path gives a module that has a name, the only code that may run is that in its file. -/
theorem own_code_of_module {before after : World} (told : loadsModule space specifier world = true)
    (own : OwnCode space specifier world before after) :
    ∃ file isPackage address module,
      (Run.moduleFile? specifier).runIn world = (.ok (some (file, isPackage)), world) ∧
      (Run.registerFile specifier file isPackage).runIn world = (.ok (address, module), before) ∧
      after = ((Run.runFile file address).runIn before).2 := by
  cases own with
  | file absolute unknown found registering => exact ⟨_, _, _, _, found, registering, rfl⟩
  | failure raised own =>
      rw [loadsModule, raised] at told
      cases told
  | naming loaded own =>
      rw [loadsModule, loaded] at told
      exact absurd (is_named_iff.mp (Bool.and_eq_true_iff.mp told).1) own
  | describing loaded binding own =>
      rw [loadsModule, loaded] at told
      have bound := (Bool.and_eq_true_iff.mp told).2
      rw [binding] at bound
      exact absurd (is_module_iff.mp bound) own

theorem assignment_loads : loadsModule 0 "/m" (besideFile "m.py" "x = 1\n").world = true := by decide +kernel

/-- The code of this file reaches neither the namespace nor the table of modules. -/
theorem assignment_harmless : Harmless 0 "/m" (besideFile "m.py" "x = 1\n").world := by
  have place : ((Run.moduleFile? "/m").runIn (besideFile "m.py" "x = 1\n").world).1.toOption =
      some (some ("/m.py", false)) := by decide +kernel
  have ran : runsApart 0 "/m" "/m.py" (besideFile "m.py" "x = 1\n").world = true := by decide +kernel
  intro before after own
  obtain ⟨file, isPackage, address, module, found, registering, rfl⟩ := own_code_of_module assignment_loads own
  rw [found] at place
  cases place
  rw [runsApart, registering] at ran
  exact untouched_of_empty ran

end Shared

end LiveShell.Environment
