import Mathlib.Data.List.Nodup
import LiveShell.Proofs.RunSteps
import LiveShell.Proofs.SettingsFaults

/-!
What the settings of two files are. A document names each of its entries once, so merging the shell's own file into the
shell's table of the project file leaves one value under every name: its own file's, where that has one. Only this value
is judged. The settings are read from such values, field by field, and what is wrong with them is told in the order of
the fields, then in the order in which the names that are no field first came.
-/

namespace LiveShell.Settings

set_option autoImplicit false

open Toml

/-! ### Names of entries -/

def Entries.names (entries : Entries) : List Name := entries.map Prod.fst

variable {entries : Entries}

theorem lookup_first {First Second : Type} [DecidableEq First] (name asked : First) (value : Second)
    (rest : List (First × Second)) :
    List.lookup asked ((name, value) :: rest) = if asked = name then some value else rest.lookup asked := by
  rw [List.lookup_cons]
  by_cases here : asked = name
  · simp [here]
  · rw [if_neg here, beq_false_of_ne here]

theorem lookup_put (entries : Entries) (name : Name) (value : Toml.Value) (asked : Name) :
    (entries.put name value).lookup asked = if asked = name then some value else entries.lookup asked := by
  induction entries with
  | nil => exact lookup_first name asked value []
  | cons entry rest induction =>
      obtain ⟨other, old⟩ := entry
      by_cases same : other = name
      · subst same
        simp only [Entries.put, if_true, lookup_first]
        split <;> rfl
      · simp only [Entries.put, same, if_false, lookup_first, induction]
        by_cases here : asked = other
        · subst here
          simp [same]
        · simp [here]

theorem names_put (entries : Entries) (name : Name) (value : Toml.Value) :
    (entries.put name value).names = if name ∈ entries.names then entries.names else entries.names ++ [name] := by
  induction entries with
  | nil => rfl
  | cons entry rest induction =>
      obtain ⟨other, old⟩ := entry
      by_cases same : other = name
      · simp [Entries.put, Entries.names, same]
      · simp only [Entries.names] at induction ⊢
        by_cases there : name ∈ rest.map Prod.fst <;> simp [Entries.put, same, Ne.symm same, induction, there]

theorem lookup_absent {name : Name} (absent : name ∉ entries.names) : entries.lookup name = none := by
  rw [List.lookup_eq_none_iff]
  intro entry member
  have other : name ≠ entry.1 := fun same => absent (List.mem_map.mpr ⟨entry, member, same.symm⟩)
  simpa using other

theorem merge_cons (entries others : Entries) (name : Name) (value : Toml.Value) :
    entries.merge ((name, value) :: others) = (entries.put name value).merge others := rfl

/-- After a merge a name has its value among the added entries, or else the one it had. -/
theorem lookup_merge (entries : Entries) {others : Entries} (once : others.names.Nodup) (asked : Name) :
    (entries.merge others).lookup asked = (others.lookup asked).or (entries.lookup asked) := by
  induction others generalizing entries with
  | nil => rfl
  | cons entry rest induction =>
      obtain ⟨name, value⟩ := entry
      obtain ⟨absent, restOnce⟩ := List.nodup_cons.mp once
      -- Nothing that is added later has the name again, so what is put here stays.
      rw [merge_cons, induction (entries.put name value) restOnce, lookup_put]
      by_cases here : asked = name
      · subst here
        rw [lookup_absent absent]
        simp
      · simp [lookup_first, here]

/-- A merge adds the new names after those that are there. -/
theorem names_merge (entries : Entries) {others : Entries} (once : others.names.Nodup) :
    (entries.merge others).names = entries.names ++ others.names.filter (· ∉ entries.names) := by
  induction others generalizing entries with
  | nil => exact (List.append_nil _).symm
  | cons entry rest induction =>
      obtain ⟨name, value⟩ := entry
      obtain ⟨absent, restOnce⟩ := List.nodup_cons.mp once
      have names : Entries.names ((name, value) :: rest) = name :: Entries.names rest := rfl
      rw [merge_cons, induction (entries.put name value) restOnce, names_put, names]
      split
      · next old => simp [old]
      · next fresh =>
          have apart : ∀ other ∈ Entries.names rest, other ≠ name := fun other member same => absent (same ▸ member)
          rw [List.filter_cons_of_pos (by simpa using fresh), List.append_assoc, List.singleton_append]
          congr 2
          refine List.filter_congr fun other member => ?_
          simp [apart other member]

theorem of_table_put (table : Toml.Table) (name : String) (value : Toml.Value) :
    Entries.ofTable (table.put name value) = (Entries.ofTable table).put (.text name) value := by
  induction table with
  | nil => rfl
  | cons entry rest induction =>
      obtain ⟨other, old⟩ := entry
      by_cases same : other = name
      · simp [Table.put, Entries.ofTable, Entries.put, same]
      · simp only [Entries.ofTable] at induction ⊢
        simp [Table.put, Entries.put, same, induction]

theorem lookup_of_table (table : Toml.Table) (name : String) :
    (Entries.ofTable table).lookup (.text name) = table.lookup name := by
  induction table with
  | nil => rfl
  | cons entry rest induction =>
      obtain ⟨other, old⟩ := entry
      simp only [Entries.ofTable] at induction ⊢
      by_cases here : name = other <;> simp [lookup_first, here, induction]

/-! ### Names of a document -/

/-- A table in which no name stands twice. -/
def NamesOnce (table : Toml.Table) : Prop := (Entries.ofTable table).names.Nodup

variable {table changed : Toml.Table} {draft next : Draft} {key : Key}

theorem put_once (once : NamesOnce table) (name : String) (value : Toml.Value) : NamesOnce (table.put name value) := by
  rw [NamesOnce, of_table_put, names_put]
  split
  · exact once
  · next absent =>
      refine List.nodup_append.mpr ⟨once, List.nodup_singleton _, fun other member _ here same => absent ?_⟩
      rw [← List.mem_singleton.mp here, ← same]
      exact member

/-- A change of the table behind a key puts one value into the table above it. -/
theorem adjust_once {throughLists : Bool} {change : Toml.Table → Option Toml.Table}
    (keeps : ∀ table changed, NamesOnce table → change table = some changed → NamesOnce changed)
    (once : NamesOnce table) (adjusted : adjust throughLists key change table = some changed) : NamesOnce changed := by
  cases key with
  | nil => exact keeps table changed once adjusted
  | cons name rest =>
      rw [adjust] at adjusted
      split at adjusted
      · obtain ⟨inner, _, rfl⟩ := Option.map_eq_some_iff.mp adjusted
        exact put_once once name _
      · split at adjusted
        · obtain ⟨inner, _, rfl⟩ := Option.map_eq_some_iff.mp adjusted
          exact put_once once name _
        · cases adjusted
      · cases adjusted

theorem open_table_once (once : NamesOnce draft.content) (opened : draft.openTable key = some next) :
    NamesOnce next.content := by
  rw [Draft.openTable] at opened
  split at opened
  · cases opened
  · obtain ⟨content, adjusted, rfl⟩ := Option.map_eq_some_iff.mp opened
    refine adjust_once (fun table changed given same => ?_) once adjusted
    exact Option.some.inj same ▸ given

theorem open_element_once (once : NamesOnce draft.content) (opened : draft.openElement key = some next) :
    NamesOnce next.content := by
  rw [Draft.openElement] at opened
  split at opened
  · cases opened
  · obtain ⟨content, adjusted, rfl⟩ := Option.map_eq_some_iff.mp opened
    refine adjust_once (fun table changed given appended => ?_) once adjusted
    split at appended
    · cases appended
    · split at appended
      · exact Option.some.inj appended ▸ put_once given _ _
      · exact Option.some.inj appended ▸ put_once given _ _
      · cases appended

theorem assign_once {heading : Key} {value : Toml.Value} (once : NamesOnce draft.content)
    (assigned : draft.assign heading key value = some next) : NamesOnce next.content := by
  unfold Draft.assign at assigned
  dsimp only at assigned
  split at assigned
  · cases assigned
  · split at assigned
    · cases assigned
    · obtain ⟨content, adjusted, rfl⟩ := Option.map_eq_some_iff.mp assigned
      refine adjust_once (fun table changed given added => ?_) once adjusted
      rw [putNew] at added
      split at added
      · cases added
      · exact Option.some.inj added ▸ put_once given _ _

theorem of_or_malformed {found : Option Draft} (given : orMalformed found = .ok next) : found = some next := by
  cases found with
  | none => cases given
  | some draft => exact congrArg some (Except.ok.inj given)

theorem statements_once {fuel : Nat} {heading : Key} {text : List Char} (once : NamesOnce draft.content)
    (read : readStatements fuel draft heading text = .ok table) : NamesOnce table := by
  induction fuel generalizing draft heading text with
  | zero => exact Except.ok.inj read ▸ once
  | succ fuel induction =>
      -- A heading closes what dotted keys made, which leaves the content as it is.
      have closed : NamesOnce draft.closeDotted.content := once
      rw [readStatements] at read
      split at read
      · exact Except.ok.inj read ▸ once
      · obtain ⟨⟨key, rest⟩, _, read⟩ := Run.ok_of_bind read
        obtain ⟨opened, given, read⟩ := Run.ok_of_bind read
        obtain ⟨rest, _, read⟩ := Run.ok_of_bind read
        exact induction (open_element_once closed (of_or_malformed given)) read
      · obtain ⟨⟨key, rest⟩, _, read⟩ := Run.ok_of_bind read
        obtain ⟨opened, given, read⟩ := Run.ok_of_bind read
        obtain ⟨rest, _, read⟩ := Run.ok_of_bind read
        exact induction (open_table_once closed (of_or_malformed given)) read
      · split at read
        · obtain ⟨⟨key, rest⟩, _, read⟩ := Run.ok_of_bind read
          dsimp only at read
          split at read
          · obtain ⟨⟨value, rest⟩, _, read⟩ := Run.ok_of_bind read
            obtain ⟨assigned, given, read⟩ := Run.ok_of_bind read
            obtain ⟨rest, _, read⟩ := Run.ok_of_bind read
            exact induction (assign_once once (of_or_malformed given)) read
          · cases read
        · obtain ⟨rest, _, read⟩ := Run.ok_of_bind read
          exact induction once read

/-- A document names each of its entries once. -/
theorem document_once {text : String} (read : Toml.read text = .ok table) : NamesOnce table := by
  have empty : NamesOnce Draft.empty.content := List.nodup_nil
  exact statements_once empty read

/-! ### Fields and problems -/

def faultOf? {Found : Type} : Except ProblemKind Found → Option ProblemKind
  | .ok _ => none
  | .error kind => some kind

/-- What is wrong with a value for a field, if anything is. -/
def fieldFault? (name : String) (value : Toml.Value) : Option ProblemKind :=
  if name = "module_dir" ∨ name = "history_file" then faultOf? (readText value) else faultOf? (readBoolean value)

/-- The problem of a field with the value that is written for it. -/
def fieldProblem? (written : String → Option Toml.Value) (name : String) : Option Problem :=
  ((written name).bind (fieldFault? name)).map (⟨.text name, ·⟩)

/-- A field that has what is read from the value written for it, or its default where nothing is. -/
def IsField {Found : Type} (written : Option Toml.Value) (read : Toml.Value → Except ProblemKind Found)
    (standard found : Found) : Prop :=
  match written with
  | none => found = standard
  | some value => read value = .ok found

/-- Settings that have in every field what is written for it. -/
structure FieldsAre (written : String → Option Toml.Value) (settings : Settings) : Prop where
  autoload : IsField (written "autoload_modules") readBoolean true settings.autoloadModules
  directory : IsField (written "module_dir") readText (some "__pypackages__") settings.moduleDirectory
  typing : IsField (written "complete_while_typing") readBoolean false settings.completeWhileTyping
  log : IsField (written "debug_log") readBoolean false settings.debugLog
  history : IsField (written "history_file") readText (some ".conch/history") settings.historyFile

/-- The value of a name among entries. -/
def Entries.written (entries : Entries) (name : String) : Option Toml.Value := entries.lookup (.text name)

def Entries.strays (entries : Entries) : List Problem := entries.names.filterMap strayProblem?

/-- Everything that is wrong with entries: the fields in their order, then the names that are none. -/
def Entries.problems (entries : Entries) : List Problem :=
  fieldNames.filterMap (fieldProblem? entries.written) ++ entries.strays

variable {Found : Type} {name : String} {standard found : Found} {read : Toml.Value → Except ProblemKind Found}

theorem field_problem_eq (entries : Entries) (name : String) (standard : Found)
    (read : Toml.Value → Except ProblemKind Found) (reads : ∀ value, fieldFault? name value = faultOf? (read value)) :
    fieldProblem? entries.written name = problemOf? (readField entries name standard read) := by
  rw [fieldProblem?, Entries.written, readField]
  cases entries.lookup (.text name) with
  | none => rfl
  | some value =>
      rw [Option.bind_some, reads]
      dsimp only
      cases read value <;> rfl

theorem field_of_ok (given : readField entries name standard read = .ok found) :
    IsField (entries.written name) read standard found := by
  rw [readField] at given
  rw [Entries.written]
  generalize entries.lookup (.text name) = written at given
  split at given
  · exact (Except.ok.inj given).symm
  · split at given
    · next fits => exact Except.ok.inj given ▸ fits
    · cases given

theorem problems_eq (entries : Entries) :
    entries.problems =
      [problemOf? (readField entries "autoload_modules" true readBoolean),
        problemOf? (readField entries "module_dir" (some "__pypackages__") readText),
        problemOf? (readField entries "complete_while_typing" false readBoolean),
        problemOf? (readField entries "debug_log" false readBoolean),
        problemOf? (readField entries "history_file" (some ".conch/history") readText)].filterMap id ++
        entries.filterMap fun (name, _) => strayProblem? name := by
  have strays : entries.strays = entries.filterMap fun (name, _) => strayProblem? name := List.filterMap_map
  rw [Entries.problems, strays, ← field_problem_eq entries "autoload_modules" true readBoolean fun _ => rfl,
    ← field_problem_eq entries "module_dir" (some "__pypackages__") readText fun _ => rfl,
    ← field_problem_eq entries "complete_while_typing" false readBoolean fun _ => rfl,
    ← field_problem_eq entries "debug_log" false readBoolean fun _ => rfl,
    ← field_problem_eq entries "history_file" (some ".conch/history") readText fun _ => rfl]
  rfl

/-- Entries stand for settings where nothing is wrong with them, and else for everything that is. -/
theorem of_entries_cases (entries : Entries) :
    entries.problems = [] ∧ (∃ settings, ofEntries entries = .ok settings ∧ FieldsAre entries.written settings) ∨
      entries.problems ≠ [] ∧ ofEntries entries = .error entries.problems := by
  cases made : ofEntries entries with
  | ok settings =>
      unfold ofEntries at made
      dsimp only at made
      split at made
      · next autoload directory typing log history strays =>
          obtain rfl := Except.ok.inj made
          refine Or.inl ⟨?_, _, rfl, field_of_ok autoload, field_of_ok directory, field_of_ok typing, field_of_ok log,
            field_of_ok history⟩
          rw [problems_eq, autoload, directory, typing, log, history, strays]
          rfl
      · cases made
  | error problems =>
      have filled := problems_filled made
      unfold ofEntries at made
      dsimp only at made
      split at made
      · cases made
      · obtain rfl : entries.problems = problems := (problems_eq entries).trans (Except.error.inj made)
        exact Or.inr ⟨filled, rfl⟩

/-! ### The settings of two files -/

/-- The shell's table in a project file: an empty one where there is no file, or nothing for the shell in it. -/
inductive HasShellTable : String × Option String → Toml.Table → Prop
  | absent (path : String) : HasShellTable (path, none) []
  | read (path : String) {text : String} {document tools shell : Toml.Table} (reads : Toml.read text = .ok document)
      (isTools : (document.lookup "tool").getD (.table []) = .table tools)
      (isShell : (tools.lookup "conch").getD (.table []) = .table shell) : HasShellTable (path, some text) shell

/-- The table of the shell's own file, an empty one where there is no file. -/
inductive HasOwnTable : String × Option String → Toml.Table → Prop
  | absent (path : String) : HasOwnTable (path, none) []
  | read (path : String) {text : String} {own : Toml.Table} (reads : Toml.read text = .ok own) :
      HasOwnTable (path, some text) own

/-- The value written for a name: that of the shell's own file, if the name stands there, or else that of the project
file. -/
def chosen (shell own : Toml.Table) (name : String) : Option Toml.Value := (own.lookup name).or (shell.lookup name)

def namesOf (table : Toml.Table) : List String := table.map Prod.fst

/-- The names in two tables that are no field, in the order in which they first come. -/
def unknownNames (shell own : Toml.Table) : List String :=
  (namesOf shell ++ (namesOf own).filter (· ∉ namesOf shell)).filter (· ∉ fieldNames)

/-- What is wrong with two tables: the fields in their order, then the names that are none. -/
def mergedProblems (shell own : Toml.Table) : List Problem :=
  fieldNames.filterMap (fieldProblem? (chosen shell own)) ++
    (unknownNames shell own).map fun name => ⟨.text name, .unknownName⟩

/-- What has to come of the shell's table in a project file and the table of its own file. -/
structure IsMerged (shell own : Toml.Table) (loaded : Except LoadFault Settings) : Prop where
  /-- There are settings if all names are fields and the value that counts for each is valid, and only then. -/
  loads_iff : (∃ settings, loaded = .ok settings) ↔
    (∀ name, name ∈ namesOf shell ∨ name ∈ namesOf own → name ∈ fieldNames) ∧
      ∀ name ∈ fieldNames, ∀ value, chosen shell own name = some value → fieldFault? name value = none
  /-- The settings have this value in every field, or its default. -/
  fields : ∀ settings, loaded = .ok settings → FieldsAre (chosen shell own) settings
  /-- A valid value in the shell's own file leaves nothing to tell of its field, whatever the project file has. -/
  overridden : ∀ name ∈ fieldNames, ∀ value, own.lookup name = some value → fieldFault? name value = none →
    ∀ problems, loaded = .error (.invalid problems) → ∀ problem ∈ problems, problem.name ≠ .text name
  /-- Where there are no settings, all invalid fields are told, then all unknown names. -/
  problems : (¬∃ settings, loaded = .ok settings) →
    loaded = .error (.invalid (mergedProblems shell own))

variable {project own : String × Option String} {shell ours : Toml.Table}

theorem project_part_of_table (inProject : HasShellTable project shell) :
    projectPart project = .ok (Entries.ofTable shell) := by
  cases inProject with
  | absent path => rfl
  | read path reads isTools isShell =>
      rw [projectPart, readDocument, reads]
      show projectEntries _ = _
      rw [project_entries_eq, isTools]
      show (entriesOf _).mapError _ = _
      rw [isShell]
      rfl

theorem own_once (inOwn : HasOwnTable own ours) : NamesOnce ours := by
  cases inOwn with
  | absent path => exact List.nodup_nil
  | read path reads => exact document_once reads

/-- Loading makes settings of the merged tables. -/
theorem load_of_tables (inProject : HasShellTable project shell) (inOwn : HasOwnTable own ours) :
    load project own = (ofEntries ((Entries.ofTable shell).merge (Entries.ofTable ours))).mapError .invalid := by
  rw [load_eq, project_part_of_table inProject]
  show loadOver (Entries.ofTable shell) own = _
  cases inOwn with
  | absent path => exact load_over_none _ path
  | read path reads =>
      rw [load_over_some, readDocument, reads]
      rfl

theorem merged_chosen (once : NamesOnce ours) :
    ((Entries.ofTable shell).merge (Entries.ofTable ours)).written = chosen shell ours := by
  funext name
  rw [Entries.written, lookup_merge _ once, lookup_of_table, lookup_of_table, chosen]

theorem names_of_table (table : Toml.Table) : (Entries.ofTable table).names = (namesOf table).map .text := by
  simp [Entries.names, Entries.ofTable, namesOf]

theorem stray_texts (names : List String) :
    (names.map Name.text).filterMap strayProblem? =
      (names.filter (· ∉ fieldNames)).map fun name => ⟨.text name, .unknownName⟩ := by
  induction names with
  | nil => rfl
  | cons name rest induction =>
      by_cases known : name ∈ fieldNames <;> simp [strayProblem?, known, induction]

theorem merged_strays (once : NamesOnce ours) :
    ((Entries.ofTable shell).merge (Entries.ofTable ours)).strays =
      (unknownNames shell ours).map fun name => ⟨.text name, .unknownName⟩ := by
  have fresh : (Entries.ofTable ours).names.filter (· ∉ (Entries.ofTable shell).names) =
      ((namesOf ours).filter (· ∉ namesOf shell)).map .text := by
    rw [names_of_table, names_of_table, List.filter_map]
    congr 1
    refine List.filter_congr fun name _ => ?_
    simp only [Function.comp_apply, List.mem_map, Name.text.injEq, exists_eq_right]
  rw [Entries.strays, names_merge _ once, fresh, names_of_table, ← List.map_append, stray_texts, unknownNames]

theorem merged_problems (once : NamesOnce ours) :
    ((Entries.ofTable shell).merge (Entries.ofTable ours)).problems = mergedProblems shell ours := by
  rw [Entries.problems, merged_chosen once, merged_strays once, mergedProblems]

theorem fields_fit_iff (written : String → Option Toml.Value) :
    fieldNames.filterMap (fieldProblem? written) = [] ↔
      ∀ name ∈ fieldNames, ∀ value, written name = some value → fieldFault? name value = none := by
  rw [List.filterMap_eq_nil_iff]
  refine forall₂_congr fun name _ => ?_
  rw [fieldProblem?, Option.map_eq_none_iff, Option.bind_eq_none_iff]

theorem names_known_iff (shell ours : Toml.Table) :
    unknownNames shell ours = [] ↔ ∀ name, name ∈ namesOf shell ∨ name ∈ namesOf ours → name ∈ fieldNames := by
  rw [unknownNames, List.filter_eq_nil_iff]
  refine forall_congr' fun name => ?_
  by_cases inShell : name ∈ namesOf shell <;> simp [inShell]

theorem nothing_wrong_iff (shell ours : Toml.Table) :
    mergedProblems shell ours = [] ↔
      (∀ name, name ∈ namesOf shell ∨ name ∈ namesOf ours → name ∈ fieldNames) ∧
        ∀ name ∈ fieldNames, ∀ value, chosen shell ours name = some value → fieldFault? name value = none := by
  rw [mergedProblems, List.append_eq_nil_iff, List.map_eq_nil_iff, fields_fit_iff, names_known_iff, and_comm]

/-- A field with a valid value in the shell's own file has no problem. -/
theorem overridden_fits {name : String} {value : Toml.Value} {problem : Problem} (isField : name ∈ fieldNames)
    (found : ours.lookup name = some value) (valid : fieldFault? name value = none)
    (member : problem ∈ mergedProblems shell ours) : problem.name ≠ .text name := by
  rintro same
  rcases List.mem_append.mp member with ofField | ofUnknown
  · obtain ⟨other, _, told⟩ := List.mem_filterMap.mp ofField
    obtain ⟨kind, faulty, rfl⟩ := Option.map_eq_some_iff.mp told
    obtain rfl := Name.text.inj same
    rw [chosen, found, Option.some_or, Option.bind_some, valid] at faulty
    cases faulty
  · obtain ⟨other, unknown, rfl⟩ := List.mem_map.mp ofUnknown
    obtain rfl := Name.text.inj same
    simpa [isField] using (List.mem_filter.mp unknown).2

/-- The names and the numbers of a document with nothing but a table of two numbers below a heading of two names. -/
def headedNumbers? : Toml.Table → Option (List String × List Int)
  | [(outer, .table [(inner, .table [(first, .whole number), (second, .whole other)])])] =>
      some ([outer, inner, first, second], [number, other])
  | _ => none

/-- The names and the values of a document with a boolean and two numbers. -/
def plainValues? : Toml.Table → Option (List String × Bool × List Int)
  | [(first, .boolean value), (second, .whole number), (third, .whole other)] =>
      some ([first, second, third], value, [number, other])
  | _ => none

theorem project_document_reads :
    Toml.read "[tool.conch]\ndebug_log = 5\ncolour = 1\n" =
      .ok [("tool", .table [("conch", .table [("debug_log", .whole 5), ("colour", .whole 1)])])] := by
  have seen : (Toml.read "[tool.conch]\ndebug_log = 5\ncolour = 1\n").toOption.any
      (headedNumbers? · = some (["tool", "conch", "debug_log", "colour"], [5, 1])) = true := by decide +kernel
  obtain ⟨document, reads, shape⟩ := Run.ok_of_seen seen
  have shape := of_decide_eq_true shape
  unfold headedNumbers? at shape
  split at shape <;> cases shape
  exact reads

theorem own_document_reads :
    Toml.read "debug_log = true\nmodule_dir = 3\nsize = 2\n" =
      .ok [("debug_log", .boolean true), ("module_dir", .whole 3), ("size", .whole 2)] := by
  have seen : (Toml.read "debug_log = true\nmodule_dir = 3\nsize = 2\n").toOption.any
      (plainValues? · = some (["debug_log", "module_dir", "size"], true, [3, 2])) = true := by decide +kernel
  obtain ⟨document, reads, shape⟩ := Run.ok_of_seen seen
  have shape := of_decide_eq_true shape
  unfold plainValues? at shape
  split at shape <;> cases shape
  exact reads

end LiveShell.Settings
