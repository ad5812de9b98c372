import Mathlib.Data.List.Basic
import LiveShell.Settings.Load

/-!
How loading settings ends. Files that describe settings, cannot be read or describe something else end in settings or in
an error that says what is wrong with them. What stands for the shell in the project file is merged before it is looked
at, so that the values which cannot be merged end in another error; so do numbers too long to be read.
-/

namespace LiveShell.Settings

set_option autoImplicit false

/-! ### What can be merged -/

/-- An element of a list that is merged: two items, of which the first can be a name. -/
inductive IsPair : Toml.Value → Prop
  | list (name value : Toml.Value) (plain : name.isNest = false) : IsPair (.list [name, value])
  | text (word : String) (two : word.toList.length = 2) : IsPair (.text word)
  | table (entries : Toml.Table) (two : entries.length = 2) : IsPair (.table entries)

/-- A value that is merged as a table is: one, a list of pairs, or an empty text. -/
inductive Mergeable : Toml.Value → Prop
  | table (entries : Toml.Table) : Mergeable (.table entries)
  | pairs (items : List Toml.Value) (each : ∀ item ∈ items, IsPair item) : Mergeable (.list items)
  | blank : Mergeable (.text "")

variable {value element : Toml.Value} {place : Nat} {entries : Entries}

theorem name_of_ok_iff : (∃ name, nameOf value = .ok name) ↔ value.isNest = false := by
  cases value <;> simp [nameOf, Toml.Value.isNest, pure, Except.pure, throw, throwThe, MonadExceptOf.throw]

/-- What an element gives to a merge: its two items, the first of them a name. -/
def pairOf (place : Nat) (element : Toml.Value) : Except Misuse (Name × Toml.Value) := do
  match ← elementItems place element with
  | [name, value] => return (← nameOf name, value)
  | items => throw (.wrongLength place items.length)

theorem add_pairs_cons (rest : List Toml.Value) :
    addPairs entries place (element :: rest) =
      pairOf place element >>= fun pair => addPairs (entries.put pair.1 pair.2) (place + 1) rest := by
  rw [addPairs, pairOf]
  cases elementItems place element with
  | error misuse => rfl
  | ok items =>
      match items with
      | [] | [_] | _ :: _ :: _ :: _ => rfl
      | [name, value] =>
          show (nameOf name >>= fun name => addPairs (entries.put name value) (place + 1) rest) =
            ((nameOf name >>= fun name => pure (name, value)) >>= fun pair =>
              addPairs (entries.put pair.1 pair.2) (place + 1) rest)
          cases nameOf name <;> rfl

theorem pair_of_items {items : List Toml.Value} (given : elementItems place element = .ok items) :
    (∃ pair, pairOf place element = .ok pair) ↔ ∃ name value, items = [name, value] ∧ name.isNest = false := by
  rw [pairOf, given]
  match items with
  | [] | [_] | _ :: _ :: _ :: _ => simp [bind, Except.bind, throw, throwThe, MonadExceptOf.throw]
  | [name, value] =>
      rw [show (∃ other later, [name, value] = [other, later] ∧ other.isNest = false) ↔ name.isNest = false by simp,
        ← name_of_ok_iff]
      show (∃ pair, (nameOf name >>= fun name => pure (name, value)) = .ok pair) ↔ _
      cases nameOf name <;> simp [bind, Except.bind, pure, Except.pure]

theorem pair_of_ok_iff (place : Nat) : (∃ pair, pairOf place element = .ok pair) ↔ IsPair element := by
  cases element with
  | list items =>
      rw [pair_of_items rfl]
      constructor
      · rintro ⟨name, value, rfl, plain⟩
        exact .list name value plain
      · rintro (⟨name, value, plain⟩ | _ | _)
        exact ⟨name, value, rfl, plain⟩
  | text word =>
      rw [pair_of_items rfl]
      constructor
      · rintro ⟨name, value, same, _⟩
        have two := congrArg List.length same
        exact .text word (by simpa using two)
      · rintro (_ | ⟨_, two⟩ | _)
        obtain ⟨first, second, same⟩ := List.length_eq_two.mp two
        exact ⟨_, _, by rw [same]; rfl, rfl⟩
  | table entries =>
      rw [pair_of_items rfl]
      constructor
      · rintro ⟨name, value, same, _⟩
        have two := congrArg List.length same
        exact .table entries (by simpa using two)
      · rintro (_ | _ | ⟨_, two⟩)
        obtain ⟨first, second, rfl⟩ := List.length_eq_two.mp two
        exact ⟨_, _, rfl, rfl⟩
  | _ =>
      refine ⟨?_, fun isPair => by cases isPair⟩
      rintro ⟨pair, made⟩
      cases made

theorem add_pairs_ok_iff {items : List Toml.Value} :
    (∃ merged, addPairs entries place items = .ok merged) ↔ ∀ item ∈ items, IsPair item := by
  induction items generalizing entries place with
  | nil => exact ⟨fun _ _ absent => absurd absent List.not_mem_nil, fun _ => ⟨entries, rfl⟩⟩
  | cons element rest induction =>
      rw [add_pairs_cons, List.forall_mem_cons, ← pair_of_ok_iff place]
      cases pairOf place element with
      | error misuse => simp [bind, Except.bind]
      | ok pair => simpa [bind, Except.bind] using induction

/-- Merging goes through exactly for what can be merged. -/
theorem entries_of_ok_iff : (∃ merged, entriesOf value = .ok merged) ↔ Mergeable value := by
  cases value with
  | table table => exact ⟨fun _ => .table table, fun _ => ⟨_, rfl⟩⟩
  | list items =>
      rw [entriesOf, add_pairs_ok_iff]
      refine ⟨.pairs items, ?_⟩
      rintro (_ | ⟨_, each⟩ | _)
      exact each
  | text word =>
      constructor
      · rintro ⟨merged, made⟩
        rw [entriesOf] at made
        split at made
        · next blank =>
            obtain rfl : word = "" := String.toList_eq_nil_iff.mp blank
            exact .blank
        · cases made
      · rintro (_ | _ | _)
        exact ⟨[], rfl⟩
  | _ =>
      refine ⟨?_, fun mergeable => by cases mergeable⟩
      rintro ⟨merged, made⟩
      cases made

/-! ### How the parts of loading end -/

/-- What stands for the shell in a project file, if anything does, can be merged. -/
def HasSettings (project : Toml.Table) : Prop :=
  ∃ tools, (project.lookup "tool").getD (.table []) = .table tools ∧
    Mergeable ((tools.lookup "conch").getD (.table []))

/-- The entries of a project file are those of what stands for the shell in it. -/
theorem project_entries_eq (project : Toml.Table) :
    projectEntries project =
      (memberOf ((project.lookup "tool").getD (.table [])) "conch" >>= entriesOf).mapError .misuse := by
  have asked : (do
      let tool ← memberOf (.table project) "tool"
      entriesOf (← memberOf tool "conch")) =
        (memberOf ((project.lookup "tool").getD (.table [])) "conch" >>= entriesOf) := rfl
  simp only [projectEntries, asked]
  cases memberOf ((project.lookup "tool").getD (.table [])) "conch" >>= entriesOf <;> rfl

/-- A project file whose part for the shell cannot be merged ends loading in another error. -/
theorem project_entries_cases (project : Toml.Table) :
    HasSettings project ∧ (∃ merged, projectEntries project = .ok merged) ∨
      ¬HasSettings project ∧ ∃ misuse, projectEntries project = .error (.misuse misuse) := by
  rw [project_entries_eq, HasSettings]
  cases tool : (project.lookup "tool").getD (.table []) with
  | table tools =>
      have merging : (memberOf (.table tools) "conch" >>= entriesOf) =
          entriesOf ((tools.lookup "conch").getD (.table [])) := rfl
      rw [merging]
      cases made : entriesOf ((tools.lookup "conch").getD (.table [])) with
      | ok merged => exact Or.inl ⟨⟨tools, rfl, entries_of_ok_iff.mp ⟨merged, made⟩⟩, merged, rfl⟩
      | error misuse =>
          refine Or.inr ⟨?_, misuse, rfl⟩
          rintro ⟨_, ⟨rfl⟩, mergeable⟩
          obtain ⟨merged, madeToo⟩ := entries_of_ok_iff.mpr mergeable
          cases made.symm.trans madeToo
  | _ =>
      refine Or.inr ⟨?_, _, rfl⟩
      rintro ⟨tools, same, _⟩
      cases same

/-- A document describes a table, is malformed, or has a number too long to be read. -/
theorem read_document_cases (path text : String) :
    (∃ table, Toml.read text = .ok table ∧ readDocument path text = .ok table) ∨
      Toml.read text = .error .malformed ∧ readDocument path text = .error (.unreadable path) ∨
      ∃ count, Toml.read text = .error (.tooManyDigits count) ∧
        readDocument path text = .error (.misuse (.tooManyDigits count)) := by
  rw [readDocument]
  cases Toml.read text with
  | ok table => exact Or.inl ⟨table, rfl, rfl⟩
  | error fault =>
      cases fault with
      | malformed => exact Or.inr (Or.inl ⟨rfl, rfl⟩)
      | tooManyDigits count => exact Or.inr (Or.inr ⟨count, rfl, rfl⟩)

theorem problem_of_none_iff {α : Type} {result : Except Problem α} :
    problemOf? result = none ↔ ∃ found, result = .ok found := by
  cases result <;> simp [problemOf?]

/-- Where there are no settings, something is wrong. -/
theorem problems_filled {problems : List Problem} (failed : ofEntries entries = .error problems) : problems ≠ [] := by
  rintro rfl
  unfold ofEntries at failed
  dsimp only at failed
  split at failed
  · cases failed
  · next unfit =>
      have nothing := List.append_eq_nil_iff.mp (Except.error.inj failed)
      obtain ⟨fields, strays⟩ := nothing
      simp only [List.filterMap_eq_nil_iff, List.forall_mem_cons, id, problem_of_none_iff] at fields
      obtain ⟨⟨_, autoload⟩, ⟨_, directory⟩, ⟨_, typing⟩, ⟨_, log⟩, ⟨_, history⟩, _⟩ := fields
      exact unfit _ _ _ _ _ autoload directory typing log history strays

/-! ### How loading ends -/

/-- Loading that ends in settings, or in an error that says what is wrong: the path of a file that cannot be read, or
the problems of what is written there. -/
inductive Told (project own : String × Option String) : Except LoadFault Settings → Prop
  | settings (settings : Settings) : Told project own (.ok settings)
  | unreadable (path text : String) (file : project = (path, some text) ∨ own = (path, some text))
      (malformed : Toml.read text = .error .malformed) : Told project own (.error (.unreadable path))
  | invalid (problems : List Problem) (filled : problems ≠ []) : Told project own (.error (.invalid problems))

/-- A number in a file that is too long to be read. -/
def Overlong (text : String) : Prop := ∃ count, Toml.read text = .error (.tooManyDigits count)

theorem not_overlong {text : String} {result : Except Toml.Fault Toml.Table} (read : Toml.read text = result)
    (apart : ∀ count, result ≠ .error (.tooManyDigits count)) : ¬Overlong text := by
  rintro ⟨count, overlong⟩
  exact apart count (read.symm.trans overlong)

/-- What the texts of the two files have to be, where there are any, for loading to tell what is wrong with them. The
second file is not looked at when the first one is malformed. -/
structure Usable (project own : Option String) : Prop where
  projectNumbers : ∀ text ∈ project, ¬Overlong text
  projectSettings : ∀ text ∈ project, ∀ table, Toml.read text = .ok table → HasSettings table
  ownNumbers : ∀ text ∈ own, (∀ other ∈ project, Toml.read other ≠ .error .malformed) → ¬Overlong text

/-- What the project file gives to the settings. -/
def projectPart : String × Option String → Except LoadFault Entries
  | (path, some text) => readDocument path text >>= projectEntries
  | (_, none) => pure []

/-- What becomes of the part of the project file with the shell's own file. -/
def loadOver (base : Entries) (own : String × Option String) : Except LoadFault Settings := do
  let entries ← match own with
    | (path, some text) => pure (base.merge (Entries.ofTable (← readDocument path text)))
    | (_, none) => pure base
  match ofEntries entries with
  | .ok settings => pure settings
  | .error problems => throw (.invalid problems)

variable {project own : String × Option String}

theorem load_eq (project own : String × Option String) :
    load project own = projectPart project >>= fun base => loadOver base own := by
  obtain ⟨path, _ | text⟩ := project
  · rfl
  · rw [load, projectPart]
    cases readDocument path text with
    | error fault => rfl
    | ok table => rfl

theorem load_over_none (base : Entries) (path : String) :
    loadOver base (path, none) = (ofEntries base).mapError .invalid := by
  simp only [loadOver, pure_bind]
  cases ofEntries base <;> rfl

theorem load_over_some (base : Entries) (path text : String) :
    loadOver base (path, some text) =
      readDocument path text >>= fun table => (ofEntries (base.merge (Entries.ofTable table))).mapError .invalid := by
  rw [loadOver]
  cases readDocument path text with
  | error fault => rfl
  | ok table => exact load_over_none _ path

theorem settled_told (entries : Entries) : Told project own ((ofEntries entries).mapError .invalid) := by
  cases made : ofEntries entries with
  | ok settings => exact .settings settings
  | error problems => exact .invalid problems (problems_filled made)

theorem load_over_cases (project own : String × Option String) (base : Entries) :
    (∀ text ∈ own.2, ¬Overlong text) ∧ Told project own (loadOver base own) ∨
      (∃ text ∈ own.2, Overlong text) ∧ ∃ misuse, loadOver base own = .error (.misuse misuse) := by
  obtain ⟨path, _ | text⟩ := own
  · rw [load_over_none]
    exact Or.inl ⟨nofun, settled_told base⟩
  · rw [load_over_some]
    rcases read_document_cases path text with ⟨table, read, given⟩ | ⟨read, given⟩ | ⟨count, read, given⟩
    · rw [given]
      refine Or.inl ⟨?_, settled_told _⟩
      rintro _ ⟨rfl⟩
      exact not_overlong read nofun
    · rw [given]
      refine Or.inl ⟨?_, .unreadable path text (Or.inr rfl) read⟩
      rintro _ ⟨rfl⟩
      exact not_overlong read nofun
    · rw [given]
      exact Or.inr ⟨⟨text, rfl, count, read⟩, _, rfl⟩

/-- The project file gives its part, is malformed, or ends loading in another error. -/
theorem project_part_cases (project : String × Option String) :
    (∃ base, projectPart project = .ok base ∧
        ∀ text ∈ project.2, ∃ table, Toml.read text = .ok table ∧ HasSettings table) ∨
      (∃ path text, project = (path, some text) ∧ Toml.read text = .error .malformed ∧
        projectPart project = .error (.unreadable path)) ∨
      ∃ misuse, projectPart project = .error (.misuse misuse) ∧
        ∃ text ∈ project.2, Overlong text ∨ ∃ table, Toml.read text = .ok table ∧ ¬HasSettings table := by
  obtain ⟨path, _ | text⟩ := project
  · exact Or.inl ⟨[], rfl, nofun⟩
  · rw [projectPart]
    rcases read_document_cases path text with ⟨table, read, given⟩ | ⟨read, given⟩ | ⟨count, read, given⟩
    · rw [given]
      rcases project_entries_cases table with ⟨fits, base, merged⟩ | ⟨unfit, misuse, failed⟩
      · refine Or.inl ⟨base, merged, ?_⟩
        rintro _ ⟨rfl⟩
        exact ⟨table, read, fits⟩
      · exact Or.inr (Or.inr ⟨misuse, failed, text, rfl, Or.inr ⟨table, read, unfit⟩⟩)
    · rw [given]
      exact Or.inr (Or.inl ⟨path, text, rfl, read, rfl⟩)
    · rw [given]
      exact Or.inr (Or.inr ⟨_, rfl, text, rfl, Or.inl ⟨count, read⟩⟩)

theorem load_cases (project own : String × Option String) :
    Usable project.2 own.2 ∧ Told project own (load project own) ∨
      ¬Usable project.2 own.2 ∧ ∃ misuse, load project own = .error (.misuse misuse) := by
  rw [load_eq]
  rcases project_part_cases project with
    ⟨base, given, fits⟩ | ⟨path, text, rfl, read, given⟩ | ⟨misuse, given, text, isText, unfit⟩
  · have goesOn : (projectPart project >>= fun base => loadOver base own) = loadOver base own := by
      rw [given]
      rfl
    rw [goesOn]
    rcases load_over_cases project own base with
      ⟨numbers, told⟩ | ⟨⟨text, isText, overlong⟩, misuse, failed⟩
    · refine Or.inl ⟨⟨fun text isText => ?_, fun text isText table read => ?_, fun text isText _ => ?_⟩, told⟩
      · obtain ⟨table, read, _⟩ := fits text isText
        exact not_overlong read nofun
      · obtain ⟨table, readToo, settings⟩ := fits text isText
        cases read.symm.trans readToo
        exact settings
      · exact numbers text isText
    · refine Or.inr ⟨fun usable => ?_, misuse, failed⟩
      refine usable.ownNumbers text isText (fun other isOther malformed => ?_) overlong
      obtain ⟨table, read, _⟩ := fits other isOther
      cases read.symm.trans malformed
  · rw [given]
    refine Or.inl ⟨⟨?_, ?_, fun _ _ wellFormed => ?_⟩, .unreadable path text (Or.inl rfl) read⟩
    · rintro _ ⟨rfl⟩
      exact not_overlong read nofun
    · rintro _ ⟨rfl⟩ table readToo
      cases read.symm.trans readToo
    · exact absurd read (wellFormed text rfl)
  · rw [given]
    refine Or.inr ⟨fun usable => ?_, misuse, rfl⟩
    rcases unfit with overlong | ⟨table, read, unfit⟩
    · exact usable.projectNumbers text isText overlong
    · exact unfit (usable.projectSettings text isText table read)

/-- Loading settings ends in them, or in an error that says what is wrong with the files, for exactly those texts of the
files that have no overlong number and whose part for the shell can be merged. For all others, and for no more, it ends
in the error of some other use of a value. -/
theorem load_told_iff (project own : String × Option String) :
    (Told project own (load project own) ↔ Usable project.2 own.2) ∧
      ((∃ misuse, load project own = .error (.misuse misuse)) ↔ ¬Usable project.2 own.2) := by
  rcases load_cases project own with ⟨usable, told⟩ | ⟨unusable, misuse, failed⟩
  · refine ⟨iff_of_true told usable, iff_of_false ?_ (not_not_intro usable)⟩
    rintro ⟨misuse, failed⟩
    rw [failed] at told
    cases told
  · refine ⟨iff_of_false (fun told => ?_) unusable, iff_of_true ⟨misuse, failed⟩ unusable⟩
    rw [failed] at told
    cases told

/-- The use of a value that loading ended in, if it did. -/
def misuse? : Except LoadFault Settings → Option Misuse
  | .error (.misuse misuse) => some misuse
  | _ => none

theorem untold_of_misuse {loaded : Except LoadFault Settings} {misuse : Misuse} (used : misuse? loaded = some misuse) :
    loaded = .error (.misuse misuse) ∧ ¬Told project own loaded := by
  rcases loaded with (_ | _ | _) | settings
  · cases used
  · cases used
  · obtain rfl := Option.some.inj used
    exact ⟨rfl, nofun⟩
  · cases used

/-- A number stands where the table of tools is expected. -/
theorem number_for_tools_untold :
    let project := ("pyproject.toml", some "tool = 1\n")
    let own := (".conch.toml", none)
    load project own = .error (.misuse (.noMember "int" "get")) ∧ ¬Told project own (load project own) := by
  have used : misuse? (load ("pyproject.toml", some "tool = 1\n") (".conch.toml", none)) =
      some (.noMember "int" "get") := by decide +kernel
  exact untold_of_misuse used

end LiveShell.Settings
