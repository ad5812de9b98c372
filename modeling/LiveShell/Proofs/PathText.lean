import Mathlib.Data.List.DropRight
import LiveShell.Files.Candidates

/-!
Paths as texts, and what cutting, joining and collapsing them keeps. The components of a path say which way it goes;
doubled separators and separators at the end make no difference to them, and the parts of a path that meet at a
separator contribute theirs one after the other.
-/

namespace LiveShell.Files

set_option autoImplicit false

/-! ### Collapsing -/

theorem head_collapse (path : Path) : (collapse path).head? = path.head? := by
  induction path using collapse.induct with
  | case1 | case2 => rfl
  | case3 first second rest doubled induction =>
      obtain ⟨rfl, rfl⟩ : first = separator ∧ second = separator := by simpa using doubled
      rw [collapse, if_pos doubled, induction]
      rfl
  | case4 first second rest single induction =>
      rw [collapse, if_neg single]
      rfl

/-- A path that does not begin with two separators keeps its first character. -/
theorem collapse_cons {character : Char} {rest : Path} (single : ¬(character = separator ∧ rest.head? = some separator)) :
    collapse (character :: rest) = character :: collapse rest := by
  cases rest with
  | nil => rfl
  | cons second rest => rw [collapse, if_neg (by simpa using single)]

theorem collapse_doubled (rest : Path) :
    collapse (separator :: separator :: rest) = collapse (separator :: rest) := by
  rw [collapse, if_pos (by simp)]

/-- What comes after a path is collapsed with it, whether or not the path itself was collapsed before. -/
theorem collapse_append (first rest : Path) : collapse (collapse first ++ rest) = collapse (first ++ rest) := by
  induction first using collapse.induct with
  | case1 | case2 => rfl
  | case3 first second tail doubled induction =>
      obtain ⟨rfl, rfl⟩ : first = separator ∧ second = separator := by simpa using doubled
      rw [collapse_doubled, induction]
      exact (collapse_doubled (tail ++ rest)).symm
  | case4 first second tail single induction =>
      have apart : ¬(first = separator ∧ second = separator) := by simpa using single
      have start : (collapse (second :: tail) ++ rest).head? = some second := by
        rw [List.head?_append, head_collapse]
        rfl
      rw [collapse_cons (by simpa using apart), List.cons_append, collapse_cons (by rwa [start, Option.some_inj]),
        induction]
      exact (collapse_cons (by simpa using apart)).symm

theorem collapse_sublist (path : Path) : (collapse path).Sublist path := by
  induction path using collapse.induct with
  | case1 | case2 => exact List.Sublist.refl _
  | case3 first second rest doubled induction =>
      rw [collapse, if_pos doubled]
      exact induction.cons first
  | case4 first second rest single induction =>
      rw [collapse, if_neg single]
      exact induction.cons_cons first

/-! ### Components -/

/-- A path is empty, goes on after a separator, or goes on after a name that ends at a separator or with the path. -/
@[elab_as_elim]
theorem path_induction {motive : Path → Prop} (empty : motive [])
    (after_separator : ∀ rest, motive rest → motive (separator :: rest))
    (after_name : ∀ name rest, name ≠ [] → separator ∉ name → (rest = [] ∨ rest.head? = some separator) →
      motive rest → motive (name ++ rest)) (path : Path) : motive path := by
  induction sized : path.length using Nat.strongRecOn generalizing path with
  | ind size shorter =>
      cases path with
      | nil => exact empty
      | cons character rest =>
          by_cases same : character = separator
          · subst same
            exact after_separator rest (shorter _ (by simp [← sized]) rest rfl)
          · have parts := List.takeWhile_append_dropWhile (p := (· ≠ separator)) (l := character :: rest)
            have filled : (character :: rest).takeWhile (· ≠ separator) ≠ [] := by
              rw [List.takeWhile_cons_of_pos (by simpa using same)]
              exact List.cons_ne_nil _ _
            have plain : separator ∉ (character :: rest).takeWhile (· ≠ separator) := fun member => by
              simpa using List.mem_takeWhile_imp member
            have ends : (character :: rest).dropWhile (· ≠ separator) = [] ∨
                ((character :: rest).dropWhile (· ≠ separator)).head? = some separator := by
              have next := List.head?_dropWhile_not (· ≠ separator) (character :: rest)
              cases left : ((character :: rest).dropWhile (· ≠ separator)).head? with
              | none => exact Or.inl (List.head?_eq_none_iff.mp left)
              | some other =>
                  rw [left] at next
                  exact Or.inr (by simpa using next)
            have fewer : ((character :: rest).dropWhile (· ≠ separator)).length < size := by
              have whole := congrArg List.length parts
              rw [List.length_append] at whole
              have positive := List.length_pos_iff.mpr filled
              omega
            rw [← parts]
            exact after_name _ _ filled plain ends (shorter _ fewer _ rfl)

theorem components_nil : components [] = [] := by
  rw [components]
  rfl

theorem components_separator (rest : Path) : components (separator :: rest) = components rest := by
  rw [components, components]
  rfl

/-- A component goes on up to the next separator. -/
theorem components_name {name rest : Path} (filled : name ≠ []) (plain : separator ∉ name)
    (ends : rest = [] ∨ rest.head? = some separator) : components (name ++ rest) = name :: components rest := by
  obtain ⟨character, others, rfl⟩ := List.exists_cons_of_ne_nil filled
  have apart : character ≠ separator := fun same => plain (same ▸ List.mem_cons_self)
  have within : ∀ other ∈ others, (decide (other ≠ separator)) = true := fun other member =>
    decide_eq_true fun same => plain (same ▸ List.mem_cons_of_mem _ member)
  have stop : rest.takeWhile (· ≠ separator) = [] ∧ rest.dropWhile (· ≠ separator) = rest := by
    rcases ends with rfl | leads
    · exact ⟨rfl, rfl⟩
    · obtain ⟨tail, rfl⟩ := List.head?_eq_some_iff.mp leads
      exact ⟨by simp, by simp⟩
  rw [components, List.cons_append, List.dropWhile_cons_of_neg (by simpa using apart)]
  show (character :: (others ++ rest).takeWhile (· ≠ separator)) ::
    components ((others ++ rest).dropWhile (· ≠ separator)) = _
  rw [List.takeWhile_append_of_pos within, List.dropWhile_append_of_pos within, stop.1, stop.2, List.append_nil]

theorem components_of_name {name : Path} (filled : name ≠ []) (plain : separator ∉ name) : components name = [name] := by
  have alone := components_name filled plain (Or.inl rfl)
  rwa [List.append_nil, components_nil] at alone

/-- Two parts of a path that meet at a separator give their components one after the other. -/
theorem components_append (first rest : Path) :
    components (first ++ separator :: rest) = components first ++ components rest := by
  induction first using path_induction with
  | empty => rw [List.nil_append, components_separator, components_nil, List.nil_append]
  | after_separator tail induction =>
      rw [List.cons_append, components_separator, components_separator, induction]
  | after_name name tail filled plain ends induction =>
      have meets : (tail ++ separator :: rest).head? = some separator := by
        rcases ends with rfl | leads
        · rfl
        · rw [List.head?_append, leads]
          rfl
      rw [List.append_assoc, components_name filled plain (Or.inr meets), components_name filled plain ends, induction]
      rfl

theorem collapse_name {name : Path} (plain : separator ∉ name) (rest : Path) :
    collapse (name ++ rest) = name ++ collapse rest := by
  induction name with
  | nil => rfl
  | cons character others induction =>
      have apart : character ≠ separator := fun same => plain (same ▸ List.mem_cons_self)
      rw [List.cons_append, collapse_cons (fun both => apart both.1),
        induction fun member => plain (List.mem_cons_of_mem _ member)]
      rfl

theorem collapse_plain {path : Path} (plain : separator ∉ path) : collapse path = path := by
  have whole := collapse_name plain []
  rwa [List.append_nil, collapse, List.append_nil] at whole

theorem components_collapse (path : Path) : components (collapse path) = components path := by
  induction path using path_induction with
  | empty => rfl
  | after_separator rest induction =>
      by_cases doubled : rest.head? = some separator
      · obtain ⟨tail, rfl⟩ := List.head?_eq_some_iff.mp doubled
        rw [collapse_doubled, induction, components_separator (separator :: tail)]
      · rw [collapse_cons (fun both => doubled both.2), components_separator, components_separator, induction]
  | after_name name rest filled plain ends induction =>
      have endsToo : collapse rest = [] ∨ (collapse rest).head? = some separator := by
        rcases ends with rfl | leads
        · exact Or.inl rfl
        · exact Or.inr (by rw [head_collapse, leads])
      rw [collapse_name plain, components_name filled plain endsToo, components_name filled plain ends, induction]

/-! ### Separators at the end -/

/-- What is taken off the end of a path are separators. -/
theorem trim_end_split (path : Path) : ∃ count, path = trimEnd path ++ List.replicate count separator := by
  refine ⟨(path.reverse.takeWhile (· = separator)).length, ?_⟩
  have parts := congrArg List.reverse (List.takeWhile_append_dropWhile (p := (· = separator)) (l := path.reverse))
  have alike : (path.reverse.takeWhile (· = separator)).reverse =
      List.replicate (path.reverse.takeWhile (· = separator)).length separator := by
    rw [List.eq_replicate_iff]
    exact ⟨List.length_reverse, fun character member => by
      simpa using List.mem_takeWhile_imp (List.mem_reverse.mp member)⟩
  rw [List.reverse_append, List.reverse_reverse, alike] at parts
  exact parts.symm

theorem components_trim_end (path : Path) : components (trimEnd path) = components path := by
  obtain ⟨count, split⟩ := trim_end_split path
  have dropped : ∀ count, components (trimEnd path ++ List.replicate count separator) = components (trimEnd path) := by
    intro count
    induction count with
    | zero => rw [List.replicate_zero, List.append_nil]
    | succ count induction =>
        rw [List.replicate_succ', ← List.append_assoc, components_append, components_nil, List.append_nil, induction]
  conv => rhs; rw [split]
  exact (dropped count).symm

theorem trim_end_begins (path : Path) : trimEnd path <+: path := by
  obtain ⟨count, split⟩ := trim_end_split path
  exact ⟨_, split.symm⟩

theorem head_trim_end {path : Path} (filled : trimEnd path ≠ []) : (trimEnd path).head? = path.head? := by
  obtain ⟨count, split⟩ := trim_end_split path
  conv => rhs; rw [split]
  rw [List.head?_append, Option.or_of_isSome (List.isSome_head?.mpr filled)]

theorem ends_trim_end (path : Path) : endsWithSeparator (trimEnd path) = false := by
  rw [endsWithSeparator, trimEnd, List.getLast?_reverse]
  have next := List.head?_dropWhile_not (· = separator) path.reverse
  cases left : (path.reverse.dropWhile (· = separator)).head? with
  | none => rfl
  | some other =>
      rw [left] at next
      simpa using next

/-! ### Joining -/

/-- The components of an entry of a directory are those of the directory and its own. -/
theorem components_join {directory name : Path} (filled : name ≠ []) (plain : separator ∉ name) :
    components (join directory name) = components directory ++ [name] := by
  have relative : name.head? ≠ some separator := fun leads => plain (List.mem_of_mem_head? leads)
  rw [join, if_neg relative]
  split
  · next direct =>
      rcases (Bool.or_eq_true _ _).mp direct with empty | ended
      · obtain rfl := List.isEmpty_iff.mp empty
        rw [List.nil_append, components_of_name filled plain, components_nil, List.nil_append]
      · obtain ⟨front, rfl⟩ := List.getLast?_eq_some_iff.mp (of_decide_eq_true ended)
        rw [List.append_assoc, List.singleton_append, components_append, components_append,
          components_of_name filled plain, components_nil, List.append_nil]
  · rw [List.append_assoc, List.singleton_append, components_append, components_of_name filled plain]

theorem join_of_relative {directory name : Path} (relative : name.head? ≠ some separator) :
    join directory name = directory ++ name ∨ directory ≠ [] ∧ join directory name = directory ++ separator :: name := by
  rw [join, if_neg relative]
  split
  · exact Or.inl rfl
  · next named =>
      refine Or.inr ⟨fun empty => named (by simp [empty]), ?_⟩
      rw [List.append_assoc, List.singleton_append]

/-- An entry below a directory begins as the directory does. -/
theorem head_join {directory name : Path} (relative : name.head? ≠ some separator) (filled : directory ≠ []) :
    (join directory name).head? = directory.head? := by
  rcases join_of_relative relative with same | ⟨_, same⟩
  · rw [same, List.head?_append, Option.or_of_isSome (List.isSome_head?.mpr filled)]
  · rw [same, List.head?_append, Option.or_of_isSome (List.isSome_head?.mpr filled)]

theorem join_append {directory name : Path} (filled : name ≠ []) (rest : Path) :
    join directory (name ++ rest) = join directory name ++ rest := by
  have same : (name ++ rest).head? = name.head? := by
    rw [List.head?_append, Option.or_of_isSome (List.isSome_head?.mpr filled)]
  simp only [join, same]
  split
  · rfl
  · split <;> simp

/-! ### The part after the last separator -/

theorem base_name_suffix (path : Path) : baseName path <:+ path := by
  induction path with
  | nil => exact List.suffix_refl _
  | cons character rest induction =>
      rw [baseName]
      split
      · exact induction.trans (List.suffix_cons _ _)
      · split
        · exact List.suffix_cons _ _
        · exact List.suffix_refl _

/-- What stands before a separator makes no difference. -/
theorem base_name_append {rest : Path} (path : Path) (separated : separator ∈ rest) :
    baseName (path ++ rest) = baseName rest := by
  induction path with
  | nil => rfl
  | cons character path induction =>
      rw [List.cons_append, baseName, if_pos (by simp [separated]), induction]

theorem base_name_separator (rest : Path) :
    baseName (separator :: rest) = if separator ∈ rest then baseName rest else rest := by
  simp [baseName]

theorem base_name_after (path name : Path) (plain : separator ∉ name) :
    baseName (path ++ separator :: name) = name := by
  rw [base_name_append path List.mem_cons_self, baseName, if_neg (by simpa using plain), if_pos rfl]

theorem trailing_fragment_eq (path : Path) : trailingFragment path = baseName path := by
  rw [trailingFragment]
  split
  · next ended =>
      obtain ⟨front, rfl⟩ := List.getLast?_eq_some_iff.mp (of_decide_eq_true ended)
      exact (base_name_after front [] List.not_mem_nil).symm
  · rfl

theorem separator_mem_collapse {path : Path} : separator ∈ collapse path ↔ separator ∈ path := by
  refine ⟨fun member => (collapse_sublist path).subset member, fun member => ?_⟩
  induction path using path_induction with
  | empty => exact member
  | after_separator rest induction => exact List.mem_of_mem_head? (by rw [head_collapse]; rfl)
  | after_name name rest filled plain ends induction =>
      rw [collapse_name plain]
      exact List.mem_append_right _ (induction ((List.mem_append.mp member).resolve_left plain))

theorem base_name_collapse (path : Path) : baseName (collapse path) = baseName path := by
  induction path using path_induction with
  | empty => rfl
  | after_separator rest induction =>
      by_cases doubled : rest.head? = some separator
      · obtain ⟨tail, rfl⟩ := List.head?_eq_some_iff.mp doubled
        rw [collapse_doubled, induction]
        exact (base_name_append [separator] List.mem_cons_self).symm
      · rw [collapse_cons (fun both => doubled both.2), base_name_separator, base_name_separator, induction]
        exact ite_congr (propext separator_mem_collapse) (fun _ => rfl) fun plain => collapse_plain plain
  | after_name name rest filled plain ends induction =>
      rw [collapse_name plain]
      rcases ends with rfl | leads
      · rfl
      · have separated := List.mem_of_mem_head? leads
        rw [base_name_append name (separator_mem_collapse.mpr separated), base_name_append name separated, induction]

end LiveShell.Files
