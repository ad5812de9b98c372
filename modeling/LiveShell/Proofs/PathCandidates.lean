import LiveShell.Proofs.PathText
import LiveShell.Proofs.RunSteps

/-!
Where paths lead in a tree, and where the candidates for a path do. A candidate is an entry of the directory that the
typed path leads to, so there is something at its end. A typed path and the same path going on are normalized alike as
long as they name the same home directory; then going on from the one is going on from the other.
-/

namespace LiveShell.Files

set_option autoImplicit false

/-! ### Walking a tree -/

/-- What a directory entry may be called. -/
structure IsEntryName (name : Path) : Prop where
  filled : name ≠ []
  plain : separator ∉ name
  holdsNoNul : '\x00' ∉ name
  notSelf : name ≠ ['.']
  notParent : name ≠ ['.', '.']

instance (name : Path) : Decidable (IsEntryName name) :=
  decidable_of_iff (name ≠ [] ∧ separator ∉ name ∧ '\x00' ∉ name ∧ name ≠ ['.'] ∧ name ≠ ['.', '.'])
    ⟨fun ⟨filled, plain, holdsNoNul, notSelf, notParent⟩ => ⟨filled, plain, holdsNoNul, notSelf, notParent⟩,
      fun proper => ⟨proper.filled, proper.plain, proper.holdsNoNul, proper.notSelf, proper.notParent⟩⟩

/-- All entries of a tree are called what entries may be called. -/
def Tree.Named (tree : Tree) : Prop := ∀ entry ∈ tree.entries, ∀ name ∈ entry.1, IsEntryName name

theorem named_add {tree : Tree} (named : tree.Named) {path : List Path} (proper : ∀ name ∈ path, IsEntryName name)
    (content : Option String) : Tree.Named ⟨tree.entries ++ [(path, content)]⟩ := by
  intro entry member
  rcases List.mem_append.mp member with before | added
  · exact named entry before
  · obtain rfl := List.mem_singleton.mp added
    exact proper

theorem named_parents {above rest : List Path} {tree : Tree} (named : tree.Named)
    (aboveProper : ∀ name ∈ above, IsEntryName name) (restProper : ∀ name ∈ rest, IsEntryName name) :
    (Tree.put.parents above rest tree).Named := by
  induction rest generalizing above tree with
  | nil => exact named
  | cons step rest induction =>
      cases rest with
      | nil => exact named
      | cons next later =>
          have stepProper : ∀ name ∈ above ++ [step], IsEntryName name := by
            intro name member
            rcases List.mem_append.mp member with before | here
            · exact aboveProper name before
            · exact restProper name (List.mem_singleton.mp here ▸ List.mem_cons_self)
          refine induction ?_ stepProper fun name member => restProper name (List.mem_cons_of_mem _ member)
          split
          · exact named
          · exact named_add named stepProper none

/-- Adding an entry under proper names keeps all names proper. -/
theorem named_put {tree : Tree} (named : tree.Named) {path : List Path} (proper : ∀ name ∈ path, IsEntryName name)
    (content : Option String) : (tree.put path content).Named := by
  have parents : (Tree.put.parents [] path tree).Named := named_parents named (by simp) proper
  rw [Tree.put]
  simp only
  split
  · exact parents
  · split
    · intro entry member
      obtain ⟨before, isEntry, rfl⟩ := List.mem_map.mp member
      exact parents before isEntry
    · exact named_add parents proper content

/-- Where the walk along a path starts. -/
def startOf (current : List Path) (path : Path) : List Path := if path.head? = some separator then [] else current

variable {tree : Tree} {current : List Path}

theorem walk_append (place first rest : List Path) :
    tree.walk place (first ++ rest) = (tree.walk place first).bind fun reached => tree.walk reached rest := by
  induction first generalizing place with
  | nil => rfl
  | cons step first induction =>
      simp only [List.cons_append, Tree.walk]
      split
      · rfl
      · split
        · exact induction place
        · split
          · exact induction place.dropLast
          · split
            · exact induction (place ++ [step])
            · rfl

theorem walk_entry {place : List Path} {name : Path} (directory : tree.isDirectoryAt place = true)
    (entry : IsEntryName name) (here : tree.exists? (place ++ [name]) = true) :
    tree.walk place [name] = .ok (place ++ [name]) := by
  rw [Tree.walk, if_neg (by simp [directory]), if_neg entry.notSelf, if_neg entry.notParent, if_pos here]
  rfl

theorem resolve_of_walk {path : Path} (filled : path ≠ []) (holdsNoNul : '\x00' ∉ path)
    (unended : endsWithSeparator path = false) :
    tree.resolve current path = tree.walk (startOf current path) (components path) := by
  rw [Tree.resolve, if_neg (by simpa using filled), if_neg (by simpa using holdsNoNul)]
  show (tree.walk (startOf current path) (components path)).bind _ = _
  cases tree.walk (startOf current path) (components path) with
  | error fault => rfl
  | ok place =>
      show (if endsWithSeparator path && !tree.isDirectoryAt place then _ else _) = _
      rw [unended]
      rfl

theorem walk_of_resolve {path : Path} {place : List Path} (reached : tree.resolve current path = .ok place) :
    '\x00' ∉ path ∧ tree.walk (startOf current path) (components path) = .ok place := by
  rw [Tree.resolve] at reached
  split at reached
  · cases reached
  · split at reached
    · cases reached
    · next holdsNoNul =>
        obtain ⟨spot, walked, ended⟩ := Run.ok_of_bind reached
        refine ⟨by simpa using holdsNoNul, ?_⟩
        split at ended
        · cases ended
        · cases ended
          exact walked

theorem walk_current {place : List Path}
    (walked : tree.walk (startOf current (listedAs [])) (components (listedAs [])) = .ok place) : place = current := by
  have here : components (listedAs []) = [['.']] := components_of_name (by decide) (by decide)
  have start : startOf current (listedAs []) = current := rfl
  rw [here, start, Tree.walk] at walked
  split at walked
  · cases walked
  · cases walked
    rfl

/-- A directory that is listed is walked to, also when it is the current one and has no name. -/
theorem walk_of_list {directory : Path} {names : List Path}
    (listed : tree.list current (listedAs directory) = .ok names) :
    ∃ place, tree.walk (startOf current directory) (components directory) = .ok place ∧ '\x00' ∉ directory ∧
      tree.isDirectoryAt place = true ∧ names = tree.childrenOf place := by
  obtain ⟨place, resolved, kept⟩ := Run.ok_of_bind listed
  obtain ⟨holdsNoNul, walked⟩ := walk_of_resolve resolved
  split at kept
  · next isDirectory =>
      cases kept
      by_cases unnamed : directory = []
      · subst unnamed
        obtain rfl := walk_current walked
        exact ⟨place, by rw [components_nil]; rfl, List.not_mem_nil, isDirectory, rfl⟩
      · rw [listedAs, if_neg (by simpa using unnamed)] at holdsNoNul walked
        exact ⟨place, walked, holdsNoNul, isDirectory, rfl⟩
  · cases kept

theorem entry_of_child {place : List Path} {name : Path} (named : tree.Named)
    (child : name ∈ tree.childrenOf place) : IsEntryName name ∧ tree.exists? (place ++ [name]) = true := by
  rw [Tree.childrenOf, List.mem_filterMap] at child
  obtain ⟨⟨path, content⟩, member, last⟩ := child
  cases ended : path.getLast? with
  | none => simp [ended] at last
  | some final =>
      simp only [ended, Option.ite_none_right_eq_some, Option.some.injEq] at last
      obtain ⟨above, rfl⟩ := last
      obtain rfl : place ++ [final] = path := above ▸ List.dropLast_append_getLast? final ended
      refine ⟨named _ member final (by simp), ?_⟩
      simp only [Tree.exists?, Bool.or_eq_true, List.any_eq_true]
      exact Or.inr ⟨_, member, decide_eq_true rfl⟩

/-! ### Candidates -/

theorem listed_of_sorted {view : View} {directory : Path} {names : List Path}
    (sorted : listSorted view directory = .ok names) {name : Path} (member : name ∈ names) :
    ∃ entries, view.entries (listedAs directory) = .ok entries ∧ name ∈ entries := by
  rw [listSorted] at sorted
  split at sorted
  · next entries listed =>
      cases sorted
      exact ⟨entries, listed, List.mem_mergeSort.mp member⟩
  · cases sorted
  · cases sorted
    cases member

/-- A candidate is an entry of the directory of the typed path, perhaps with a separator. -/
theorem candidate_of_entry {view : View} {path candidate : Path} {candidates : List Path}
    (made : completePath view false path = .ok candidates) (member : candidate ∈ candidates) :
    ∃ entries name tail, view.entries (listedAs (splitTyped path).1) = .ok entries ∧ name ∈ entries ∧
      (tail = [] ∨ tail = [separator]) ∧ candidate = join (splitTyped path).1 (name ++ tail) := by
  obtain ⟨names, sorted, kept⟩ := Run.ok_of_bind made
  obtain rfl := Except.ok.inj kept
  obtain ⟨hit, isHit, rfl⟩ := List.mem_map.mp member
  have found : ∃ name tail, name ∈ names ∧ (tail = [] ∨ tail = [separator]) ∧ hit = name ++ tail := by
    simp only [Bool.false_eq_true, if_false] at isHit
    split at isHit
    · next only alone =>
        have among : only ∈ names := List.mem_of_mem_filter (alone ▸ List.mem_singleton_self only)
        split at isHit
        · exact ⟨only, [separator], among, Or.inr rfl, List.mem_singleton.mp isHit⟩
        · exact ⟨only, [], among, Or.inl rfl, by rw [List.append_nil, List.mem_singleton.mp isHit]⟩
    · exact ⟨hit, [], List.mem_of_mem_filter isHit, Or.inl rfl, (List.append_nil hit).symm⟩
  obtain ⟨name, tail, among, ending, rfl⟩ := found
  obtain ⟨entries, listed, isEntry⟩ := listed_of_sorted sorted among
  exact ⟨entries, name, tail, listed, isEntry, ending, rfl⟩

/-- Where a candidate leads, without doubled separators and one at the end, there is an entry of the tree. -/
theorem candidate_exists {place : Place} {path candidate : Path} {candidates : List Path} (named : tree.Named)
    (made : completePath (.ofTree tree place) false path = .ok candidates) (member : candidate ∈ candidates) :
    ∃ spot, tree.resolve place.current (trimEnd (collapse candidate)) = .ok spot ∧ tree.exists? spot = true := by
  obtain ⟨entries, name, tail, listed, isEntry, ending, rfl⟩ := candidate_of_entry made member
  obtain ⟨reached, walked, holdsNoNul, isDirectory, rfl⟩ := walk_of_list listed
  obtain ⟨proper, here⟩ := entry_of_child named isEntry
  generalize (splitTyped path).1 = directory at *
  refine ⟨reached ++ [name], ?_, here⟩
  have steps : components (trimEnd (collapse (join directory (name ++ tail)))) = components directory ++ [name] := by
    rw [components_trim_end, components_collapse, join_append proper.filled]
    rcases ending with rfl | rfl
    · rw [List.append_nil, components_join proper.filled proper.plain]
    · rw [components_append, components_nil, List.append_nil, components_join proper.filled proper.plain]
  have filled : trimEnd (collapse (join directory (name ++ tail))) ≠ [] := by
    intro empty
    rw [empty, components_nil] at steps
    exact List.append_ne_nil_of_right_ne_nil _ (List.cons_ne_nil _ _) steps.symm
  have relative : (name ++ tail).head? ≠ some separator := by
    rw [List.head?_append, Option.or_of_isSome (List.isSome_head?.mpr proper.filled)]
    exact fun leads => proper.plain (List.mem_of_mem_head? leads)
  have clean : '\x00' ∉ trimEnd (collapse (join directory (name ++ tail))) := by
    intro member
    have whole := (collapse_sublist _).subset ((trim_end_begins _).subset member)
    have apart : '\x00' ∉ name ++ tail := by
      rcases ending with rfl | rfl
      · simpa using proper.holdsNoNul
      · simpa [separator] using proper.holdsNoNul
    rcases join_of_relative relative with same | ⟨_, same⟩
    · rw [same, List.mem_append] at whole
      exact whole.elim holdsNoNul apart
    · rw [same, List.mem_append, List.mem_cons] at whole
      exact whole.elim holdsNoNul fun rest => rest.elim (by decide) apart
  have start : startOf place.current (trimEnd (collapse (join directory (name ++ tail)))) =
      startOf place.current directory := by
    rw [startOf, startOf, head_trim_end filled, head_collapse]
    by_cases unnamed : directory = []
    · have whole : join directory (name ++ tail) = name ++ tail := by
        rw [unnamed, join, if_neg relative]
        rfl
      rw [whole, if_neg relative, unnamed]
      rfl
    · rw [head_join relative unnamed]
  rw [resolve_of_walk filled clean (ends_trim_end _), steps, start, walk_append, walked]
  exact walk_entry isDirectory proper here

/-! ### Home directories -/

/-- A path and what it goes on to name the same home directory, or both name none. -/
def SameHome (typed suffix : Path) : Prop := (splitHome (typed ++ suffix)).map (·.1) = (splitHome typed).map (·.1)

/-- A home directory is named up to the first separator. -/
theorem split_home_eq {path user rest : Path} (split : splitHome path = some (user, rest)) :
    path = '~' :: (user ++ rest) ∧ separator ∉ user ∧ (rest = [] ∨ rest.head? = some separator) := by
  unfold splitHome at split
  split at split
  · next tail =>
      cases split
      refine ⟨by rw [List.takeWhile_append_dropWhile], fun member => ?_, ?_⟩
      · simpa using List.mem_takeWhile_imp member
      have next := List.head?_dropWhile_not (· ≠ separator) tail
      cases left : (tail.dropWhile (· ≠ separator)).head? with
      | none => exact Or.inl (List.head?_eq_none_iff.mp left)
      | some other =>
          rw [left] at next
          exact Or.inr (by simpa using next)
  · cases split

theorem split_home_append {typed suffix user rest : Path} (same : SameHome typed suffix)
    (split : splitHome typed = some (user, rest)) : splitHome (typed ++ suffix) = some (user, rest ++ suffix) := by
  rw [SameHome, split, Option.map_some, Option.map_eq_some_iff] at same
  obtain ⟨⟨other, later⟩, splitToo, rfl⟩ := same
  have whole := (split_home_eq splitToo).1
  rw [(split_home_eq split).1, List.cons_append, List.append_assoc, List.cons.injEq, List.append_right_inj] at whole
  rw [splitToo, whole.2]

/-- What a path is when the home directory in it is written out: a user that is not known stays. -/
inductive Expanded (view : View) (path : Path) : Path → Prop
  | plain (split : splitHome path = none) : Expanded view path path
  | unknown (user rest : Path) (split : splitHome path = some (user, rest)) (holdsNoNul : '\x00' ∉ user)
      (home : view.home? user = none) : Expanded view path path
  | known (user rest directory : Path) (split : splitHome path = some (user, rest)) (holdsNoNul : '\x00' ∉ user)
      (home : view.home? user = some directory) :
      Expanded view path (if (trimEnd directory ++ rest).isEmpty then [separator] else trimEnd directory ++ rest)

theorem expand_home_iff {view : View} {path expanded : Path} :
    expandHome view path = .ok expanded ↔ Expanded view path expanded := by
  constructor
  · intro expands
    cases split : splitHome path with
    | none =>
        simp only [expandHome, split] at expands
        cases expands
        exact .plain split
    | some pair =>
        obtain ⟨user, rest⟩ := pair
        simp only [expandHome, split] at expands
        split at expands
        · cases expands
        · next clean =>
            have holdsNoNul : '\x00' ∉ user := by simpa using clean
            cases home : view.home? user with
            | none =>
                simp only [home] at expands
                cases expands
                exact .unknown user rest split holdsNoNul home
            | some directory =>
                simp only [home] at expands
                cases expands
                exact .known user rest directory split holdsNoNul home
  · rintro (split | ⟨user, rest, split, holdsNoNul, home⟩ | ⟨user, rest, directory, split, holdsNoNul, home⟩)
    · simp only [expandHome, split]
      rfl
    · simp only [expandHome, split, home, List.contains_eq_mem, holdsNoNul]
      rfl
    · simp only [expandHome, split, home, List.contains_eq_mem, holdsNoNul]
      rfl

/-- What goes on from a path is expanded as the path is, up to doubled separators. -/
theorem expand_append {view : View} {typed suffix expanded : Path} (same : SameHome typed suffix)
    (expands : Expanded view typed expanded) :
    ∃ later, Expanded view (typed ++ suffix) later ∧ collapse later = collapse (expanded ++ suffix) := by
  cases expands with
  | plain split =>
      rw [SameHome, split, Option.map_none, Option.map_eq_none_iff] at same
      exact ⟨_, .plain same, rfl⟩
  | unknown user rest split holdsNoNul home =>
      exact ⟨_, .unknown user _ (split_home_append same split) holdsNoNul home, rfl⟩
  | known user rest directory split holdsNoNul home =>
      have splitToo := split_home_append same split
      refine ⟨_, .known user _ directory splitToo holdsNoNul home, ?_⟩
      by_cases top : trimEnd directory ++ rest = []
      · -- The home directory is the top: its separator and the next one are collapsed.
        obtain ⟨above, rfl⟩ := List.append_eq_nil_iff.mp top
        have next := (split_home_eq splitToo).2.2
        rw [List.nil_append] at next
        rw [above]
        rcases next with rfl | leads
        · rfl
        · obtain ⟨tail, rfl⟩ := List.head?_eq_some_iff.mp leads
          exact (collapse_doubled tail).symm
      · have filled : trimEnd directory ++ rest ++ suffix ≠ [] := List.append_ne_nil_of_left_ne_nil top suffix
        rw [← List.append_assoc, if_neg (mt List.isEmpty_iff.mp filled), if_neg (mt List.isEmpty_iff.mp top)]

theorem expanded_of_normalize {view : View} {path normal : Path} (normalized : normalize view path = .ok normal) :
    ∃ expanded, Expanded view path expanded ∧ collapse expanded = normal := by
  cases expands : expandHome view path with
  | error fault =>
      rw [normalize, expands] at normalized
      cases normalized
  | ok expanded =>
      rw [normalize, expands] at normalized
      exact ⟨expanded, expand_home_iff.mp expands, Except.ok.inj normalized⟩

/-- What goes on from a path is normalized as what goes on from the normalized path, as long as the home directory
stays the same. -/
theorem normalize_append {view : View} {typed suffix path : Path} (same : SameHome typed suffix)
    (normal : normalize view typed = .ok path) :
    normalize view (typed ++ suffix) = .ok (collapse (path ++ suffix)) := by
  obtain ⟨expanded, expands, rfl⟩ := expanded_of_normalize normal
  obtain ⟨later, expandsToo, collapsed⟩ := expand_append same expands
  rw [normalize, expand_home_iff.mpr expandsToo, collapse_append, ← collapsed]
  rfl

/-- The part still being typed stands at the end of what was typed, unless it is a home directory that is. -/
theorem fragment_suffix {view : View} {typed path : Path} (normal : normalize view typed = .ok path)
    (below : splitHome typed = none ∨ separator ∈ typed) : trailingFragment path <:+ typed := by
  obtain ⟨expanded, expands, rfl⟩ := expanded_of_normalize normal
  rw [trailing_fragment_eq, base_name_collapse]
  cases expands with
  | plain | unknown => exact base_name_suffix typed
  | known user rest directory split =>
      obtain ⟨rfl, plain, _⟩ := split_home_eq split
      have separated : separator ∈ rest := by
        have within := below.resolve_left (by simp [split])
        rw [List.mem_cons, List.mem_append] at within
        exact (within.resolve_left (by decide)).resolve_left plain
      have filled : trimEnd directory ++ rest ≠ [] :=
        List.append_ne_nil_of_right_ne_nil _ (List.ne_nil_of_mem separated)
      rw [if_neg (mt List.isEmpty_iff.mp filled), base_name_append _ separated]
      exact (base_name_suffix rest).trans ((List.suffix_append user rest).trans (List.suffix_cons _ _))

end LiveShell.Files
