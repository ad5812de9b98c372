import LiveShell.Proofs.StablePaths

/-!
Completing again and again. A line is replaced by its only candidate as long as that is another one. A candidate for a
directory ends with a separator, and the next request lists that directory; a candidate for a file only loses doubled
separators before its name, after which it stays. Every step but the last two goes one directory down, so there are no
more of them than the tree is deep.
-/

namespace LiveShell.Files

set_option autoImplicit false

/-! ### A name behind a directory -/

/-- A directory as it stands before the names in it. -/
def asHead (directory : Path) : Path :=
  directory ++ if directory = [] ∨ endsWithSeparator directory = true then [] else [separator]

variable {directory name : Path}

theorem as_head_of_head (head : directory = [] ∨ endsWithSeparator directory = true) :
    asHead directory = directory := by
  rw [asHead, if_pos head, List.append_nil]

theorem as_head_of_unended (filled : directory ≠ []) (unended : endsWithSeparator directory = false) :
    asHead directory = directory ++ [separator] := by
  rw [asHead, if_neg (by simp [filled, unended])]

theorem join_of_plain (plain : separator ∉ name) : join directory name = asHead directory ++ name := by
  have relative : name.head? ≠ some separator := fun leads => plain (List.mem_of_mem_head? leads)
  rw [join, if_neg relative]
  by_cases head : directory = [] ∨ endsWithSeparator directory = true
  · rw [if_pos (by simpa using head), as_head_of_head head]
  · rw [not_or, Bool.not_eq_true] at head
    rw [if_neg (by simpa using head), as_head_of_unended head.1 head.2]

theorem cut_as_head (directory : Path) (plain : separator ∉ name) : IsCut (asHead directory) name where
  ends := by
    by_cases head : directory = [] ∨ endsWithSeparator directory = true
    · rwa [as_head_of_head head]
    · rw [not_or, Bool.not_eq_true] at head
      rw [as_head_of_unended head.1 head.2]
      exact Or.inr (by simp [endsWithSeparator])
  plain := plain

theorem head_ends (path : Path) : headOf path = [] ∨ endsWithSeparator (headOf path) = true := by
  obtain ⟨head, fragment, cut, rfl⟩ := cut_exists path
  rw [head_of_cut cut]
  exact cut.ends

theorem all_separators_iff {path : Path} : path.all (· = separator) = true ↔ trimEnd path = [] := by
  rw [trimEnd, List.reverse_eq_nil_iff, List.dropWhile_eq_nil_iff]
  simp

/-- A directory part is a whole head, or what is left of one without the separators at its end. -/
theorem directory_name_cases (path : Path) :
    directoryName path = headOf path ∧ trimEnd (headOf path) = [] ∨
      directoryName path = trimEnd (headOf path) ∧ trimEnd (headOf path) ≠ [] := by
  rw [directoryName]
  by_cases every : (headOf path).all (· = separator) = true
  · exact Or.inl ⟨if_pos every, all_separators_iff.mp every⟩
  · exact Or.inr ⟨if_neg every, fun empty => every (all_separators_iff.mpr empty)⟩

/-- Before the names in it a directory part stands as it was typed, but for doubled separators. -/
theorem directory_name_begins (path : Path) : asHead (directoryName path) <+: headOf path := by
  rcases directory_name_cases path with ⟨same, _⟩ | ⟨same, filled⟩
  · have whole : asHead (directoryName path) = headOf path := by rw [same, as_head_of_head (head_ends path)]
    exact whole ▸ List.prefix_refl _
  · rw [same, as_head_of_unended filled (ends_trim_end _)]
    obtain ⟨count, split⟩ := trim_end_split (headOf path)
    cases count with
    | zero =>
        rw [List.replicate_zero, List.append_nil] at split
        rcases head_ends path with empty | ended
        · exact absurd (split.symm.trans empty) filled
        · rw [split, ends_trim_end] at ended
          cases ended
    | succ count =>
        refine ⟨List.replicate count separator, ?_⟩
        rw [List.append_assoc, List.singleton_append, ← List.replicate_succ, ← split]

/-- The directory part of a name behind a directory part is that again. -/
theorem directory_name_again (path : Path) (plain : separator ∉ name) :
    directoryName (asHead (directoryName path) ++ name) = directoryName path := by
  have head : headOf (asHead (directoryName path) ++ name) = asHead (directoryName path) :=
    head_of_cut (cut_as_head _ plain)
  rcases directory_name_cases path with ⟨same, bare⟩ | ⟨same, filled⟩
  · rw [directoryName, head, same, as_head_of_head (head_ends path), if_pos (all_separators_iff.mpr bare)]
  · have trimmed : trimEnd (trimEnd (headOf path) ++ [separator]) = trimEnd (headOf path) :=
      trim_end_of_unended (ends_trim_end _)
    rw [directoryName, head, same, as_head_of_unended filled (ends_trim_end _), if_neg, trimmed]
    rw [all_separators_iff, trimmed]
    exact filled

/-! ### Where lines lead -/

/-- How many components the longest name of an entry has. -/
def Tree.depth (tree : Tree) : Nat := (tree.entries.map (·.1.length)).foldr max 0

variable {tree : Tree} {current spot : List Path} {line hit : Path}

theorem length_le_depth {entry : List Path × Option String} (member : entry ∈ tree.entries) :
    entry.1.length ≤ tree.depth := by
  obtain ⟨entries⟩ := tree
  induction entries with
  | nil => cases member
  | cons first rest induction =>
      rcases List.mem_cons.mp member with rfl | later
      · exact Nat.le_max_left _ _
      · exact Nat.le_trans (induction later) (Nat.le_max_right _ _)

/-- The place whose entries complete a line. -/
def Tree.listed (tree : Tree) (current : List Path) (line : Path) : Except Fault (List Path) :=
  tree.walk (startOf current (splitTyped line).1) (components (splitTyped line).1)

theorem components_ended (path : Path) : components (path ++ [separator]) = components path := by
  rw [components_append, components_nil, List.append_nil]

/-- Where a path starts is settled by its first character. -/
theorem start_append {path : Path} (filled : path ≠ []) (rest : Path) :
    startOf current (path ++ rest) = startOf current path := by
  rw [startOf, startOf, List.head?_append, Option.or_of_isSome (List.isSome_head?.mpr filled)]

theorem components_as_head (directory : Path) : components (asHead directory) = components directory := by
  by_cases head : directory = [] ∨ endsWithSeparator directory = true
  · rw [as_head_of_head head]
  · rw [not_or, Bool.not_eq_true] at head
    rw [as_head_of_unended head.1 head.2, components_ended]

theorem start_as_head (directory : Path) : startOf current (asHead directory) = startOf current directory := by
  by_cases head : directory = [] ∨ endsWithSeparator directory = true
  · rw [as_head_of_head head]
  · rw [not_or, Bool.not_eq_true] at head
    rw [as_head_of_unended head.1 head.2, start_append head.1]

theorem clean_as_head (clean : '\x00' ∉ directory) : '\x00' ∉ asHead directory := by
  rw [asHead]
  split
  · rwa [List.append_nil]
  · simpa [separator] using clean

/-- Going along a head and then a name is going into the entry of that name. -/
theorem walk_behind (walked : tree.walk (startOf current directory) (components directory) = .ok spot)
    (filled : name ≠ []) (plain : separator ∉ name) :
    tree.walk (startOf current (asHead directory ++ name)) (components (asHead directory ++ name)) =
      tree.walk spot [name] := by
  have start : startOf current (asHead directory ++ name) = startOf current directory := by
    by_cases empty : directory = []
    · have relative : name.head? ≠ some separator := fun leads => plain (List.mem_of_mem_head? leads)
      subst empty
      exact if_neg relative
    · have filledToo : asHead directory ≠ [] := List.append_ne_nil_of_left_ne_nil empty _
      rw [start_append filledToo, start_as_head]
  rw [start, ← join_of_plain plain, components_join filled plain, walk_append, walked]
  rfl

/-- A line is completed in a place to an entry of it, and to no other. -/
structure CompletedTo (tree : Tree) (current : List Path) (line : Path) (spot : List Path) (hit : Path) : Prop where
  listed : tree.listed current line = .ok spot
  clean : '\x00' ∉ (splitTyped line).1
  isDirectory : tree.isDirectoryAt spot = true
  only : (sortNames (tree.childrenOf spot)).filter ((splitTyped line).2.isPrefixOf ·) = [hit]

theorem CompletedTo.begins (completed : CompletedTo tree current line spot hit) :
    hit ∈ tree.childrenOf spot ∧ (splitTyped line).2 <+: hit := by
  have member : hit ∈ (sortNames (tree.childrenOf spot)).filter ((splitTyped line).2.isPrefixOf ·) := by
    rw [completed.only]
    exact List.mem_singleton_self hit
  exact ⟨List.mem_mergeSort.mp (List.mem_of_mem_filter member),
    List.isPrefixOf_iff_prefix.mp (List.mem_filter.mp member).2⟩

/-- The candidate that an entry becomes when it is the only one. -/
def onlyCandidate (tree : Tree) (line : Path) (spot : List Path) (hit : Path) : Path :=
  asHead (splitTyped line).1 ++ hit ++ if tree.isDirectoryAt (spot ++ [hit]) then [separator] else []

theorem directory_of_entry (named : tree.Named)
    (walked : tree.walk (startOf current directory) (components directory) = .ok spot) (clean : '\x00' ∉ directory)
    (isDirectory : tree.isDirectoryAt spot = true) (child : name ∈ tree.childrenOf spot) :
    tree.resolve current (asHead directory ++ name) = .ok (spot ++ [name]) := by
  obtain ⟨proper, here⟩ := entry_of_child named child
  have cleanToo : '\x00' ∉ asHead directory ++ name := fun member =>
    (List.mem_append.mp member).elim (clean_as_head clean) proper.holdsNoNul
  rw [resolve_of_walk (List.append_ne_nil_of_right_ne_nil _ proper.filled) cleanToo
    (unended_of_cut (cut_as_head directory proper.plain) proper.filled), walk_behind walked proper.filled proper.plain]
  exact walk_entry isDirectory proper here

/-- Only a single entry becomes a single candidate. -/
theorem lone_of_joined {view : View} {hits : List Path} {next : Path}
    (single : (match hits with
      | [hit] => if view.isDirectory (join directory hit) then [hit ++ [separator]] else [hit]
      | hits => hits).map (join directory) = [next]) :
    ∃ hit, hits = [hit] ∧
      next = join directory (hit ++ if view.isDirectory (join directory hit) then [separator] else []) := by
  split at single
  · next hit =>
      refine ⟨hit, rfl, ?_⟩
      split at single <;> simp_all
  · next apart =>
      obtain ⟨hit, rfl, _⟩ := List.map_eq_singleton_iff.mp single
      exact absurd rfl (apart hit)

/-- A line with a single candidate is completed to a single entry, which becomes the candidate. -/
theorem completed_of_single {place : Place} {next : Path} (named : tree.Named)
    (made : completePath (.ofTree tree place) false line = .ok [next]) :
    ∃ spot hit, CompletedTo tree place.current line spot hit ∧ next = onlyCandidate tree line spot hit := by
  rcases parts : splitTyped line with ⟨directory, typed⟩
  rw [completePath, parts] at made
  obtain ⟨names, sorted, kept⟩ := Run.ok_of_bind made
  have single := Except.ok.inj kept
  simp only [Bool.false_eq_true, if_false] at single
  obtain ⟨hit, only, rfl⟩ := lone_of_joined single
  have among : hit ∈ names := List.mem_of_mem_filter (only ▸ List.mem_singleton_self hit)
  obtain ⟨entries, listed, _⟩ := listed_of_sorted sorted among
  obtain ⟨spot, walked, clean, isDirectory, rfl⟩ := walk_of_list listed
  rw [listSorted, listed] at sorted
  obtain rfl := Except.ok.inj sorted
  have child : hit ∈ tree.childrenOf spot := List.mem_mergeSort.mp among
  have proper := (entry_of_child named child).1
  have leads : View.isDirectory (.ofTree tree place) (asHead directory ++ hit) =
      tree.isDirectoryAt (spot ++ [hit]) := by
    show tree.isDirectory place.current _ = _
    rw [Tree.isDirectory, directory_of_entry named walked clean isDirectory child]
  refine ⟨spot, hit, ⟨?_, ?_, isDirectory, ?_⟩, ?_⟩
  · rwa [Tree.listed, parts]
  · rwa [parts]
  · rwa [parts]
  · rw [join_append proper.filled, join_of_plain proper.plain, leads, onlyCandidate, parts]

/-! ### One step -/

/-- A path to a directory may end with a separator. -/
theorem resolve_ended {path : Path} (filled : path ≠ []) (reached : tree.resolve current path = .ok spot)
    (isDirectory : tree.isDirectoryAt spot = true) : tree.resolve current (path ++ [separator]) = .ok spot := by
  obtain ⟨clean, walked⟩ := walk_of_resolve reached
  rw [Tree.resolve, if_neg (by simp), if_neg (by simpa [separator] using clean)]
  show (tree.walk (startOf current (path ++ [separator])) (components (path ++ [separator]))).bind _ = _
  rw [start_append filled, components_ended, walked]
  show (if endsWithSeparator (path ++ [separator]) && !tree.isDirectoryAt spot then _ else _) = _
  rw [isDirectory, Bool.not_true, Bool.and_false]
  rfl

/-- What is listed for a candidate for a directory is that directory. -/
theorem listed_of_directory (named : tree.Named) (completed : CompletedTo tree current line spot hit)
    (isDirectory : tree.isDirectoryAt (spot ++ [hit]) = true) :
    splitTyped (onlyCandidate tree line spot hit) = (onlyCandidate tree line spot hit, []) ∧
      tree.resolve current (onlyCandidate tree line spot hit) = .ok (spot ++ [hit]) ∧
      tree.listed current (onlyCandidate tree line spot hit) = .ok (spot ++ [hit]) := by
  have child := completed.begins.1
  have filled := List.append_ne_nil_of_right_ne_nil (asHead (splitTyped line).1) (entry_of_child named child).1.filled
  have resolved := resolve_ended filled
    (directory_of_entry named completed.listed completed.clean completed.isDirectory child) isDirectory
  have split : splitTyped (onlyCandidate tree line spot hit) = (onlyCandidate tree line spot hit, []) := by
    rw [onlyCandidate, if_pos isDirectory, splitTyped, if_pos (by simp [endsWithSeparator])]
  rw [Tree.listed, split, onlyCandidate, if_pos isDirectory]
  exact ⟨rfl, resolved, (walk_of_resolve resolved).2⟩

theorem walk_directory_name (path : Path) :
    tree.walk (startOf current (directoryName path)) (components (directoryName path)) =
      tree.walk (startOf current (headOf path)) (components (headOf path)) := by
  rcases directory_name_cases path with ⟨same, _⟩ | ⟨same, filled⟩
  · rw [same]
  · rw [same, components_trim_end, startOf, startOf, head_trim_end filled]

/-- What is listed for a candidate for a file is the place that the file is in. -/
theorem listed_of_file (named : tree.Named) (completed : CompletedTo tree current line spot hit)
    (isFile : tree.isDirectoryAt (spot ++ [hit]) = false) :
    splitTyped (onlyCandidate tree line spot hit) = (directoryName (onlyCandidate tree line spot hit), hit) ∧
      tree.listed current (onlyCandidate tree line spot hit) = .ok spot := by
  have proper := (entry_of_child named completed.begins.1).1
  have cut := cut_as_head (splitTyped line).1 proper.plain
  have split : splitTyped (asHead (splitTyped line).1 ++ hit) =
      (directoryName (asHead (splitTyped line).1 ++ hit), hit) := by
    rw [splitTyped, if_neg (by simp [unended_of_cut cut proper.filled]), base_name_of_cut cut]
  rw [Tree.listed, onlyCandidate, if_neg (by simp [isFile]), List.append_nil, split]
  refine ⟨rfl, ?_⟩
  rw [walk_directory_name, head_of_cut cut, components_as_head, start_as_head]
  exact completed.listed

/-- A candidate for a file is completed as a name behind its directory part. -/
theorem candidate_behind_file (named : tree.Named) (completed : CompletedTo tree current line spot hit)
    (isFile : tree.isDirectoryAt (spot ++ [hit]) = false) :
    onlyCandidate tree (onlyCandidate tree line spot hit) spot hit =
      asHead (directoryName (onlyCandidate tree line spot hit)) ++ hit := by
  conv => lhs; rw [onlyCandidate, (listed_of_file named completed isFile).1, isFile]
  exact List.append_nil _

/-- A line whose only candidate is a file is completed to that file again. -/
theorem again_of_file {place : Place} {next : Path} (named : tree.Named)
    (completed : CompletedTo tree place.current line spot hit) (isFile : tree.isDirectoryAt (spot ++ [hit]) = false)
    (made : completePath (.ofTree tree place) false (onlyCandidate tree line spot hit) = .ok [next]) :
    CompletedTo tree place.current (onlyCandidate tree line spot hit) spot hit ∧
      next = onlyCandidate tree (onlyCandidate tree line spot hit) spot hit := by
  obtain ⟨later, other, completedToo, rfl⟩ := completed_of_single named made
  obtain ⟨split, listed⟩ := listed_of_file named completed isFile
  obtain rfl : later = spot := Except.ok.inj (completedToo.listed.symm.trans listed)
  obtain rfl : hit = other := by
    have member : hit ∈ (sortNames (tree.childrenOf later)).filter (hit.isPrefixOf ·) :=
      List.mem_filter.mpr
        ⟨List.mem_mergeSort.mpr completed.begins.1, List.isPrefixOf_iff_prefix.mpr (List.prefix_refl hit)⟩
    have only := completedToo.only
    rw [split] at only
    rw [only] at member
    exact List.mem_singleton.mp member
  exact ⟨completedToo, rfl⟩

/-- A candidate has at most one separator more than the line. -/
theorem separators_of_candidate (plain : separator ∉ hit) :
    (onlyCandidate tree line spot hit).count separator ≤ line.count separator + 1 := by
  have before : asHead (splitTyped line).1 <+: line := by
    rw [splitTyped]
    split
    · next ended => exact (as_head_of_head (Or.inr ended)).symm ▸ List.prefix_refl line
    · obtain ⟨head, fragment, cut, same⟩ := cut_exists line
      have begins := directory_name_begins line
      rw [same, head_of_cut cut, ← same] at begins
      exact begins.trans ⟨fragment, same.symm⟩
  have tail : (if tree.isDirectoryAt (spot ++ [hit]) then [separator] else []).count separator ≤ 1 := by
    split <;> decide
  rw [onlyCandidate, List.count_append, List.count_append, List.count_eq_zero_of_not_mem plain, Nat.add_zero]
  exact Nat.add_le_add (before.sublist.count_le separator) tail

/-! ### Whole courses -/

/-- A line is replaced by its only candidate, which is another line. -/
def GoesOn (view : View) (line next : Path) : Prop := completePath view false line = .ok [next] ∧ next ≠ line

variable {place : Place} {course : List Path}

/-- A candidate for a file is replaced once at most, when doubled separators stand before its name. -/
theorem course_from_file (named : tree.Named) (completed : CompletedTo tree place.current line spot hit)
    (isFile : tree.isDirectoryAt (spot ++ [hit]) = false)
    (chain : (onlyCandidate tree line spot hit :: course).IsChain (GoesOn (.ofTree tree place))) :
    course.length ≤ 1 := by
  match course, chain with
  | [], _ => exact Nat.zero_le 1
  | [_], _ => exact Nat.le_refl 1
  | second :: third :: rest, chain =>
      obtain ⟨⟨made, _⟩, later⟩ := List.isChain_cons_cons.mp chain
      obtain ⟨completedToo, rfl⟩ := again_of_file named completed isFile made
      obtain ⟨⟨madeToo, other⟩, _⟩ := List.isChain_cons_cons.mp later
      obtain ⟨_, rfl⟩ := again_of_file named completedToo isFile madeToo
      have plain := (entry_of_child named completed.begins.1).1.plain
      refine absurd ?_ other
      rw [candidate_behind_file named completedToo isFile, candidate_behind_file named completed isFile,
        directory_name_again _ plain]

theorem depth_below_child (named : tree.Named) (child : hit ∈ tree.childrenOf spot) :
    spot.length + 1 ≤ tree.depth := by
  have here := (entry_of_child named child).2
  simp only [Tree.exists?, Bool.or_eq_true, List.any_eq_true, decide_eq_true_eq] at here
  obtain ⟨entry, member, same⟩ := here.resolve_left (by simp)
  have bounded := length_le_depth member
  rwa [same, List.length_append, List.length_singleton] at bounded

/-- A course goes one directory down at every step, until it comes to a file. -/
theorem course_within (named : tree.Named) (completed : CompletedTo tree place.current line spot hit)
    (chain : (onlyCandidate tree line spot hit :: course).IsChain (GoesOn (.ofTree tree place))) :
    course.length + spot.length ≤ tree.depth := by
  have below := depth_below_child named completed.begins.1
  induction course generalizing line spot hit with
  | nil => exact Nat.le_trans (by simp) below
  | cons next rest induction =>
      cases kind : tree.isDirectoryAt (spot ++ [hit]) with
      | false =>
          have short := course_from_file named completed kind chain
          omega
      | true =>
          obtain ⟨⟨made, _⟩, later⟩ := List.isChain_cons_cons.mp chain
          obtain ⟨deeper, entry, completedToo, rfl⟩ := completed_of_single named made
          obtain rfl : deeper = spot ++ [hit] :=
            Except.ok.inj (completedToo.listed.symm.trans (listed_of_directory named completed kind).2.2)
          have shorter := induction completedToo later (depth_below_child named completedToo.begins.1)
          simp only [List.length_append, List.length_cons, List.length_nil] at shorter ⊢
          omega

/-- Where a line is completed over and over, the steps are at most one more than the tree is deep. -/
theorem course_ends (named : tree.Named) (chain : (line :: course).IsChain (GoesOn (.ofTree tree place))) :
    course.length ≤ tree.depth + 1 := by
  cases course with
  | nil => exact Nat.zero_le _
  | cons next rest =>
      obtain ⟨⟨made, _⟩, later⟩ := List.isChain_cons_cons.mp chain
      obtain ⟨spot, hit, completed, rfl⟩ := completed_of_single named made
      have within := course_within named completed later
      simp only [List.length_cons]
      omega

/-! ### A step into a directory -/

/-- Before the names in it the directory part of a line without doubled separators stands as it was typed. -/
theorem as_head_of_single {head fragment : Path} (cut : IsCut head fragment) (single : IsSingle (head ++ fragment)) :
    asHead (splitTyped (head ++ fragment)).1 = head := by
  have joined := (split_of_cut cut single).2.2 [] (by simp)
  rwa [join_of_plain List.not_mem_nil, List.append_nil, List.append_nil] at joined

/-- What completes a line that ends with a separator are the entries of the directory that it names. -/
theorem entries_of_ended {path : Path} (named : tree.Named) (ended : endsWithSeparator path = true)
    (single : IsSingle path) (resolved : tree.resolve place.current path = .ok spot)
    (isDirectory : tree.isDirectoryAt spot = true) :
    ∃ entries : List Path, entries.Perm (tree.childrenOf spot) ∧
      (entries.Pairwise fun left right => pathText left ≤ pathText right) ∧
      completePath (.ofTree tree place) false path = .ok (behindHead (.ofTree tree place) path entries) := by
  have cut : IsCut path [] := ⟨Or.inr ended, List.not_mem_nil⟩
  have filled : path ≠ [] := by
    rintro rfl
    cases ended
  have clean := (walk_of_resolve resolved).1
  rw [← List.append_nil path] at single clean
  obtain ⟨hits, _, found, completed⟩ := completed_hits (lawful_of_tree named place) cut single clean
  have listed : (View.ofTree tree place).entries (headDirectory path []) = .ok (tree.childrenOf spot) := by
    show (tree.resolve place.current (headDirectory path [])).bind _ = _
    rw [headDirectory, if_neg filled, if_pos (Or.inl rfl), resolved]
    exact if_pos isDirectory
  have whole := completed false
  rw [List.append_nil] at whole
  change completePath _ false path = .ok (behindHead _ path hits) at whole
  generalize behindHead (View.ofTree tree place) path hits = candidates at found whole
  cases found with
  | unlisted failed =>
      rw [listed] at failed
      cases failed
  | @listed names hits entries found =>
      obtain rfl : names = tree.childrenOf spot := Except.ok.inj (entries.symm.trans listed)
      refine ⟨hits, ?_, found.ordered, whole⟩
      simpa using found.members

variable {next : Path}

/-- A candidate that ends with a separator is a longer line than the one it is for, and names a directory. -/
theorem descends (named : tree.Named) (single : IsSingle line)
    (made : completePath (.ofTree tree place) false line = .ok [next]) (ended : endsWithSeparator next = true) :
    line.length < next.length ∧ IsSingle next ∧
      ∃ spot, tree.resolve place.current next = .ok spot ∧ tree.isDirectoryAt spot = true := by
  obtain ⟨spot, hit, completed, rfl⟩ := completed_of_single named made
  have proper := (entry_of_child named completed.begins.1).1
  have isDirectory : tree.isDirectoryAt (spot ++ [hit]) = true := by
    by_contra isFile
    rw [onlyCandidate, if_neg isFile, List.append_nil,
      unended_of_cut (cut_as_head _ proper.plain) proper.filled] at ended
    cases ended
  have resolved := (listed_of_directory named completed isDirectory).2.1
  obtain ⟨head, fragment, cut, rfl⟩ := cut_exists line
  have typed := completed.begins.2
  rw [(split_of_cut cut single).2.1] at typed
  have shape : onlyCandidate tree (head ++ fragment) spot hit = head ++ hit ++ [separator] := by
    rw [onlyCandidate, as_head_of_single cut single, if_pos isDirectory]
  refine ⟨?_, ?_, spot ++ [hit], resolved, isDirectory⟩
  · have longer := typed.length_le
    simp only [shape, List.length_append, List.length_singleton]
    omega
  · rw [shape]
    exact single_behind_head cut single proper.filled proper.plain (Or.inr rfl)

theorem separators_of_step (named : tree.Named) (goes : GoesOn (.ofTree tree place) line next) :
    next.count separator ≤ line.count separator + 1 := by
  obtain ⟨spot, hit, completed, rfl⟩ := completed_of_single named goes.1
  exact separators_of_candidate (entry_of_child named completed.begins.1).1.plain

/-- Where no course is longer than a bound, there is one that cannot be taken further. -/
theorem course_to_end {view : View} {bound : Nat}
    (bounded : ∀ course, (line :: course).IsChain (GoesOn view) → course.length ≤ bound) :
    ∃ course, (line :: course).IsChain (GoesOn view) ∧
      ∀ next, ¬GoesOn view ((line :: course).getLast (List.cons_ne_nil line course)) next := by
  induction bound generalizing line with
  | zero =>
      refine ⟨[], List.isChain_singleton line, fun next goes => ?_⟩
      exact absurd (bounded [next] (List.isChain_pair.mpr goes)) (by simp)
  | succ bound induction =>
      by_cases stays : ∀ next, ¬GoesOn view line next
      · exact ⟨[], List.isChain_singleton line, stays⟩
      · push Not at stays
        obtain ⟨next, goes⟩ := stays
        obtain ⟨course, chain, ends⟩ := induction fun course chain =>
          Nat.le_of_succ_le_succ (bounded (next :: course) (List.isChain_cons_cons.mpr ⟨goes, chain⟩))
        exact ⟨next :: course, List.isChain_cons_cons.mpr ⟨goes, chain⟩, ends⟩

/-- Completing again and again goes down and ends. A single candidate with a separator at its end is longer than the
line, when that has no doubled separators; it has none itself, and the next request lists the directory that it names.
From any line at all, the line is replaced at most one time more than the tree is deep and gets at most one separator
each time, and then it stays. -/
theorem completion_descends_and_ends (tree : Tree) (named : tree.Named) (place : Place) :
    (∀ line next, IsSingle line → completePath (.ofTree tree place) false line = .ok [next] →
      endsWithSeparator next = true →
        line.length < next.length ∧ IsSingle next ∧
          ∃ spot entries, tree.resolve place.current next = .ok spot ∧ tree.isDirectoryAt spot = true ∧
            entries.Perm (tree.childrenOf spot) ∧
            (entries.Pairwise fun left right => pathText left ≤ pathText right) ∧
            completePath (.ofTree tree place) false next = .ok (behindHead (.ofTree tree place) next entries)) ∧
    ∀ line,
      (∀ course, (line :: course).IsChain (GoesOn (.ofTree tree place)) →
        course.length ≤ tree.depth + 1 ∧
          (line :: course).IsChain fun one next => next.count separator ≤ one.count separator + 1) ∧
      ∃ course, (line :: course).IsChain (GoesOn (.ofTree tree place)) ∧
        ∀ next, ¬GoesOn (.ofTree tree place) ((line :: course).getLast (List.cons_ne_nil line course)) next := by
  refine ⟨fun line next single made ended => ?_, fun line => ⟨fun course chain => ?_, ?_⟩⟩
  · obtain ⟨longer, singleToo, spot, resolved, isDirectory⟩ := descends named single made ended
    obtain ⟨entries, all, ordered, completed⟩ := entries_of_ended named ended singleToo resolved isDirectory
    exact ⟨longer, singleToo, spot, entries, resolved, isDirectory, all, ordered, completed⟩
  · exact ⟨course_ends named chain, chain.imp fun one next goes => separators_of_step named goes⟩
  · exact course_to_end fun course chain => course_ends named chain

theorem completion_descends_and_ends_in_library :
    let tree := Tree.put ⟨[]⟩ ["lib".toList, "src".toList] none
    let place : Place := ⟨[], "/".toList, []⟩
    let view := View.ofTree tree place
    tree.Named ∧ IsSingle "l".toList ∧ completePath view false "l".toList = .ok ["lib/".toList] ∧
      endsWithSeparator "lib/".toList = true ∧ "l".toList.length < "lib/".toList.length ∧ IsSingle "lib/".toList ∧
      completePath view false "lib/".toList = .ok ["lib/src/".toList] ∧
      ["l".toList, "lib/".toList, "lib/src/".toList].IsChain (GoesOn view) ∧
      ["lib/".toList, "lib/src/".toList].length ≤ tree.depth + 1 ∧
      ∃ course, ("l".toList :: course).IsChain (GoesOn view) ∧
        ∀ next, ¬GoesOn view (("l".toList :: course).getLast (List.cons_ne_nil _ course)) next := by
  intro tree place view
  have named : tree.Named := named_put (fun _ absent => absurd absent List.not_mem_nil) (by decide) none
  have single : IsSingle "l".toList := single_of_plain (by decide)
  have first : completePath view false "l".toList = .ok ["lib/".toList] := by decide +kernel
  have second : completePath view false "lib/".toList = .ok ["lib/src/".toList] := by decide +kernel
  have ended : endsWithSeparator "lib/".toList = true := by decide
  have chain : ["l".toList, "lib/".toList, "lib/src/".toList].IsChain (GoesOn view) :=
    List.isChain_cons_cons.mpr ⟨⟨first, by decide⟩, List.isChain_pair.mpr ⟨second, by decide⟩⟩
  obtain ⟨step, run⟩ := completion_descends_and_ends tree named place
  obtain ⟨longer, singleToo, _⟩ := step _ _ single first ended
  exact ⟨named, single, first, ended, longer, singleToo, second, chain, ((run _).1 _ chain).1, (run _).2⟩

end LiveShell.Files
