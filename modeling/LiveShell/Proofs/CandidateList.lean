import LiveShell.Proofs.PathCandidates

/-!
Which candidates a path has. A path is cut after its last separator: the head says which directory is listed, and the
fragment what its entries have to begin with. The directory is listed under a name that is taken from the head without
its separator, and every entry is joined to that name again; both together give back the head as it was typed.
-/

namespace LiveShell.Files

set_option autoImplicit false

/-! ### What is asked of a file system -/

/-- What every file system keeps to: an entry has a name without separators, and only a path that holds the forbidden
character is refused for it. Listings may fail, and may come in any order. -/
structure View.Lawful (view : View) : Prop where
  named : ∀ directory names, view.entries directory = .ok names → ∀ name ∈ names, name ≠ [] ∧ separator ∉ name
  refused : ∀ directory, view.entries directory = .error .holdsNul → '\x00' ∈ directory

theorem walk_refuses_nothing (tree : Tree) (place steps : List Path) : tree.walk place steps ≠ .error .holdsNul := by
  induction steps generalizing place with
  | nil =>
      intro refused
      cases refused
  | cons step rest induction =>
      intro refused
      rw [Tree.walk] at refused
      repeat' split at refused
      · cases refused
      · cases refused
      · exact induction place refused
      · exact induction place.dropLast refused
      · exact induction (place ++ [step]) refused
      · cases refused

theorem list_refuses {tree : Tree} {current : List Path} {path : Path}
    (refused : tree.list current path = .error .holdsNul) : '\x00' ∈ path := by
  by_contra clean
  rcases Run.error_of_bind refused with failed | ⟨place, _, failed⟩
  · rw [Tree.resolve] at failed
    split at failed
    · cases failed
    · rw [if_neg (by simpa using clean)] at failed
      rcases Run.error_of_bind failed with stopped | ⟨place, _, ended⟩
      · exact walk_refuses_nothing _ _ _ stopped
      · split at ended <;> cases ended
  · split at failed <;> cases failed

theorem lawful_of_tree {tree : Tree} (named : tree.Named) (place : Place) : (View.ofTree tree place).Lawful where
  named directory names listed name member := by
    obtain ⟨spot, _, kept⟩ := Run.ok_of_bind listed
    split at kept
    · cases kept
      have proper := (entry_of_child named member).1
      exact ⟨proper.filled, proper.plain⟩
    · cases kept
  refused _ refused := list_refuses refused

/-! ### Cutting a path -/

/-- A path in two parts: a head up to its last separator, and the fragment after it. -/
structure IsCut (head fragment : Path) : Prop where
  ends : head = [] ∨ endsWithSeparator head = true
  plain : separator ∉ fragment

/-- A path without two separators next to each other. -/
def IsSingle (path : Path) : Prop := ¬[separator, separator] <:+: path

/-- The directory that a head names, as the file system is asked for it: the current one for no head, and otherwise the
head, without its separator when a name follows. -/
def headDirectory (head fragment : Path) : Path :=
  if head = [] then ['.'] else if fragment = [] ∨ head = [separator] then head else head.dropLast

variable {head fragment : Path}

theorem head_of_plain {path : Path} (plain : separator ∉ path) : headOf path = [] := by
  cases path with
  | nil => rfl
  | cons character rest => rw [headOf, if_neg (by simpa using plain)]

theorem head_of_after (front : Path) {name : Path} (plain : separator ∉ name) :
    headOf (front ++ separator :: name) = front ++ [separator] := by
  induction front with
  | nil => rw [List.nil_append, headOf, if_pos (by simp), head_of_plain plain, List.nil_append]
  | cons character front induction => rw [List.cons_append, headOf, if_pos (by simp), induction, List.cons_append]

theorem base_name_of_plain {path : Path} (plain : separator ∉ path) : baseName path = path := by
  cases path with
  | nil => rfl
  | cons character rest =>
      rw [List.mem_cons, not_or] at plain
      rw [baseName, if_neg (by simpa using plain.2), if_neg (fun same => plain.1 same.symm)]

/-- A head is empty, or something that a separator ends. -/
theorem head_cases (cut : IsCut head fragment) : head = [] ∨ ∃ front, head = front ++ [separator] := by
  rcases cut.ends with empty | ended
  · exact Or.inl empty
  · obtain ⟨front, same⟩ := List.getLast?_eq_some_iff.mp (of_decide_eq_true ended)
    exact Or.inr ⟨front, same⟩

theorem head_of_cut (cut : IsCut head fragment) : headOf (head ++ fragment) = head := by
  rcases head_cases cut with rfl | ⟨front, rfl⟩
  · exact head_of_plain cut.plain
  · rw [List.append_assoc, List.singleton_append, head_of_after front cut.plain]

theorem base_name_of_cut (cut : IsCut head fragment) : baseName (head ++ fragment) = fragment := by
  rcases head_cases cut with rfl | ⟨front, rfl⟩
  · exact base_name_of_plain cut.plain
  · rw [List.append_assoc, List.singleton_append, base_name_after front fragment cut.plain]

theorem unended_of_cut (cut : IsCut head fragment) (filled : fragment ≠ []) :
    endsWithSeparator (head ++ fragment) = false := by
  rw [endsWithSeparator, List.getLast?_append_of_ne_nil _ filled, decide_eq_false_iff_not]
  intro ended
  exact cut.plain (List.mem_of_getLast? ended)

/-- What stands before the separator at the end of a head does not end with one itself. -/
theorem front_unended {front : Path} (single : IsSingle (front ++ [separator] ++ fragment)) :
    endsWithSeparator front = false := by
  rw [endsWithSeparator, decide_eq_false_iff_not]
  intro ended
  obtain ⟨before, rfl⟩ := List.getLast?_eq_some_iff.mp ended
  exact single ⟨before, fragment, by simp⟩

theorem trim_end_of_unended {path : Path} (unended : endsWithSeparator path = false) :
    trimEnd (path ++ [separator]) = path := by
  rw [endsWithSeparator, decide_eq_false_iff_not, ← List.head?_reverse] at unended
  rw [trimEnd, List.reverse_append, List.reverse_singleton, List.singleton_append,
    List.dropWhile_cons_of_pos (by simp)]
  cases turned : path.reverse with
  | nil => rw [List.reverse_eq_nil_iff.mp turned]; rfl
  | cons last before =>
      rw [turned, List.head?_cons, Option.some_inj] at unended
      rw [List.dropWhile_cons_of_neg (by simpa using unended), ← turned, List.reverse_reverse]

/-- The directory of a path with a name at its end: its head without the separator, unless that is the top. -/
theorem directory_name_of_cut (cut : IsCut head fragment) (single : IsSingle (head ++ fragment)) :
    directoryName (head ++ fragment) = if head = [separator] then head else head.dropLast := by
  rw [directoryName, head_of_cut cut]
  rcases head_cases cut with rfl | ⟨front, rfl⟩
  · rfl
  · have unended := front_unended single
    by_cases top : front = []
    · subst top
      rfl
    · have named : ¬(front ++ [separator]).all (· = separator) := by
        intro every
        have last := List.getLast_mem top
        have isSeparator : front.getLast top = separator := by
          simpa using List.all_eq_true.mp every _ (List.mem_append_left _ last)
        rw [endsWithSeparator, List.getLast?_eq_getLast_of_ne_nil top, isSeparator] at unended
        simp at unended
      rw [if_neg named, trim_end_of_unended unended, if_neg (by simpa using top), List.dropLast_concat]

/-- The directory of a path is listed as its head says, and its entries are joined to the head again. -/
theorem split_of_cut (cut : IsCut head fragment) (single : IsSingle (head ++ fragment)) :
    listedAs (splitTyped (head ++ fragment)).1 = headDirectory head fragment ∧
      (splitTyped (head ++ fragment)).2 = fragment ∧
      ∀ entry : Path, entry.head? ≠ some separator →
        join (splitTyped (head ++ fragment)).1 entry = head ++ entry := by
  by_cases bare : fragment = []
  · subst bare
    rw [List.append_nil]
    rcases head_cases cut with rfl | ⟨front, rfl⟩
    · exact ⟨rfl, rfl, fun entry relative => by rw [join, if_neg relative]; rfl⟩
    · have ended : endsWithSeparator (front ++ [separator]) = true := by simp [endsWithSeparator]
      rw [splitTyped, if_pos ended]
      refine ⟨?_, rfl, fun entry relative => ?_⟩
      · rw [listedAs, if_neg (by simp), headDirectory, if_neg (by simp), if_pos (Or.inl rfl)]
      · rw [join, if_neg relative, if_pos (by rw [ended, Bool.or_true])]
  · rw [splitTyped, if_neg (by simp [unended_of_cut cut bare]), base_name_of_cut cut,
      directory_name_of_cut cut single]
    refine ⟨?_, rfl, fun entry relative => ?_⟩
    · rcases head_cases cut with rfl | ⟨front, rfl⟩
      · rfl
      · by_cases top : front = []
        · subst top
          simp [listedAs, headDirectory, bare]
        · simp [listedAs, headDirectory, bare, top]
    · rcases head_cases cut with rfl | ⟨front, rfl⟩
      · simp [join, relative]
      · have unended := front_unended single
        by_cases top : front = []
        · subst top
          simp [join, relative, endsWithSeparator]
        · simp [join, relative, top, unended]

/-! ### Candidates -/

/-- The entries with a fragment at their start, in the order of their names. -/
structure IsHits (names : List Path) (fragment : Path) (hits : List Path) : Prop where
  members : hits.Perm (names.filter (fragment.isPrefixOf ·))
  ordered : hits.Pairwise fun left right => pathText left ≤ pathText right

/-- Entries behind a head. The only one, if it is a directory, gets a separator. -/
def behindHead (view : View) (head : Path) (hits : List Path) : List Path :=
  hits.map fun hit => head ++ hit ++ if hits.length = 1 ∧ view.isDirectory (head ++ hit) then [separator] else []

/-- The candidates for a head and a fragment: the entries of the head's directory that begin with the fragment, and
none if the directory cannot be listed. -/
inductive AreCandidates (view : View) (head fragment : Path) : List Path → Prop
  | listed {names hits : List Path} (entries : view.entries (headDirectory head fragment) = .ok names)
      (found : IsHits names fragment hits) : AreCandidates view head fragment (behindHead view head hits)
  | unlisted {fault : Fault} (failed : view.entries (headDirectory head fragment) = .error fault) :
      AreCandidates view head fragment []

theorem hits_of_sorted (names : List Path) (fragment : Path) :
    IsHits names fragment ((sortNames names).filter (fragment.isPrefixOf ·)) where
  members := (List.mergeSort_perm names _).filter _
  ordered := by
    apply List.Pairwise.filter
    have sorted := @List.pairwise_mergeSort _ (fun left right => decide (pathText left ≤ pathText right))
      (fun first second third lower upper =>
        decide_eq_true (String.le_trans (of_decide_eq_true lower) (of_decide_eq_true upper)))
      (fun first second => by simpa using String.le_total (pathText first) (pathText second)) names
    exact sorted.imp fun ordered => of_decide_eq_true ordered

variable {view : View}

/-- Joining entries to a directory puts them behind the head that it was typed as. -/
theorem joined_behind_head {directory : Path} {hits : List Path} (proper : ∀ hit ∈ hits, hit ≠ [] ∧ separator ∉ hit)
    (joined : ∀ entry : Path, entry.head? ≠ some separator → join directory entry = head ++ entry) :
    (match hits with
      | [hit] => if view.isDirectory (join directory hit) then [hit ++ [separator]] else [hit]
      | hits => hits).map (join directory) = behindHead view head hits := by
  have relative : ∀ hit ∈ hits, hit.head? ≠ some separator := fun hit member leads =>
    (proper hit member).2 (List.mem_of_mem_head? leads)
  have several : hits.length ≠ 1 → hits.map (join directory) = behindHead view head hits := by
    intro many
    apply List.map_congr_left
    intro hit member
    rw [joined hit (relative hit member), if_neg fun both => many both.1, List.append_nil]
  split
  · next hit =>
      have alone := joined hit (relative hit (List.mem_singleton_self hit))
      rw [alone]
      by_cases isDirectory : view.isDirectory (head ++ hit) = true
      · have filled := (proper hit (List.mem_singleton_self hit)).1
        have leads : (hit ++ [separator]).head? = hit.head? := by
          rw [List.head?_append, Option.or_of_isSome (List.isSome_head?.mpr filled)]
        have whole := joined (hit ++ [separator]) (leads ▸ relative hit (List.mem_singleton_self hit))
        simp [behindHead, isDirectory, whole]
      · simp [behindHead, isDirectory, alone]
  · next apart =>
      apply several
      intro one
      obtain ⟨hit, rfl⟩ := List.length_eq_one_iff.mp one
      exact apart hit rfl

theorem head_directory_clean (clean : '\x00' ∉ head ++ fragment) : '\x00' ∉ headDirectory head fragment := by
  have headClean : '\x00' ∉ head := fun member => clean (List.mem_append_left _ member)
  rw [headDirectory]
  split
  · decide
  · split
    · exact headClean
    · exact fun member => headClean (List.dropLast_subset _ member)

/-- The entries that are completed: all of them, or only those that are directories. -/
def keptHits (view : View) (head : Path) (onlyDirectories : Bool) (hits : List Path) : List Path :=
  if onlyDirectories then hits.filter fun hit => view.isDirectory (head ++ hit) else hits

theorem kept_hits_sublist {view : View} {head : Path} {only : Bool} {hits : List Path} :
    (keptHits view head only hits).Sublist hits := by
  rw [keptHits]
  split
  · exact List.filter_sublist
  · exact List.Sublist.refl _

/-- Completing a path finds entries of its directory, whether or not only directories are asked for, and puts those that
count behind its head. -/
theorem completed_hits (lawful : view.Lawful) (cut : IsCut head fragment) (single : IsSingle (head ++ fragment))
    (clean : '\x00' ∉ head ++ fragment) :
    ∃ hits : List Path, (∀ hit ∈ hits, hit ≠ [] ∧ separator ∉ hit) ∧
      AreCandidates view head fragment (behindHead view head hits) ∧
      ∀ only, completePath view only (head ++ fragment) = .ok (behindHead view head (keptHits view head only hits)) := by
  obtain ⟨listed, rest, joined⟩ := split_of_cut cut single
  rcases parts : splitTyped (head ++ fragment) with ⟨directory, typed⟩
  rw [parts] at listed rest joined
  obtain rfl : typed = fragment := rest
  rcases entries : view.entries (headDirectory head typed) with fault | names
  · have nothing : listSorted view directory = .ok [] := by
      rw [listSorted, show listedAs directory = _ from listed, entries]
      cases fault with
      | holdsNul => exact absurd (lawful.refused _ entries) (head_directory_clean clean)
      | _ => rfl
    refine ⟨[], by simp, .unlisted entries, fun only => ?_⟩
    rw [completePath, parts]
    simp only [nothing]
    cases only <;> rfl
  · have sorted : listSorted view directory = .ok (sortNames names) := by
      rw [listSorted, show listedAs directory = _ from listed, entries]
      rfl
    have found := hits_of_sorted names typed
    have proper : ∀ hit ∈ (sortNames names).filter (typed.isPrefixOf ·), hit ≠ [] ∧ separator ∉ hit := by
      intro hit member
      exact lawful.named _ _ entries hit (List.mem_mergeSort.mp (List.mem_of_mem_filter member))
    refine ⟨_, proper, .listed entries found, fun only => ?_⟩
    have kept : keptHits view head only ((sortNames names).filter (typed.isPrefixOf ·)) =
        if only then ((sortNames names).filter (typed.isPrefixOf ·)).filter
          fun hit => view.isDirectory (join directory hit) else (sortNames names).filter (typed.isPrefixOf ·) := by
      refine ite_congr rfl (fun _ => List.filter_congr fun hit member => ?_) fun _ => rfl
      rw [joined hit fun leads => (proper hit member).2 (List.mem_of_mem_head? leads)]
    have keptProper : ∀ hit ∈ keptHits view head only ((sortNames names).filter (typed.isPrefixOf ·)),
        hit ≠ [] ∧ separator ∉ hit := fun hit member => proper hit (kept_hits_sublist.subset member)
    rw [← joined_behind_head keptProper joined, kept, completePath, parts]
    simp only [sorted]
    rfl

/-- Completing a path always gives its candidates. -/
theorem completed_of_cut (lawful : view.Lawful) (cut : IsCut head fragment) (single : IsSingle (head ++ fragment))
    (clean : '\x00' ∉ head ++ fragment) :
    ∃ candidates, completePath view false (head ++ fragment) = .ok candidates ∧
      AreCandidates view head fragment candidates := by
  obtain ⟨hits, _, found, completed⟩ := completed_hits lawful cut single clean
  exact ⟨_, completed false, found⟩

theorem candidate_goes_on {candidates : List Path} (found : AreCandidates view head fragment candidates)
    {candidate : Path} (member : candidate ∈ candidates) : ∃ name, candidate = head ++ name ∧ fragment <+: name := by
  cases found with
  | unlisted failed => cases member
  | @listed names hits entries found =>
      obtain ⟨hit, isHit, rfl⟩ := List.mem_map.mp member
      have begins := List.isPrefixOf_iff_prefix.mp (List.mem_filter.mp (found.members.subset isHit)).2
      exact ⟨_, List.append_assoc _ _ _, begins.trans (List.prefix_append _ _)⟩

/-! ### Normalized paths -/

/-- Where runs of separators have become one, no two stand next to each other. -/
theorem collapse_single (path : Path) : IsSingle (collapse path) := by
  induction path using collapse.induct with
  | case1 =>
      intro doubled
      have short : 2 ≤ 0 := doubled.length_le
      omega
  | case2 character =>
      intro doubled
      have short : 2 ≤ 1 := doubled.length_le
      omega
  | case3 first second rest doubled induction =>
      rw [collapse, if_pos doubled]
      exact induction
  | case4 first second rest single induction =>
      rw [collapse, if_neg single]
      intro doubled
      rcases List.infix_cons_iff.mp doubled with ⟨tail, here⟩ | later
      · rw [List.cons_append, List.cons.injEq] at here
        have next := congrArg List.head? here.2
        rw [head_collapse] at next
        exact single (by simpa using ⟨here.1.symm, (Option.some.inj next).symm⟩)
      · exact induction later

theorem single_of_normalize {typed path : Path} (normal : normalize view typed = .ok path) : IsSingle path := by
  obtain ⟨expanded, _, rfl⟩ := expanded_of_normalize normal
  exact collapse_single expanded

/-- The candidates below the typed directory are the candidates of the normalized path without its head. -/
theorem relative_of_candidates {typed : Path} {only : Bool} {candidates : List Path} (cut : IsCut head fragment)
    (normal : normalize view typed = .ok (head ++ fragment))
    (made : completePath view only (head ++ fragment) = .ok candidates) :
    relativeCandidates view only typed = .ok (candidates.map (·.drop head.length), fragment) := by
  rw [relativeCandidates, normal]
  show (do
    let candidates ← completePath view only (head ++ fragment)
    pure (candidates.map (·.drop (headOf (head ++ fragment)).length), trailingFragment (head ++ fragment)) :
      Except Fault (List Path × Path)) = _
  rw [made, head_of_cut cut, trailing_fragment_eq, base_name_of_cut cut]
  rfl

/-- The candidates for a path are the entries of its directory that begin with what is typed of a name, in order, each
behind the directory as it was typed; so they all go on from the path. Below the typed directory the same entries are
offered for what the path is when it is normalized. -/
theorem candidates_are_entries (view : View) (lawful : view.Lawful) :
    (∀ head fragment, IsCut head fragment → IsSingle (head ++ fragment) → '\x00' ∉ head ++ fragment →
      ∃ candidates, completePath view false (head ++ fragment) = .ok candidates ∧
        AreCandidates view head fragment candidates ∧ ∀ candidate ∈ candidates, head ++ fragment <+: candidate) ∧
    ∀ typed head fragment, IsCut head fragment → normalize view typed = .ok (head ++ fragment) →
      '\x00' ∉ head ++ fragment →
        ∃ candidates names, completePath view false (head ++ fragment) = .ok candidates ∧
          AreCandidates view head fragment candidates ∧
          relativeCandidates view false typed = .ok (names, fragment) ∧ candidates = names.map (head ++ ·) ∧
          ∀ name ∈ names, fragment <+: name := by
  constructor
  · intro head fragment cut single clean
    obtain ⟨candidates, made, found⟩ := completed_of_cut lawful cut single clean
    refine ⟨candidates, made, found, fun candidate member => ?_⟩
    obtain ⟨name, rfl, begins⟩ := candidate_goes_on found member
    exact (List.prefix_append_right_inj head).mpr begins
  · intro typed head fragment cut normal clean
    obtain ⟨candidates, made, found⟩ := completed_of_cut lawful cut (single_of_normalize normal) clean
    refine ⟨candidates, _, made, found, relative_of_candidates cut normal made, ?_, ?_⟩
    · rw [List.map_map, List.map_congr_left, List.map_id]
      intro candidate member
      obtain ⟨name, rfl, _⟩ := candidate_goes_on found member
      simp
    · intro name isName
      obtain ⟨candidate, member, rfl⟩ := List.mem_map.mp isName
      obtain ⟨name, rfl, begins⟩ := candidate_goes_on found member
      rwa [List.drop_left]

theorem candidates_are_entries_of_subdirectory :
    let view := View.ofTree (Tree.put ⟨[]⟩ ["lib".toList, "src".toList] none) ⟨[], "/home".toList, []⟩
    view.Lawful ∧ IsCut "lib/".toList "s".toList ∧ IsSingle ("lib/".toList ++ "s".toList) ∧
      '\x00' ∉ "lib/".toList ++ "s".toList ∧
      normalize view "lib//s".toList = .ok ("lib/".toList ++ "s".toList) ∧
      (∃ candidates, completePath view false ("lib/".toList ++ "s".toList) = .ok candidates ∧
        AreCandidates view "lib/".toList "s".toList candidates ∧
        ∀ candidate ∈ candidates, "lib/".toList ++ "s".toList <+: candidate) ∧
      ∃ candidates names, completePath view false ("lib/".toList ++ "s".toList) = .ok candidates ∧
        AreCandidates view "lib/".toList "s".toList candidates ∧
        relativeCandidates view false "lib//s".toList = .ok (names, "s".toList) ∧
        candidates = names.map ("lib/".toList ++ ·) ∧ ∀ name ∈ names, "s".toList <+: name := by
  intro view
  have proper : ∀ name ∈ ["lib".toList, "src".toList], IsEntryName name := by
    intro name isName
    rcases List.mem_cons.mp isName with rfl | isName
    · exact ⟨by decide, by decide, by decide, by decide, by decide⟩
    · obtain rfl := List.mem_singleton.mp isName
      exact ⟨by decide, by decide, by decide, by decide, by decide⟩
  have lawful : view.Lawful :=
    lawful_of_tree (named_put (fun _ absent => absurd absent List.not_mem_nil) proper none) _
  have cut : IsCut "lib/".toList "s".toList := ⟨Or.inr (by decide), by decide⟩
  have single : IsSingle ("lib/".toList ++ "s".toList) := by
    have collapsed : collapse "lib/s".toList = "lib/".toList ++ "s".toList := by decide
    rw [← collapsed]
    exact collapse_single _
  have clean : '\x00' ∉ "lib/".toList ++ "s".toList := by decide
  have normal : normalize view "lib//s".toList = .ok ("lib/".toList ++ "s".toList) := by rfl
  obtain ⟨whole, relative⟩ := candidates_are_entries view lawful
  exact ⟨lawful, cut, single, clean, normal, whole _ _ cut single clean, relative _ _ _ cut normal clean⟩

end LiveShell.Files
