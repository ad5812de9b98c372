import Mathlib.Data.List.Chain
import LiveShell.Proofs.DirectoryNames

/-!
Normalized paths are a stable form. A path without two separators next to each other is what it collapses to, and what
a home directory is written out as names no home directory again; so normalizing a second time changes nothing. What is
offered for a normalized path goes on from it by a name, which brings no second separator in, so that the next request
is about the very path that was offered.
-/

namespace LiveShell.Files

set_option autoImplicit false

/-! ### Paths without doubled separators -/

theorem single_iff_chain {path : Path} :
    IsSingle path ↔ path.IsChain fun left right => ¬(left = separator ∧ right = separator) := by
  rw [List.isChain_iff_forall_rel_of_append_cons_cons]
  constructor
  · rintro single left right before after split ⟨rfl, rfl⟩
    exact single ⟨before, after, by rw [split]; simp⟩
  · rintro chain ⟨before, after, rfl⟩
    exact chain (List.append_assoc before _ after) ⟨rfl, rfl⟩

/-- Two paths put together have two separators next to each other only where one of them has, or where they meet. -/
theorem single_append {first rest : Path} :
    IsSingle (first ++ rest) ↔
      IsSingle first ∧ IsSingle rest ∧ (endsWithSeparator first = true → rest.head? ≠ some separator) := by
  simp only [single_iff_chain, List.isChain_append, endsWithSeparator, decide_eq_true_eq]
  refine and_congr_right fun _ => and_congr_right fun _ =>
    ⟨fun apart ended leads => ?_, fun apart left last right head => ?_⟩
  · exact apart separator ended separator leads ⟨rfl, rfl⟩
  · rintro ⟨rfl, rfl⟩
    exact apart last head

theorem single_of_plain {path : Path} (plain : separator ∉ path) : IsSingle path := by
  rw [← collapse_plain plain]
  exact collapse_single path

theorem collapse_of_single {path : Path} (single : IsSingle path) : collapse path = path := by
  induction path using collapse.induct with
  | case1 | case2 => rfl
  | case3 first second rest doubled induction =>
      obtain ⟨rfl, rfl⟩ : first = separator ∧ second = separator := by simpa using doubled
      exact absurd ⟨[], rest, rfl⟩ single
  | case4 first second rest apart induction =>
      rw [collapse, if_neg apart, induction fun doubled => single (List.infix_cons doubled)]

/-- A name behind a head, perhaps with a separator, brings no second separator in. -/
theorem single_behind_head {head fragment name tail : Path} (cut : IsCut head fragment)
    (single : IsSingle (head ++ fragment)) (filled : name ≠ []) (plain : separator ∉ name)
    (ending : tail = [] ∨ tail = [separator]) : IsSingle (head ++ name ++ tail) := by
  have leads : name.head? ≠ some separator := fun leads => plain (List.mem_of_mem_head? leads)
  have named : IsSingle (head ++ name) :=
    single_append.mpr ⟨(single_append.mp single).1, single_of_plain plain, fun _ => leads⟩
  rcases ending with rfl | rfl
  · rwa [List.append_nil]
  · refine single_append.mpr ⟨named, collapse_single [separator], fun ended => ?_⟩
    rw [unended_of_cut ⟨cut.ends, plain⟩ filled] at ended
    cases ended

/-! ### Home directories that are written out -/

/-- The home directories are paths, and are themselves not told by a tilde. -/
structure View.PlainHomes (view : View) : Prop where
  clean : ∀ user home, view.home? user = some home → '\x00' ∉ home
  writtenOut : ∀ user home, view.home? user = some home → home.head? ≠ some '~'

variable {view : View} {path expanded : Path}

theorem split_home_none : splitHome path = none ↔ path.head? ≠ some '~' := by
  unfold splitHome
  split
  · simp
  · next other => simpa [List.head?_eq_some_iff] using other

theorem split_home_of_eq {user rest : Path} (plain : separator ∉ user)
    (ends : rest = [] ∨ rest.head? = some separator) : splitHome ('~' :: (user ++ rest)) = some (user, rest) := by
  have within : ∀ character ∈ user, decide (character ≠ separator) = true := fun character member =>
    decide_eq_true fun same => plain (same ▸ member)
  have stop : rest.takeWhile (· ≠ separator) = [] ∧ rest.dropWhile (· ≠ separator) = rest := by
    rcases ends with rfl | leads
    · exact ⟨rfl, rfl⟩
    · obtain ⟨tail, rfl⟩ := List.head?_eq_some_iff.mp leads
      exact ⟨by simp, by simp⟩
  rw [splitHome, List.takeWhile_append_of_pos within, List.dropWhile_append_of_pos within, stop.1, stop.2,
    List.append_nil]

/-- Any path is written out, unless it holds the forbidden character. -/
theorem expanded_of_clean (view : View) (clean : '\x00' ∉ path) : ∃ expanded, Expanded view path expanded := by
  cases split : splitHome path with
  | none => exact ⟨path, .plain split⟩
  | some pair =>
      obtain ⟨user, rest⟩ := pair
      have holdsNoNul : '\x00' ∉ user := fun member => clean (by
        rw [(split_home_eq split).1]
        exact List.mem_cons_of_mem _ (List.mem_append_left _ member))
      cases home : view.home? user with
      | none => exact ⟨path, .unknown user rest split holdsNoNul home⟩
      | some directory => exact ⟨_, .known user rest directory split holdsNoNul home⟩

theorem expanded_clean (homes : view.PlainHomes) (clean : '\x00' ∉ path) (expands : Expanded view path expanded) :
    '\x00' ∉ expanded := by
  cases expands with
  | plain | unknown => exact clean
  | known user rest directory split holdsNoNul home =>
      split
      · decide
      · intro member
        rcases List.mem_append.mp member with inHome | inRest
        · exact homes.clean user directory home ((trim_end_begins directory).subset inHome)
        · rw [(split_home_eq split).1] at clean
          exact clean (List.mem_cons_of_mem _ (List.mem_append_right _ inRest))

/-- What a path is written out and collapsed as is written out as itself. -/
theorem expand_again (homes : view.PlainHomes) (expands : Expanded view path expanded) :
    Expanded view (collapse expanded) (collapse expanded) := by
  cases expands with
  | plain split =>
      rw [split_home_none, ← head_collapse] at split
      exact .plain (split_home_none.mpr split)
  | unknown user rest split holdsNoNul home =>
      obtain ⟨rfl, plain, ends⟩ := split_home_eq split
      have plainToo : separator ∉ '~' :: user := by simpa [separator] using plain
      have endsToo : collapse rest = [] ∨ (collapse rest).head? = some separator := by
        rcases ends with rfl | leads
        · exact Or.inl rfl
        · exact Or.inr (by rw [head_collapse, leads])
      rw [← List.cons_append, collapse_name plainToo, List.cons_append]
      exact .unknown user _ (split_home_of_eq plain endsToo) holdsNoNul home
  | known user rest directory split holdsNoNul home =>
      refine .plain (split_home_none.mpr ?_)
      rw [head_collapse]
      split
      · decide
      · by_cases top : trimEnd directory = []
        · rw [top, List.nil_append]
          rcases (split_home_eq split).2.2 with rfl | leads
          · decide
          · rw [leads]
            decide
        · rw [List.head?_append, Option.or_of_isSome (List.isSome_head?.mpr top), head_trim_end top]
          exact homes.writtenOut user directory home

theorem normalize_of_single (expands : Expanded view path path) (single : IsSingle path) :
    normalize view path = .ok path := by
  rw [normalize, expand_home_iff.mpr expands]
  exact congrArg Except.ok (collapse_of_single single)

/-! ### Candidates again -/

theorem entry_of_behind_head {files : View} {head candidate : Path} {hits : List Path}
    (member : candidate ∈ behindHead files head hits) :
    ∃ hit tail, hit ∈ hits ∧ (tail = [] ∨ tail = [separator]) ∧ candidate = head ++ hit ++ tail := by
  obtain ⟨hit, isHit, rfl⟩ := List.mem_map.mp member
  refine ⟨hit, _, isHit, ?_, rfl⟩
  split
  · exact Or.inr rfl
  · exact Or.inl rfl

theorem hit_begins {files : View} {head fragment hit : Path} {hits : List Path} (cut : IsCut head fragment)
    (found : AreCandidates files head fragment (behindHead files head hits)) (member : hit ∈ hits) :
    fragment <+: hit := by
  obtain ⟨name, same, begins⟩ := candidate_goes_on found (List.mem_map_of_mem member)
  rw [List.append_assoc, List.append_right_inj] at same
  subst same
  split at begins
  · rcases List.prefix_concat_iff.mp begins with whole | within
    · exact absurd (whole ▸ List.mem_append_right hit (List.mem_singleton_self separator)) cut.plain
    · exact within
  · rwa [List.append_nil] at begins

/-- A path that is normalized stays as it is when it is normalized again, whatever the home directories are. What is
offered for it, in whatever files there are, goes on from it and is normalized already, unless it looks like the name of
a home directory. -/
theorem normalized_paths_stay (view : View) (homes : view.PlainHomes) {typed : Path} (clean : '\x00' ∉ typed) :
    ∃ path, normalize view typed = .ok path ∧ IsSingle path ∧ normalize view path = .ok path ∧
      ∀ files : View, files.Lawful → ∀ only, ∃ candidates, completePath files only path = .ok candidates ∧
        ∀ candidate ∈ candidates, path <+: candidate ∧
          (candidate.head? ≠ some '~' → normalize view candidate = .ok candidate) := by
  obtain ⟨expanded, expands⟩ := expanded_of_clean view clean
  have normal : normalize view typed = .ok (collapse expanded) := by
    rw [normalize, expand_home_iff.mpr expands]
    rfl
  have single := collapse_single expanded
  have cleanToo : '\x00' ∉ collapse expanded := fun member =>
    expanded_clean homes clean expands ((collapse_sublist expanded).subset member)
  refine ⟨collapse expanded, normal, single, normalize_of_single (expand_again homes expands) single, ?_⟩
  intro files lawful only
  obtain ⟨head, fragment, cut, same⟩ := cut_exists (collapse expanded)
  rw [same] at single cleanToo ⊢
  obtain ⟨hits, proper, found, completed⟩ := completed_hits lawful cut single cleanToo
  refine ⟨_, completed only, fun candidate member => ?_⟩
  obtain ⟨hit, tail, kept, ending, rfl⟩ := entry_of_behind_head member
  have isHit := kept_hits_sublist.subset kept
  obtain ⟨filled, plain⟩ := proper hit isHit
  constructor
  · rw [List.append_assoc]
    exact (List.prefix_append_right_inj head).mpr ((hit_begins cut found isHit).trans (List.prefix_append hit tail))
  · intro untold
    exact normalize_of_single (.plain (split_home_none.mpr untold)) (single_behind_head cut single filled plain ending)

theorem normalized_paths_stay_below_top :
    let homes := View.ofTree ⟨[]⟩ ⟨[], "/".toList, []⟩
    let files := View.ofTree (Tree.put ⟨[]⟩ ["lib".toList, "src".toList] none) ⟨[], "/".toList, []⟩
    homes.PlainHomes ∧ '\x00' ∉ "~//l".toList ∧ files.Lawful ∧ normalize homes "~//l".toList = .ok "/l".toList ∧
      IsSingle "/l".toList ∧ normalize homes "/l".toList = .ok "/l".toList ∧
      ∃ candidates, completePath files false "/l".toList = .ok candidates ∧
        ∀ candidate ∈ candidates, "/l".toList <+: candidate ∧
          (candidate.head? ≠ some '~' → normalize homes candidate = .ok candidate) := by
  intro homes files
  have plain : homes.PlainHomes := by
    have top : ∀ user home, homes.home? user = some home → home = "/".toList := by
      intro user home known
      change (if user.isEmpty then some "/".toList else none) = some home at known
      split at known
      · exact (Option.some.inj known).symm
      · cases known
    exact ⟨fun user home known => top user home known ▸ by decide,
      fun user home known => top user home known ▸ by decide⟩
  have lawful : files.Lawful :=
    lawful_of_tree (named_put (fun _ absent => absurd absent List.not_mem_nil) (by decide) none) _
  have clean : '\x00' ∉ "~//l".toList := by decide
  have written : normalize homes "~//l".toList = .ok "/l".toList := by rfl
  obtain ⟨path, normal, single, again, offered⟩ := normalized_paths_stay homes plain clean
  obtain rfl : path = "/l".toList := Except.ok.inj (normal.symm.trans written)
  exact ⟨plain, clean, lawful, normal, single, again, offered files lawful false⟩

end LiveShell.Files
