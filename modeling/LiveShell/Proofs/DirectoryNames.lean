import LiveShell.Proofs.CandidateList

/-!
Candidates when only directories are asked for. Directories are picked out before the only candidate gets its separator,
so the rule for an only candidate meets two different lists. Apart from that separator the one list is what the other one
has in directories.
-/

namespace LiveShell.Files

set_option autoImplicit false

/-- A name without the separator at its end, if it has one. -/
def bareName (name : Path) : Path := if endsWithSeparator name then name.dropLast else name

/-- Every path is cut after its last separator. -/
theorem cut_exists (path : Path) : ∃ head fragment, IsCut head fragment ∧ path = head ++ fragment := by
  induction path with
  | nil => exact ⟨[], [], ⟨Or.inl rfl, List.not_mem_nil⟩, rfl⟩
  | cons character rest induction =>
      obtain ⟨head, fragment, cut, rfl⟩ := induction
      rcases head_cases cut with rfl | ⟨front, rfl⟩
      · by_cases same : character = separator
        · subst same
          exact ⟨[separator], fragment, ⟨Or.inr rfl, cut.plain⟩, rfl⟩
        · refine ⟨[], character :: fragment, ⟨Or.inl rfl, ?_⟩, rfl⟩
          exact fun member => (List.mem_cons.mp member).elim (fun here => same here.symm) cut.plain
      · refine ⟨character :: (front ++ [separator]), fragment, ⟨Or.inr ?_, cut.plain⟩, rfl⟩
        rw [← List.cons_append, endsWithSeparator, List.getLast?_concat]
        rfl

theorem plain_unended {name : Path} (plain : separator ∉ name) : endsWithSeparator name = false := by
  rw [endsWithSeparator, decide_eq_false_iff_not]
  exact fun ended => plain (List.mem_of_getLast? ended)

theorem bare_name_of_plain {name : Path} (plain : separator ∉ name) : bareName name = name := by
  rw [bareName, plain_unended plain]
  rfl

theorem bare_name_of_ended (name : Path) : bareName (name ++ [separator]) = name := by
  have ended : endsWithSeparator (name ++ [separator]) = true := by simp [endsWithSeparator]
  rw [bareName, if_pos ended, List.dropLast_concat]

/-- The name under which an entry is offered: with a separator if it is the only one and leads to a directory. -/
def offeredName (view : View) (head : Path) (hits : List Path) (hit : Path) : Path :=
  hit ++ if hits.length = 1 ∧ view.isDirectory (head ++ hit) then [separator] else []

theorem names_behind_head (view : View) (head : Path) (hits : List Path) :
    (behindHead view head hits).map (·.drop head.length) = hits.map (offeredName view head hits) := by
  rw [behindHead, List.map_map]
  refine List.map_congr_left fun hit _ => ?_
  rw [Function.comp_apply, List.append_assoc, List.drop_left, offeredName]

variable {view : View} {head : Path} {hits : List Path}

theorem bare_offered_name {hit : Path} (plain : separator ∉ hit) : bareName (offeredName view head hits hit) = hit := by
  rw [offeredName]
  split
  · exact bare_name_of_ended hit
  · rw [List.append_nil]
    exact bare_name_of_plain plain

theorem offered_name_ends {hit : Path} (plain : separator ∉ hit) :
    endsWithSeparator (offeredName view head hits hit) = true ↔
      hits.length = 1 ∧ view.isDirectory (head ++ hit) = true := by
  rw [offeredName]
  split
  · next both => exact ⟨fun _ => both, fun _ => by simp [endsWithSeparator]⟩
  · next other =>
      rw [List.append_nil, plain_unended plain]
      exact ⟨fun ended => absurd ended Bool.false_ne_true, fun both => absurd both other⟩

/-- Without separators the names offered are the entries, and a separator stands only behind an only name that leads to
a directory. -/
theorem offered_names (plain : ∀ hit ∈ hits, separator ∉ hit) :
    (hits.map (offeredName view head hits)).map bareName = hits ∧
      ∀ name ∈ hits.map (offeredName view head hits), (endsWithSeparator name = true ↔
        (hits.map (offeredName view head hits)).length = 1 ∧ view.isDirectory (head ++ bareName name) = true) := by
  constructor
  · rw [List.map_map]
    exact (List.map_congr_left fun hit member => bare_offered_name (plain hit member)).trans (List.map_id' hits)
  · intro name isName
    obtain ⟨hit, member, rfl⟩ := List.mem_map.mp isName
    rw [bare_offered_name (plain hit member), List.length_map]
    exact offered_name_ends (plain hit member)

/-- Asking for directories only and asking for all entries differ in nothing but the entries that are no directories:
the part still being typed is the same, and without their separators the names of the one are those names of the other
that lead to directories, in the same order. In either list a separator stands behind a name just when it is the only
one and leads to a directory. -/
theorem directories_among_entries (view : View) (lawful : view.Lawful) {typed path : Path}
    (normal : normalize view typed = .ok path) (clean : '\x00' ∉ path) :
    ∃ fragment directories entries,
      relativeCandidates view true typed = .ok (directories, fragment) ∧
      relativeCandidates view false typed = .ok (entries, fragment) ∧
      directories.map bareName =
        (entries.map bareName).filter (fun name => view.isDirectory (headOf path ++ name)) ∧
      ∀ names, names = directories ∨ names = entries → ∀ name ∈ names,
        (endsWithSeparator name = true ↔
          names.length = 1 ∧ view.isDirectory (headOf path ++ bareName name) = true) := by
  obtain ⟨head, fragment, cut, rfl⟩ := cut_exists path
  obtain ⟨hits, proper, _, completed⟩ := completed_hits lawful cut (single_of_normalize normal) clean
  have plain : ∀ only, ∀ hit ∈ keptHits view head only hits, separator ∉ hit := by
    intro only hit member
    exact (proper hit (kept_hits_sublist.subset member)).2
  have relative : ∀ only, relativeCandidates view only typed =
      .ok ((keptHits view head only hits).map (offeredName view head (keptHits view head only hits)), fragment) := by
    intro only
    rw [relative_of_candidates cut normal (completed only), names_behind_head]
  rw [head_of_cut cut]
  refine ⟨fragment, _, _, relative true, relative false, ?_, ?_⟩
  · rw [(offered_names (plain true)).1, (offered_names (plain false)).1]
    rfl
  · rintro names (rfl | rfl)
    · exact (offered_names (plain true)).2
    · exact (offered_names (plain false)).2

theorem directories_among_entries_with_file :
    let view := View.ofTree (Tree.put (Tree.put ⟨[]⟩ ["lib".toList] none) ["src".toList] (some ""))
      ⟨[], "/home".toList, []⟩
    view.Lawful ∧ normalize view [] = .ok [] ∧ '\x00' ∉ ([] : Path) ∧
      ∃ fragment directories entries,
        relativeCandidates view true [] = .ok (directories, fragment) ∧
        relativeCandidates view false [] = .ok (entries, fragment) ∧
        directories.map bareName = (entries.map bareName).filter (fun name => view.isDirectory (headOf [] ++ name)) ∧
        ∀ names, names = directories ∨ names = entries → ∀ name ∈ names,
          (endsWithSeparator name = true ↔
            names.length = 1 ∧ view.isDirectory (headOf [] ++ bareName name) = true) := by
  intro view
  have lawful : view.Lawful := by
    have empty : Tree.Named ⟨[]⟩ := fun _ absent => absurd absent List.not_mem_nil
    exact lawful_of_tree (named_put (named_put empty (by decide) none) (by decide) (some "")) _
  exact ⟨lawful, rfl, List.not_mem_nil, directories_among_entries view lawful rfl List.not_mem_nil⟩

end LiveShell.Files
