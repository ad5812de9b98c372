import Mathlib.Data.List.Basic
import Mathlib.Data.List.Induction
import LiveShell.Completion.Suffixes

/-!
Which suffixes are offered after a typed text, and in which order. A suffix is offered when it is not empty and the
typed text with it is a candidate; suffixes stand in the order in which their candidates stand first, so none stands
twice. Completing what is offered once more is completing the longer text, so a menu only narrows while typing goes on.
-/

namespace LiveShell.Completion

set_option autoImplicit false

/-! ### What a candidate adds -/

/-- What a candidate adds to a typed text. Nothing when it does not go on from there. -/
def addition? (typed candidate : String) : Option String :=
  match after? typed.toList candidate.toList with
  | some (character :: rest) => some (String.ofList (character :: rest))
  | _ => none

theorem after_eq_some {typed candidate rest : List Char} :
    after? typed candidate = some rest ↔ candidate = typed ++ rest := by
  unfold after?
  constructor
  · intro found
    split at found
    · next stands =>
        obtain ⟨tail, rfl⟩ := List.isPrefixOf_iff_prefix.mp stands
        rw [List.drop_left] at found
        rw [Option.some.inj found]
    · cases found
  · rintro rfl
    rw [if_pos (List.isPrefixOf_iff_prefix.mpr (List.prefix_append typed rest)), List.drop_left]

/-- What a candidate adds is what stands in it after the typed text. -/
theorem addition_eq_some {typed candidate suffix : String} :
    addition? typed candidate = some suffix ↔ suffix ≠ "" ∧ candidate = typed ++ suffix := by
  unfold addition?
  constructor
  · intro found
    split at found
    · next character rest stands =>
        obtain rfl := Option.some.inj found
        refine ⟨?_, ?_⟩
        · intro empty
          simpa using congrArg String.toList empty
        · rw [← String.toList_inj, after_eq_some.mp stands, String.toList_append, String.toList_ofList]
    · cases found
  · rintro ⟨filled, rfl⟩
    have stands : after? typed.toList (typed ++ suffix).toList = some suffix.toList := by
      rw [after_eq_some, String.toList_append]
    cases text : suffix.toList with
    | nil => exact absurd (String.toList_eq_nil_iff.mp text) filled
    | cons character rest =>
        rw [stands, text]
        simp only [← text, String.ofList_toList]

/-! ### First occurrences -/

variable {α β : Type} [BEq α] [BEq β]

theorem mem_first_occurrences [LawfulBEq α] {items : List α} {item : α} : item ∈ firstOccurrences items ↔ item ∈ items := by
  induction items with
  | nil => rfl
  | cons first rest induction =>
      by_cases same : item = first <;> simp [firstOccurrences, same, induction]

/-- An item more at the end is kept unless it stands before. -/
theorem first_occurrences_concat [LawfulBEq α] (items : List α) (item : α) :
    firstOccurrences (items ++ [item]) =
      if items.contains item then firstOccurrences items else firstOccurrences items ++ [item] := by
  induction items with
  | nil => rfl
  | cons first rest induction =>
      rw [List.cons_append, firstOccurrences, firstOccurrences, induction, List.contains_cons]
      by_cases same : item = first
      · subst same
        split <;> simp
      · have apart : (item == first) = false := beq_eq_false_iff_ne.mpr same
        rw [apart, Bool.false_or]
        split
        · rfl
        · simp [apart]

/-- Without the items that come again nothing is found that would not be found with them, nor in another order. -/
theorem first_occurrences_filter_map [LawfulBEq α] [LawfulBEq β] (found : α → Option β) (items : List α) :
    firstOccurrences ((firstOccurrences items).filterMap found) = firstOccurrences (items.filterMap found) := by
  -- From the left to the right, as the items are looked through: the last one is new or stands before.
  induction items using List.reverseRecOn with
  | nil => rfl
  | append_singleton items item induction =>
      rw [first_occurrences_concat, List.filterMap_append]
      split
      · next known =>
          rw [induction]
          cases gives : found item with
          | none => simp [gives]
          | some value =>
              have before : value ∈ items.filterMap found :=
                List.mem_filterMap.mpr ⟨item, by simpa using known, gives⟩
              rw [List.filterMap_cons_some gives, List.filterMap_nil, first_occurrences_concat,
                if_pos (by simpa using before)]
      · rw [List.filterMap_append]
        cases gives : found item with
        | none => simpa [gives] using induction
        | some value =>
            have alike : ((firstOccurrences items).filterMap found).contains value =
                (items.filterMap found).contains value := by
              rw [Bool.eq_iff_iff]
              simp only [List.contains_iff_mem, List.mem_filterMap, mem_first_occurrences]
            rw [List.filterMap_cons_some gives, List.filterMap_nil, first_occurrences_concat,
              first_occurrences_concat, alike, induction]

theorem first_occurrences_sublist (items : List α) : (firstOccurrences items).Sublist items := by
  induction items with
  | nil => exact .slnil
  | cons first rest induction => exact .cons_cons first (List.filter_sublist.trans induction)

/-! ### What is offered -/

theorem suffixes_after_eq (candidates : List String) (typed : String) :
    suffixesAfter candidates typed = firstOccurrences (candidates.filterMap (addition? typed)) := rfl

/-- The first candidate adds the first suffix, if it adds one; the same suffix is not offered again. -/
theorem suffixes_after_cons (candidate : String) (rest : List String) (typed : String) :
    suffixesAfter (candidate :: rest) typed = match addition? typed candidate with
      | some suffix => suffix :: (suffixesAfter rest typed).filter fun other => !(other == suffix)
      | none => suffixesAfter rest typed := by
  rw [suffixes_after_eq, suffixes_after_eq, List.filterMap_cons]
  split
  · next nothing => rw [nothing]
  · next suffix adds =>
      rw [adds]
      rfl

theorem mem_suffixes_after {candidates : List String} {typed suffix : String} :
    suffix ∈ suffixesAfter candidates typed ↔ suffix ≠ "" ∧ typed ++ suffix ∈ candidates := by
  rw [suffixes_after_eq, mem_first_occurrences, List.mem_filterMap]
  constructor
  · rintro ⟨candidate, member, adds⟩
    obtain ⟨filled, rfl⟩ := addition_eq_some.mp adds
    exact ⟨filled, member⟩
  · rintro ⟨filled, member⟩
    exact ⟨_, member, addition_eq_some.mpr ⟨filled, rfl⟩⟩

/-- Suffixes stand in the order in which their candidates stand first. -/
theorem suffixes_in_order (candidates : List String) (typed : String) :
    (suffixesAfter candidates typed).Pairwise fun left right =>
      candidates.idxOf (typed ++ left) < candidates.idxOf (typed ++ right) := by
  induction candidates with
  | nil => exact List.Pairwise.nil
  | cons candidate rest induction =>
      -- What is offered by later candidates is not added by the first one, and so stands one place later.
      have later : ∀ suffix ∈ suffixesAfter rest typed, addition? typed candidate ≠ some suffix →
          (candidate :: rest).idxOf (typed ++ suffix) = rest.idxOf (typed ++ suffix) + 1 := by
        intro suffix member other
        refine List.idxOf_cons_ne _ ?_
        rintro rfl
        exact other (addition_eq_some.mpr ⟨(mem_suffixes_after.mp member).1, rfl⟩)
      rw [suffixes_after_cons]
      cases adds : addition? typed candidate with
      | none =>
          refine induction.imp_of_mem ?_
          intro left right leftMember rightMember before
          rw [later left leftMember (by simp [adds]), later right rightMember (by simp [adds])]
          omega
      | some first =>
          obtain ⟨filled, rfl⟩ := addition_eq_some.mp adds
          have others : ∀ suffix ∈ (suffixesAfter rest typed).filter fun other => !(other == first),
              suffix ∈ suffixesAfter rest typed ∧ addition? typed (typed ++ first) ≠ some suffix := by
            intro suffix member
            obtain ⟨offered, apart⟩ := List.mem_filter.mp member
            refine ⟨offered, ?_⟩
            rw [Bool.not_eq_true', beq_eq_false_iff_ne] at apart
            exact fun same => apart (Option.some.inj (same.symm.trans adds))
          refine List.pairwise_cons.mpr ⟨?_, (induction.filter _).imp_of_mem ?_⟩
          · intro suffix member
            rw [List.idxOf_cons_self, later suffix (others suffix member).1 (others suffix member).2]
            omega
          · intro left right leftMember rightMember before
            rw [later left (others left leftMember).1 (others left leftMember).2,
              later right (others right rightMember).1 (others right rightMember).2]
            omega

theorem suffixes_unrepeated (candidates : List String) (typed : String) : (suffixesAfter candidates typed).Nodup :=
  (suffixes_in_order candidates typed).imp fun before same => by
    rw [same] at before
    exact Nat.lt_irrefl _ before

/-! ### Typing on -/

/-- What a candidate adds to a longer text is what its addition to the shorter one adds. -/
theorem addition_append (typed more candidate : String) :
    addition? (typed ++ more) candidate = (addition? typed candidate).bind (addition? more) := by
  ext suffix
  simp only [Option.bind_eq_some_iff, addition_eq_some, String.append_assoc]
  constructor
  · rintro ⟨filled, rfl⟩
    refine ⟨more ++ suffix, ⟨fun empty => filled ?_, rfl⟩, filled, rfl⟩
    exact (String.append_eq_empty_iff.mp empty).2
  · rintro ⟨_, ⟨_, rfl⟩, filled, rfl⟩
    exact ⟨filled, rfl⟩

/-- Completing what is offered once more is completing the longer text at once. -/
theorem suffixes_after_append (candidates : List String) (typed more : String) :
    suffixesAfter (suffixesAfter candidates typed) more = suffixesAfter candidates (typed ++ more) := by
  calc suffixesAfter (suffixesAfter candidates typed) more
      = firstOccurrences ((candidates.filterMap (addition? typed)).filterMap (addition? more)) :=
        first_occurrences_filter_map _ _
    _ = firstOccurrences (candidates.filterMap fun candidate => (addition? typed candidate).bind (addition? more)) := by
        rw [List.filterMap_filterMap]
    _ = suffixesAfter candidates (typed ++ more) := by
        simp only [← addition_append, suffixes_after_eq]

theorem additions_sublist (candidates : List String) (typed : String) :
    ((candidates.filterMap (addition? typed)).map (typed ++ ·)).Sublist candidates := by
  induction candidates with
  | nil => exact .slnil
  | cons candidate rest induction =>
      cases adds : addition? typed candidate with
      | none => rw [List.filterMap_cons_none adds]; exact induction.cons candidate
      | some suffix =>
          obtain ⟨_, rfl⟩ := addition_eq_some.mp adds
          rw [List.filterMap_cons_some adds]
          exact induction.cons_cons _

/-- Of the suffixes offered those stay that go on as typed, in the order they have. -/
theorem suffixes_narrow (candidates : List String) (typed more : String) :
    ((suffixesAfter candidates (typed ++ more)).map (more ++ ·)).Sublist (suffixesAfter candidates typed) := by
  rw [← suffixes_after_append]
  exact ((first_occurrences_sublist _).map _).trans (additions_sublist _ _)

/-- What is offered after a typed text are just the suffixes that make it a candidate, none of them empty and none
twice, in the order in which their candidates stand first. So what is offered after a longer text is what completing
the offered suffixes themselves gives: typing on leaves some of them out and changes no order. -/
theorem suffixes_offered_exactly (candidates : List String) (typed : String) :
    "" ∉ suffixesAfter candidates typed ∧ (suffixesAfter candidates typed).Nodup ∧
    (∀ suffix, suffix ∈ suffixesAfter candidates typed ↔ suffix ≠ "" ∧ typed ++ suffix ∈ candidates) ∧
    ((suffixesAfter candidates typed).Pairwise fun left right =>
      candidates.idxOf (typed ++ left) < candidates.idxOf (typed ++ right)) ∧
    ∀ more, suffixesAfter (suffixesAfter candidates typed) more = suffixesAfter candidates (typed ++ more) ∧
      ((suffixesAfter candidates (typed ++ more)).map (more ++ ·)).Sublist (suffixesAfter candidates typed) := by
  refine ⟨?_, suffixes_unrepeated candidates typed, fun suffix => mem_suffixes_after,
    suffixes_in_order candidates typed, fun more => ⟨?_, ?_⟩⟩
  · exact fun offered => (mem_suffixes_after.mp offered).1 rfl
  · exact suffixes_after_append candidates typed more
  · exact suffixes_narrow candidates typed more

end LiveShell.Completion
