import LiveShell.Proofs.NameCompletion
import LiveShell.Proofs.PathCandidates

/-!
Completing paths in a literal. What is offered for a typed path exists where the typed path and the suffix lead
together. For the source this says something where what counts as typed is what stands before the cursor, which is at
the start and at the end of the payload; in the midst of a literal all of it counts as typed. A home directory that is
named by a tilde is looked at, but not written out.
-/

namespace LiveShell.Completion

open Dialogue Files Locate Source
open Run (ok_of_bind)

set_option autoImplicit false

/-- Where the payload of a literal starts. -/
def payloadStart (span : Span) (raw : String) : Nat :=
  span.start + (literalOpening raw.toList).1.length + (literalOpening raw.toList).2.length

/-- The value of a literal stands in the source where its payload starts. -/
theorem value_in_source {source value raw : String} {span other : Span} {closed : Bool}
    (made : stringNode (parse source) span closed = .ok (.string other value raw)) :
    value.toList <+: source.toList.drop (payloadStart other raw) := by
  have covered : ((parse source).text.extract span.start span.stop).toList <+: source.toList.drop span.start := by
    have whole : ((parse source).text.extract span.start span.stop).toList =
        (source.toList.drop span.start).take (span.stop - span.start) := by
      simp [parse]
    rw [whole]
    exact List.take_prefix _ _
  rw [stringNode] at made
  generalize ((parse source).text.extract span.start span.stop).toList = text at made covered
  simp only at made
  split at made
  · cases made
  · split at made
    · cases made
    · cases made
      rw [payloadStart, String.toList_ofList, String.toList_ofList, Literal.literal_opening_eq, Nat.add_assoc]
      have kept := covered.drop ((Literal.opening text).1.length + (Literal.opening text).2.length)
      rw [List.drop_drop] at kept
      split
      · exact (List.take_prefix _ _).trans kept
      · exact kept

/-- A string is completed, if at all, by the candidates for a path: nothing at the start of the payload, and else all
that stands in the literal. -/
theorem complete_string_result {ε : Type} {around : Surroundings} {cursor : Int} {span : Span} {value raw : String}
    {log : List (Exchange ε)} {completion : Completion}
    (ends : Ends (completeString around cursor span value raw) log (.ok (some completion))) :
    ∃ path candidates,
      normalize around.files (if cursor = payloadStart span raw then [] else value.toList) = .ok path ∧
        completePath around.files false path = .ok candidates ∧
        completion = {
          suffixes := suffixesAfter (candidates.map pathText) (pathText path)
          typed := pathText (trailingFragment path) } := by
  unfold completeString at ends
  split at ends
  · cases (ends_pure.mp ends).2
  · simp only at ends
    split at ends
    · cases (ends_trouble.mp ends).2
    · next path candidates made =>
        obtain ⟨typed, normal, listing⟩ := ok_of_bind made
        obtain ⟨found, listed, same⟩ := ok_of_bind listing
        cases same
        refine ⟨path, candidates, normal, listed, ?_⟩
        split at ends
        · exact Option.some.inj (Except.ok.inj (ends_pure.mp (ends_note.mp ends :)).2)
        · exact Option.some.inj (Except.ok.inj (ends_pure.mp ends).2)

/-- What is taken for typed stands before the cursor when the cursor is at the start of the payload or at its end. -/
theorem written_before {source value raw : String} {span : Span} {cursor : Int}
    (inSource : value.toList <+: source.toList.drop (payloadStart span raw))
    (here : cursor = payloadStart span raw ∨ cursor = payloadStart span raw + value.length) :
    (if cursor = payloadStart span raw then [] else value.toList) =
      (pieceOf source (payloadStart span raw) cursor.toNat).toList := by
  rw [pieceOf, String.toList_ofList, List.drop_take]
  split
  · next start =>
      rw [start, Int.toNat_natCast, Nat.sub_self, List.take_zero]
  · next later =>
      have stop : cursor.toNat - payloadStart span raw = value.toList.length := by
        have ended := here.resolve_left later
        rw [String.length_toList]
        omega
      rw [stop]
      exact List.prefix_iff_eq_take.mp inSource

/-- When a literal is completed with the cursor at the start of its payload or at its end: what counts as typed
stands right before the cursor, unless that is a home directory, and where the payload up to the cursor leads together
with a suffix that is offered, as long as that names the same home directory, there is an entry of the tree. -/
theorem path_completions_lead_on {ε σ : Type}
    (answer : (request : Request) → σ → Except (Trouble ε) request.Answer × σ) (state : σ) (settings : Settings)
    (current : String) (tree : Tree) (place : Place) (source : String) (cursor : Int) (span : Span)
    (value raw : String) (completion : Completion) (named : tree.Named)
    (located : locate source cursor = .ok (some (.string span value raw)))
    (here : cursor = payloadStart span raw ∨ cursor = payloadStart span raw + value.length)
    (completed : ((complete ⟨settings, .ofTree tree place, current⟩ source (some cursor)).run answer state).1 =
      .ok (some completion)) :
    let text := (pieceOf source (payloadStart span raw) cursor.toNat).toList
    completion.fillable = true ∧
    (splitHome text = none ∨ separator ∈ text → completion.typed.toList <:+ source.toList.take cursor.toNat) ∧
    ∀ suffix ∈ completion.suffixes, SameHome text suffix.toList →
      ∃ path spot, normalize (.ofTree tree place) (text ++ suffix.toList) = .ok path ∧
        tree.resolve place.current (trimEnd path) = .ok spot ∧ tree.exists? spot = true := by
  intro text
  obtain ⟨inner, ends, outcome⟩ := complete_ends
    (ends_run answer (complete ⟨settings, .ofTree tree place, current⟩ source (some cursor)) state)
  have same : inner = .ok (some completion) := by
    rw [completed] at outcome
    cases inner with
    | ok found => exact outcome.symm
    | error cause => cases cause <;> cases outcome
  subst same
  rw [Option.getD_some, complete_at_located _ located] at ends
  obtain ⟨path, candidates, normal, listed, rfl⟩ := complete_string_result ends
  have inSource : value.toList <+: source.toList.drop (payloadStart span raw) := by
    rw [locate_eq] at located
    cases located_origin located with
    | literal literalSpan closed made => exact value_in_source made
    | name before => cases before
  rw [written_before inSource here] at normal
  refine ⟨rfl, fun below => ?_, ?_⟩
  · have fragment : (pathText (trailingFragment path)).toList <:+ text := by
      rw [pathText, String.toList_ofList]
      exact fragment_suffix normal below
    have before : text <:+ source.toList.take cursor.toNat := by
      show (pieceOf source (payloadStart span raw) cursor.toNat).toList <:+ _
      rw [pieceOf, String.toList_ofList]
      exact List.drop_suffix _ _
    exact fragment.trans before
  · intro suffix offered home
    obtain ⟨_, isCandidate⟩ := mem_suffixes_after.mp offered
    obtain ⟨candidate, member, spelled⟩ := List.mem_map.mp isCandidate
    obtain rfl : candidate = path ++ suffix.toList := by
      have letters := congrArg String.toList spelled
      rwa [pathText, pathText, String.toList_append, String.toList_ofList, String.toList_ofList] at letters
    obtain ⟨spot, leads, there⟩ := candidate_exists named listed member
    exact ⟨_, spot, normalize_append home normal, leads, there⟩

/-- The surroundings when a directory at the top is all there is. -/
def aroundDirectory (name : String) : Surroundings :=
  ⟨{}, .ofTree (Tree.put ⟨[]⟩ [name.toList] none) ⟨[], "/home".toList, []⟩, "/"⟩

/-- Whether what is located is this literal. -/
def isLiteral (span : Span) (value raw : String) : Option Node → Bool
  | some (.string place typed written) => decide (place = span ∧ typed = value ∧ written = raw)
  | _ => false

theorem literal_of_seen {span : Span} {value raw : String} {node : Option Node}
    (seen : isLiteral span value raw node = true) : node = some (.string span value raw) := by
  unfold isLiteral at seen
  split at seen
  · obtain ⟨rfl, rfl, rfl⟩ := of_decide_eq_true seen
    rfl
  · cases seen

/-- The unfinished literal that the source is made of is what is located at its end. -/
theorem open_literal_located : locate "'s" 2 = .ok (some (.string ⟨0, 2⟩ "s" "'s")) := by
  have seen : (locate "'s" 2).toOption.any (isLiteral ⟨0, 2⟩ "s" "'s") = true := by decide +kernel
  obtain ⟨node, located, isLiteral⟩ := Run.ok_of_seen seen
  rw [located, literal_of_seen isLiteral]

theorem path_completions_lead_on_in_open_literal :
    let tree : Tree := Tree.put ⟨[]⟩ ["src".toList] none
    let place : Place := ⟨[], "/home".toList, []⟩
    tree.Named ∧ ∃ span value raw completion, locate "'s" 2 = .ok (some (.string span value raw)) ∧
      (2 : Int) = payloadStart span raw + value.length ∧
      ((complete (aroundDirectory "src") "'s" (some 2)).run (tellsOfOne []) ()).1 = .ok (some completion) ∧
      completion.suffixes = ["rc/"] ∧ completion.fillable = true ∧
      completion.typed.toList <:+ "'s".toList.take 2 ∧
      ∃ path spot, normalize (.ofTree tree place) "src/".toList = .ok path ∧
        tree.resolve place.current (trimEnd path) = .ok spot ∧ tree.exists? spot = true := by
  intro tree place
  have proper : ∀ name ∈ ["src".toList], IsEntryName name := by
    intro name isName
    obtain rfl := List.mem_singleton.mp isName
    exact ⟨by decide, by decide, by decide, by decide, by decide⟩
  have named : tree.Named := named_put (fun _ absent => absurd absent List.not_mem_nil) proper none
  have completed : ((complete (aroundDirectory "src") "'s" (some 2)).run (tellsOfOne []) ()).1 =
      .ok (some { suffixes := ["rc/"], typed := "s" }) := Run.ok_of_some (by decide +kernel)
  have here : (2 : Int) = payloadStart ⟨0, 2⟩ "'s" + "s".length := by decide +kernel
  obtain ⟨fillable, stands, lead⟩ := path_completions_lead_on (tellsOfOne []) () {} "/" tree place "'s" 2
    ⟨0, 2⟩ "s" "'s" _ named open_literal_located (Or.inr here) completed
  have text : (pieceOf "'s" (payloadStart ⟨0, 2⟩ "'s") (2 : Int).toNat).toList = "s".toList := by decide +kernel
  rw [text] at stands lead
  exact ⟨named, _, _, _, _, open_literal_located, here, completed, rfl, fillable, stands (Or.inl rfl),
    lead "rc/" (List.mem_singleton_self _) rfl⟩

/-- In the midst of a literal what comes after the cursor counts as typed: it does not stand before the cursor, and
what is offered leads to nothing from what does. -/
theorem middle_of_literal_leads_nowhere :
    let tree : Tree := Tree.put ⟨[]⟩ ["src".toList] none
    let place : Place := ⟨[], "/home".toList, []⟩
    ∃ completion,
      ((complete (aroundDirectory "src") "'src'" (some 2)).run (tellsOfOne []) ()).1 = .ok (some completion) ∧
      completion.fillable = true ∧ ¬completion.typed.toList <:+ "'src'".toList.take 2 ∧
      ∃ suffix ∈ completion.suffixes, ∃ path,
        normalize (.ofTree tree place) ("s".toList ++ suffix.toList) = .ok path ∧
          tree.resolve place.current (trimEnd path) = .error .missing := by
  intro tree place
  have completed : ((complete (aroundDirectory "src") "'src'" (some 2)).run (tellsOfOne []) ()).1 =
      .ok (some { suffixes := ["/"], typed := "src" }) := Run.ok_of_some (by decide +kernel)
  exact ⟨_, completed, rfl, by decide, "/", List.mem_singleton_self _, "s/".toList, by rfl, by decide +kernel⟩

end LiveShell.Completion
