import LiveShell.Proofs.LocatedNode
import LiveShell.Proofs.RunSteps

/-!
What the node at a cursor can be made from, on every source, tiled or not. The exits of the locator are few: a
literal that is read off the source, a name, an access through a dot whose property is a name at the cursor, and what
a bracket starts. A name that is located starts at or before the cursor, also as the property of an access.
-/

namespace LiveShell.Locate

open Source
open Run (ok_of_bind)

set_option autoImplicit false

variable {parsed : Parsed} {cursor : Nat}

/-- A name that starts at or before the cursor. -/
inductive NameBefore (cursor : Nat) : Node → Prop
  | name (span : Span) (name : String) (started : span.start ≤ cursor) : NameBefore cursor (.identifier span name)

/-- What the node at a cursor is made from, with what is known of the names that are located. -/
inductive Origin (parsed : Parsed) (names : Node → Prop) : Node → Prop
  | literal (span : Span) (closed : Bool) {node : Node} (made : stringNode parsed span closed = .ok node) :
      Origin parsed names node
  | name {node : Node} (known : names node) : Origin parsed names node
  | access (span : Span) (object : Node) {property : Node} (known : names property) :
      Origin parsed names (.member span object property false)
  | subscript (span : Span) (object index : Node) : Origin parsed names (.member span object index true)
  | call (span : Span) (callee : Node) (arguments : List Node) : Origin parsed names (.call span callee arguments)
  | other (span : Span) : Origin parsed names (.other span)

/-- What holds of every name that can be located at a cursor: of the words that start at or before it, and of the one
that stands for a missing name there. -/
structure HoldsOfNames (parsed : Parsed) (cursor : Nat) (names : Node → Prop) : Prop where
  word : ∀ place, (isName (leafAt parsed.leaves place) || isKeywordLeaf (leafAt parsed.leaves place)) = true →
    (leafAt parsed.leaves place).start ≤ cursor →
      names (.identifier (leafSpan (leafAt parsed.leaves place)) (leafAt parsed.leaves place).text)
  missing : names (.identifier ⟨cursor, cursor⟩ placeholder)

theorem names_start_before (parsed : Parsed) (cursor : Nat) : HoldsOfNames parsed cursor (NameBefore cursor) where
  word _ _ started := .name _ _ started
  missing := .name _ _ (le_refl _)

theorem ok_of_map {α : Type} {step : Except Fault α} {node : α} (made : some <$> step = .ok (some node)) :
    step = .ok node := by
  cases step with
  | error fault => cases made
  | ok value => cases made; rfl

variable {names : Node → Prop}

theorem leaf_origin (known : HoldsOfNames parsed cursor names) {place : Nat} {node : Node}
    (made : leafNode parsed place = .ok node) (started : (leafAt parsed.leaves place).start ≤ cursor) :
    Origin parsed names node := by
  simp only [leafNode] at made
  split at made
  · next word =>
      cases made
      exact .name (known.word place word started)
  · split at made
    · exact .literal _ _ made
    · cases made
      exact .other _

theorem group_origin {expression : Nat → Nat → Except Fault Node} {opener : Nat} {node : Node}
    (made : groupNode expression parsed opener = .ok node) : Origin parsed names node := by
  simp only [groupNode] at made
  split at made
  · cases made
    exact .other _
  · split at made
    · split at made
      · cases made
        exact .other _
      · obtain ⟨target, _, goesOn⟩ := ok_of_bind made
        split at goesOn
        · obtain ⟨arguments, _, built⟩ := ok_of_bind goesOn
          cases built
          exact .call _ _ _
        · cases goesOn
          exact .subscript _ _ _
    · cases made
      exact .other _

theorem attribute_origin {expression : Nat → Nat → Except Fault Node} {dot : Nat} {property node : Node}
    (made : attributeNode expression parsed dot property = .ok (some node)) (named : names property) :
    Origin parsed names node := by
  simp only [attributeNode] at made
  split at made
  · cases made
  · split at made
    · split at made
      · cases made
      · obtain ⟨object, _, built⟩ := ok_of_bind made
        cases built
        exact .access _ _ named
    · cases made

theorem after_leaf_origin (known : HoldsOfNames parsed cursor names) {place : Option Nat} {node : Node}
    (made : afterLeaf parsed cursor place = .ok (some node)) : Origin parsed names node := by
  cases place with
  | none => cases made
  | some place =>
      simp only [afterLeaf] at made
      split at made
      · cases made
      · split at made
        · exact attribute_origin made known.missing
        · split at made
          · cases made
            exact .name known.missing
          · split at made
            · cases made
            · exact group_origin (ok_of_map made)

theorem touched_origin (known : HoldsOfNames parsed cursor names) {place : Nat} {node : Node}
    (made : touched parsed cursor place = .ok (some node)) (started : (leafAt parsed.leaves place).start ≤ cursor) :
    Origin parsed names node := by
  simp only [touched] at made
  split at made
  · next word =>
      obtain ⟨name, leaf, goesOn⟩ := ok_of_bind made
      have named : names name := by
        simp only [leafNode, word, if_true] at leaf
        cases leaf
        exact known.word place word started
      split at goesOn
      · obtain ⟨access, accessed, built⟩ := ok_of_bind goesOn
        cases access with
        | none =>
            cases built
            exact .name named
        | some access =>
            cases built
            exact attribute_origin accessed named
      · cases goesOn
        exact .name named
  · split at made
    · split at made
      · exact after_leaf_origin known made
      · split at made
        · exact group_origin (ok_of_map made)
        · cases made
    · split at made
      · split at made
        · exact after_leaf_origin known made
        · exact after_leaf_origin known made
      · exact leaf_origin known (ok_of_map made) started

theorem open_string_origin {place : Nat} {node : Node} (made : openString parsed cursor place = .ok (some node)) :
    Origin parsed names node := by
  simp only [openString] at made
  split at made
  · cases made
  · split at made
    · exact .literal _ _ (ok_of_map made)
    · exact .literal _ _ (ok_of_map made)

/-- Every node at a cursor is made in one of these ways. -/
theorem origin_of_located (known : HoldsOfNames parsed cursor names) {node : Node}
    (made : locateIn parsed cursor = .ok (some node)) : Origin parsed names node := by
  simp only [locateIn] at made
  split at made
  · cases made
  · next place _ =>
      obtain ⟨string, opened, goesOn⟩ := ok_of_bind made
      cases string with
      | some literal =>
          cases goesOn
          exact open_string_origin opened
      | none =>
          simp only at goesOn
          split at goesOn
          · exact after_leaf_origin known goesOn
          · next filled =>
              simp only [Bool.or_eq_true, decide_eq_true_eq, not_or, Nat.not_lt] at filled
              split at goesOn
              · exact after_leaf_origin known goesOn
              · refine touched_origin known goesOn ?_
                rcases settle_tie_cases parsed cursor place with same | ⟨_, starts, _⟩
                · rw [same]
                  exact filled.2
                · exact le_of_eq starts

theorem located_origin {node : Node} (made : locateIn parsed cursor = .ok (some node)) :
    Origin parsed (NameBefore cursor) node :=
  origin_of_located (names_start_before parsed cursor) made

/-- There is nothing to locate in an empty source. -/
theorem locate_empty (cursor : Int) : locate "" cursor = .ok none := by
  have clamped : clampCursor 0 cursor = 0 := by
    unfold clampCursor
    omega
  have nothing : (locateIn (parse "") 0).toOption.any Option.isNone = true := by decide +kernel
  obtain ⟨node, located, missing⟩ := Run.ok_of_seen nothing
  rw [locate_eq, String.length_empty, clamped, located, Option.isNone_iff_eq_none.mp missing]

end LiveShell.Locate
