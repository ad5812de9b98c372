import LiveShell.Proofs.GuardCourse
import LiveShell.Proofs.SparedNames

/-!
What the guard sees of an expression. It looks names up in one flat namespace, before anything is bound, so what it
has seen of a name tells nothing of what the name stands for in code where a function or a gathering around it keeps
that name. When the name stands for nothing outside, the guard has not gone on. So only names that are both global and
kept escape it, and for all others what a check tells lasts while the expression is evaluated.
-/

namespace LiveShell.Code

set_option autoImplicit false

/-- An expression that makes a container where it stands. -/
def Expr.isDisplay : Expr → Bool
  | .literal (.text _) | .literal (.bytes _) | .joined _ | .list _ | .tuple _ | .set _ | .mapping _
  | .gather .list .. | .gather .set .. | .gatherMapping .. => true
  | .call (.name word) _ _ => word = "range" || word = "dir"
  | _ => false

/-- Whether what an expression stands for in code is what it stands for outside of all functions and gatherings
around it, if anything: a container that is made there, or a name that is not both global and kept by one of them. -/
def Expr.isVisible (global : String → Bool) (kept : List String) : Expr → Bool
  | .name word => !(kept.contains word && global word)
  | expression => expression.isDisplay

theorem not_kept_of_visible {global : String → Bool} {kept : List String} {word : String}
    (visible : Expr.isVisible global kept (.name word) = true) (isGlobal : global word = true) : word ∉ kept := by
  simpa [Expr.isVisible, isGlobal] using visible

/-- Whether the value of an expression has items, if it has any, that a text can only take in turn. -/
def Expr.isInTurn : Expr → Bool
  | .literal (.bytes _) => false
  | .literal _ | .tuple _ | .joined _ => true
  | _ => false

/-- The operands that are searched in a chain of comparisons. -/
def searched : List Relation → List Expr → List Expr
  | relation :: relations, right :: rest =>
      if relation = .member || relation = .notMember then right :: searched relations rest
      else searched relations rest
  | _, _ => []

/-- Whether clauses bind nothing but names and go through visible containers. -/
def clausesVisible (global : String → Bool) (outer inner : List String) : List Expr → Bool
  | [] => true
  | .clause (.name _) source _ _ :: rest => source.isVisible global outer && clausesVisible global inner inner rest
  | _ => false

/-- Whether a part does what the guard sees: what is searched, gone through or asked for a part is visible, and so is
what is called. The other conditions leave out what the guard does not look at: the class of classes makes classes, a
mapping may be asked for what it does not have, and so may what is filled into a text. -/
def Part.isSeen (global : String → Bool) (part : Part) : Bool :=
  match part.expression with
  | .subscript object _ | .starred object => object.isVisible global part.kept
  | .compare _ relations rest => (searched relations rest).all (·.isVisible global part.kept)
  | .gather _ _ clauses | .gatherMapping _ _ clauses =>
      clausesVisible global part.kept (clauseNames clauses ++ part.kept) clauses
  | .call (.name name) arguments keywords =>
      Expr.isVisible global part.kept (.name name) &&
        (name ≠ "type" || (match arguments with
          | [.starred _] => false
          | [_] => keywords.isEmpty
          | _ => false)) &&
        keywords.all fun keyword => !(keyword matches .keyword none _)
  | .binary _ .modulo right => right.isInTurn
  | .mapping entries => entries.all fun entry => !(entry matches .entry none _)
  | _ => true

/-- Every part within a part does what the guard sees. -/
def Part.AllSeen (global : String → Bool) (part : Part) : Prop :=
  ∀ inner, part.Holds inner → inner.isSeen global = true

instance (global : String → Bool) (part : Part) : Decidable (part.AllSeen global) :=
  decidable_of_iff (∀ inner ∈ part.all, inner.isSeen global = true)
    ⟨fun seen inner holds => seen inner (Part.mem_all.mpr holds),
      fun seen inner member => seen inner (Part.mem_all.mp member)⟩

/-- Whether the value of an expression is a container wherever the guard has found it to be right: a display, or
what stands behind a star. -/
def Expr.isUnpacked : Expr → Bool
  | .starred _ => true
  | expression => expression.isDisplay

end LiveShell.Code

namespace LiveShell.Guard

open Code (Expr Part)
open Run

variable {space bound : Address} {global : String → Bool} {world : World}

/-- What the guard has found out about an expression that it looked at: a name stands for a container. -/
def Met (space : Address) (world : World) : Expr → Prop
  | .name name => ∃ value, StandsFor space world name value ∧ IsContainer world value
  | _ => True

/-- What a check tells of a world when it is passed. -/
def Check.Told (space : Address) (world : World) : Check → Prop
  | .refusal _ => False
  | .call callee _ => ∃ name ∈ pureNames, callee = .name name ∧
      ∃ value, builtinValue? name = some value ∧ StandsFor space world name value
  | .operation .. => True
  | .memberships relations rest => ∀ part ∈ Code.searched relations rest, Met space world part
  | .sources clauses => ∀ part ∈ Check.sourcesOf clauses, Met space world part
  | .plain part kinds => (∀ kind ∈ kinds, kind ∈ plainContainers) → Met space world part

/-- A world in which all checks on a course are passed. -/
structure Ready (space : Address) (global : String → Bool) (checks : List Check) (world : World) : Prop
    extends Surveyed space global world where
  told : ∀ check ∈ checks, check.Told space world

theorem Met.lasts {part : Expr} : Lasts space bound fun world => IsHome space world ∧ Met space world part := by
  rintro before after grounded spared ⟨home, met⟩
  refine ⟨home_lasts grounded spared home, ?_⟩
  cases part with
  | name name =>
      obtain ⟨value, stands, container⟩ := met
      exact ⟨value, (stands_for_lasts grounded spared ⟨home, stands⟩).2, container.after grounded spared⟩
  | _ => trivial

theorem ready_lasts {checks : List Check} : Lasts space bound (Ready space global checks) := by
  intro before after grounded spared ready
  have met {part : Expr} (known : Met space before part) : Met space after part :=
    (Met.lasts grounded spared ⟨ready.home, known⟩).2
  refine ⟨surveyed_lasts grounded spared ready.toSurveyed, fun check member => ?_⟩
  have here := ready.told check member
  cases check with
  | refusal | operation => exact here
  | call callee whole =>
      obtain ⟨name, pure, isName, value, builtin, stands⟩ := here
      exact ⟨name, pure, isName, value, builtin, (stands_for_lasts grounded spared ⟨ready.home, stands⟩).2⟩
  | memberships relations rest => exact fun part searched => met (here part searched)
  | sources clauses => exact fun part source => met (here part source)
  | plain part kinds => exact fun plain => met (here plain)

theorem Ready.within {checks others : List Check} (ready : Ready space global checks world)
    (within : others ⊆ checks) : Ready space global others world :=
  ⟨ready.toSurveyed, fun check member => ready.told check (within member)⟩

end LiveShell.Guard
