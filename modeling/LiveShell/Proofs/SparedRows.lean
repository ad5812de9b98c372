import LiveShell.Proofs.SeenParts

/-!
Rows of expressions leave no trace when each of them leaves none: the items of a display, the arguments of a call, the
operands of a comparison and the clauses of a gathering. What is unpacked, searched or gone through on the way must be a
container, and is one when it is made where it stands or when it is a name that the guard has looked at.
-/

namespace LiveShell.Run

open Code (Expr Part)

set_option autoImplicit false

variable {α β : Type} {space bound : Address} {engine : Engine} {world : World}

/-! ### Containers that an evaluation makes -/

/-- A computation that gives nothing but containers. -/
def MakesContainer (space bound : Address) (holds : World → Prop) (run : Run Value) : Prop :=
  ∀ world, holds world → Grounded space bound world →
    ∀ value after, run.runIn world = (.ok value, after) → IsContainer after value

section Rows

variable {holds : World → Prop} {scope : Scope}

theorem makes_pure {value : Value} (container : ∀ world, holds world → IsContainer world value) :
    MakesContainer space bound holds (pure value) := by
  intro world here _ found after given
  cases given
  exact container world here

theorem makes_new {cell : Cell} (tame : cell.isTame = true) (plain : cell.kind ∈ Guard.plainContainers) :
    MakesContainer space bound holds (new cell) := by
  intro world _ _ value after given
  cases given
  exact .of_cell Array.getElem?_push_size tame plain

theorem makes_bind (lasts : Lasts space bound holds) {run : Run α} {next : α → Run Value}
    (first : SparesWhile space bound holds run) (later : ∀ value, MakesContainer space bound holds (next value)) :
    MakesContainer space bound holds (run >>= next) := by
  intro world here grounded result after given
  obtain ⟨value, between, earlier, rest⟩ := run_of_bind given
  have spared := first world here grounded
  rw [earlier] at spared
  exact later value between (lasts grounded spared here) (grounded.after spared) _ _ rest

/-- What was made as a container and filled on the way is one in the end. -/
theorem makes_allocated (lasts : Lasts space bound holds) {cell : Cell} (tame : cell.isTame = true)
    (plain : cell.kind ∈ Guard.plainContainers) {next : Address → Run Value}
    (fills : ∀ address, bound ≤ address → SparesWhile space bound holds (next address))
    (gives : ∀ address, Gives (next address) (· = .ref address)) :
    MakesContainer space bound holds (allocate cell >>= next) := by
  intro world here grounded result after given
  obtain ⟨address, between, earlier, rest⟩ := run_of_bind given
  have spared : Spared space bound world ((allocate cell).runIn world).2 := spares_allocate tame world grounded
  rw [earlier] at spared
  cases earlier
  have container : IsContainer { world with cells := world.cells.push cell } (.ref world.cells.size) :=
    .of_cell Array.getElem?_push_size tame plain
  have filled := fills _ grounded.size _ (lasts grounded spared here) (grounded.after spared)
  rw [rest] at filled
  rw [gives _ _ _ _ rest]
  exact container.after (grounded.after spared) filled

theorem spares_while_allocate {cell : Cell} (lasts : Lasts space bound holds) (tame : cell.isTame = true)
    {next : Address → Run β} (later : ∀ address, bound ≤ address → SparesWhile space bound holds (next address)) :
    SparesWhile space bound holds (allocate cell >>= next) := by
  intro world here grounded
  refine spares_at_bind (spares_allocate tame world) (fun address after given spared => ?_) grounded
  cases given
  exact later _ grounded.size _ (lasts grounded spared here)

/-- A step that gives a container, and what is done with that. -/
theorem spares_while_container (lasts : Lasts space bound holds) {run : Run Value} {next : Value → Run β}
    (first : SparesWhile space bound holds run) (makes : MakesContainer space bound holds run)
    (later : ∀ value world, holds world → IsContainer world value → SparesAt space bound world (next value)) :
    SparesWhile space bound holds (run >>= next) := by
  intro world here grounded
  refine spares_at_bind (first world here) (fun value after given spared => ?_) grounded
  exact later value after (lasts grounded spared here) (makes world here grounded value after given)

end Rows

/-! ### Rows of expressions -/

@[grind .]
theorem spares_function_text (function : Value) : Spares space bound (functionText engine function) := by
  unfold functionText
  refine spares_bind (spares_attribute_if_any _ _) fun found => ?_
  split
  · exact spares_text_of _
  · refine spares_bind (spares_text_of _) fun name => spares_bind (spares_attribute_if_any _ _) fun module => ?_
    split <;> grind

@[grind .]
theorem spares_join_keywords {function : Run String} (texts : Spares space bound function)
    (named : List (String × Value)) (entries : List (Value × Value)) :
    Spares space bound (joinKeywords function named entries) := by
  fun_induction joinKeywords function named entries <;> grind

@[grind .]
theorem spares_convert_field (conversion : Option Char) (value : Value) :
    Spares space bound (convertField engine conversion value) := by
  unfold convertField
  split <;> grind

theorem spares_make_function (scope : Scope) (name : String) (parameters : List Expr)
    (defaults : List (String × Value)) (body : FunctionBody) (locals : List String) (isAsync isGenerator : Bool) :
    Spares space bound (makeFunction scope name parameters defaults body locals isAsync isGenerator) := by
  unfold makeFunction
  exact spares_bind (spares_new_dict _) fun _ => spares_new rfl

/-- What an engine does about built-in values: it steps iterators over containers, and calls pure functions. -/
structure IsQuiet (space bound : Address) (engine : Engine) : Prop where
  steps : StepsQuietly space bound engine
  calls : CallsQuietly space bound engine
  ranges : ∀ given : Given, MakesContainer space bound (fun _ => True)
    (engine.call (.kind .range) given.positional given.named)
  listings : ∀ given : Given, MakesContainer space bound (fun _ => True)
    (engine.call (.routine "dir") given.positional given.named)

/-- In worlds of some sort, an expression is evaluated without a trace below the bound. -/
structure CalmIn (space bound : Address) (engine : Engine) (holds : World → Prop) (scope : Scope)
    (expression : Expr) : Prop where
  spares : SparesWhile space bound holds (Gated.evaluate engine .free scope expression)
  makes : expression.isUnpacked = true →
    MakesContainer space bound holds (Gated.evaluate engine .free scope expression)

section Calm

variable {holds : World → Prop} {scope : Scope}

theorem CalmIn.mono {other : World → Prop} {expression : Expr} (calm : CalmIn space bound engine holds scope expression)
    (narrower : ∀ world, other world → holds world) : CalmIn space bound engine other scope expression where
  spares world here := calm.spares world (narrower world here)
  makes unpacked world here := calm.makes unpacked world (narrower world here)

/-- What need not give a container has only to leave no trace. -/
theorem CalmIn.of_spares {expression : Expr} (other : expression.isUnpacked = false)
    (spares : SparesWhile space bound holds (Gated.evaluate engine .free scope expression)) :
    CalmIn space bound engine holds scope expression where
  spares := spares
  makes unpacked := absurd unpacked (by simp [other])

theorem CalmIn.of_never {expression : Expr} (never : ∀ world, ¬holds world) :
    CalmIn space bound engine holds scope expression where
  spares world here := absurd here (never world)
  makes _ world here := absurd here (never world)

theorem any_spares (expression : Option Expr) (calm : ∀ inner ∈ expression, CalmIn space bound engine holds scope inner)
    (lasts : Lasts space bound holds) :
    SparesWhile space bound holds (Gated.evaluateAny engine .free scope expression) := by
  cases expression with
  | none =>
      simp only [Gated.evaluateAny]
      exact spares_while (spares_pure _)
  | some inner =>
      simp only [Gated.evaluateAny, map_eq_pure_bind]
      exact spares_while_bind lasts (calm inner rfl).spares fun _ => spares_while (spares_pure _)

theorem pieces_spare (lasts : Lasts space bound holds) {pieces : List Expr}
    (calm : ∀ piece ∈ pieces, CalmIn space bound engine holds scope piece) :
    SparesWhile space bound holds (Gated.evaluatePieces engine .free scope pieces) := by
  induction pieces with
  | nil =>
      simp only [Gated.evaluatePieces]
      exact spares_while (spares_pure _)
  | cons piece pieces induction =>
      obtain ⟨here, others⟩ := List.forall_mem_cons.mp calm
      simp only [Gated.evaluatePieces]
      refine spares_while_bind lasts here.spares fun value => ?_
      refine spares_while_bind lasts (spares_while (spares_text_of _)) fun text => ?_
      exact spares_while_bind lasts (induction others) fun _ => spares_while (spares_pure _)

theorem logical_spares (lasts : Lasts space bound holds) (every : Bool) {operands : List Expr}
    (calm : ∀ operand ∈ operands, CalmIn space bound engine holds scope operand) :
    SparesWhile space bound holds (Gated.evaluateLogical engine .free scope every operands) := by
  induction operands with
  | nil =>
      simp only [Gated.evaluateLogical]
      exact spares_while (spares_pure _)
  | cons operand operands induction =>
      obtain ⟨here, others⟩ := List.forall_mem_cons.mp calm
      cases operands with
      | nil =>
          simp only [Gated.evaluateLogical]
          exact here.spares
      | cons =>
          simp only [Gated.evaluateLogical]
          refine spares_while_bind lasts here.spares fun value => ?_
          refine spares_while_bind lasts (spares_while (spares_holds _)) fun decides => ?_
          split
          · exact induction others
          · exact spares_while (spares_pure _)

theorem items_spare (lasts : Lasts space bound holds) {items : List Expr}
    (calm : ∀ item ∈ items, CalmIn space bound engine holds scope item) :
    SparesWhile space bound holds (Gated.evaluateItems engine .free scope items) := by
  induction items with
  | nil =>
      simp only [Gated.evaluateItems]
      exact spares_while (spares_pure _)
  | cons item items induction =>
      obtain ⟨here, others⟩ := List.forall_mem_cons.mp calm
      have rest (first : List Value → List Value) : SparesWhile space bound holds
          (do return first (← Gated.evaluateItems engine .free scope items)) :=
        spares_while_bind lasts (induction others) fun _ => spares_while (spares_pure _)
      cases item with
      | starred value =>
          have spares := here.spares
          have makes := here.makes rfl
          simp only [Gated.evaluate] at spares makes
          simp only [Gated.evaluateItems]
          refine spares_while_container lasts spares makes fun value world here container grounded => ?_
          refine spares_at_bind (spares_at_items_behind_star container) (fun first after _ spared => ?_) grounded
          exact rest _ after (lasts grounded spared here)
      | _ =>
          simp only [Gated.evaluateItems]
          exact spares_while_bind lasts here.spares fun first => rest _

theorem arguments_spare (lasts : Lasts space bound holds) (callee : Value) {arguments : List Expr}
    (calm : ∀ argument ∈ arguments, CalmIn space bound engine holds scope argument) :
    SparesWhile space bound holds (Gated.evaluateArguments engine .free scope callee arguments) := by
  induction arguments with
  | nil =>
      simp only [Gated.evaluateArguments]
      exact spares_while (spares_pure _)
  | cons argument arguments induction =>
      obtain ⟨here, others⟩ := List.forall_mem_cons.mp calm
      have rest (first : List Value → List Value) : SparesWhile space bound holds
          (do return first (← Gated.evaluateArguments engine .free scope callee arguments)) :=
        spares_while_bind lasts (induction others) fun _ => spares_while (spares_pure _)
      cases argument with
      | starred value =>
          have spares := here.spares
          have makes := here.makes rfl
          simp only [Gated.evaluate] at spares makes
          cases arguments with
          | nil =>
              simp only [Gated.evaluateArguments]
              refine spares_while_container lasts spares makes fun value world here container => ?_
              refine spares_at_bind_container container (spares_has_items _) fun has after container => ?_
              split
              · refine spares_bind (spares_function_text _) (fun _ => ?_) after
                exact spares_bind (spares_type_name _) fun _ => spares_fail_bind
              · exact fun grounded =>
                  spares_at_bind (spares_at_collect container) (fun items last _ _ => spares_pure _ last) grounded
          | cons =>
              simp only [Gated.evaluateArguments]
              refine spares_while_container lasts spares makes fun value world here container grounded => ?_
              refine spares_at_bind (spares_at_items_behind_star container) (fun first after _ spared => ?_) grounded
              exact rest _ after (lasts grounded spared here)
      | _ =>
          simp only [Gated.evaluateArguments]
          exact spares_while_bind lasts here.spares fun first => rest _

theorem keywords_spare (lasts : Lasts space bound holds) (callee : Value) (named : List (String × Value))
    {keywords : List Expr} (calm : ∀ keyword ∈ keywords, CalmIn space bound engine holds scope keyword)
    (single : ∀ keyword ∈ keywords, ∀ value, keyword ≠ .keyword none value) :
    SparesWhile space bound holds (Gated.evaluateKeywords engine .free scope callee named keywords) := by
  induction keywords generalizing named with
  | nil =>
      simp only [Gated.evaluateKeywords]
      exact spares_while (spares_pure _)
  | cons keyword keywords induction =>
      obtain ⟨here, others⟩ := List.forall_mem_cons.mp calm
      obtain ⟨isSingle, singles⟩ := List.forall_mem_cons.mp single
      cases keyword with
      | keyword name value =>
          cases name with
          | none => exact absurd rfl (isSingle value)
          | some name =>
              have spares := here.spares
              simp only [Gated.evaluate] at spares
              simp only [Gated.evaluateKeywords]
              refine spares_while_bind lasts spares fun value => ?_
              refine spares_while_bind lasts ?_ fun named => induction named others singles
              exact spares_while (spares_join_keywords (spares_function_text _) _ _)
      | _ =>
          simp only [Gated.evaluateKeywords]
          exact induction named others singles

/-- What is searched for something must be a container. -/
theorem relate_by_spares (quiet : IsQuiet space bound engine) (relation : Code.Relation) (left right : Value)
    (container : relation = .member ∨ relation = .notMember → IsContainer world right) :
    SparesAt space bound world (relateBy engine relation left right) := by
  cases relation with
  | member =>
      exact fun grounded => spares_at_bind (spares_at_contains quiet.steps left (container (.inl rfl)))
        (fun _ after _ _ => spares_pure _ after) grounded
  | notMember =>
      exact fun grounded => spares_at_bind (spares_at_contains quiet.steps left (container (.inr rfl)))
        (fun _ after _ _ => spares_pure _ after) grounded
  | same | notSame => exact spares_pure _ world
  | _ => exact spares_relate _ _ _ world

theorem operand_spares (quiet : IsQuiet space bound engine) (lasts : Lasts space bound holds)
    (relations : List Code.Relation) (left : Value) {right : Expr} {rest : List Expr}
    (calm : CalmIn space bound engine holds scope right)
    (containers : ∀ operand ∈ Code.searched relations (right :: rest),
      MakesContainer space bound holds (Gated.evaluate engine .free scope operand)) {next : Value → Value → Run β}
    (later : ∀ right result, SparesWhile space bound holds (next right result)) :
    SparesWhile space bound holds (do
      let right ← Gated.evaluate engine .free scope right
      let result ← relateBy engine (relations.headD .equal) left right
      next right result) := by
  intro world here grounded
  refine spares_at_bind (calm.spares world here) (fun value after given spared => ?_) grounded
  have searched : relations.headD .equal = .member ∨ relations.headD .equal = .notMember → IsContainer after value := by
    intro searches
    refine containers right ?_ world here grounded value after given
    cases relations with
    | nil => rcases searches with same | same <;> cases same
    | cons relation relations =>
        rw [List.headD_cons] at searches
        simp [Code.searched, searches]
  have here := lasts grounded spared here
  refine fun grounded =>
    spares_at_bind (relate_by_spares quiet _ _ _ searched) (fun result last _ spared => ?_) grounded
  exact later value result last (lasts grounded spared here)

theorem comparison_spares (quiet : IsQuiet space bound engine) (lasts : Lasts space bound holds) (left : Value)
    (relations : List Code.Relation) {rest : List Expr}
    (calm : ∀ operand ∈ rest, CalmIn space bound engine holds scope operand)
    (containers : ∀ operand ∈ Code.searched relations rest,
      MakesContainer space bound holds (Gated.evaluate engine .free scope operand)) :
    SparesWhile space bound holds (Gated.evaluateComparison engine .free scope left relations rest) := by
  induction rest generalizing left relations with
  | nil =>
      simp only [Gated.evaluateComparison]
      exact spares_while (spares_pure _)
  | cons right rest induction =>
      obtain ⟨here, others⟩ := List.forall_mem_cons.mp calm
      cases rest with
      | nil =>
          simp only [Gated.evaluateComparison]
          have spares := operand_spares quiet lasts relations left here containers fun _ result =>
            spares_while (spares_pure result)
          simpa only [bind_pure] using spares
      | cons =>
          simp only [Gated.evaluateComparison]
          refine operand_spares quiet lasts relations left here containers fun right result => ?_
          refine spares_while_bind lasts (spares_while (spares_holds _)) fun goesOn => ?_
          split
          · refine induction _ _ others fun operand member => containers operand ?_
            cases relations with
            | nil => simp [Code.searched] at member
            | cons relation relations =>
                simp only [Code.searched]
                split
                · exact List.mem_cons_of_mem _ member
                · exact member
          · exact spares_while (spares_pure _)

theorem hold_spares (lasts : Lasts space bound holds) {conditions : List Expr}
    (calm : ∀ condition ∈ conditions, CalmIn space bound engine holds scope condition) :
    SparesWhile space bound holds (Gated.allHold engine .free scope conditions) := by
  induction conditions with
  | nil =>
      simp only [Gated.allHold]
      exact spares_while (spares_pure _)
  | cons condition conditions induction =>
      obtain ⟨here, others⟩ := List.forall_mem_cons.mp calm
      simp only [Gated.allHold]
      refine spares_while_bind lasts here.spares fun value => ?_
      refine spares_while_bind lasts (spares_while (spares_holds _)) fun decides => ?_
      split
      · exact induction others
      · exact spares_while (spares_pure _)

end Calm

/-- In worlds of some sort, a part is evaluated without a trace below the bound in every scope that fits it. -/
def Clear (space bound : Address) (engine : Engine) (holds : World → Prop) (part : Part) : Prop :=
  ∀ scope, Fits space bound part.kept scope → CalmIn space bound engine holds scope part.expression

section Clear

variable {global : String → Bool} {holds : World → Prop} {kept : List String} {scope : Scope}

theorem entries_spare (lasts : Lasts space bound holds) (fits : Fits space bound kept scope) {address : Address}
    (fresh : bound ≤ address) {entries : List Expr}
    (clear : ∀ part ∈ Code.entryParts kept entries, Clear space bound engine holds part)
    (single : ∀ entry ∈ entries, ∀ value, entry ≠ .entry none value) :
    SparesWhile space bound holds (Gated.evaluateEntries engine .free scope address entries) := by
  induction entries with
  | nil =>
      simp only [Gated.evaluateEntries]
      exact spares_while (spares_pure _)
  | cons item entries induction =>
      obtain ⟨isSingle, singles⟩ := List.forall_mem_cons.mp single
      cases item with
      | entry key value =>
          cases key with
          | none => exact absurd rfl (isSingle value)
          | some key =>
              have keyClear := clear ⟨kept, key⟩ (by simp [Code.entryParts]) scope fits
              have valueClear := clear ⟨kept, value⟩ (by simp [Code.entryParts]) scope fits
              simp only [Gated.evaluateEntries]
              refine spares_while_bind lasts keyClear.spares fun key => ?_
              refine spares_while_bind lasts valueClear.spares fun value => ?_
              refine spares_while_bind lasts (spares_while (spares_set_entry fresh _ _)) fun _ => ?_
              exact induction (fun part member => clear part (by simp [Code.entryParts, member])) singles
      | _ =>
          simp only [Gated.evaluateEntries]
          exact induction clear singles

theorem defaults_spare (lasts : Lasts space bound holds) (fits : Fits space bound kept scope) {parameters : List Expr}
    (clear : ∀ part ∈ Code.defaultParts kept parameters, Clear space bound engine holds part) :
    SparesWhile space bound holds (Gated.evaluateDefaults engine .free scope parameters) := by
  induction parameters with
  | nil =>
      simp only [Gated.evaluateDefaults]
      exact spares_while (spares_pure _)
  | cons parameter parameters induction =>
      cases parameter with
      | parameter name kind annotated default =>
          cases default with
          | none =>
              simp only [Gated.evaluateDefaults]
              exact induction clear
          | some default =>
              obtain ⟨here, others⟩ := List.forall_mem_cons.mp clear
              simp only [Gated.evaluateDefaults]
              refine spares_while_bind lasts (here scope fits).spares fun value => ?_
              exact spares_while_bind lasts (induction others) fun _ => spares_while (spares_pure _)
      | _ =>
          simp only [Gated.evaluateDefaults]
          exact induction clear

/-- What is visible gives a container, when what the guard looked at was one. -/
theorem makes_visible (fits : Fits space bound kept scope)
    (surveyed : ∀ world, holds world → Surveyed space global world) {expression : Expr}
    (visible : expression.isVisible global kept = true) (met : ∀ world, holds world → Guard.Met space world expression)
    (calm : CalmIn space bound engine holds scope expression) :
    MakesContainer space bound holds (Gated.evaluate engine .free scope expression) := by
  cases expression with
  | name name =>
      intro world here grounded value after given
      obtain ⟨found, stands, container⟩ := met world here
      have isGlobal := (surveyed world here).names name found stands
      simp only [Gated.evaluate, fits.look_up (Code.not_kept_of_visible visible isGlobal) stands] at given
      cases given
      exact container
  | starred => cases visible
  | _ => exact calm.makes visible

/-! ### Gathering -/

theorem spares_while_inner_scope (lasts : Lasts space bound holds) (fits : Fits space bound kept scope)
    (names : List String) (qualifier : String) {next : Scope → Run β}
    (later : ∀ inner, Fits space bound (names ++ kept) inner →
      (∀ name ∈ names, ∃ frame ∈ inner.frames, name ∈ frame.names) → SparesWhile space bound holds (next inner)) :
    SparesWhile space bound holds (innerScope scope names [] qualifier >>= next) := by
  simp only [innerScope, bind_assoc, pure_bind]
  refine spares_while_allocate lasts rfl fun address fresh => later _ ⟨fits.globals, rfl, ⟨rfl, ?_⟩, ?_⟩ ?_
  · intro frame member name known
    rcases List.mem_cons.mp member with rfl | outer
    · exact List.mem_append_left _ known
    · exact List.mem_append_right _ (fits.keeps.frames frame outer name known)
  · intro frame member
    rcases List.mem_cons.mp member with rfl | outer
    · exact fresh
    · exact fits.fresh frame outer
  · exact fun name known => ⟨_, List.mem_cons_self, known⟩

/-- Clauses that bind names and go through visible containers leave a trace in their own frame only. -/
theorem gather_spares (quiet : IsQuiet space bound engine) (lasts : Lasts space bound holds)
    (surveyed : ∀ world, holds world → Surveyed space global world) {innerKept : List String} {outer inner : Scope}
    (fits : Fits space bound kept outer) (fitsInner : Fits space bound innerKept inner) {clauses : List Expr}
    (binds : ∀ name ∈ Code.clauseNames clauses, ∃ frame ∈ inner.frames, name ∈ frame.names)
    (visible : Code.clausesVisible global kept innerKept clauses = true)
    (met : ∀ world, holds world → ∀ source ∈ Guard.Check.sourcesOf clauses, Guard.Met space world source)
    (clear : ∀ part ∈ Code.clauseParts kept innerKept clauses, Clear space bound engine holds part)
    {action : Run Unit} (acts : SparesWhile space bound holds action) :
    SparesWhile space bound holds (Gated.gather engine .free outer inner action clauses) := by
  induction clauses generalizing outer kept with
  | nil =>
      simp only [Gated.gather]
      exact acts
  | cons clause rest induction =>
      cases clause with
      | clause target source conditions isAsync =>
          cases target with
          | name word =>
              simp only [Code.clausesVisible, Bool.and_eq_true] at visible
              have sourceClear := clear ⟨kept, source⟩ (by simp [Code.clauseParts]) outer fits
              have sourceMakes := makes_visible fits surveyed visible.1
                (fun world here => met world here source (by simp [Guard.Check.sourcesOf])) sourceClear
              have bindsWord := fun value => spares_bind_name fitsInner (binds word (by
                simp [Code.clauseNames, Code.Expr.targetNames])) value
              have conditionsSpare : SparesWhile space bound holds (Gated.allHold engine .free inner conditions) :=
                hold_spares lasts fun condition member =>
                  clear ⟨innerKept, condition⟩ (by simp [Code.clauseParts, member]) inner fitsInner
              have restSpares := induction fitsInner
                (fun name member => binds name (List.mem_append_right [word] member)) visible.2
                (fun world here part member => met world here part (by simp [Guard.Check.sourcesOf, member]))
                (fun part member => clear part (by simp [Code.clauseParts, member]))
              have steps (item : Value) : SparesWhile space bound holds (do
                  Gated.assign engine .free inner item (.name word)
                  if ← Gated.allHold engine .free inner conditions then
                    Gated.gather engine .free inner inner action rest
                  return true) := by
                simp only [Gated.assign]
                refine spares_while_bind lasts (spares_while (bindsWord item)) fun _ => ?_
                refine spares_while_bind lasts conditionsSpare fun all => ?_
                split
                · exact spares_while_bind lasts restSpares fun _ => spares_while (spares_pure _)
                · exact spares_while (spares_pure _)
              simp only [Gated.gather]
              refine spares_while_container lasts sourceClear.spares sourceMakes fun value world here container => ?_
              split
              · exact spares_bind (spares_type_name _) (fun _ => spares_fail_bind) world
              · refine fun grounded => spares_at_iterate_bind container (fun iterator after spared walk => ?_) grounded
                exact spares_while_for_each lasts quiet.steps steps iterator patience after
                  ⟨lasts grounded spared here, walk⟩
          | _ => cases visible
      | _ => cases visible

end Clear

end LiveShell.Run
