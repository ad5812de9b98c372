import LiveShell.Proofs.SparedRows

/-!
Evaluation leaves no trace where the guard has seen what an expression does. Each kind of expression leaves none when
the parts directly within it leave none and the checks along the guard's course through it were passed; an induction
over the parts then tells it of the whole.
-/

namespace LiveShell.Run

open Code (Expr Part)
open Guard (Check Ready course)

set_option autoImplicit false

variable {space bound : Address} {engine : Engine} {world : World} {global : String → Bool} {holds : World → Prop}
  {kept : List String} {scope : Scope} {isTarget : Bool}

theorem leaving_subset {expression : Expr} : Guard.leaving isTarget expression ⊆ course isTarget expression := by
  rw [Guard.course_eq]
  exact List.subset_append_right _ _

theorem searched_subset {relations : List Code.Relation} {rest : List Expr} :
    Code.searched relations rest ⊆ rest := by
  fun_induction Code.searched relations rest with
  | case1 relation relations right rest searches induction => exact List.cons_subset_cons _ induction
  | case2 relation relations right rest other induction => exact List.subset_cons_of_subset _ induction
  | case3 => exact List.nil_subset _

/-! ### Values that stand for themselves -/

theorem literal_calm (value : Code.Literal) : CalmIn space bound engine holds scope (.literal value) := by
  constructor
  · simp only [Gated.evaluate]
    exact spares_while (spares_pure _)
  · intro isText
    simp only [Gated.evaluate]
    refine makes_pure fun world _ => ?_
    cases value with
    | text | bytes => constructor
    | _ => cases isText

theorem joined_calm (lasts : Lasts space bound holds) {pieces : List Expr}
    (calm : ∀ piece ∈ pieces, CalmIn space bound engine holds scope piece) :
    CalmIn space bound engine holds scope (.joined pieces) := by
  have spares := pieces_spare lasts calm
  constructor
  · simp only [Gated.evaluate]
    exact spares_while_bind lasts spares fun _ => spares_while (spares_pure _)
  · intro _
    simp only [Gated.evaluate]
    exact makes_bind lasts spares fun text => makes_pure fun _ _ => .text text

theorem field_calm (lasts : Lasts space bound holds) {value : Expr} {conversion : Option Char} {layout : Option Expr}
    (calm : CalmIn space bound engine holds scope value)
    (layoutCalm : ∀ inner ∈ layout, CalmIn space bound engine holds scope inner) :
    CalmIn space bound engine holds scope (.field value conversion layout) := by
  refine .of_spares rfl ?_
  simp only [Gated.evaluate]
  refine spares_while_bind lasts calm.spares fun value => ?_
  refine spares_while_bind lasts (spares_while (spares_convert_field _ _)) fun value => ?_
  refine spares_while_bind lasts (any_spares layout layoutCalm lasts) fun layout => ?_
  split <;> exact spares_while (spares_bind (spares_lay_out _ _) fun _ => spares_pure _)

theorem lambda_calm (lasts : Lasts space bound holds) {parameters : List Expr} {body : Expr}
    (defaults : SparesWhile space bound holds (Gated.evaluateDefaults engine .free scope parameters)) :
    CalmIn space bound engine holds scope (.lambda parameters body) := by
  refine .of_spares rfl ?_
  simp only [Gated.evaluate]
  exact spares_while_bind lasts defaults fun _ => spares_while (spares_make_function _ _ _ _ _ _ _ _)

/-! ### Operators -/

theorem gives_in_turn (gate : Gate) (scope : Scope) {expression : Expr} (turn : expression.isInTurn = true) :
    Gives (Gated.evaluate engine gate scope expression) (givesInTurn · = true) := by
  cases expression with
  | literal value =>
      simp only [Gated.evaluate]
      refine gives_pure ?_
      cases value <;> first | rfl | cases turn
  | tuple items | joined items =>
      simp only [Gated.evaluate]
      exact gives_bind (gives_any _) fun _ _ => gives_pure rfl
  | _ => cases turn

theorem binary_calm {left right : Expr} {operator : Code.BinaryOperator}
    (seen : Part.isSeen global ⟨kept, .binary left operator right⟩ = true) (lasts : Lasts space bound holds)
    (leftCalm : CalmIn space bound engine holds scope left) (rightCalm : CalmIn space bound engine holds scope right) :
    CalmIn space bound engine holds scope (.binary left operator right) := by
  refine .of_spares rfl ?_
  simp only [Gated.evaluate]
  refine spares_while_bind lasts leftCalm.spares fun first world here grounded => ?_
  refine spares_at_bind (rightCalm.spares world here)
    (fun second after given _ => spares_operate (fun isModulo => ?_) false first after) grounded
  subst isModulo
  have turn := gives_in_turn .free scope (by simpa [Part.isSeen] using seen) _ _ _ given
  exact ⟨direct_of_turn turn, fun text => spares_fill_in text turn⟩

theorem unary_calm (lasts : Lasts space bound holds) (operator : Code.UnaryOperator) {operand : Expr}
    (calm : CalmIn space bound engine holds scope operand) :
    CalmIn space bound engine holds scope (.unary operator operand) := by
  refine .of_spares rfl ?_
  simp only [Gated.evaluate]
  exact spares_while_bind lasts calm.spares fun value => spares_while (spares_operate_on _ _)

theorem conditional_calm (lasts : Lasts space bound holds) {test yes no : Expr}
    (testCalm : CalmIn space bound engine holds scope test) (yesCalm : CalmIn space bound engine holds scope yes)
    (noCalm : CalmIn space bound engine holds scope no) :
    CalmIn space bound engine holds scope (.conditional test yes no) := by
  refine .of_spares rfl ?_
  simp only [Gated.evaluate]
  refine spares_while_bind lasts testCalm.spares fun value => ?_
  refine spares_while_bind lasts (spares_while (spares_holds _)) fun decides => ?_
  split
  · exact yesCalm.spares
  · exact noCalm.spares

theorem compare_calm (quiet : IsQuiet space bound engine) (lasts : Lasts space bound holds) {first : Expr}
    {relations : List Code.Relation} {rest : List Expr} (calm : CalmIn space bound engine holds scope first)
    (operands : ∀ operand ∈ rest, CalmIn space bound engine holds scope operand)
    (containers : ∀ operand ∈ Code.searched relations rest,
      MakesContainer space bound holds (Gated.evaluate engine .free scope operand)) :
    CalmIn space bound engine holds scope (.compare first relations rest) := by
  refine .of_spares rfl ?_
  simp only [Gated.evaluate]
  exact spares_while_bind lasts calm.spares fun left => comparison_spares quiet lasts left relations operands containers

/-! ### Parts of values -/

theorem subscript_calm (lasts : Lasts space bound holds) {object index : Expr}
    (calm : CalmIn space bound engine holds scope object)
    (makes : MakesContainer space bound holds (Gated.evaluate engine .free scope object))
    (indexCalm : CalmIn space bound engine holds scope index) :
    CalmIn space bound engine holds scope (.subscript object index) := by
  refine .of_spares rfl ?_
  simp only [Gated.evaluate]
  refine spares_while_container lasts calm.spares makes fun object world here container grounded => ?_
  refine spares_at_bind (indexCalm.spares world here) (fun index after _ spared => ?_) grounded
  exact spares_at_item_of index (container.after grounded spared)

theorem slice_calm (lasts : Lasts space bound holds) {lower upper step : Option Expr}
    (calm : ∀ part ∈ [lower, upper, step], ∀ inner ∈ part, CalmIn space bound engine holds scope inner) :
    CalmIn space bound engine holds scope (.slice lower upper step) := by
  have bounds : ∀ part ∈ [lower, upper, step],
      SparesWhile space bound holds (Gated.evaluateAny engine .free scope part) :=
    fun part member => any_spares part (calm part member) lasts
  refine .of_spares rfl ?_
  simp only [Gated.evaluate]
  refine spares_while_bind lasts (bounds lower (by simp)) fun _ => ?_
  refine spares_while_bind lasts (bounds upper (by simp)) fun _ => ?_
  exact spares_while_bind lasts (bounds step (by simp)) fun _ => spares_while (spares_pure _)

/-! ### Displays -/

section Displays

variable {items : List Expr}

theorem list_calm (lasts : Lasts space bound holds)
    (calm : ∀ item ∈ items, CalmIn space bound engine holds scope item) :
    CalmIn space bound engine holds scope (.list items) := by
  have spares := items_spare lasts calm
  constructor
  · simp only [Gated.evaluate]
    exact spares_while_bind lasts spares fun items => spares_while (spares_new_list _)
  · intro _
    simp only [Gated.evaluate]
    refine makes_bind lasts spares fun items => ?_
    exact makes_new rfl (by simp [Cell.kind, Guard.plainContainers])

theorem tuple_calm (lasts : Lasts space bound holds)
    (calm : ∀ item ∈ items, CalmIn space bound engine holds scope item) :
    CalmIn space bound engine holds scope (.tuple items) := by
  have spares := items_spare lasts calm
  constructor
  · simp only [Gated.evaluate]
    exact spares_while_bind lasts spares fun items => spares_while (spares_pure _)
  · intro _
    simp only [Gated.evaluate]
    exact makes_bind lasts spares fun items => makes_pure fun _ _ => .tuple items

theorem set_calm (lasts : Lasts space bound holds)
    (calm : ∀ item ∈ items, CalmIn space bound engine holds scope item) :
    CalmIn space bound engine holds scope (.set items) := by
  have spares := items_spare lasts calm
  have members (items : List Value) : SparesWhile space bound holds (setOf engine items.toArray) :=
    spares_while (spares_set_of _)
  constructor
  · simp only [Gated.evaluate]
    refine spares_while_bind lasts spares fun items => spares_while_bind lasts (members items) fun _ => ?_
    exact spares_while (spares_new_set _ _)
  · intro _
    simp only [Gated.evaluate]
    refine makes_bind lasts spares fun items => makes_bind lasts (members items) fun _ => ?_
    exact makes_new rfl (by simp [Cell.kind, Guard.plainContainers])

end Displays

/-- What is made as a container and filled on the way. -/
theorem filled_calm (lasts : Lasts space bound holds) {expression : Expr} (cell : Cell) (tame : cell.isTame = true)
    (plain : cell.kind ∈ Guard.plainContainers) {fill : Address → Run Unit}
    (fills : ∀ address, bound ≤ address → SparesWhile space bound holds (fill address))
    (same : Gated.evaluate engine .free scope expression = (do
      let address ← allocate cell
      fill address
      return .ref address)) : CalmIn space bound engine holds scope expression := by
  have spares (address : Address) (fresh : bound ≤ address) : SparesWhile space bound holds (do
      fill address
      return Value.ref address) :=
    spares_while_bind lasts (fills address fresh) fun _ => spares_while (spares_pure _)
  constructor
  · rw [same]
    exact spares_while_allocate lasts tame spares
  · intro _
    rw [same]
    exact makes_allocated lasts tame plain spares fun address =>
      gives_bind (gives_any _) fun _ _ => gives_pure rfl

theorem mapping_calm (lasts : Lasts space bound holds) {entries : List Expr}
    (seen : Part.isSeen global ⟨kept, .mapping entries⟩ = true)
    (clear : ∀ part ∈ Code.entryParts kept entries, Clear space bound engine holds part)
    (fits : Fits space bound kept scope) : CalmIn space bound engine holds scope (.mapping entries) := by
  have single : ∀ entry ∈ entries, ∀ value, entry ≠ .entry none value := by
    rintro entry member value rfl
    have known := List.all_eq_true.mp seen _ member
    cases known
  refine filled_calm lasts (.dict #[] none) rfl (by simp [Cell.kind, Guard.plainContainers])
    (fun address fresh => entries_spare lasts fits fresh clear single) ?_
  simp only [Gated.evaluate]
  rfl

/-! ### Gatherings -/

@[grind ←]
theorem spares_add_gathered {gathered : Address} (fresh : bound ≤ gathered) (item : Value) :
    Spares space bound (addGathered engine gathered item) := by
  unfold addGathered
  grind

theorem first_source_spares {innerKept : List String} (fits : Fits space bound kept scope) {clauses : List Expr}
    (clear : ∀ part ∈ Code.clauseParts kept innerKept clauses, Clear space bound engine holds part) :
    SparesWhile space bound holds (Gated.evaluateFirstSource engine .free scope clauses) := by
  cases clauses with
  | nil =>
      simp only [Gated.evaluateFirstSource]
      exact spares_while (spares_pure _)
  | cons clause rest =>
      cases clause with
      | clause target source conditions isAsync =>
          simp only [Gated.evaluateFirstSource]
          exact (clear ⟨kept, source⟩ (by simp [Code.clauseParts]) scope fits).spares
      | _ =>
          simp only [Gated.evaluateFirstSource]
          exact spares_while (spares_pure _)

section Gatherings

variable {clauses : List Expr}

/-- Going through clauses in a scope of their own. -/
theorem gathering_spares (quiet : IsQuiet space bound engine) (lasts : Lasts space bound holds)
    (surveyed : ∀ world, holds world → Surveyed space global world)
    (visible : Code.clausesVisible global kept (Code.clauseNames clauses ++ kept) clauses = true)
    (met : ∀ world, holds world → ∀ source ∈ Check.sourcesOf clauses, Guard.Met space world source)
    (clear : ∀ part ∈ Code.clauseParts kept (Code.clauseNames clauses ++ kept) clauses,
      Clear space bound engine holds part)
    (fits : Fits space bound kept scope) (word : String) {action : Scope → Run Unit}
    (acts : ∀ inner, Fits space bound (Code.clauseNames clauses ++ kept) inner →
      SparesWhile space bound holds (action inner)) :
    SparesWhile space bound holds (do
      let inner ← gatheringScope scope word clauses
      Gated.gather engine .free scope inner (action inner) clauses) :=
  spares_while_inner_scope lasts fits _ _ fun inner fitsInner binds =>
    gather_spares quiet lasts surveyed fits fitsInner binds visible met clear (acts inner fitsInner)

theorem gather_calm (quiet : IsQuiet space bound engine) (lasts : Lasts space bound holds)
    (gathering : Code.Gathering) {element : Expr}
    (ready : ∀ world, holds world → Ready space global (course isTarget (.gather gathering element clauses)) world)
    (seen : Part.isSeen global ⟨kept, .gather gathering element clauses⟩ = true)
    (inside : ∀ inner ∈ Part.inside ⟨kept, .gather gathering element clauses⟩, Clear space bound engine holds inner)
    (fits : Fits space bound kept scope) :
    CalmIn space bound engine holds scope (.gather gathering element clauses) := by
  have clausesClear : ∀ part ∈ Code.clauseParts kept (Code.clauseNames clauses ++ kept) clauses,
      Clear space bound engine holds part := fun part member => inside part (List.mem_cons_of_mem _ member)
  have fills (gathering : Code.Gathering) (address : Address) (fresh : bound ≤ address) :
      SparesWhile space bound holds (do
        let inner ← gatheringScope scope (gatheringWord gathering) clauses
        Gated.gather engine .free scope inner (do
          addGathered engine address (← Gated.evaluate engine .free inner element)) clauses) := by
    refine gathering_spares quiet lasts (fun world here => (ready world here).toSurveyed) seen (fun world here => ?_)
      clausesClear fits _ fun inner fitsInner => ?_
    · exact (ready world here).told (.sources clauses) (leaving_subset List.mem_cons_self)
    · refine spares_while_bind lasts (inside ⟨_, element⟩ List.mem_cons_self inner fitsInner).spares fun item => ?_
      exact spares_while (spares_add_gathered fresh _)
  cases gathering with
  | generator =>
      refine .of_spares rfl ?_
      simp only [Gated.evaluate]
      refine spares_while_bind lasts (first_source_spares fits clausesClear) fun source => ?_
      refine spares_while_inner_scope lasts fits _ _ fun inner _ _ => ?_
      exact spares_while (spares_bind (spares_iterate _) fun _ => spares_new rfl)
  | list =>
      refine filled_calm lasts (.list #[]) rfl (by simp [Cell.kind, Guard.plainContainers]) (fills .list) ?_
      simp only [Gated.evaluate, bind_assoc, Bool.false_eq_true, if_false]
  | set =>
      refine filled_calm lasts (.set #[] false) rfl (by simp [Cell.kind, Guard.plainContainers]) (fills .set) ?_
      simp only [Gated.evaluate, bind_assoc, if_true]

theorem gather_mapping_calm (quiet : IsQuiet space bound engine) (lasts : Lasts space bound holds) {key value : Expr}
    (ready : ∀ world, holds world → Ready space global (course isTarget (.gatherMapping key value clauses)) world)
    (seen : Part.isSeen global ⟨kept, .gatherMapping key value clauses⟩ = true)
    (inside : ∀ inner ∈ Part.inside ⟨kept, .gatherMapping key value clauses⟩, Clear space bound engine holds inner)
    (fits : Fits space bound kept scope) :
    CalmIn space bound engine holds scope (.gatherMapping key value clauses) := by
  have keyClear := inside ⟨Code.clauseNames clauses ++ kept, key⟩ (by simp [Part.inside])
  have valueClear := inside ⟨Code.clauseNames clauses ++ kept, value⟩ (by simp [Part.inside])
  have fills (address : Address) (fresh : bound ≤ address) :
      SparesWhile space bound holds (do
        let inner ← gatheringScope scope "<dictcomp>" clauses
        Gated.gather engine .free scope inner (do
          let key ← Gated.evaluate engine .free inner key
          let value ← Gated.evaluate engine .free inner value
          setEntry engine address key value) clauses) := by
    refine gathering_spares quiet lasts (fun world here => (ready world here).toSurveyed) seen (fun world here => ?_)
      (fun part member => inside part (by simp [Part.inside, member])) fits _ fun inner fitsInner => ?_
    · exact (ready world here).told (.sources clauses) (leaving_subset List.mem_cons_self)
    · refine spares_while_bind lasts (keyClear inner fitsInner).spares fun key => ?_
      refine spares_while_bind lasts (valueClear inner fitsInner).spares fun value => ?_
      exact spares_while (spares_set_entry fresh _ _)
  refine filled_calm lasts (.dict #[] none) rfl (by simp [Cell.kind, Guard.plainContainers]) fills ?_
  simp only [Gated.evaluate, bind_assoc]
  rfl

end Gatherings

/-! ### Calls -/

theorem single_argument (gate : Gate) (scope : Scope) (callee : Value) {argument : Expr}
    (plain : ∀ value, argument ≠ .starred value) :
    Gated.evaluateArguments engine gate scope callee [argument] =
      (do return [← Gated.evaluate engine gate scope argument]) := by
  cases argument with
  | starred value => exact absurd rfl (plain value)
  | _ => simp only [Gated.evaluateArguments, pure_bind]

/-- A range is made where it is asked for. -/
theorem makes_range (quiet : IsQuiet space bound engine) (scope : Scope) {callee : Value}
    (isRange : callee = .kind .range) (given : Given) :
    MakesContainer space bound (fun _ => True) (callIn engine scope callee given) := by
  unfold callIn
  extract_lets runHere codeText faulty
  split
  case h_9 =>
      subst isRange
      exact quiet.ranges given
  all_goals exact absurd isRange (by simp)

/-- A list of names is made where it is asked for. -/
theorem makes_listing (quiet : IsQuiet space bound engine) (scope : Scope) {callee : Value}
    (isListing : callee = .routine "dir") (given : Given) :
    MakesContainer space bound (fun _ => True) (callIn engine scope callee given) := by
  unfold callIn
  extract_lets runHere codeText faulty
  split
  case h_4 =>
      intro world _ grounded value after made
      obtain ⟨names, between, _, listed⟩ := run_of_bind made
      obtain ⟨items, later, _, sorted⟩ := run_of_bind listed
      obtain ⟨ordered, last, _, new⟩ := run_of_bind sorted
      cases new
      exact .list Array.getElem?_push_size
  case h_9 =>
      subst isListing
      exact quiet.listings given
  all_goals exact absurd isListing (by simp)

section Calls

variable {arguments keywords : List Expr}

/-- The arguments of a call and the call itself, for what the callee stands for. -/
def callWith (engine : Engine) (scope : Scope) (callee : Value) (arguments keywords : List Expr) : Run Value := do
  let positional ← Gated.evaluateArguments engine .free scope callee arguments
  let named ← Gated.evaluateKeywords engine .free scope callee [] keywords
  callIn engine scope callee { positional, named }

theorem run_of_call (fits : Fits space bound kept scope) {name : String} {callee : Value} (visible : name ∉ kept)
    (stands : StandsFor space world name callee) (arguments keywords : List Expr) :
    (Gated.evaluate engine .free scope (.call (.name name) arguments keywords)).runIn world =
      (callWith engine scope callee arguments keywords).runIn world := by
  simp only [Gated.evaluate]
  rw [run_in_bind, fits.look_up visible stands]
  rfl

/-- What the guard has seen of a call: each keyword has a name, and the class of classes gets one value. -/
theorem seen_call {name : String} (seen : Part.isSeen global ⟨kept, .call (.name name) arguments keywords⟩ = true) :
    (∀ keyword ∈ keywords, ∀ value, keyword ≠ .keyword none value) ∧
      (name = "type" → keywords = [] ∧ ∃ argument, arguments = [argument] ∧ ∀ value, argument ≠ .starred value) := by
  simp only [Part.isSeen, Bool.and_eq_true, Bool.or_eq_true, decide_eq_true_eq] at seen
  obtain ⟨⟨_, type⟩, single⟩ := seen
  refine ⟨?_, ?_⟩
  · rintro keyword member value rfl
    have known := List.all_eq_true.mp single _ member
    cases known
  · rintro rfl
    have known := type.resolve_left (by simp)
    split at known
    · cases known
    · next argument other => exact ⟨by simpa using known, argument, rfl, other⟩
    · cases known

theorem callee_not_kept {name : String} {callee : Value}
    (seen : Part.isSeen global ⟨kept, .call (.name name) arguments keywords⟩ = true)
    (surveyed : Surveyed space global world) (stands : StandsFor space world name callee) : name ∉ kept := by
  simp only [Part.isSeen, Bool.and_eq_true] at seen
  exact Code.not_kept_of_visible seen.1.1 (surveyed.names name callee stands)

theorem call_with_spares (quiet : IsQuiet space bound engine) (lasts : Lasts space bound holds)
    (home : ∀ world, holds world → IsHome space world) (fits : Fits space bound kept scope) {name : String}
    (seen : Part.isSeen global ⟨kept, .call (.name name) arguments keywords⟩ = true)
    (argumentsCalm : ∀ argument ∈ arguments, CalmIn space bound engine holds scope argument)
    (keywordsCalm : ∀ keyword ∈ keywords, CalmIn space bound engine holds scope keyword) {callee : Value}
    (pure : isPureCallee callee = true) (isType : callee = .kind .type → name = "type") :
    SparesWhile space bound holds (callWith engine scope callee arguments keywords) := by
  obtain ⟨single, type⟩ := seen_call seen
  unfold callWith
  by_cases typed : callee = .kind .type
  · obtain ⟨rfl, argument, rfl, plain⟩ := type (isType typed)
    rw [single_argument _ _ _ plain]
    simp only [Gated.evaluateKeywords, bind_assoc, pure_bind]
    refine spares_while_bind lasts (argumentsCalm argument List.mem_cons_self).spares fun value world here => ?_
    exact spares_at_call_in quiet.calls fits (home world here) pure fun _ => ⟨value, rfl⟩
  · refine spares_while_bind lasts (arguments_spare lasts callee argumentsCalm) fun positional => ?_
    refine spares_while_bind lasts (keywords_spare lasts callee [] keywordsCalm single) fun named world here => ?_
    exact spares_at_call_in quiet.calls fits (home world here) pure fun same => absurd same typed

theorem call_with_makes (quiet : IsQuiet space bound engine) (lasts : Lasts space bound holds) {name : String}
    (seen : Part.isSeen global ⟨kept, .call (.name name) arguments keywords⟩ = true)
    (argumentsCalm : ∀ argument ∈ arguments, CalmIn space bound engine holds scope argument)
    (keywordsCalm : ∀ keyword ∈ keywords, CalmIn space bound engine holds scope keyword) {callee : Value}
    (makes : callee = .kind .range ∨ callee = .routine "dir") :
    MakesContainer space bound holds (callWith engine scope callee arguments keywords) := by
  obtain ⟨single, _⟩ := seen_call seen
  unfold callWith
  refine makes_bind lasts (arguments_spare lasts callee argumentsCalm) fun positional => ?_
  refine makes_bind lasts (keywords_spare lasts callee [] keywordsCalm single) fun named world _ => ?_
  rcases makes with isRange | isListing
  · exact makes_range quiet scope isRange _ world trivial
  · exact makes_listing quiet scope isListing _ world trivial

/-- A call of a pure function that is in sight of the guard. -/
theorem call_calm (quiet : IsQuiet space bound engine) (lasts : Lasts space bound holds) {callee : Expr}
    (ready : ∀ world, holds world → Ready space global (course isTarget (.call callee arguments keywords)) world)
    (seen : Part.isSeen global ⟨kept, .call callee arguments keywords⟩ = true)
    (inside : ∀ inner ∈ Part.inside ⟨kept, .call callee arguments keywords⟩, Clear space bound engine holds inner)
    (fits : Fits space bound kept scope) :
    CalmIn space bound engine holds scope (.call callee arguments keywords) := by
  have argumentsCalm : ∀ argument ∈ arguments, CalmIn space bound engine holds scope argument :=
    fun argument member => inside ⟨kept, argument⟩ (by simp [Part.inside, member]) scope fits
  have keywordsCalm : ∀ keyword ∈ keywords, CalmIn space bound engine holds scope keyword :=
    fun keyword member => inside ⟨kept, keyword⟩ (by simp [Part.inside, member]) scope fits
  have called : ∀ world, holds world → Check.Told space world (.call callee (.call callee arguments keywords)) :=
    fun world here => (ready world here).told _ (Guard.entering_subset isTarget List.mem_cons_self)
  constructor
  · intro world here
    obtain ⟨name, pure, rfl, value, builtin, stands⟩ := called world here
    obtain ⟨callee, known, isPure, isType⟩ := pure_callee_of_name pure
    obtain rfl : value = callee := Option.some.inj (builtin.symm.trans known)
    have spares := call_with_spares quiet lasts (fun world here => (ready world here).home) fits seen argumentsCalm
      keywordsCalm isPure isType world here
    intro grounded
    rw [run_of_call fits (callee_not_kept seen (ready world here).toSurveyed stands) stands]
    exact spares grounded
  · intro unpacked world here grounded result after given
    obtain ⟨name, pure, rfl, value, builtin, stands⟩ := called world here
    rw [run_of_call fits (callee_not_kept seen (ready world here).toSurveyed stands) stands] at given
    refine call_with_makes quiet lasts seen argumentsCalm keywordsCalm ?_ world here grounded result after given
    simp only [Code.Expr.isUnpacked, Code.Expr.isDisplay, Bool.or_eq_true, decide_eq_true_eq] at unpacked
    rcases unpacked with rfl | rfl
    · exact .inl (Option.some.inj (builtin.symm.trans rfl))
    · exact .inr (Option.some.inj (builtin.symm.trans rfl))

end Calls

/-! ### All expressions -/

theorem starred_calm {value : Expr} (calm : CalmIn space bound engine holds scope value)
    (makes : MakesContainer space bound holds (Gated.evaluate engine .free scope value)) :
    CalmIn space bound engine holds scope (.starred value) := by
  constructor
  · simp only [Gated.evaluate]
    exact calm.spares
  · intro _
    simp only [Gated.evaluate]
    exact makes

/-- What the guard knows of an operand behind a star when it goes on. -/
theorem met_behind_star {value : Expr} (ready : Ready space global (course isTarget (.starred value)) world) :
    Guard.Met space world value := by
  cases isTarget with
  | true => exact (ready.told (.refusal value) (leaving_subset List.mem_cons_self)).elim
  | false => exact ready.told (.plain value Guard.plainContainers) (leaving_subset List.mem_cons_self) fun _ => id

/-- One step of the induction: when the parts directly within a part leave no trace and the guard has seen what the
part does, it leaves none. -/
theorem calm_step (quiet : IsQuiet space bound engine) {expression : Expr} (open_ : ¬Guard.IsClosed expression)
    (lasts : Lasts space bound holds)
    (ready : ∀ world, holds world → Ready space global (course isTarget expression) world)
    (seen : Part.isSeen global ⟨kept, expression⟩ = true)
    (inside : ∀ inner ∈ Part.inside ⟨kept, expression⟩, Clear space bound engine holds inner)
    (fits : Fits space bound kept scope) : CalmIn space bound engine holds scope expression := by
  have here : ∀ inner, ⟨kept, inner⟩ ∈ Part.inside ⟨kept, expression⟩ → CalmIn space bound engine holds scope inner :=
    fun inner member => inside _ member scope fits
  have surveyed (world : World) (known : holds world) : Surveyed space global world := (ready world known).toSurveyed
  cases expression with
  | bind | await | yield | yieldFrom => exact absurd trivial open_
  | name name =>
      refine .of_spares rfl ?_
      simp only [Gated.evaluate]
      exact spares_while (spares_look_up _ _)
  | literal value => exact literal_calm value
  | parameter =>
      refine .of_spares rfl ?_
      simp only [Gated.evaluate]
      exact spares_while (spares_pure _)
  | joined pieces => exact joined_calm lasts fun piece member => here piece (List.mem_map_of_mem member)
  | field value conversion layout =>
      exact field_calm lasts (here value List.mem_cons_self) fun inner member =>
        here inner (by simp [Part.inside, Option.mem_def.mp member])
  | logical every operands =>
      refine .of_spares rfl ?_
      simp only [Gated.evaluate]
      exact logical_spares lasts every fun operand member => here operand (List.mem_map_of_mem member)
  | binary left operator right =>
      exact binary_calm seen lasts (here left (by simp [Part.inside])) (here right (by simp [Part.inside]))
  | unary operator operand => exact unary_calm lasts operator (here operand List.mem_cons_self)
  | lambda parameters body =>
      exact lambda_calm lasts (defaults_spare lasts fits fun part member => inside part (List.mem_cons_of_mem _ member))
  | conditional test yes no =>
      exact conditional_calm lasts (here test (by simp [Part.inside])) (here yes (by simp [Part.inside]))
        (here no (by simp [Part.inside]))
  | mapping entries => exact mapping_calm lasts seen inside fits
  | entry key value =>
      refine .of_spares rfl ?_
      simp only [Gated.evaluate]
      exact (here value List.mem_cons_self).spares
  | set items => exact set_calm lasts fun item member => here item (List.mem_map_of_mem member)
  | list items => exact list_calm lasts fun item member => here item (List.mem_map_of_mem member)
  | tuple items => exact tuple_calm lasts fun item member => here item (List.mem_map_of_mem member)
  | gather gathering element clauses => exact gather_calm quiet lasts gathering ready seen inside fits
  | gatherMapping key value clauses => exact gather_mapping_calm quiet lasts ready seen inside fits
  | clause target source conditions isAsync =>
      refine .of_spares rfl ?_
      simp only [Gated.evaluate]
      exact (here source List.mem_cons_self).spares
  | compare first relations rest =>
      have operands : ∀ operand ∈ rest, CalmIn space bound engine holds scope operand :=
        fun operand member => here operand (List.mem_map_of_mem (List.mem_cons_of_mem _ member))
      refine compare_calm quiet lasts (here first List.mem_cons_self) operands fun operand member => ?_
      refine makes_visible fits surveyed (List.all_eq_true.mp seen operand member) (fun world known => ?_)
        (operands operand (searched_subset member))
      exact (ready world known).told (.memberships relations rest) (leaving_subset List.mem_cons_self) operand member
  | call callee arguments keywords => exact call_calm quiet lasts ready seen inside fits
  | keyword name value =>
      refine .of_spares rfl ?_
      simp only [Gated.evaluate]
      exact (here value List.mem_cons_self).spares
  | member object name =>
      refine .of_spares rfl ?_
      simp only [Gated.evaluate]
      refine spares_while_bind lasts (here object List.mem_cons_self).spares fun value => ?_
      exact spares_while (spares_attribute_of _ _)
  | subscript object index =>
      have objectCalm := here object List.mem_cons_self
      refine subscript_calm lasts objectCalm (makes_visible fits surveyed seen (fun world known => ?_) objectCalm)
        (here index (by simp [Part.inside]))
      exact (ready world known).told (.plain object Guard.subscriptable) (leaving_subset List.mem_cons_self) (by decide)
  | starred value =>
      have valueCalm := here value List.mem_cons_self
      exact starred_calm valueCalm
        (makes_visible fits surveyed seen (fun world known => met_behind_star (ready world known)) valueCalm)
  | slice lower upper step =>
      refine slice_calm lasts fun part member inner isInner => here inner ?_
      simp only [List.mem_cons, List.not_mem_nil, or_false] at member
      rcases member with rfl | rfl | rfl <;> simp [Part.inside, Option.mem_def.mp isInner]

/-- Parts that do what the guard has seen leave no trace below the bound, as long as all is as the checks have told. -/
theorem part_clear (quiet : IsQuiet space bound engine) (part : Part) (seen : part.AllSeen global) (isTarget : Bool) :
    Clear space bound engine (Ready space global (course isTarget part.expression)) part := by
  induction part using Part.inside_induction generalizing isTarget with
  | step part induction =>
      intro scope fits
      by_cases closed : Guard.IsClosed part.expression
      · exact .of_never fun world ready => ready.told _ (Guard.refusal_of_closed closed isTarget)
      refine calm_step quiet closed Guard.ready_lasts (fun _ => id) (seen part (.self part)) ?_ fits
      intro inner member
      obtain ⟨asTarget, within⟩ := Guard.course_of_inside closed isTarget inner member
      intro scope fits
      have calm := induction inner member (fun part holds => seen part (.step member holds)) asTarget scope fits
      exact calm.mono fun world ready => ready.within within.subset

/-! ### The engine -/

theorem gives_range (given : Given) :
    Gives (toRange engine given) fun value => ∃ start stop step, value = .range start stop step := by
  unfold toRange
  refine gives_bind (gives_any _) fun _ _ => gives_bind (gives_any _) fun bounds _ => ?_
  split
  · exact gives_pure ⟨_, _, _, rfl⟩
  · exact gives_pure ⟨_, _, _, rfl⟩
  · split
    · exact gives_fail_bind
    · exact gives_pure ⟨_, _, _, rfl⟩
  · exact gives_pure ⟨_, _, _, rfl⟩

theorem call_listing (given : Given) :
    callValue engine (.routine "dir") given = (do
      let arguments ← orderArguments "" "dir" (.between 0 1) given
      newList (← namesOf engine (firstArgument arguments))) := by
  unfold callValue
  simp only
  split
  · next same => exact absurd same (undotted_of_pure (by decide) _ _)
  · rfl

/-- The engine that code runs with does not leave a trace of what it does about built-in values. -/
theorem engine_is_quiet (depth : Nat) : IsQuiet space bound (engineAt (depth + 1)) where
  steps walk := spares_at_next walk
  calls pure one := spares_call_value pure one
  ranges given := by
    intro world _ _ value after made
    obtain ⟨start, stop, step, rfl⟩ := gives_range given _ _ _ made
    constructor
  listings given := by
    intro world _ _ value after made
    have listed := made
    rw [show (engineAt (depth + 1)).call (.routine "dir") given.positional given.named =
      callValue (engineAt depth) (.routine "dir") given from rfl, call_listing] at listed
    obtain ⟨arguments, between, _, names⟩ := run_of_bind listed
    obtain ⟨found, last, _, new⟩ := run_of_bind names
    cases new
    exact .list Array.getElem?_push_size

end LiveShell.Run
