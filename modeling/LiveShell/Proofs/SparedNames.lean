import LiveShell.Proofs.SilentCalls
import LiveShell.Proofs.SparedContainers

/-!
Names in tame worlds. A namespace changes only when it gets the entry for the built-in names, and as long as it tells
of no other place for these, each of its names stands for what it did before. What functions and gatherings bind is
kept in frames that are made on the way.
-/

namespace LiveShell.Run

set_option autoImplicit false

variable {β : Type} {space bound : Address} {engine : Engine} {world : World}

/-- The value under a name among the entries of a namespace. -/
def valueUnder? (entries : Array (Value × Value)) (name : String) : Option Value :=
  (entries.find? fun entry => isText name entry.1).map (·.2)

/-- Whether no entry of a namespace tells of another place for the built-in names. -/
def keepsBuiltins (entries : Array (Value × Value)) : Bool :=
  entries.all fun (key, value) => !(isText builtinsName key && value matches .ref _)

/-- A namespace in which the built-in names are found where they always are. -/
def IsHome (space : Address) (world : World) : Prop :=
  ∃ entries, world.cells[space]? = some (.dict entries none) ∧ keepsBuiltins entries = true

theorem value_under_push {entries : Array (Value × Value)} {entry : Value × Value} {name : String} :
    valueUnder? (entries.push entry) name =
      (valueUnder? entries name <|> if isText name entry.1 then some entry.2 else none) := by
  unfold valueUnder?
  rw [Array.find?_push]
  split <;> cases entries.find? fun entry => isText name entry.1 <;> simp_all

/-- A namespace that is spared gets at most the entry for the built-in names. -/
theorem entries_after {before after : World} (spared : Spared space bound before after) (home : IsHome space before) :
    ∃ entries later, before.cells[space]? = some (.dict entries none) ∧ keepsBuiltins entries = true ∧
      after.cells[space]? = some (.dict later none) ∧ keepsBuiltins later = true ∧
      (∀ name, name ≠ builtinsName → valueUnder? later name = valueUnder? entries name) ∧
      ∀ value, valueUnder? entries builtinsName = some value → valueUnder? later builtinsName = some value := by
  obtain ⟨entries, found, keeps⟩ := home
  rcases spared.home with same | prepared
  · exact ⟨entries, entries, found, keeps, same.trans found, keeps, fun _ _ => rfl, fun _ => id⟩
  · rw [found] at prepared
    simp only [Option.map_some, Cell.withBuiltins] at prepared
    split at prepared
    · exact ⟨entries, entries, found, keeps, prepared, keeps, fun _ _ => rfl, fun _ => id⟩
    · refine ⟨entries, _, found, keeps, prepared, by simpa [keepsBuiltins] using keeps, fun name other => ?_, ?_⟩
      · rw [value_under_push]
        simp [isText, Ne.symm other]
      · intro value under
        rw [value_under_push, under]
        rfl

theorem home_lasts : Lasts space bound (IsHome space) := by
  intro before after _ spared home
  obtain ⟨_, later, _, _, found, keeps, _⟩ := entries_after spared home
  exact ⟨later, found, keeps⟩

/-! ### What names stand for -/

/-- What a name of a namespace stands for. -/
def StandsFor (space : Address) (world : World) (name : String) (value : Value) : Prop :=
  (globalValue? space name).runIn world = (.ok (some value), world)

theorem name_in_dict {address : Address} {entries : Array (Value × Value)} {factory : Option Value}
    (found : world.cells[address]? = some (.dict entries factory)) (name : String) :
    (nameIn? address name).runIn world = (.ok (valueUnder? entries name), world) := by
  rw [nameIn?, run_in_bind, entriesAt, run_in_bind, run_in_cell found]
  rfl

theorem no_reference_under_builtins {entries : Array (Value × Value)} (keeps : keepsBuiltins entries = true)
    (address : Address) : valueUnder? entries builtinsName ≠ some (.ref address) := by
  intro under
  obtain ⟨⟨key, value⟩, found, rfl⟩ := Option.map_eq_some_iff.mp under
  have other := Array.all_eq_true_iff_forall_mem.mp keeps _ (Array.mem_of_find?_eq_some found)
  have same := Array.find?_some found
  simp_all

/-- Without another place for them, the built-in names stand for what they always do. -/
theorem stands_for_iff {entries : Array (Value × Value)} {factory : Option Value} {name : String} {value : Value}
    (found : world.cells[space]? = some (.dict entries factory)) (keeps : keepsBuiltins entries = true) :
    StandsFor space world name value ↔ (valueUnder? entries name <|> builtinValue? name) = some value := by
  have builtin : (builtinIn? space name).runIn world = (.ok (builtinValue? name), world) := by
    rw [builtinIn?, run_in_bind, name_in_dict found]
    have other := no_reference_under_builtins keeps
    rcases under : valueUnder? entries builtinsName with _ | known
    · rfl
    · cases known with
      | ref address => exact absurd under (other address)
      | _ => rfl
  unfold StandsFor globalValue?
  rw [run_in_bind, name_in_dict found]
  cases valueUnder? entries name with
  | none =>
      simp only [builtin]
      simp
  | some known =>
      show (pure (some known) : Run (Option Value)).runIn world = _ ↔ some known = some value
      constructor
      · intro given
        cases given
        rfl
      · intro same
        cases same
        rfl

/-- What a name stands for, it stands for after the namespace was prepared. -/
theorem stands_for_lasts {name : String} {value : Value} :
    Lasts space bound fun world => IsHome space world ∧ StandsFor space world name value := by
  rintro before after grounded spared ⟨home, stands⟩
  refine ⟨home_lasts grounded spared home, ?_⟩
  obtain ⟨entries, later, found, keeps, foundLater, keepsLater, others, builtins⟩ := entries_after spared home
  rw [stands_for_iff found keeps] at stands
  rw [stands_for_iff foundLater keepsLater]
  by_cases isBuiltins : name = builtinsName
  · subst isBuiltins
    have unknown : builtinValue? builtinsName = none := by decide +kernel
    rw [unknown] at stands
    rw [builtins value (by simpa using stands)]
    rfl
  · rwa [others name isBuiltins]

/-- Whether a name stands for something in a namespace. The one of the built-in names may get its entry later on. -/
def isGlobal (space : Address) (world : World) (name : String) : Bool :=
  name = builtinsName || (builtinValue? name).isSome || match world.cells[space]? with
    | some (.dict entries _) => (valueUnder? entries name).isSome
    | _ => false

/-- A namespace no names of which but some stand for anything. -/
structure Surveyed (space : Address) (global : String → Bool) (world : World) : Prop where
  home : IsHome space world
  builtins : global builtinsName = true
  names : ∀ name value, StandsFor space world name value → global name = true

theorem surveyed_lasts {global : String → Bool} : Lasts space bound (Surveyed space global) := by
  rintro before after grounded spared ⟨home, tells, names⟩
  refine ⟨home_lasts grounded spared home, tells, fun name value stands => ?_⟩
  obtain ⟨entries, later, found, keeps, foundLater, keepsLater, others, _⟩ := entries_after spared home
  by_cases isBuiltins : name = builtinsName
  · exact isBuiltins ▸ tells
  · rw [stands_for_iff foundLater keepsLater, others name isBuiltins] at stands
    exact names name value ((stands_for_iff found keeps).mpr stands)

theorem surveyed_of_home (home : IsHome space world) : Surveyed space (isGlobal space world) world := by
  obtain ⟨entries, found, keeps⟩ := id home
  refine ⟨home, by simp [isGlobal], fun name value stands => ?_⟩
  rw [stands_for_iff found keeps] at stands
  simp only [isGlobal, found, Bool.or_eq_true]
  cases under : valueUnder? entries name with
  | none =>
      have builtin : builtinValue? name = some value := by simpa [under] using stands
      simp [builtin]
  | some => simp

/-! ### Scopes -/

/-- A scope outside of class bodies over a namespace, with frames made on the way that keep only some names. -/
structure Fits (space bound : Address) (kept : List String) (scope : Scope) : Prop where
  globals : scope.globals = space
  noGlobalNames : scope.globalNames = []
  keeps : KeepsOnly kept scope
  fresh : ∀ frame ∈ scope.frames, bound ≤ frame.address

theorem Fits.look_up {kept : List String} {scope : Scope} {name : String} {value : Value}
    (fits : Fits space bound kept scope) (visible : name ∉ kept) (stands : StandsFor space world name value) :
    (lookUp scope name).runIn world = (.ok value, world) := by
  rw [keeper_of_unkept fits.keeps visible, lookUpGlobal, fits.globals, run_in_bind, stands]
  rfl

@[grind .]
theorem spares_look_up_global (globals : Address) (name : String) :
    Spares space bound (lookUpGlobal globals name) := by
  refine spares_bind (spares_of_reads (reads_global _ _)) fun found => ?_
  split
  · exact spares_pure _
  · exact spares_fail _ _

@[grind .]
theorem spares_look_up (scope : Scope) (name : String) : Spares space bound (lookUp scope name) := by
  have frames (address : Address) : Spares space bound (inFrame? address name) := by
    unfold inFrame?
    grind
  have unbound (isInnermost : Bool) : Spares space bound (unboundInFrame name isInnermost : Run Value) := by
    unfold unboundInFrame
    grind
  unfold lookUp
  split
  · exact spares_look_up_global _ _
  · refine spares_bind (frames _) fun found => ?_
    split <;> grind
  · refine spares_bind (spares_name _ _) fun found => ?_
    split
    · exact spares_pure _
    · split
      · refine spares_bind (frames _) fun found => ?_
        split <;> grind
      · exact spares_look_up_global _ _

theorem frame_of_kept {name : String} {frames : List Frame} (isInnermost : Bool)
    (known : ∃ frame ∈ frames, name ∈ frame.names) :
    ∃ frame ∈ frames, ∃ innermost, frameOf? name isInnermost frames = some (frame.address, innermost) := by
  induction frames generalizing isInnermost with
  | nil => simp at known
  | cons frame rest induction =>
      rw [frameOf?]
      by_cases here : name ∈ frame.names
      · exact ⟨frame, List.mem_cons_self, isInnermost, by simp [here]⟩
      · obtain ⟨found, member, innermost, same⟩ := induction false (by simpa [here] using known)
        exact ⟨found, List.mem_cons_of_mem _ member, innermost, by simpa [here] using same⟩

/-- A name that a frame keeps is bound there, and frames are made on the way. -/
theorem spares_bind_name {kept : List String} {scope : Scope} (fits : Fits space bound kept scope) {name : String}
    (known : ∃ frame ∈ scope.frames, name ∈ frame.names) (value : Value) :
    Spares space bound (bindName scope name value) := by
  obtain ⟨frame, member, innermost, found⟩ := frame_of_kept true known
  have keeper : keeperOf scope name = .frame frame.address innermost := by
    simp [keeperOf, fits.noGlobalNames, fits.keeps.noClass, found]
  simp only [bindName, keeper]
  exact spares_bind_in_frame (fits.fresh frame member) _ _

@[grind .]
theorem spares_local_space (scope : Scope) : Spares space bound (localSpace scope) := by
  unfold localSpace
  grind

theorem spares_at_local_space {kept : List String} {scope : Scope} (fits : Fits space bound kept scope)
    (home : IsHome space world) {next : Value → Run β}
    (later : ∀ value after, IsContainer after value → SparesAt space bound after (next value)) :
    SparesAt space bound world (localSpace scope >>= next) := by
  obtain ⟨entries, found, _⟩ := home
  have globals : IsContainer world (.ref scope.globals) := .dict (fits.globals ▸ found)
  unfold localSpace
  simp only [fits.keeps.noClass]
  cases scope.frames with
  | nil =>
      rw [pure_bind]
      exact later _ world globals
  | cons frame rest =>
      simp only [bind_assoc]
      refine spares_at_bind_container globals (spares_cell _) fun cell after globals => ?_
      split
      · intro grounded
        refine spares_at_bind (spares_dict_of_texts _ after) (fun space last given _ => ?_) grounded
        cases given
        exact later _ _ (.dict Array.getElem?_push_size)
      · rw [pure_bind]
        exact later _ after globals

/-- An engine that calls pure functions without a trace below the bound. -/
def CallsQuietly (space bound : Address) (engine : Engine) : Prop :=
  ∀ {callee : Value} {given : Given}, isPureCallee callee = true →
    (callee = .kind .type → ∃ value, given = { positional := [value], named := [] }) →
    Spares space bound (engine.call callee given.positional given.named)

/-- A call of a pure function in a scope. Two of them look at the scope. -/
theorem spares_at_call_in {kept : List String} {scope : Scope} (calls : CallsQuietly space bound engine)
    (fits : Fits space bound kept scope) (home : IsHome space world) {callee : Value}
    (pure : isPureCallee callee = true) {given : Given}
    (one : callee = .kind .type → ∃ value, given = { positional := [value], named := [] }) :
    SparesAt space bound world (callIn engine scope callee given) := by
  unfold callIn
  extract_lets runHere codeText faulty
  clear_value runHere codeText faulty
  split
  case h_3 => exact spares_local_space scope world
  case h_4 =>
      refine spares_at_local_space fits home fun value after container grounded => ?_
      refine spares_at_bind (spares_at_collect container) (fun items last _ _ => ?_) grounded
      exact spares_bind (spares_sort_values _) (fun _ => spares_new_list _) last
  case h_8 same =>
      obtain ⟨value, rfl⟩ := one rfl
      cases same
  case h_9 => exact calls pure one world
  all_goals exact absurd pure (by decide)

end LiveShell.Run
