import LiveShell.Proofs.HandleLifecycle
import LiveShell.Proofs.InputFaults

/-!
Which hint a call gets. Hints are kept for functions: a bound method shares the hint of its function, and a function has
its own, as long as it does not name another one. What is known of a function is what was said of it last, whatever
else was registered, unregistered or asked for in between, so that the hint for the value behind a handle is the one
that its function was registered with last.
-/

namespace LiveShell

set_option autoImplicit false

namespace Hints

open Run (nameIn? run_in_bind)
open Environment (OnlyAdds)

/-! ### The function that a hint is kept for -/

/-- Whether a value is a function: one that code made, one of the surroundings, or one that is built in. -/
def isFunction (world : World) : Value → Bool
  | .routine _ => true
  | .foreign library name => foreignKind library name = .function
  | .ref address => match world.cells[address]? with
      | some (.function _) | some (.host ..) => true
      | _ => false
  | _ => false

/-- The function of a value: that of a bound method, and a function itself unless it names another one. -/
def functionOf? (world : World) (value : Value) : Option Value :=
  match value with
  | .ref address => match world.cells[address]? with
      | some (.bound _ function) => if isFunction world function then some function else none
      | some (.function data) => match (nameIn? data.space "__func__").runIn world with
          | (.ok none, _) => some value
          | _ => none
      | some (.host ..) => some value
      | _ => none
  | value => if isFunction world value then some value else none

variable {world : World} {value function other : Value} {address : Address}

theorem cell_at (address : Address) : (Run.cellAt? address).runIn world = (.ok world.cells[address]?, world) := rfl

theorem no_class_at {cell : Cell} (here : world.cells[address]? = some cell) (apart : ∀ data, cell ≠ .classObject data) :
    (Run.isClass (.ref address)).runIn world = (.ok false, world) := by
  rw [Run.isClass, run_in_bind, cell_at, here]
  cases cell with
  | classObject data => exact absurd rfl (apart data)
  | _ => rfl

theorem attribute_of_bound {self : Value} (here : world.cells[address]? = some (.bound self function)) :
    (Run.attribute? engine (.ref address) "__func__").runIn world = (.ok (some function), world) := by
  rw [Run.attribute?, if_neg (by decide), run_in_bind, no_class_at here nofun]
  simp only [Bool.false_eq_true, if_false]
  rw [run_in_bind, cell_at, here]
  rfl

theorem attribute_of_made {data : FunctionData} (here : world.cells[address]? = some (.function data)) :
    (Run.attribute? engine (.ref address) "__func__").runIn world = (nameIn? data.space "__func__").runIn world := by
  rw [Run.attribute?, if_neg (by decide), run_in_bind, no_class_at here nofun]
  simp only [Bool.false_eq_true, if_false]
  rw [run_in_bind, cell_at, here]
  have field : Run.functionField? data "__func__" = pure none := rfl
  obtain ⟨own, given⟩ := Run.reads_name data.space "__func__" world
  simp only [Run.cellField?, field, pure_bind]
  rw [run_in_bind, given]
  cases own <;> rfl

theorem attribute_of_host {name qualified : String} {action : HostAction} {counted : Bool}
    (here : world.cells[address]? = some (.host name qualified action counted)) :
    (Run.attribute? engine (.ref address) "__func__").runIn world = (.ok none, world) := by
  rw [Run.attribute?, if_neg (by decide), run_in_bind, no_class_at here nofun]
  simp only [Bool.false_eq_true, if_false]
  rw [run_in_bind, cell_at, here]
  rfl

theorem attribute_of_foreign {library name : String} (kind : foreignKind library name = .function) :
    (Run.attribute? engine (.foreign library name) "__func__").runIn world = (.ok none, world) := by
  have noClass : (Run.isClass (.foreign library name)).runIn world = (.ok false, world) := by
    rw [Run.isClass, kind]
    rfl
  have same : Value.kindOf (.foreign library name) = .function := kind
  rw [Run.attribute?, if_neg (by decide), run_in_bind, noClass]
  simp only [Bool.false_eq_true, if_false]
  rw [same]
  rfl

/-- A bound method tells its function, and a function tells none. -/
theorem attribute_of_function (known : functionOf? world value = some function) :
    (Run.attribute? engine value "__func__").runIn world = (.ok (some function), world) ∨
      (Run.attribute? engine value "__func__").runIn world = (.ok none, world) ∧ value = function := by
  unfold functionOf? at known
  split at known
  · next address =>
      split at known
      · next self made here =>
          split at known
          · cases known
            exact Or.inl (attribute_of_bound here)
          · cases known
      · next data here =>
          split at known
          · next ownless =>
              obtain ⟨own, given⟩ := Run.reads_name data.space "__func__" world
              rw [given] at ownless
              cases ownless
              cases known
              exact Or.inr ⟨(attribute_of_made here).trans given, rfl⟩
          · cases known
      · next here =>
          cases known
          exact Or.inr ⟨attribute_of_host here, rfl⟩
      · cases known
  · split at known
    · next isFunction =>
        cases known
        refine Or.inr ⟨?_, rfl⟩
        cases value with
        | routine name => rfl
        | foreign library name => exact attribute_of_foreign (of_decide_eq_true isFunction)
        | ref address => next apart => exact absurd rfl (apart address)
        | _ => cases isFunction
    · cases known

theorem reads_missing_text (value : Value) (name : String) : Run.Reads (Run.missingAttributeText value name) := by
  unfold Run.missingAttributeText
  refine Run.reads_bind (Run.reads_is_class value) fun isClass => ?_
  split
  · exact Run.reads_bind (Run.reads_name_of_class value) fun _ => Run.reads_pure _
  · split
    · refine Run.reads_bind (Run.reads_cell _) fun cell => ?_
      split
      · exact Run.reads_pure _
      · exact Run.reads_bind (Run.reads_type_name _) fun _ => Run.reads_pure _
    · exact Run.reads_bind (Run.reads_type_name _) fun _ => Run.reads_pure _

/-- Asking for an attribute that a value does not have makes a new error and nothing else. -/
theorem missing_attribute {name : String}
    (missing : (Run.attribute? engine value name).runIn world = (.ok none, world)) :
    ∃ between, (Run.attributeIfAny? engine value name).runIn world = (.ok none, between) ∧ OnlyAdds world between := by
  obtain ⟨text, told⟩ := reads_missing_text value name world
  have failed : (Run.attributeOf engine value name).runIn world =
      (Run.fail "AttributeError" text : Run Value).runIn world := by
    rw [Run.attributeOf, run_in_bind, missing]
    show (Run.missingAttributeText value name >>= _).runIn world = _
    rw [run_in_bind, told]
  have raised : (Run.raise "AttributeError" [.text text] : Run Value).runIn world = _ :=
    Environment.run_in_raise "AttributeError" [.text text] world
  exact ⟨_, Run.unless_raised_case (failed.trans raised) (Run.raised_case (by decide +kernel) raised), _, rfl⟩

/-- Asking for the function of a value that has one gives it. A value that tells none is asked in vain, which makes a
new error and nothing else. -/
theorem target_of_function (known : functionOf? world value = some function) :
    ∃ between, (target value).runIn world = (.ok function, between) ∧ OnlyAdds world between := by
  rcases attribute_of_function known with told | ⟨missing, rfl⟩
  · have given : (Run.attributeOf engine value "__func__").runIn world = (.ok function, world) := by
      rw [Run.attributeOf, run_in_bind, told]
      rfl
    refine ⟨world, ?_, #[], by simp⟩
    rw [target, run_in_bind, Run.attributeIfAny?, Run.unless_raised_ok.mpr given]
    rfl
  · obtain ⟨between, given, adds⟩ := missing_attribute missing
    refine ⟨between, ?_, adds⟩
    rw [target, run_in_bind, given]
    rfl

/-! ### What is known of a function -/

/-- Values that are the same only when they are equal. -/
def isIdentity : Value → Bool
  | .routine _ | .foreign .. | .ref _ => true
  | _ => false

theorem identity_of_function (known : functionOf? world value = some function) : isIdentity function = true := by
  have identity : ∀ {value : Value}, isFunction world value = true → isIdentity value = true := by
    intro value isFunction
    cases value <;> first | rfl | cases isFunction
  unfold functionOf? at known
  split at known
  · split at known
    · split at known
      · next isFunction =>
          cases known
          exact identity isFunction
      · cases known
    · split at known <;> cases known
      rfl
    · cases known
      rfl
    · cases known
  · split at known
    · next isFunction =>
        cases known
        exact identity isFunction
    · cases known

theorem same_iff (identity : isIdentity other = true) : value.same other = true ↔ value = other := by
  cases other with
  | routine name => cases value <;> simp [Value.same]
  | foreign library name => cases value <;> simp [Value.same]
  | ref address => cases value <;> simp [Value.same]
  | _ => cases identity

/-- What is said of a function: its hint, or that it has none. -/
def say (hints : Hints) (target : Value) : Option Hint → Hints
  | some hint => hints.keep target hint
  | none => hints.forget target

theorem find_forget (hints : Hints) (first : isIdentity function = true) (second : isIdentity other = true) :
    (hints.forget function).find? other = if function.same other then none else hints.find? other := by
  rw [find?, find?, forget, List.find?_filter]
  split
  · next same =>
      obtain rfl := (same_iff second).mp same
      rw [List.find?_eq_none.mpr fun entry _ => by simp, Option.map_none]
  · next apart =>
      refine congrArg (fun test => (hints.entries.find? test).map (·.2)) (funext fun ⟨known, hint⟩ => ?_)
      show decide ((!known.same function) = true ∧ known.same other = true) = known.same other
      cases here : known.same other with
      | false => simp
      | true =>
          obtain rfl := (same_iff second).mp here
          have different : known.same function = false := by
            rw [Bool.eq_false_iff]
            intro same
            rw [(same_iff first).mp same, (same_iff first).mpr rfl] at apart
            exact apart rfl
          simp [different]

/-- What is said of one function is known of it, and leaves what is known of others. -/
theorem find_say (hints : Hints) (said : Option Hint) (first : isIdentity function = true)
    (second : isIdentity other = true) :
    (hints.say function said).find? other = if function.same other then said else hints.find? other := by
  have forgotten := find_forget hints first second
  cases said with
  | none => exact forgotten
  | some hint =>
      rw [find?] at forgotten
      rw [say, keep, find?, List.find?_append, Option.map_or, forgotten]
      cases same : function.same other with
      | true => simp [same]
      | false => simp [same]

/-! ### Calls of the registry -/

/-- What the registry is asked to do. -/
inductive Call
  | register (callee : Value) (hint : Hint)
  | annotate (callee : Value) (hint : Option Hint)
  | unregister (callee : Value)

namespace Call

def callee : Call → Value
  | .register callee _ | .annotate callee _ | .unregister callee => callee

def hint? : Call → Option Hint
  | .register _ hint => some hint
  | .annotate _ hint => hint
  | .unregister _ => none

/-- What a call says of the function of its value. -/
def said : Call → Run (Option Hint)
  | .register _ hint | .annotate _ (some hint) => return some hint
  | .annotate callee none => return some (.text (← Run.signatureHint engine callee))
  | .unregister _ => return none

def run (hints : Hints) : Call → Run Hints
  | .register callee hint => hints.register callee hint
  | .annotate callee hint => hints.annotate callee hint
  | .unregister callee => hints.unregister callee

/-- Every call finds out what it has to say, then which function that is for, and says it. -/
theorem run_eq (hints : Hints) (call : Call) :
    call.run hints = (do
      let said ← call.said
      return hints.say (← target call.callee) said) := by
  cases call with
  | register callee hint => rfl
  | unregister callee => rfl
  | annotate callee hint =>
      cases hint with
      | some hint => rfl
      | none =>
          apply Run.run_ext
          intro world
          show (Run.signatureHint engine callee >>= fun text => hints.register callee (.text text)).runIn world =
            ((Run.signatureHint engine callee >>= fun text => pure (some (.text text))) >>= fun said =>
              target callee >>= fun function => pure (hints.say function said)).runIn world
          rw [bind_assoc]
          rfl

/-- Only a call with a provider says that there is one. -/
theorem provider_of_said {call : Call} {provide : Option Node → String → Run Value} {between : World}
    (told : call.said.runIn world = (.ok (some (.provider provide)), between)) :
    call.hint? = some (.provider provide) := by
  cases call with
  | register callee hint =>
      cases told
      rfl
  | unregister callee => cases told
  | annotate callee hint =>
      cases hint with
      | some hint =>
          cases told
          rfl
      | none =>
          obtain ⟨text, after, _, given⟩ := Run.run_of_bind told
          cases given

end Call

end Hints

namespace Environment

open Hints (functionOf? isIdentity)

/-! ### What was said last -/

/-- What was said of a function: its hint, or that it has none. -/
structure Note where
  function : Value
  hint : Option Hint

/-- The hint that a function was given last, unless it was taken away since. -/
def lastSaid (function : Value) (notes : List Note) : Option Hint :=
  (notes.reverse.find? (·.function.same function)).bind (·.hint)

theorem last_said_append (function : Value) (notes : List Note) (note : Note) :
    lastSaid function (notes ++ [note]) =
      if note.function.same function then note.hint else lastSaid function notes := by
  rw [lastSaid, List.reverse_append, List.reverse_singleton, List.singleton_append, List.find?_cons]
  cases note.function.same function <;> rfl

theorem last_said_mem {function : Value} {notes : List Note} {hint : Hint} (last : lastSaid function notes = some hint) :
    ∃ note ∈ notes, note.hint = some hint := by
  obtain ⟨note, found, same⟩ := Option.bind_eq_some_iff.mp last
  exact ⟨note, List.mem_reverse.mp (List.mem_of_find?_eq_some found), same⟩

namespace Shared

/-- What happens next: an operation on the environment, or a call of its registry. -/
inductive Move
  | operation (operation : Operation)
  | call (call : Hints.Call)

/-- What a call says of which function. One that raises before it gets there says nothing. -/
def noteOf? (call : Hints.Call) (world : World) : Option Note :=
  match call.said.runIn world with
  | (.ok hint, between) => (functionOf? between call.callee).map (⟨·, hint⟩)
  | (.error _, _) => none

/-- Carries a call of the registry out. -/
def call (shared : Shared) (call : Hints.Call) : Shared :=
  match (call.run shared.environment.hints).runIn shared.world with
  | (.ok hints, world) => { shared with environment := { shared.environment with hints }, world }
  | (.error _, world) => { shared with world }

/-- The events of a move, what it says, and what is there after it. -/
def move (shared : Shared) : Move → List (Entry Value) × List Note × Shared
  | .operation operation =>
      let (events, after) := shared.perform operation
      (events.map (Entry.mk operation.party), [], after)
  | .call call => ([], (noteOf? call shared.world).toList, shared.call call)

/-- Makes moves one after another. -/
def moveAll : List Move → Shared → List (Entry Value) × List Note × Shared
  | [], shared => ([], [], shared)
  | move :: rest, shared =>
      let (events, notes, between) := shared.move move
      let (laterEvents, laterNotes, after) := moveAll rest between
      (events ++ laterEvents, notes ++ laterNotes, after)

/-- Whether a move is none of the registry, or is about a value that has a function. -/
def isAboutFunction (shared : Shared) : Move → Bool
  | .operation _ => true
  | .call call => match call.said.runIn shared.world with
      | (.ok _, between) => (functionOf? between call.callee).isSome
      | (.error _, _) => true

/-- Whether all calls of the registry are about values that have a function when it comes to them. -/
def areAboutFunctions : List Move → Shared → Bool
  | [], _ => true
  | move :: rest, shared => shared.isAboutFunction move && areAboutFunctions rest (shared.move move).2.2

/-- What is known of every function is what was said of it last. -/
def Informed (shared : Shared) (notes : List Note) : Prop :=
  ∀ function, isIdentity function = true → shared.environment.hints.find? function = lastSaid function notes

variable {shared : Shared} {history : List (Entry Value)} {notes : List Note}

theorem informed_start (space : Address) (world : World) : Informed { environment := { space }, world } [] :=
  fun _ _ => rfl

theorem undergoes_keeps_hints {environment after : Environment} {events : List (HandleEvent Value)}
    (undergoes : Undergoes environment events after) : after.hints = environment.hints := by
  induction undergoes with
  | nothing => rfl
  | issued value later induction => exact induction
  | released handle later induction => exact induction
  | closed later induction => exact induction

theorem call_kept (kept : Kept shared history) (call : Hints.Call) : Kept (shared.call call) history := by
  rw [Shared.call]
  split
  · exact ⟨⟨kept.accounts.table, kept.accounts.numbered, kept.accounts.once⟩, ⟨kept.tracks.begun, kept.tracks.unbegun⟩⟩
  · exact ⟨kept.accounts, ⟨kept.tracks.begun, kept.tracks.unbegun⟩⟩

/-- A call about a value that has a function says of it what it has to say; one that raises changes nothing. -/
theorem call_informed (informed : Informed shared notes) (call : Hints.Call)
    (about : shared.isAboutFunction (.call call) = true) :
    Informed (shared.call call) (notes ++ (noteOf? call shared.world).toList) := by
  intro other identity
  rcases ran : call.said.runIn shared.world with ⟨error | said, between⟩
  · have raised : (call.run shared.environment.hints).runIn shared.world = (.error error, between) := by
      rw [Hints.Call.run_eq, Run.run_in_bind, ran]
    simp only [Shared.call, raised, noteOf?, ran, Option.toList_none, List.append_nil]
    exact informed other identity
  · rw [isAboutFunction, ran] at about
    obtain ⟨function, known⟩ := Option.isSome_iff_exists.mp about
    obtain ⟨after, given, _⟩ := Hints.target_of_function known
    have carried : (call.run shared.environment.hints).runIn shared.world =
        (.ok (shared.environment.hints.say function said), after) := by
      rw [Hints.Call.run_eq, Run.run_in_bind, ran]
      show (Hints.target call.callee >>= _).runIn between = _
      rw [Run.run_in_bind, given]
      rfl
    simp only [Shared.call, carried, noteOf?, ran, known, Option.map_some, Option.toList_some]
    rw [last_said_append, Hints.find_say _ said (Hints.identity_of_function known) identity, informed other identity]

theorem move_kept (kept : Kept shared history) (move : Move) :
    Kept (shared.move move).2.2 (history ++ (shared.move move).1) := by
  cases move with
  | operation operation => exact perform_kept kept operation
  | call call =>
      rw [Shared.move, List.append_nil]
      exact call_kept kept call

theorem move_informed (informed : Informed shared notes) {move : Move} (about : shared.isAboutFunction move = true) :
    Informed (shared.move move).2.2 (notes ++ (shared.move move).2.1) := by
  cases move with
  | operation operation =>
      intro function identity
      have same := undergoes_keeps_hints (perform_undergoes shared operation)
      rw [Shared.move, List.append_nil]
      show (shared.perform operation).2.environment.hints.find? function = _
      rw [same]
      exact informed function identity
  | call call => exact call_informed informed call about

/-- At every point of a run the table of handles accounts for what happened, and the registry for what was said. -/
theorem move_all_kept (kept : Kept shared history) (informed : Informed shared notes) {moves : List Move}
    (about : areAboutFunctions moves shared = true) :
    Kept (moveAll moves shared).2.2 (history ++ (moveAll moves shared).1) ∧
      Informed (moveAll moves shared).2.2 (notes ++ (moveAll moves shared).2.1) := by
  induction moves generalizing shared history notes with
  | nil =>
      rw [moveAll, List.append_nil, List.append_nil]
      exact ⟨kept, informed⟩
  | cons move rest induction =>
      rw [areAboutFunctions, Bool.and_eq_true] at about
      have later := induction (move_kept kept move) (move_informed informed about.1) about.2
      rwa [List.append_assoc, List.append_assoc] at later

/-- A provider that is said of a function was given with one of the calls. -/
theorem provider_of_note {moves : List Move} {note : Note} (member : note ∈ (moveAll moves shared).2.1)
    {provide : Option Node → String → Run Value} (given : note.hint = some (.provider provide)) :
    ∃ call, Move.call call ∈ moves ∧ call.hint? = some (.provider provide) := by
  induction moves generalizing shared with
  | nil => cases member
  | cons move rest induction =>
      rcases List.mem_append.mp member with here | later
      · cases move with
        | operation operation => cases here
        | call call =>
            refine ⟨call, List.mem_cons_self, ?_⟩
            have noted : noteOf? call shared.world = some note := Option.mem_toList.mp here
            rw [noteOf?] at noted
            split at noted
            · next hint between told =>
                obtain ⟨function, _, rfl⟩ := Option.map_eq_some_iff.mp noted
                obtain rfl : hint = some (.provider provide) := given
                exact Hints.Call.provider_of_said told
            · cases noted
      · obtain ⟨call, among, hint⟩ := induction later
        exact ⟨call, List.mem_cons_of_mem _ among, hint⟩

end Shared

/-! ### The hint for a call -/

/-- The text that a hint is for a call: its own, or the one that its provider gives. -/
inductive Tells (site : Option Node) (line : String) (world : World) : Hint → String → Prop
  | text (text : String) : Tells site line world (.text text) text
  | provided (provide : Option Node → String → Run Value) {value : Value} {text : String} {after : World}
      (given : (provide site line).runIn world = (.ok value, after))
      (plain : (Run.plain value).runIn after = (.ok (.text text), after)) : Tells site line world (.provider provide) text

/-- A provider that raises nothing but ordinary errors. -/
def IsPolite (provide : Option Node → String → Run Value) : Prop :=
  ∀ site line world error after, (provide site line).runIn world = (.error error, after) → Run.IsOrdinary error after

/-- The answer that tells a hint. -/
def told (text : String) : Completion.Description := { sort := .text, value := .text text }

/-- A text is told, and anything else counts as no hint. -/
def answerOf : Value → Completion.Description
  | .text text => told text
  | _ => .undefined

/-- What becomes of what a hint gives, an error included. -/
def tell (given : Run Value) : Run Completion.Description := do
  match ← Run.unlessRaised ["Exception"] given with
  | some hint => return answerOf (← Run.plain hint)
  | none => return .undefined

/-- What is known of a function gives a hint for a call. -/
def give (site : Option Node) (line : String) : Option Hint → Run Value
  | none => return .nothing
  | some (.text text) => return .text text
  | some (.provider provide) => provide site line

/-- A computation gives a text. -/
def Gives (given : Run Value) (world : World) (text : String) : Prop :=
  ∃ value after, given.runIn world = (.ok value, after) ∧ (Run.plain value).runIn after = (.ok (.text text), after)

variable {environment : Environment} {world between : World} {site : Option Node} {line : String}

theorem told_injective {text other : String} (same : told text = told other) : text = other := by
  cases same
  rfl

theorem gives_one {given : Run Value} {text other : String} (first : Gives given world text)
    (second : Gives given world other) : text = other := by
  obtain ⟨value, between, ran, read⟩ := first
  obtain ⟨_, _, ranToo, readToo⟩ := second
  cases ran.symm.trans ranToo
  cases read.symm.trans readToo
  rfl

/-- Asking for a hint that raises nothing but ordinary errors never raises: it tells the text that is given, and
otherwise nothing is known. -/
theorem tell_in {given : Run Value}
    (polite : ∀ error after, given.runIn world = (.error error, after) → Run.IsOrdinary error after) :
    ∃ description after, (tell given).runIn world = (.ok description, after) ∧
      (∀ text, description = told text ↔ Gives given world text) ∧
      (description = .undefined ∨ ∃ text, description = told text) := by
  rcases ran : given.runIn world with ⟨error | value, between⟩
  · have nothing := Run.unless_raised_case ran (polite error between ran)
    refine ⟨.undefined, between, ?_, fun text => iff_of_false nofun ?_, Or.inl rfl⟩
    · rw [tell, Run.run_in_bind, nothing]
      rfl
    · rintro ⟨value, after, givenToo, _⟩
      cases ran.symm.trans givenToo
  · obtain ⟨plain, read⟩ := Run.reads_plain value between
    have carried : (tell given).runIn world = (.ok (answerOf plain), between) := by
      rw [tell, Run.run_in_bind, Run.unless_raised_ok.mpr ran]
      show (Run.plain value >>= _).runIn between = _
      rw [Run.run_in_bind, read]
      rfl
    refine ⟨_, between, carried, ?_⟩
    by_cases isText : ∃ text, plain = .text text
    · obtain ⟨found, rfl⟩ := isText
      have gives : Gives given world found := ⟨value, between, ran, read⟩
      refine ⟨fun text => ⟨fun same => ?_, fun other => ?_⟩, Or.inr ⟨found, rfl⟩⟩
      · rwa [← told_injective same]
      · rw [gives_one other gives]
        rfl
    · have undefined : answerOf plain = .undefined := by
        cases plain with
        | text text => exact absurd ⟨text, rfl⟩ isText
        | _ => rfl
      rw [undefined]
      refine ⟨fun text => iff_of_false nofun ?_, Or.inl rfl⟩
      rintro ⟨_, _, ranToo, readToo⟩
      cases ran.symm.trans ranToo
      cases read.symm.trans readToo
      exact isText ⟨text, rfl⟩

theorem gives_iff_tells {hint : Option Hint} {text : String} :
    Gives (give site line hint) world text ↔ ∃ known, hint = some known ∧ Tells site line world known text := by
  rcases hint with _ | text | provide
  · constructor
    · rintro ⟨value, after, given, read⟩
      cases given
      cases read
    · nofun
  · constructor
    · rintro ⟨value, after, given, read⟩
      cases given
      cases read
      exact ⟨_, rfl, .text _⟩
    · rintro ⟨_, ⟨⟩, tells⟩
      cases tells
      exact ⟨_, world, rfl, rfl⟩
  · constructor
    · rintro ⟨value, after, given, read⟩
      exact ⟨_, rfl, .provided provide given read⟩
    · rintro ⟨_, ⟨⟩, tells⟩
      cases tells with
      | provided _ given plain => exact ⟨_, _, given, plain⟩

theorem for_call_in (environment : Environment) (site : Option Node) (line : String) {value function : Value}
    (given : (Hints.target value).runIn world = (.ok function, between)) :
    (environment.hints.forCall value site line).runIn world =
      (give site line (environment.hints.find? function)).runIn between := by
  rw [Hints.forCall, Run.run_in_bind, given]
  dsimp only
  rcases environment.hints.find? function with _ | _ | _ <;> rfl

theorem invoke_hint_eq {handle : Option String} {value : Value}
    (here : handle.bind environment.resolve? = some value) (something : value ≠ .nothing) :
    environment.invokeHint handle site line = tell (environment.hints.forCall value site line) := by
  have answers : ∀ hint, (do match ← Run.plain hint with
        | .text text => return { sort := .text, value := .text text }
        | _ => return .undefined : Run Completion.Description) = (do return answerOf (← Run.plain hint)) := by
    intro hint
    refine bind_congr fun plain => ?_
    cases plain <;> rfl
  have goesOn : environment.invokeHint handle site line = (do
      match ← Run.unlessRaised ["Exception"] (environment.hints.forCall value site line) with
      | some hint => match ← Run.plain hint with
          | .text text => return { sort := .text, value := .text text }
          | _ => return .undefined
      | none => return .undefined) := by
    rw [invokeHint, here]
    cases value with
    | nothing => exact absurd rfl something
    | _ => rfl
  rw [goesOn, tell]
  refine bind_congr fun hint => ?_
  cases hint with
  | none => rfl
  | some hint => exact answers hint

/-- The hint for a value that has a function is what is known of that. -/
theorem invoke_hint_in {handle : Option String} {value function : Value}
    (here : handle.bind environment.resolve? = some value) (something : value ≠ .nothing)
    (known : functionOf? world value = some function)
    (polite : ∀ provide, environment.hints.find? function = some (.provider provide) → IsPolite provide) :
    ∃ between description after, OnlyAdds world between ∧
      (environment.invokeHint handle site line).runIn world = (.ok description, after) ∧
      (∀ text, description = told text ↔
        ∃ hint, environment.hints.find? function = some hint ∧ Tells site line between hint text) ∧
      (description = .undefined ∨ ∃ text, description = told text) := by
  obtain ⟨between, given, adds⟩ := Hints.target_of_function known
  have asked := for_call_in environment site line given
  have ordinary : ∀ error after, (environment.hints.forCall value site line).runIn world = (.error error, after) →
      Run.IsOrdinary error after := by
    intro error after raised
    rw [asked] at raised
    cases found : environment.hints.find? function with
    | none =>
        rw [found] at raised
        cases raised
    | some hint =>
        rw [found] at raised
        cases hint with
        | text text => cases raised
        | provider provide => exact polite provide found site line between error after raised
  obtain ⟨description, after, carried, tells, one⟩ := tell_in ordinary
  refine ⟨between, description, after, adds, ?_, fun text => ?_, one⟩
  · rw [invoke_hint_eq here something, carried]
  · rw [tells text, ← gives_iff_tells, Gives, Gives, asked]

/-- A handle was given out for a value, and was neither released nor taken back with the others since. -/
def IsLive (events : List (HandleEvent Value)) (handle : String) (value : Value) : Prop :=
  ∃ before after, events = before ++ .issued handle value :: after ∧ survives handle after = true

theorem resolve_iff_live {shared : Shared} {history : List (Entry Value)} (kept : Shared.Kept shared history)
    {handle : String} {value : Value} :
    shared.environment.resolve? handle = some value ↔ IsLive (eventsIn history) handle value := by
  have order := Shared.kept_in_order kept
  constructor
  · intro resolved
    by_cases issued : handle ∈ handlesIn (eventsIn history)
    · obtain ⟨other, member⟩ := mem_handles_in.mp issued
      obtain ⟨before, after, split⟩ := List.append_of_mem member
      rw [order.resolved before handle other after split, Option.ite_none_right_eq_some] at resolved
      obtain ⟨survived, ⟨rfl⟩⟩ := resolved
      exact ⟨before, after, split, survived⟩
    · rw [order.unknown handle issued] at resolved
      cases resolved
  · rintro ⟨before, after, split, survived⟩
    rw [order.resolved before handle value after split, if_pos survived]

/-- The value behind a handle lives and is not nothing, and what was said of its function last is a hint that tells a
text for a call. -/
def HasHint (run : List (Entry Value) × List Note × Shared) (between : World) (handle : Option String)
    (site : Option Node) (line text : String) : Prop :=
  ∃ name value function hint, handle = some name ∧ IsLive (eventsIn run.1) name value ∧ value ≠ .nothing ∧
    functionOf? run.2.2.world value = some function ∧ lastSaid function run.2.1 = some hint ∧
    Tells site line between hint text

/-- Asking for the hint for a call does not raise. A text is told exactly when the call has that for its hint; otherwise
the answer is undefined. A provider is asked in the world as it is, but for what asking for the function added. -/
def AnswersHint (run : List (Entry Value) × List Note × Shared) (handle : Option String) (site : Option Node)
    (line : String) : Prop :=
  ∃ between description after, OnlyAdds run.2.2.world between ∧
    (run.2.2.environment.invokeHint handle site line).runIn run.2.2.world = (.ok description, after) ∧
    (∀ text, description = told text ↔ HasHint run between handle site line text) ∧
    (description = .undefined ∨ ∃ text, description = told text)

theorem answers_unhinted {run : List (Entry Value) × List Note × Shared} {handle : Option String}
    (unhinted : ∀ text between, ¬HasHint run between handle site line text)
    (carried : run.2.2.environment.invokeHint handle site line = pure .undefined) :
    AnswersHint run handle site line := by
  refine ⟨run.2.2.world, .undefined, run.2.2.world, ⟨#[], by simp⟩, ?_, fun text => ?_, Or.inl rfl⟩
  · rw [carried]
    rfl
  · exact iff_of_false nofun (unhinted text _)

/-- A world in which a source was run, in a new namespace. -/
def worldAfter (source : String) : World :=
  ((execute { space := 0 } source).runIn { cells := #[.dict #[] none] }).2

/-- The provider of the search hint raises an ordinary error when there is no call to ask for its arguments, and none
otherwise. -/
theorem search_hint_polite : IsPolite Hints.searchHint := by
  intro site line world error after raised
  cases site with
  | none =>
      have failed : Hints.searchHint none line =
          Run.fail "AttributeError" "'NoneType' object has no attribute 'arguments'" := by
        rw [Hints.searchHint]
        exact raise_bind _ _ _
      rw [failed] at raised
      exact Run.raised_case (by decide +kernel) raised
  | some node =>
      obtain ⟨arguments, asked⟩ : ∃ arguments, (Hints.argumentsOf (some node)).runIn world = (.ok arguments, world) := by
        cases node <;> exact ⟨_, rfl⟩
      rw [Hints.searchHint, Run.run_in_bind, asked] at raised
      dsimp only at raised
      split at raised <;> cases raised

theorem callable_of_seen {value? : Option Value}
    (seen : (value?.all fun value => (functionOf? world value).isSome) = true) :
    ∀ value ∈ value?, value = .nothing ∨ (functionOf? world value).isSome = true := by
  rintro value rfl
  exact Or.inr seen

end Environment

end LiveShell
