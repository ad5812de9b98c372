import LiveShell.Proofs.ReportedFailures

/-!
What is told of without running code of a session: modules, which are shown by the name that they were loaded under,
and errors of built-in classes with a text or without one. Modules that have a text for their name are bound to the last
part of it.
-/

namespace LiveShell.Environment

open Run (Reads reads_bind reads_pure)

set_option autoImplicit false

variable {world : World}

/-! ### Modules as values -/

/-- A value that is a module. -/
def IsModule (module : Value) (world : World) : Prop :=
  ∃ address name own, module = .ref address ∧ world.cells[address]? = some (.module name own)

/-- A module that has a text for its name, of its own or as the library that it is. -/
def IsNamed (module : Value) (world : World) : Prop :=
  ∃ address name own text, module = .ref address ∧ world.cells[address]? = some (.module name own) ∧
    (Run.moduleAttribute? name own "__name__").runIn world = (.ok (some (.text text)), world)

def isModule (module : Value) (world : World) : Bool :=
  match module with
  | .ref address => match world.cells[address]? with
      | some (.module ..) => true
      | _ => false
  | _ => false

def isNamed (module : Value) (world : World) : Bool :=
  match module with
  | .ref address => match world.cells[address]? with
      | some (.module name own) => match ((Run.moduleAttribute? name own "__name__").runIn world).1 with
          | .ok (some (.text _)) => true
          | _ => false
      | _ => false
  | _ => false

theorem is_module_iff {module : Value} : isModule module world = true ↔ IsModule module world := by
  constructor
  · intro seen
    unfold isModule at seen
    split at seen
    · split at seen
      · next here => exact ⟨_, _, _, rfl, here⟩
      · cases seen
    · cases seen
  · rintro ⟨address, name, own, rfl, here⟩
    simp only [isModule, here]

theorem reads_module_attribute (name : String) (own : Address) (member : String) :
    Reads (Run.moduleAttribute? name own member) := by
  unfold Run.moduleAttribute?
  split
  · exact reads_pure _
  · apply reads_bind (Run.reads_name own member)
    intro held
    repeat' split
    all_goals exact reads_pure _

theorem is_named_iff {module : Value} : isNamed module world = true ↔ IsNamed module world := by
  constructor
  · intro seen
    unfold isNamed at seen
    split at seen
    · split at seen
      · next name own here =>
          split at seen
          · next text named =>
              obtain ⟨found, told⟩ := reads_module_attribute name own "__name__" world
              rw [told] at named
              cases named
              exact ⟨_, _, _, _, rfl, here, told⟩
          · cases seen
      · cases seen
    · cases seen
  · rintro ⟨address, name, own, text, rfl, here, named⟩
    simp only [isNamed, here, named]

instance (module : Value) (world : World) : Decidable (IsModule module world) := decidable_of_iff _ is_module_iff

instance (module : Value) (world : World) : Decidable (IsNamed module world) := decidable_of_iff _ is_named_iff

theorem module_cell {address : Address} {cell : Cell} (here : world.cells[address]? = some cell) :
    (Run.cellAt? address).runIn world = (.ok (some cell), world) := by
  rw [← here]
  rfl

theorem shown_module {address own : Address} {name : String} (here : world.cells[address]? = some (.module name own)) :
    (Run.shown engine (.ref address)).runIn world = (.ok ("<module '" ++ name ++ "'>"), world) := by
  have cell := module_cell here
  have noOwn : (Run.callOwn? engine (.ref address) "__repr__" []).runIn world = (.ok none, world) := by
    simp only [Run.callOwn?, Run.ownMember?, Run.run_in_bind, cell]
    rfl
  show (Run.showAt engine (999 + 1) [] (.ref address)).runIn world = _
  rw [Run.showAt, Run.run_in_bind, noOwn]
  simp only [Run.run_in_bind, cell]
  rfl

/-- What is told of a form. -/
def briefly (form : String) : String := String.ofList (Text.shorten widest "...".toList form.toList)

theorem describe_of_form {value : Value} {form : String} {after : World}
    (shows : (Run.shown engine value).runIn world = (.ok form, after)) :
    ∃ description, (describe value).runIn world = (.ok description, after) ∧
      description.shown = some (briefly form) := by
  obtain ⟨sort, sorted⟩ := reads_sort_of value world
  obtain ⟨className, named⟩ := Run.reads_type_name value after
  have told : (shownBriefly value).runIn world = (.ok (briefly form), after) := by
    rw [shownBriefly, Run.run_in_catch, Run.run_in_bind, shows]
    rfl
  simp only [describe, Run.run_in_bind, sorted, told, named]
  exact ⟨_, rfl, rfl⟩

/-- What is shown without any code of its own is told of without any. -/
theorem described_of_shown {value : Value} {form : String}
    (shown : (Run.shown engine value).runIn world = (.ok form, world)) :
    ∃ description, (describe value).runIn world = (.ok description, world) := by
  obtain ⟨description, described, _⟩ := describe_of_form shown
  exact ⟨description, described⟩

theorem describe_module {module : Value} (isModule : IsModule module world) :
    ((describe module).runIn world).2 = world := by
  obtain ⟨address, name, own, rfl, here⟩ := isModule
  obtain ⟨description, described⟩ := described_of_shown (shown_module here)
  rw [described]

theorem binding_name_of_module {module : Value} (isNamed : IsNamed module world) :
    ∃ name, (Run.bindingNameOf module).runIn world = (.ok name, world) := by
  obtain ⟨address, name, own, text, rfl, here, named⟩ := isNamed
  have cell := module_cell here
  have noClass : (Run.isClass (.ref address)).runIn world = (.ok false, world) := by
    rw [Run.isClass, Run.run_in_bind, cell]
    rfl
  have found : (Run.attribute? engine (.ref address) "__name__").runIn world = (.ok (some (.text text)), world) := by
    rw [Run.attribute?, if_neg (by decide), Run.run_in_bind, noClass]
    simp only [Bool.false_eq_true, if_false, Run.run_in_bind, cell, named]
  have told : (Run.attributeOf engine (.ref address) "__name__").runIn world = (.ok (.text text), world) := by
    rw [Run.attributeOf, Run.run_in_bind, found]
    rfl
  rw [Run.bindingNameOf, Run.run_in_bind, told]
  exact ⟨_, rfl⟩

/-! ### Errors as values -/

/-- The arguments of an error that has a text or nothing to say. -/
def argumentsOf (message : Option String) : List Value := (message.map .text).toList

/-- An error of a built-in class that has a text for its only argument, or no argument. -/
def IsPlainError (error : Value) (world : World) : Prop :=
  ∃ address kind own message, error = .ref address ∧
    world.cells[address]? = some (.instanceOf (.kind kind) own (some (.tuple (argumentsOf message))))

/-- Built-in classes hold no member that code has made. -/
theorem builtin_member (name : String) (kinds : List Kind) :
    ∃ found : Option Kind,
      (Run.memberAlong? name (kinds.map .kind)).runIn world = (.ok (found.map .builtin), world) := by
  induction kinds with
  | nil => exact ⟨none, rfl⟩
  | cons kind rest induction =>
      rw [List.map_cons, Run.memberAlong?]
      split
      · exact ⟨some kind, rfl⟩
      · exact induction

theorem reads_subclass (cls ancestor : Value) : Reads (Run.isSubclass cls ancestor) :=
  reads_bind (Run.reads_order_of cls) fun _ => reads_pure _

theorem reads_shown_text (depth : Nat) (text : String) : Reads (Run.showAt engine (depth + 1) [] (.text text)) := by
  rw [Run.showAt]
  · exact reads_pure _
  · nofun

section PlainError

variable {address own : Address} {kind : Kind} {message : Option String}
variable (here : world.cells[address]? = some (.instanceOf (.kind kind) own (some (.tuple (argumentsOf message)))))
include here

theorem no_own_operation (name : String) (arguments : List Value) :
    (Run.callOwn? engine (.ref address) name arguments).runIn world = (.ok none, world) := by
  obtain ⟨found, along⟩ := builtin_member name kind.order
  have member : (Run.memberOf? (.kind kind) name).runIn world = (.ok (found.map .builtin), world) := by
    rw [Run.memberOf?, Run.run_in_bind]
    exact along
  have none : (Run.ownMember? (.ref address) name).runIn world = (.ok none, world) := by
    simp only [Run.ownMember?, Run.run_in_bind, module_cell here, member]
    cases found <;> rfl
  rw [Run.callOwn?, Run.run_in_bind, none]
  rfl

theorem shown_plain_error : ∃ text, (Run.shown engine (.ref address)).runIn world = (.ok text, world) := by
  have tuple : Reads (Run.showAt engine (998 + 1) [] (.tuple (argumentsOf message))) := by
    rw [Run.showAt]
    · cases message with
      | none => exact reads_pure _
      | some message => exact reads_bind (reads_shown_text 997 message) fun _ => reads_pure _
    · nofun
  have written : Reads (Run.showArguments (Run.showAt engine (998 + 1) []) (argumentsOf message)) := by
    cases message with
    | none => exact reads_pure _
    | some message => exact reads_bind (reads_shown_text 998 message) fun _ => reads_pure _
  have arguments : Run.errorArguments (.kind kind) (argumentsOf message) = pure (argumentsOf message) := by
    cases message <;> rfl
  obtain ⟨name, named⟩ := Run.reads_name_of_class (.kind kind) world
  obtain ⟨isError, told⟩ := reads_subclass (.kind kind) (.kind (.error "BaseException")) world
  show ∃ text, (Run.showAt engine (998 + 1 + 1) [] (.ref address)).runIn world = _
  rw [Run.showAt, Run.run_in_bind, no_own_operation here]
  simp only [Run.run_in_bind, module_cell here, named, told, arguments]
  cases isError with
  | true => exact reads_bind written (fun _ => reads_pure _) world
  | false => exact tuple world

theorem text_of_plain_error : ∃ text, (Run.layOut engine (.ref address) "").runIn world = (.ok text, world) := by
  have shown : ∃ text, (Run.shown engine (.ref address)).runIn world = (.ok text, world) := shown_plain_error here
  have text : ∃ text, (Run.textOf engine (.ref address)).runIn world = (.ok text, world) := by
    show ∃ text, (Run.textAt engine (998 + 1 + 1) (.ref address)).runIn world = _
    rw [Run.textAt, Run.run_in_bind, no_own_operation here]
    obtain ⟨isError, told⟩ := reads_subclass (.kind kind) (.kind (.error "BaseException")) world
    simp only [Run.run_in_bind, module_cell here, told]
    cases isError with
    | false => exact shown
    | true =>
        cases message with
        | none => exact ⟨"", rfl⟩
        | some message =>
            have spelled : Reads (Run.textAt engine (998 + 1) (.text message)) := by
              rw [Run.textAt]
              exact reads_pure _
            refine reads_bind (reads_subclass (.kind kind) (.kind (.error "KeyError"))) (fun isKey => ?_) world
            cases isKey with
            | true => exact reads_shown_text 999 message
            | false => exact spelled
  rw [Run.layOut, Run.run_in_bind, no_own_operation here]
  exact text

end PlainError

theorem told_plain_error {error : Value} (plain : IsPlainError error world) :
    ∃ failure, (describeFailure error).runIn world = (.ok failure, world) := by
  obtain ⟨address, kind, own, message, rfl, here⟩ := plain
  obtain ⟨form, shown⟩ := shown_plain_error here
  obtain ⟨description, described⟩ := described_of_shown shown
  obtain ⟨text, told⟩ := text_of_plain_error here
  obtain ⟨className, named⟩ := Run.reads_type_name (.ref address) world
  rw [describeFailure, Run.run_in_bind, described]
  simp only [Run.run_in_bind, told, named]
  exact ⟨_, rfl⟩

/-- An error of the loader is told of without any code of its own. -/
theorem describe_plain_error {error : Value} (plain : IsPlainError error world) :
    ((describeFailure error).runIn world).2 = world := by
  obtain ⟨failure, told⟩ := told_plain_error plain
  rw [told]

end LiveShell.Environment
