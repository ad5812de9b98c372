import Mathlib.Data.List.Basic
import LiveShell.Completion.Completer

/-!
What a dialogue asks of an environment, and what it is told. Nothing is assumed of the environment: each request may
be answered with anything of its kind, or fail. A dialogue ends with an outcome after a list of exchanges; for a
dialogue in parts the list splits between them. An environment that answers requests one after another gives one such
list, and the outcome is the one that carrying the dialogue out gives.
-/

namespace LiveShell.Completion

set_option autoImplicit false

/-- A request with what it was answered with. -/
structure Exchange (ε : Type) where
  request : Request
  reply : Except (Trouble ε) request.Answer

namespace Dialogue

variable {ε α β σ : Type}

/-- After some exchanges, and remarks between them, the dialogue ends with an outcome. -/
inductive Ends : Dialogue ε α → List (Exchange ε) → Except (Trouble ε) α → Prop
  | finish (value : α) : Ends (.finish value) [] (.ok value)
  | trouble (cause : Trouble ε) : Ends (.trouble cause) [] (.error cause)
  | remark (made : Remark) {rest : Dialogue ε α} {log : List (Exchange ε)} {outcome : Except (Trouble ε) α} :
      Ends rest log outcome → Ends (.remark made rest) log outcome
  | ask (request : Request) {rest : Except (Trouble ε) request.Answer → Dialogue ε α}
      (reply : Except (Trouble ε) request.Answer) {log : List (Exchange ε)} {outcome : Except (Trouble ε) α} :
      Ends (rest reply) log outcome → Ends (.ask request rest) (⟨request, reply⟩ :: log) outcome

/-- The exchanges of a dialogue with an environment that keeps a state. -/
def exchanges (answer : (request : Request) → σ → Except (Trouble ε) request.Answer × σ) :
    Dialogue ε α → σ → List (Exchange ε)
  | finish _, _ | trouble _, _ => []
  | remark _ rest, state => rest.exchanges answer state
  | ask request rest, state =>
      let (reply, state) := answer request state
      ⟨request, reply⟩ :: (rest reply).exchanges answer state

/-- Carrying a dialogue out ends it after its exchanges, with the outcome that it gives. -/
theorem ends_run (answer : (request : Request) → σ → Except (Trouble ε) request.Answer × σ)
    (dialogue : Dialogue ε α) (state : σ) :
    Ends dialogue (dialogue.exchanges answer state) (dialogue.run answer state).1 := by
  induction dialogue generalizing state with
  | finish value => exact .finish value
  | trouble cause => exact .trouble cause
  | remark made rest induction => exact .remark made (induction state)
  | ask request rest induction => exact .ask request _ (induction _ _)

variable {log : List (Exchange ε)}

theorem ends_finish {value : α} {outcome : Except (Trouble ε) α} :
    Ends (finish value) log outcome ↔ log = [] ∧ outcome = .ok value := by
  constructor
  · rintro ⟨⟩
    exact ⟨rfl, rfl⟩
  · rintro ⟨rfl, rfl⟩
    exact .finish value

theorem ends_trouble {cause : Trouble ε} {outcome : Except (Trouble ε) α} :
    Ends (trouble cause) log outcome ↔ log = [] ∧ outcome = .error cause := by
  constructor
  · rintro ⟨⟩
    exact ⟨rfl, rfl⟩
  · rintro ⟨rfl, rfl⟩
    exact .trouble cause

/-- A request alone is one exchange, and its reply is the outcome. -/
theorem ends_request {asked : Request} {outcome : Except (Trouble ε) asked.Answer} :
    Ends (request asked) log outcome ↔ log = [⟨asked, outcome⟩] := by
  constructor
  · rintro (_ | _ | _ | ⟨_, reply, rest⟩)
    cases reply with
    | ok answer =>
        obtain ⟨rfl, rfl⟩ := ends_finish.mp rest
        rfl
    | error cause =>
        obtain ⟨rfl, rfl⟩ := ends_trouble.mp rest
        rfl
  · rintro rfl
    cases outcome with
    | ok answer => exact .ask asked _ (.finish answer)
    | error cause => exact .ask asked _ (.trouble cause)

theorem ends_release {handle : String} {outcome : Except (Trouble ε) Unit} :
    Ends (request (.release handle)) log outcome ↔ log = [⟨.release handle, outcome⟩] :=
  ends_request

/-- What goes on after a dialogue, however that ends, has the exchanges that are left. -/
theorem ends_handle {dialogue : Dialogue ε α} {next : Except (Trouble ε) α → Dialogue ε β}
    {outcome : Except (Trouble ε) β} :
    Ends (dialogue.handle next) log outcome ↔
      ∃ first between rest, log = first ++ rest ∧ Ends dialogue first between ∧ Ends (next between) rest outcome := by
  constructor
  · intro ends
    induction dialogue generalizing log with
    | finish value => exact ⟨[], .ok value, log, rfl, .finish value, ends⟩
    | trouble cause => exact ⟨[], .error cause, log, rfl, .trouble cause, ends⟩
    | remark made rest induction =>
        rcases ends with _ | _ | ⟨_, ends⟩
        obtain ⟨first, between, later, split, begins, goesOn⟩ := induction ends
        exact ⟨first, between, later, split, .remark made begins, goesOn⟩
    | ask request rest induction =>
        rcases ends with _ | _ | _ | ⟨_, reply, ends⟩
        obtain ⟨first, between, later, rfl, begins, goesOn⟩ := induction reply ends
        exact ⟨_ :: first, between, later, rfl, .ask request reply begins, goesOn⟩
  · rintro ⟨first, between, rest, rfl, begins, goesOn⟩
    induction begins with
    | finish | trouble => exact goesOn
    | remark made _ induction => exact .remark made (induction goesOn)
    | ask request reply _ induction => exact .ask request reply (induction goesOn)

/-- Going on with the value only is going on however the dialogue ends, with trouble left as it is. -/
theorem bind_eq_handle (dialogue : Dialogue ε α) (next : α → Dialogue ε β) :
    dialogue.bind next = dialogue.handle fun
      | .ok value => next value
      | .error cause => .trouble cause := by
  induction dialogue with
  | finish | trouble => rfl
  | remark made rest induction => rw [bind, handle, induction]
  | ask request rest induction =>
      rw [bind, handle]
      congr 1
      funext reply
      exact induction reply

/-- The second part of a dialogue has the exchanges that are left, when the first part gives a value. -/
theorem ends_bind {dialogue : Dialogue ε α} {next : α → Dialogue ε β} {outcome : Except (Trouble ε) β} :
    Ends (dialogue >>= next) log outcome ↔
      (∃ first value rest, log = first ++ rest ∧ Ends dialogue first (.ok value) ∧ Ends (next value) rest outcome) ∨
        ∃ cause, Ends dialogue log (.error cause) ∧ outcome = .error cause := by
  show Ends (dialogue.bind next) log outcome ↔ _
  rw [bind_eq_handle, ends_handle]
  constructor
  · rintro ⟨first, between, rest, rfl, begins, goesOn⟩
    cases between with
    | ok value => exact Or.inl ⟨first, value, rest, rfl, begins, goesOn⟩
    | error cause =>
        obtain ⟨rfl, rfl⟩ := ends_trouble.mp goesOn
        exact Or.inr ⟨cause, by rwa [List.append_nil], rfl⟩
  · rintro (⟨first, value, rest, split, begins, goesOn⟩ | ⟨cause, begins, rfl⟩)
    · exact ⟨first, .ok value, rest, split, begins, goesOn⟩
    · exact ⟨log, .error cause, [], (List.append_nil log).symm, begins, .trouble cause⟩

theorem ends_pure {value : α} {outcome : Except (Trouble ε) α} :
    Ends (pure value) log outcome ↔ log = [] ∧ outcome = .ok value :=
  ends_finish

/-- A remark is no exchange. -/
theorem ends_note {source text : String} {next : Unit → Dialogue ε α} {outcome : Except (Trouble ε) α} :
    Ends (note source text >>= next) log outcome ↔ Ends (next ()) log outcome := by
  constructor
  · rintro (_ | _ | ⟨_, rest⟩)
    exact rest
  · exact fun rest => .remark _ rest

/-- A first request is the first exchange, and its reply decides what follows. -/
theorem ends_request_bind {asked : Request} {next : asked.Answer → Dialogue ε β}
    {outcome : Except (Trouble ε) β} :
    Ends (request asked >>= next) log outcome ↔
      (∃ answer rest, log = ⟨asked, .ok answer⟩ :: rest ∧ Ends (next answer) rest outcome) ∨
        ∃ cause, log = [⟨asked, .error cause⟩] ∧ outcome = .error cause := by
  simp only [ends_bind, ends_request]
  constructor
  · rintro (⟨first, answer, rest, rfl, rfl, goesOn⟩ | ⟨cause, rfl, rfl⟩)
    · exact Or.inl ⟨answer, rest, rfl, goesOn⟩
    · exact Or.inr ⟨cause, rfl, rfl⟩
  · rintro (⟨answer, rest, rfl, goesOn⟩ | ⟨cause, rfl, rfl⟩)
    · exact Or.inl ⟨_, answer, rest, rfl, rfl, goesOn⟩
    · exact Or.inr ⟨cause, rfl, rfl⟩

/-- What follows without an exchange only gives its outcome, unless the dialogue before it ends in trouble. -/
theorem ends_bind_silent {last : Dialogue ε Unit} {dialogue : Dialogue ε α} {between outcome : Except (Trouble ε) α}
    (silent : ∀ {log}, Ends dialogue log outcome ↔ log = [] ∧ outcome = between) :
    Ends (last.bind fun _ => dialogue) log outcome ↔
      ∃ closing, Ends last log closing ∧ outcome = closing.bind fun _ => between := by
  refine ends_bind.trans ⟨?_, ?_⟩
  · rintro (⟨first, value, rest, rfl, ends, goesOn⟩ | ⟨cause, ends, rfl⟩)
    · obtain ⟨rfl, rfl⟩ := silent.mp goesOn
      exact ⟨.ok value, by rwa [List.append_nil], rfl⟩
    · exact ⟨.error cause, ends, rfl⟩
  · rintro ⟨closing, ends, same⟩
    cases closing with
    | ok value => exact Or.inl ⟨log, value, [], (List.append_nil log).symm, ends, silent.mpr ⟨rfl, same⟩⟩
    | error cause => exact Or.inr ⟨cause, ends, same⟩

/-- A last dialogue has the exchanges after those of the first, however that ends; only trouble of its own counts. -/
theorem ends_ending {dialogue : Dialogue ε α} {last : Dialogue ε Unit} {outcome : Except (Trouble ε) α} :
    Ends (dialogue.ending last) log outcome ↔
      ∃ first between rest closing, log = first ++ rest ∧ Ends dialogue first between ∧ Ends last rest closing ∧
        outcome = closing.bind fun _ => between := by
  rw [ending, ends_handle]
  constructor
  · rintro ⟨first, between, rest, split, begins, goesOn⟩
    cases between with
    | ok value =>
        obtain ⟨closing, ends, same⟩ := (ends_bind_silent ends_finish).mp goesOn
        exact ⟨first, _, rest, closing, split, begins, ends, same⟩
    | error cause =>
        obtain ⟨closing, ends, same⟩ := (ends_bind_silent ends_trouble).mp goesOn
        exact ⟨first, _, rest, closing, split, begins, ends, same⟩
  · rintro ⟨first, between, rest, closing, split, begins, ends, same⟩
    refine ⟨first, between, rest, split, begins, ?_⟩
    cases between with
    | ok value => exact (ends_bind_silent ends_finish).mpr ⟨closing, ends, same⟩
    | error cause => exact (ends_bind_silent ends_trouble).mpr ⟨closing, ends, same⟩

/-- A handle that is released at the end of a request is released whatever the request was answered with. -/
theorem ends_releasing {asked : Request} {handle : String} {outcome : Except (Trouble ε) asked.Answer} :
    Ends ((request asked).ending (request (.release handle))) log outcome ↔
      ∃ reply released, log = [⟨asked, reply⟩, ⟨.release handle, released⟩] ∧
        outcome = released.bind fun _ => reply := by
  refine ends_ending.trans ⟨?_, ?_⟩
  · rintro ⟨first, reply, rest, released, rfl, begins, ends, same⟩
    obtain rfl := ends_request.mp begins
    obtain rfl := ends_release.mp ends
    exact ⟨reply, released, rfl, same⟩
  · rintro ⟨reply, released, rfl, same⟩
    exact ⟨_, reply, _, released, rfl, ends_request.mpr rfl, ends_release.mpr rfl, same⟩

/-! ### Halfway through -/

/-- After some exchanges, this is what is left of a dialogue. -/
inductive Leads (dialogue : Dialogue ε α) : List (Exchange ε) → Dialogue ε α → Prop
  | start : Leads dialogue [] dialogue
  | remark {log : List (Exchange ε)} {made : Remark} {rest : Dialogue ε α} :
      Leads dialogue log (.remark made rest) → Leads dialogue log rest
  | ask {log : List (Exchange ε)} {request : Request} {rest : Except (Trouble ε) request.Answer → Dialogue ε α}
      (reply : Except (Trouble ε) request.Answer) :
      Leads dialogue log (.ask request rest) → Leads dialogue (log ++ [⟨request, reply⟩]) (rest reply)

/-- A dialogue ends as what is left of it ends. -/
theorem ends_of_leads {dialogue rest : Dialogue ε α} {tail : List (Exchange ε)} {outcome : Except (Trouble ε) α}
    (leads : Leads dialogue log rest) (ends : Ends rest tail outcome) : Ends dialogue (log ++ tail) outcome := by
  induction leads generalizing tail with
  | start => exact ends
  | remark _ induction => exact induction (.remark _ ends)
  | ask reply _ induction =>
      rw [List.append_assoc]
      exact induction (.ask _ reply ends)

/-- Whether nothing is left to do. -/
def isOver : Dialogue ε α → Bool
  | finish _ | trouble _ => true
  | remark .. | ask .. => false

theorem ends_of_over {dialogue rest : Dialogue ε α} (leads : Leads dialogue log rest) (finished : rest.isOver = true) :
    ∃ outcome, Ends dialogue log outcome := by
  have done : ∃ outcome, Ends rest [] outcome := by
    cases rest with
    | finish value => exact ⟨_, .finish value⟩
    | trouble cause => exact ⟨_, .trouble cause⟩
    | remark | ask => cases finished
  obtain ⟨outcome, ends⟩ := done
  exact ⟨outcome, List.append_nil log ▸ ends_of_leads leads ends⟩

end Dialogue

end LiveShell.Completion
