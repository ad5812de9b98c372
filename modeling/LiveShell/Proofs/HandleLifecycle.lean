import LiveShell.Proofs.HandleEvents

/-!
The life of handles in an environment that is in use. Requests come from outside, completions are under way and make
theirs in between, and other code changes the world. Whatever happens in whichever order: a handle is never given out
again, it stands for its value from then until it is released or all are taken back, and whatever fails or only looks
leaves the table of handles as it was, a completion as a whole included.
-/

namespace LiveShell.Environment

open Completion (Completion Dialogue Evaluation Exchange Protocol Request Surroundings Trouble complete)
open Completion.Dialogue (Leads)

set_option autoImplicit false

/-! ### Running -/

/-- An environment in use, with its world and with what is left of the completions that have begun, by number. -/
structure Shared where
  environment : Environment
  world : World
  underway : List (Dialogue Value (Option Completion)) := []

/-- What can happen next. -/
inductive Operation
  /-- A request that no completion makes. -/
  | request (request : Request)
  /-- An evaluation that had to wait ends, with what is left of its code. -/
  | resume (code : Run Value)
  | preview (text : String)
  | close
  /-- A completion begins. -/
  | complete (around : Surroundings) (source : String) (cursor : Option Int)
  /-- A completion goes on, at most up to the answer of one request. -/
  | advance (number : Nat)
  /-- Other code runs in the world. -/
  | elsewhere (change : World → World)

/-- For whom an operation is carried out. -/
def Operation.party : Operation → Party
  | .advance number => .completion number
  | _ => .outside

namespace Shared

/-- The events of an operation, and what is there after it. -/
def perform (shared : Shared) : Operation → List (HandleEvent Value) × Shared
  | .request request =>
      let (_, environment, world) := answerIn request (shared.environment, shared.world)
      (requestEvents request (shared.environment, shared.world), { shared with environment, world })
  | .resume code =>
      match (shared.environment.conclude code).runIn shared.world with
      | (.ok (evaluation, environment), world) =>
          ((issueOf? (comesTo? code shared.world) evaluation).toList, { shared with environment, world })
      | (.error _, world) => ([], { shared with world })
  | .preview text =>
      let (environment, world) := shared.environment.afterPreview text shared.world
      (shared.environment.previewEvents text shared.world, { shared with environment, world })
  | .close => ([.closed], { shared with environment := shared.environment.close })
  | .complete around source cursor =>
      ([], { shared with underway := shared.underway ++ [Completion.complete around source cursor] })
  | .advance number =>
      match shared.underway[number]? with
      | some (.remark _ rest) => ([], { shared with underway := shared.underway.set number rest })
      | some (.ask request rest) =>
          let (reply, environment, world) := answerIn request (shared.environment, shared.world)
          (requestEvents request (shared.environment, shared.world),
            { environment, world, underway := shared.underway.set number (rest reply) })
      | _ => ([], shared)
  | .elsewhere change => ([], { shared with world := change shared.world })

/-- Carries operations out one after another, with what happens for whom. -/
def carryOut : List Operation → Shared → List (Entry Value) × Shared
  | [], shared => ([], shared)
  | operation :: rest, shared =>
      let (events, between) := shared.perform operation
      let (later, after) := carryOut rest between
      (events.map (Entry.mk operation.party) ++ later, after)

/-- Whether there is nothing left to do for a party. Outside there may always be more. -/
def isOver (shared : Shared) : Party → Bool
  | .outside => false
  | .completion number => shared.underway[number]?.any Dialogue.isOver

theorem perform_undergoes (shared : Shared) (operation : Operation) :
    Undergoes shared.environment (shared.perform operation).1 (shared.perform operation).2.environment := by
  cases operation with
  | request request => exact (answer_undergoes request shared.environment shared.world).1
  | resume code =>
      rcases ran : (shared.environment.conclude code).runIn shared.world with ⟨result, after⟩
      rcases result with error | ⟨evaluation, later⟩
      · simp only [perform, ran]
        exact .nothing _
      · simp only [perform, ran]
        exact (evaluated_undergoes (conclude_evaluated ran)).1
  | preview text => exact preview_undergoes shared.environment text shared.world
  | close => exact .closed (.nothing _)
  | complete | elsewhere => exact .nothing _
  | advance number =>
      rw [perform]
      split
      · exact .nothing _
      · exact (answer_undergoes _ shared.environment shared.world).1
      · exact .nothing _

/-! ### What belongs to a completion -/

/-- What is left of each completion that has begun is left after exchanges that its events are those of. -/
structure Tracks (shared : Shared) (history : List (Entry Value)) : Prop where
  begun : ∀ number dialogue, shared.underway[number]? = some dialogue →
    ∃ around source cursor log, Leads (Completion.complete around source cursor) log dialogue ∧
      (eventsOf (.completion number) history).map (HandleEvent.map fun _ => ()) = log.filterMap (eventOf? (some ()))
  unbegun : ∀ number, shared.underway.length ≤ number → eventsOf (.completion number) history = []

variable {shared : Shared} {history : List (Entry Value)}

theorem events_of_entries (party other : Party) (events : List (HandleEvent Value)) :
    eventsOf party (events.map (Entry.mk other)) = if other = party then events else [] := by
  split
  · next same =>
      have all : (events.map (Entry.mk other)).filter (fun entry => decide (entry.party = party)) =
          events.map (Entry.mk other) := by
        simp [List.filter_eq_self, same]
      rw [eventsOf, eventsIn, all, List.map_map]
      exact List.map_id events
  · next apart => simp [eventsOf, eventsIn, List.filter_map, Function.comp_def, apart]

/-- What happens for someone else leaves the events of a party as they are. -/
theorem events_of_others {party other : Party} (apart : other ≠ party) (events : List (HandleEvent Value)) :
    eventsOf party (history ++ events.map (Entry.mk other)) = eventsOf party history := by
  rw [events_of_append, events_of_entries, if_neg apart, List.append_nil]

theorem tracks_outside {after : Shared} (tracks : Tracks shared history) (events : List (HandleEvent Value))
    (same : after.underway = shared.underway) : Tracks after (history ++ events.map (Entry.mk .outside)) where
  begun number dialogue here := by
    rw [events_of_others (show Party.outside ≠ .completion number from nofun)]
    exact tracks.begun number dialogue (same ▸ here)
  unbegun number past := by
    rw [events_of_others (show Party.outside ≠ .completion number from nofun)]
    exact tracks.unbegun number (same ▸ past)

theorem tracks_begun (tracks : Tracks shared history) (around : Surroundings) (source : String) (cursor : Option Int) :
    Tracks { shared with underway := shared.underway ++ [Completion.complete around source cursor] } history where
  begun number dialogue here := by
    rw [List.getElem?_append] at here
    split at here
    · exact tracks.begun number dialogue here
    · next past =>
        rw [List.getElem?_singleton] at here
        split at here
        · obtain rfl := Option.some.inj here
          refine ⟨around, source, cursor, [], .start, ?_⟩
          rw [tracks.unbegun number (Nat.le_of_not_lt past)]
          rfl
        · cases here
  unbegun number past := by
    rw [List.length_append] at past
    exact tracks.unbegun number (Nat.le_of_succ_le past)

/-- A completion goes on by an exchange, or none, that its events are those of. -/
theorem tracks_advanced {after : Shared} {number : Nat} {dialogue rest : Dialogue Value (Option Completion)}
    {events : List (HandleEvent Value)} (more : List (Exchange Value)) (tracks : Tracks shared history)
    (here : shared.underway[number]? = some dialogue) (next : after.underway = shared.underway.set number rest)
    (goesOn : ∀ {start : Dialogue Value (Option Completion)} {log : List (Exchange Value)},
      Leads start log dialogue → Leads start (log ++ more) rest)
    (same : events.map (HandleEvent.map fun _ => ()) = more.filterMap (eventOf? (some ()))) :
    Tracks after (history ++ events.map (Entry.mk (.completion number))) where
  begun other left there := by
    rw [next, List.getElem?_set] at there
    by_cases own : number = other
    · subst own
      obtain ⟨around, source, cursor, log, leads, told⟩ := tracks.begun number dialogue here
      have within : number < shared.underway.length := (List.getElem?_eq_some_iff.mp here).1
      rw [if_pos rfl, if_pos within] at there
      obtain rfl := Option.some.inj there
      refine ⟨around, source, cursor, log ++ more, goesOn leads, ?_⟩
      rw [events_of_append, events_of_entries, if_pos rfl, List.map_append, List.filterMap_append, told, same]
    · rw [if_neg own] at there
      rw [events_of_others (by simpa using own)]
      exact tracks.begun other left there
  unbegun other past := by
    rw [next, List.length_set] at past
    have within : number < shared.underway.length := (List.getElem?_eq_some_iff.mp here).1
    rw [events_of_others (by simp; omega)]
    exact tracks.unbegun other past

theorem perform_tracks (tracks : Tracks shared history) (operation : Operation) :
    Tracks (shared.perform operation).2 (history ++ (shared.perform operation).1.map (Entry.mk operation.party)) := by
  cases operation with
  | request request => exact tracks_outside tracks _ rfl
  | resume code =>
      rw [perform]
      split
      · exact tracks_outside tracks _ rfl
      · exact tracks_outside tracks _ rfl
  | preview text => exact tracks_outside tracks _ rfl
  | close => exact tracks_outside tracks _ rfl
  | complete around source cursor =>
      rw [perform, List.map_nil, List.append_nil]
      exact tracks_begun tracks around source cursor
  | elsewhere change => exact tracks_outside tracks _ rfl
  | advance number =>
      rw [perform]
      split
      · next made rest here =>
          exact tracks_advanced [] tracks here rfl (fun leads => by rw [List.append_nil]; exact leads.remark) rfl
      · next request rest here =>
          exact tracks_advanced [_] tracks here rfl (fun leads => leads.ask _)
            (answer_undergoes request shared.environment shared.world).2
      · rw [List.map_nil, List.append_nil]
        exact tracks

/-! ### Completions that are over -/

/-- A whole completion gives out no handle, or one that it releases. -/
theorem protocol_events {around : Surroundings} {source : String} {located : Except Locate.Fault (Option Node)}
    {log : List (Exchange Value)} (protocol : Protocol around source located log) :
    log.filterMap (eventOf? (some ())) = [] ∨
      ∃ handle, log.filterMap (eventOf? (some ())) = [.issued handle (), .released handle] := by
  cases protocol with
  | fault | string | subscript | other | closedCall => exact Or.inl rfl
  | nowhere names => exact Or.inl rfl
  | name isName course =>
      refine Or.inl (List.filterMap_eq_nil_iff.mpr fun exchange member => ?_)
      obtain ⟨request, reply⟩ := exchange
      rcases Completion.name_requests course _ member with same | ⟨specifier, same⟩
      · cases same
        rfl
      · cases same
        rfl
  | member span object property course =>
      cases course with
      | unanswered cause => exact Or.inl rfl
      | unresolved evaluation nothing =>
          rw [events_of_evaluation, issue_of_none nothing]
          exact Or.inl rfl
      | resolved evaluation handle resolves names released =>
          rw [events_of_evaluation, issue_of_handle resolves]
          exact Or.inr ⟨handle, rfl⟩
  | openCall isCall unclosed course =>
      cases course with
      | unanswered cause => exact Or.inl rfl
      | failed evaluation failure =>
          rw [events_of_evaluation, issue_of_none (handle_of_failure failure)]
          exact Or.inl rfl
      | unhandled evaluation succeeded nothing hint =>
          rw [events_of_evaluation, issue_of_none ((handle_of_success succeeded).trans nothing)]
          exact Or.inl rfl
      | handled evaluation handle succeeded here hint released =>
          rw [events_of_evaluation, issue_of_handle ((handle_of_success succeeded).trans here)]
          exact Or.inr ⟨handle, rfl⟩

theorem settled_of_told {events : List (HandleEvent Value)}
    (told : events.map (HandleEvent.map fun _ => ()) = [] ∨
      ∃ handle, events.map (HandleEvent.map fun _ => ()) = [.issued handle (), .released handle]) : Settled events := by
  rcases told with empty | ⟨handle, both⟩
  · exact Or.inl (List.map_eq_nil_iff.mp empty)
  · obtain ⟨first, rest, rfl, gave, later⟩ := List.map_eq_cons_iff.mp both
    obtain ⟨second, last, rfl, released, nothing⟩ := List.map_eq_cons_iff.mp later
    obtain rfl := List.map_eq_nil_iff.mp nothing
    cases first with
    | issued given value =>
        cases second with
        | released back =>
            cases gave
            cases released
            exact Or.inr ⟨_, value, rfl⟩
        | issued | closed => cases released
    | released | closed => cases gave

/-- A completion that is over left nothing behind. -/
theorem settled_of_over (tracks : Tracks shared history) {party : Party} (finished : shared.isOver party = true) :
    Settled (eventsOf party history) := by
  cases party with
  | outside => cases finished
  | completion number =>
      rw [isOver] at finished
      cases here : shared.underway[number]? with
      | none =>
          rw [here] at finished
          cases finished
      | some dialogue =>
          rw [here] at finished
          obtain ⟨around, source, cursor, log, leads, told⟩ := tracks.begun number dialogue here
          obtain ⟨outcome, ends⟩ := Completion.Dialogue.ends_of_over leads finished
          obtain ⟨_, located, _⟩ := Completion.complete_ends ends
          have shape := protocol_events (Completion.complete_at_protocol located)
          rw [← told] at shape
          exact settled_of_told shape

/-! ### Whole runs -/

/-- At every point the table accounts for what happened, and so does every completion for its part. -/
structure Kept (shared : Shared) (history : List (Entry Value)) : Prop where
  accounts : Accounts shared.environment (eventsIn history)
  tracks : Tracks shared history

theorem kept_start (space : Address) (hints : Hints) (world : World) :
    Kept { environment := { space, hints }, world } [] where
  accounts := accounts_new space hints
  tracks := { begun := nofun, unbegun := fun _ _ => rfl }

theorem perform_kept (kept : Kept shared history) (operation : Operation) :
    Kept (shared.perform operation).2 (history ++ (shared.perform operation).1.map (Entry.mk operation.party)) where
  accounts := by
    have events : eventsIn (history ++ (shared.perform operation).1.map (Entry.mk operation.party)) =
        eventsIn history ++ (shared.perform operation).1 := by
      simp [eventsIn, Function.comp_def]
    rw [events]
    exact accounts_undergoes kept.accounts (perform_undergoes shared operation)
  tracks := perform_tracks kept.tracks operation

theorem carry_out_kept (kept : Kept shared history) (operations : List Operation) :
    Kept (carryOut operations shared).2 (history ++ (carryOut operations shared).1) := by
  induction operations generalizing shared history with
  | nil => rwa [carryOut, List.append_nil]
  | cons operation rest induction =>
      have later := induction (perform_kept kept operation)
      rwa [List.append_assoc] at later

/-- What lives is what is left without the completions that are over. -/
theorem alive_without_over (kept : Kept shared history) (gone : Party → Bool)
    (finished : ∀ party, gone party = true → shared.isOver party = true) :
    shared.environment.handles = alive (eventsIn (history.filter fun entry => !gone entry.party)) := by
  rw [alive_without kept.accounts.once gone fun party left => settled_of_over kept.tracks (finished party left)]
  exact kept.accounts.table

/-- A completion that nothing else comes between is one way for it to go on step by step. -/
theorem advance_to_end {number : Nat} {dialogue : Dialogue Value (Option Completion)}
    (here : shared.underway[number]? = some dialogue) :
    ∃ steps, (carryOut (List.replicate steps (.advance number)) shared).2.isOver (.completion number) = true ∧
      (∀ entry ∈ (carryOut (List.replicate steps (.advance number)) shared).1, entry.party = .completion number) ∧
      (carryOut (List.replicate steps (.advance number)) shared).2.environment =
        (dialogue.run answerIn (shared.environment, shared.world)).2.2.1 := by
  induction dialogue generalizing shared with
  | finish value => exact ⟨0, by simp [carryOut, isOver, here, Dialogue.isOver], nofun, rfl⟩
  | trouble cause => exact ⟨0, by simp [carryOut, isOver, here, Dialogue.isOver], nofun, rfl⟩
  | remark made rest induction =>
      have step : shared.perform (.advance number) =
          ([], { shared with underway := shared.underway.set number rest }) := by
        simp only [perform, here]
      have next : (shared.underway.set number rest)[number]? = some rest :=
        List.getElem?_set_self (List.getElem?_eq_some_iff.mp here).1
      obtain ⟨steps, finished, own, same⟩ :=
        @induction { shared with underway := shared.underway.set number rest } next
      refine ⟨steps + 1, ?_⟩
      rw [List.replicate_succ, carryOut, step]
      exact ⟨finished, own, same⟩
  | ask request rest induction =>
      rcases answered : answerIn request (shared.environment, shared.world) with ⟨reply, environment, world⟩
      have step : shared.perform (.advance number) =
          (requestEvents request (shared.environment, shared.world),
            { environment, world, underway := shared.underway.set number (rest reply) }) := by
        simp only [perform, here, answered]
      have next : (shared.underway.set number (rest reply))[number]? = some (rest reply) :=
        List.getElem?_set_self (List.getElem?_eq_some_iff.mp here).1
      obtain ⟨steps, finished, own, same⟩ :=
        @induction reply { environment, world, underway := shared.underway.set number (rest reply) } next
      refine ⟨steps + 1, ?_⟩
      rw [List.replicate_succ, carryOut, step, Dialogue.run, answered]
      refine ⟨finished, ?_, same⟩
      intro entry member
      rcases List.mem_append.mp member with first | later
      · obtain ⟨event, _, rfl⟩ := List.mem_map.mp first
        rfl
      · exact own entry later

/-- When all that happened since belongs to a completion that began since and is over, the table is as it was. -/
theorem own_entries_leave {after : Shared} {number : Nat} {entries : List (Entry Value)} (kept : Kept shared history)
    (later : Kept after (history ++ entries)) (fresh : shared.underway.length ≤ number)
    (own : ∀ entry ∈ entries, entry.party = .completion number) (finished : after.isOver (.completion number) = true) :
    after.environment.handles = shared.environment.handles := by
  have before : history.filter (fun entry => !decide (entry.party = .completion number)) = history := by
    have nothing := kept.tracks.unbegun number fresh
    rw [eventsOf, eventsIn, List.map_eq_nil_iff, List.filter_eq_nil_iff] at nothing
    exact List.filter_eq_self.mpr fun entry member => by simpa using nothing entry member
  have since : entries.filter (fun entry => !decide (entry.party = .completion number)) = [] :=
    List.filter_eq_nil_iff.mpr fun entry member => by simp [own entry member]
  have without := alive_without_over later (fun party => party = .completion number) fun party left => by
    rw [of_decide_eq_true left]
    exact finished
  rw [without, List.filter_append, before, since, List.append_nil, kept.accounts.table]

/-- A whole completion leaves the table as it was. -/
theorem completion_keeps_handles (kept : Kept shared history) (around : Surroundings) (source : String)
    (cursor : Option Int) :
    ((Completion.complete around source cursor).run answerIn (shared.environment, shared.world)).2.2.1.handles =
      shared.environment.handles := by
  have begun : Kept { shared with underway := shared.underway ++ [Completion.complete around source cursor] } history :=
    ⟨kept.accounts, tracks_begun kept.tracks around source cursor⟩
  have here : (shared.underway ++ [Completion.complete around source cursor])[shared.underway.length]? =
      some (Completion.complete around source cursor) := by
    simp
  obtain ⟨steps, finished, own, same⟩ :=
    @advance_to_end { shared with underway := shared.underway ++ [Completion.complete around source cursor] } _ _ here
  rw [← same]
  exact own_entries_leave kept (carry_out_kept begun _) (Nat.le_refl _) own finished

/-! ### Handles at every point of a run -/

/-- What holds of the handles at a point of a run, by what happened until then. -/
structure HandlesInOrder (shared : Shared) (history : List (Entry Value)) : Prop where
  /-- No handle is given out twice. -/
  distinct : (handlesIn (eventsIn history)).Nodup
  /-- A handle stands for its value until it is released or all are taken back, and for nothing ever after. -/
  resolved : ∀ before handle value after, eventsIn history = before ++ .issued handle value :: after →
    shared.environment.resolve? handle = if survives handle after then some value else none
  unknown : ∀ handle, handle ∉ handlesIn (eventsIn history) → shared.environment.resolve? handle = none
  /-- Releasing what stands for nothing changes nothing. -/
  released : ∀ handle, shared.environment.resolve? handle = none →
    shared.environment.release handle = shared.environment
  /-- An evaluation that succeeds gives a handle out for the value of its text. -/
  given : ∀ text silent evaluation,
    (answerIn (.evaluate text silent) (shared.environment, shared.world)).1 = .ok evaluation →
      evaluation.failure = none → ∃ handle value, evaluation.result.handle = some handle ∧
        comesTo? (valueOf shared.environment.space text silent) shared.world = some value ∧
        (shared.perform (.request (.evaluate text silent))).1 = [.issued handle value]
  /-- An evaluation that does not succeed changes nothing in the environment. -/
  failed : ∀ text silent, (∀ evaluation,
    (answerIn (.evaluate text silent) (shared.environment, shared.world)).1 = .ok evaluation →
      evaluation.failure ≠ none) →
        (answerIn (.evaluate text silent) (shared.environment, shared.world)).2.1 = shared.environment
  /-- The same goes for an evaluation that had to wait. -/
  resumed : ∀ code evaluation environment world,
    (shared.environment.conclude code).runIn shared.world = (.ok (evaluation, environment), world) →
      (evaluation.failure ≠ none ∧ environment = shared.environment) ∨
        evaluation.failure = none ∧ ∃ handle value, evaluation.result.handle = some handle ∧
          comesTo? code shared.world = some value ∧ (shared.perform (.resume code)).1 = [.issued handle value]
  /-- Requests that neither evaluate nor release change nothing in the environment. -/
  looked : ∀ request, (∀ text silent, request ≠ .evaluate text silent) → (∀ handle, request ≠ .release handle) →
    (answerIn request (shared.environment, shared.world)).2.1 = shared.environment
  previewed : ∀ text, (shared.environment.afterPreview text shared.world).1.handles = shared.environment.handles
  completed : ∀ around source cursor,
    ((Completion.complete around source cursor).run answerIn (shared.environment, shared.world)).2.2.1.handles =
      shared.environment.handles
  /-- The table is as if any of the completions that are over had not been, whatever came between their steps. -/
  finished : ∀ gone : Party → Bool, (∀ party, gone party = true → shared.isOver party = true) →
    shared.environment.handles = alive (eventsIn (history.filter fun entry => !gone entry.party))

theorem kept_in_order (kept : Kept shared history) : HandlesInOrder shared history where
  distinct := kept.accounts.once
  resolved before handle value after split := by
    have once := kept.accounts.once
    rw [split] at once
    rw [resolve?, kept.accounts.table, split]
    exact lookup_alive once
  unknown handle absent := resolve_unknown kept.accounts absent
  released handle nothing := release_of_unknown nothing
  given text silent evaluation replied succeeded := by
    have evaluated := answer_evaluated shared.environment text silent shared.world
    rw [replied] at evaluated
    rcases evaluated_cases evaluated with ⟨failure, _⟩ | ⟨_, handle, value, here, comes, event⟩
    · exact absurd succeeded failure
    · refine ⟨handle, value, here, comes, ?_⟩
      simp only [perform, requestEvents, replied]
      exact congrArg Option.toList event
  failed text silent fails := by
    have evaluated := answer_evaluated shared.environment text silent shared.world
    generalize (answerIn (.evaluate text silent) (shared.environment, shared.world)).2.1 = later at evaluated ⊢
    cases replied : (answerIn (.evaluate text silent) (shared.environment, shared.world)).1 with
    | error trouble =>
        rw [replied] at evaluated
        cases evaluated
        rfl
    | ok evaluation =>
        rw [replied] at evaluated
        rcases evaluated_cases evaluated with ⟨_, same⟩ | ⟨succeeded, _⟩
        · exact same
        · exact absurd succeeded (fails evaluation replied)
  resumed code evaluation environment world ran := by
    refine (evaluated_cases (conclude_evaluated ran)).imp_right ?_
    rintro ⟨succeeded, handle, value, here, comes, event⟩
    refine ⟨succeeded, handle, value, here, comes, ?_⟩
    simp only [perform, ran, event]
    rfl
  looked request noValue noRelease := answer_looks shared.world noValue noRelease
  previewed text := by
    rcases preview_cases shared.environment text shared.world with ⟨same, _⟩ | ⟨value, same, _⟩
    · rw [same]
    · rw [same]
      exact release_retained (resolve_unknown kept.accounts (retain_fresh kept.accounts value))
  completed around source cursor := completion_keeps_handles kept around source cursor
  finished gone ended := alive_without_over kept gone ended

end Shared

/-- However requests, previews, completions, releases and other code follow on each other and fall between each other:
at every point of a run that starts without handles, the handles are in order. -/
theorem handles_stay_in_order (space : Address) (hints : Hints) (world : World) (operations : List Operation) :
    let run := Shared.carryOut operations { environment := { space, hints }, world }
    Shared.HandlesInOrder run.2 run.1 :=
  Shared.kept_in_order (Shared.carry_out_kept (Shared.kept_start space hints world) operations)

end LiveShell.Environment
