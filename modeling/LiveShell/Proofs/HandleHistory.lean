import Mathlib.Data.List.Nodup
import LiveShell.Session.Environment

/-!
What happens to handles, one event after another: a handle is given out for a value, released, or taken back with all
the others. What lives after a history is read off from it alone: the handles that were given out and neither released
nor taken back since. The table of an environment that goes through the same events holds just these, in their order.
An event belongs to a party; a party that only gives out one handle and releases it leaves no trace.
-/

namespace LiveShell.Environment

set_option autoImplicit false

/-- What happens to handles. -/
inductive HandleEvent (α : Type)
  | issued (handle : String) (value : α)
  | released (handle : String)
  | closed
deriving DecidableEq

namespace HandleEvent

variable {α β : Type}

/-- The same event with another account of the value. -/
def map (change : α → β) : HandleEvent α → HandleEvent β
  | issued handle value => issued handle (change value)
  | released handle => released handle
  | closed => closed

/-- The handle that is given out, with its value. -/
def issue? : HandleEvent α → Option (String × α)
  | issued handle value => some (handle, value)
  | _ => none

/-- Whether a handle that was given out before does not live after the event. -/
def ends (handle : String) : HandleEvent α → Bool
  | issued .. => false
  | released other => other = handle
  | closed => true

theorem issue_eq_some {event : HandleEvent α} {handle : String} {value : α} :
    event.issue? = some (handle, value) ↔ event = issued handle value := by
  cases event <;> simp [issue?]

end HandleEvent

variable {α : Type}

/-- The handles that were given out, in order, with their values. -/
def issues (events : List (HandleEvent α)) : List (String × α) := events.filterMap HandleEvent.issue?

/-- Whether a handle that was given out before some events still lives after them. -/
def survives (handle : String) (events : List (HandleEvent α)) : Bool := events.all fun event => !event.ends handle

/-- The handles that live after some events, with their values. -/
def alive : List (HandleEvent α) → List (String × α)
  | [] => []
  | .issued handle value :: rest => if survives handle rest then (handle, value) :: alive rest else alive rest
  | .released _ :: rest | .closed :: rest => alive rest

/-! ### One more event -/

theorem survives_eq_false {handle : String} {events : List (HandleEvent α)} :
    survives handle events = false ↔ ∃ event ∈ events, event.ends handle = true := by
  simp [survives]

theorem survives_append {handle : String} {first rest : List (HandleEvent α)} :
    survives handle (first ++ rest) = (survives handle first && survives handle rest) :=
  List.all_append

/-- What lives after more events are the handles of before that survive them, and then those given out since. -/
theorem alive_append (first rest : List (HandleEvent α)) :
    alive (first ++ rest) = (alive first).filter (fun entry => survives entry.1 rest) ++ alive rest := by
  induction first with
  | nil => rfl
  | cons event later induction =>
      cases event with
      | issued handle value =>
          rw [List.cons_append, alive, alive, survives_append, induction]
          cases kept : survives handle later <;> cases after : survives handle rest <;> simp [after]
      | released handle => exact induction
      | closed => exact induction

theorem alive_issued (events : List (HandleEvent α)) (handle : String) (value : α) :
    alive (events ++ [.issued handle value]) = alive events ++ [(handle, value)] := by
  rw [alive_append]
  simp [survives, HandleEvent.ends, alive]

theorem alive_released (events : List (HandleEvent α)) (handle : String) :
    alive (events ++ [.released handle]) = (alive events).filter (·.1 ≠ handle) := by
  rw [alive_append]
  simp [survives, HandleEvent.ends, alive, eq_comm]

theorem alive_closed (events : List (HandleEvent α)) : alive (events ++ [.closed]) = [] := by
  rw [alive_append]
  simp [survives, HandleEvent.ends, alive]

theorem issues_append (first rest : List (HandleEvent α)) : issues (first ++ rest) = issues first ++ issues rest :=
  List.filterMap_append

/-! ### Which handles live -/

theorem alive_sublist (events : List (HandleEvent α)) : (alive events).Sublist (issues events) := by
  induction events with
  | nil => exact List.Sublist.refl _
  | cons event rest induction =>
      cases event with
      | issued handle value =>
          rw [alive]
          split
          · exact induction.cons_cons _
          · exact induction.cons _
      | released handle => exact induction
      | closed => exact induction

theorem mem_issues {events : List (HandleEvent α)} {handle : String} {value : α} :
    (handle, value) ∈ issues events ↔ .issued handle value ∈ events := by
  simp [issues, HandleEvent.issue_eq_some]

/-- The handles that were given out, in order. -/
def handlesIn (events : List (HandleEvent α)) : List String := (issues events).map (·.1)

theorem mem_handles_in {events : List (HandleEvent α)} {handle : String} :
    handle ∈ handlesIn events ↔ ∃ value, .issued handle value ∈ events := by
  simp [handlesIn, ← mem_issues]

theorem handles_in_append (first rest : List (HandleEvent α)) :
    handlesIn (first ++ rest) = handlesIn first ++ handlesIn rest := by
  rw [handlesIn, issues_append, List.map_append, handlesIn, handlesIn]

theorem lookup_of_absent {events : List (HandleEvent α)} {entries : List (String × α)} {handle : String}
    (within : entries ⊆ issues events) (absent : handle ∉ handlesIn events) : entries.lookup handle = none := by
  rw [List.lookup_eq_none_iff]
  intro entry member
  have other : handle ≠ entry.1 := fun same => absent (List.mem_map.mpr ⟨entry, within member, same.symm⟩)
  simpa using other

/-- When no handle is given out twice, the table tells of one just as long as it lives. -/
theorem lookup_alive {before after : List (HandleEvent α)} {handle : String} {value : α}
    (once : (handlesIn (before ++ .issued handle value :: after)).Nodup) :
    (alive (before ++ .issued handle value :: after)).lookup handle =
      if survives handle after then some value else none := by
  rw [handles_in_append, List.nodup_append] at once
  obtain ⟨_, unique, apart⟩ := once
  have earlier : handle ∉ handlesIn before := fun member => apart handle member handle List.mem_cons_self rfl
  have later : handle ∉ handlesIn after := (List.nodup_cons.mp unique).1
  have within : (alive before).filter (fun entry => survives entry.1 (.issued handle value :: after)) ⊆ issues before :=
    fun entry member => (alive_sublist before).subset (List.mem_of_mem_filter member)
  rw [alive_append, List.lookup_append, lookup_of_absent within earlier, Option.none_or, alive]
  split
  · exact List.lookup_cons_self
  · exact lookup_of_absent (alive_sublist after).subset later

/-! ### The table of an environment -/

theorem release_of_unknown {environment : Environment} {handle : String}
    (unknown : environment.resolve? handle = none) : environment.release handle = environment := by
  have kept : environment.handles.filter (fun entry => decide (entry.1 ≠ handle)) = environment.handles := by
    rw [List.filter_eq_self]
    intro entry member
    have other : handle ≠ entry.1 := by simpa using List.lookup_eq_none_iff.mp unknown entry member
    exact decide_eq_true (Ne.symm other)
  rw [release, kept]

/-- A handle that was just given out and is released leaves no trace, when it was not known before. -/
theorem release_retained {environment : Environment} {value : Value}
    (unknown : environment.resolve? (environment.retain value).1 = none) :
    ((environment.retain value).2.release (environment.retain value).1).handles = environment.handles := by
  have before := congrArg Environment.handles (release_of_unknown unknown)
  rw [release] at before
  simp only [release, retain, List.filter_append] at before ⊢
  rw [before]
  simp

/-! ### Parties -/

/-- Who something happens for: one of the completions under way, or anyone else. -/
inductive Party
  | outside
  | completion (number : Nat)
deriving DecidableEq

/-- What happened, and for whom. -/
structure Entry (α : Type) where
  party : Party
  event : HandleEvent α

/-- What happened for anyone. -/
def eventsIn (history : List (Entry α)) : List (HandleEvent α) := history.map (·.event)

/-- What happened for one party. -/
def eventsOf (party : Party) (history : List (Entry α)) : List (HandleEvent α) :=
  eventsIn (history.filter (·.party = party))

/-- A party left nothing behind: if a handle was given out to it, that was released, and nothing else happened. -/
def Settled (events : List (HandleEvent α)) : Prop :=
  events = [] ∨ ∃ handle value, events = [.issued handle value, .released handle]

theorem settled_issued {before rest : List (HandleEvent α)} {handle : String} {value : α}
    (settled : Settled (before ++ .issued handle value :: rest)) : .released handle ∈ rest := by
  rcases settled with empty | ⟨other, found, pair⟩
  · simp at empty
  · cases before with
    | nil =>
        obtain ⟨same, rfl⟩ := List.cons.inj pair
        cases same
        exact List.mem_singleton_self _
    | cons event later =>
        have second := (List.cons.inj pair).2
        cases later <;> simp at second

theorem settled_ends {events : List (HandleEvent α)} (settled : Settled events) {event : HandleEvent α}
    {handle : String} (member : event ∈ events) (ends : event.ends handle = true) :
    ∃ value, .issued handle value ∈ events := by
  rcases settled with rfl | ⟨other, value, rfl⟩
  · cases member
  · rcases List.mem_pair.mp member with rfl | rfl
    · cases ends
    · obtain rfl : other = handle := of_decide_eq_true ends
      exact ⟨value, List.mem_cons_self⟩

theorem mem_events_of {party : Party} {history : List (Entry α)} {event : HandleEvent α} :
    event ∈ eventsOf party history ↔ ∃ entry ∈ history, entry.party = party ∧ entry.event = event := by
  simp [eventsOf, eventsIn, and_assoc]

theorem events_of_append (party : Party) (first rest : List (Entry α)) :
    eventsOf party (first ++ rest) = eventsOf party first ++ eventsOf party rest := by
  simp [eventsOf, eventsIn]

/-- A handle that is given out only once is given out to one party. -/
theorem party_of_issue {history : List (Entry α)} (once : (handlesIn (eventsIn history)).Nodup)
    {first second : Entry α} {handle : String} {value other : α} (here : first ∈ history) (there : second ∈ history)
    (gives : first.event = .issued handle value) (also : second.event = .issued handle other) :
    first.party = second.party := by
  obtain ⟨before, after, rfl⟩ := List.append_of_mem here
  have told : ∀ {entries : List (Entry α)}, second ∈ entries → handle ∈ handlesIn (eventsIn entries) :=
    fun member => mem_handles_in.mpr ⟨other, also ▸ List.mem_map_of_mem member⟩
  rw [eventsIn, List.map_append, List.map_cons, gives, handles_in_append, List.nodup_append] at once
  obtain ⟨_, unique, apart⟩ := once
  rcases List.mem_append.mp there with earlier | later
  · exact absurd rfl (apart handle (told earlier) handle List.mem_cons_self)
  · rcases List.mem_cons.mp later with rfl | later
    · rfl
    · exact absurd (told later) (List.nodup_cons.mp unique).1

/-- A party that left nothing behind ends no handle but its own. -/
theorem survives_without {history rest : List (Entry α)} (once : (handlesIn (eventsIn history)).Nodup)
    (gone : Party → Bool) (settled : ∀ party, gone party = true → Settled (eventsOf party history))
    {party : Party} {handle : String} {value : α} (given : ⟨party, .issued handle value⟩ ∈ history)
    (stays : gone party = false) (within : rest ⊆ history) :
    survives handle (eventsIn (rest.filter fun entry => !gone entry.party)) = survives handle (eventsIn rest) := by
  rw [Bool.eq_iff_iff, ← not_iff_not, Bool.not_eq_true, Bool.not_eq_true, survives_eq_false, survives_eq_false]
  constructor
  · rintro ⟨event, member, ends⟩
    exact ⟨event, List.map_subset _ (List.filter_subset_self _) member, ends⟩
  · rintro ⟨event, member, ends⟩
    obtain ⟨closing, inRest, rfl⟩ := List.mem_map.mp member
    refine ⟨_, List.mem_map_of_mem (List.mem_filter.mpr ⟨inRest, ?_⟩), ends⟩
    by_contra left
    have left : gone closing.party = true := by simpa using left
    obtain ⟨other, issued⟩ := settled_ends (settled _ left) (mem_events_of.mpr ⟨closing, within inRest, rfl, rfl⟩) ends
    obtain ⟨giving, inHistory, its, gives⟩ := mem_events_of.mp issued
    have own : party = giving.party := party_of_issue once given inHistory rfl gives
    rw [← its, ← own, stays] at left
    cases left

/-- What lives does not depend on parties that left nothing behind. -/
theorem alive_without {history : List (Entry α)} (once : (handlesIn (eventsIn history)).Nodup) (gone : Party → Bool)
    (settled : ∀ party, gone party = true → Settled (eventsOf party history)) :
    alive (eventsIn (history.filter fun entry => !gone entry.party)) = alive (eventsIn history) := by
  -- What a release ends depends on what follows, so the induction is on the ends of the history.
  suffices ends : ∀ rest before, history = before ++ rest →
      alive (eventsIn (rest.filter fun entry => !gone entry.party)) = alive (eventsIn rest) from
    ends history [] rfl
  intro rest
  induction rest with
  | nil => exact fun _ _ => rfl
  | cons entry rest induction =>
      intro before split
      have later := induction (before ++ [entry]) (by rw [split, List.append_assoc]; rfl)
      obtain ⟨party, event⟩ := entry
      cases left : gone party with
      | true =>
          rw [List.filter_cons_of_neg (by simp [left]), later, eventsIn, eventsIn, List.map_cons]
          cases event with
          | issued handle value =>
              have whole := settled party left
              rw [split, events_of_append, eventsOf, eventsOf, List.filter_cons_of_pos (by simp)] at whole
              obtain ⟨closing, member, _, released⟩ := mem_events_of.mp (settled_issued whole)
              have dead : survives handle (rest.map (·.event)) = false :=
                survives_eq_false.mpr ⟨_, List.mem_map_of_mem member, by simp [released, HandleEvent.ends]⟩
              rw [alive, dead]
              rfl
          | released handle => rfl
          | closed => rfl
      | false =>
          rw [List.filter_cons_of_pos (by simp [left]), eventsIn, eventsIn, List.map_cons, List.map_cons]
          cases event with
          | issued handle value =>
              have same := survives_without once gone settled (split ▸ List.mem_append_right _ List.mem_cons_self) left
                fun later member => split ▸ List.mem_append_right _ (List.mem_cons_of_mem _ member)
              rw [eventsIn, eventsIn] at same later
              rw [alive, alive, same, later]
          | released handle => exact later
          | closed => exact later

end LiveShell.Environment
