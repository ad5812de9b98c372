import LiveShell.Proofs.RequestProtocol
import LiveShell.Proofs.SuffixList

/-!
Completing names, as an identifier and as an attribute. What counts as typed is the piece of the source between the
start of the name and the cursor, wherever the cursor stands; what is offered are the suffixes that make it one of the
names, which are those of the last answer of the request.
-/

namespace LiveShell.Completion

open Dialogue Locate Source

set_option autoImplicit false

/-- The piece of a source between two offsets. -/
def pieceOf (source : String) (start stop : Nat) : String :=
  String.ofList ((source.toList.take stop).drop start)

/-! ### What was typed of a name -/

theorem slice_eq_piece (source : String) (start stop : Nat) :
    (parse source).slice start stop = pieceOf source start stop := by
  simp [Parsed.slice, parse, pieceOf, List.drop_take]

/-- Of a name that covers a piece of the source around the cursor, the piece up to the cursor was typed. -/
theorem typed_before_eq {source : String} {cursor : Int} {start stop : Nat}
    (started : start ≤ clampCursor source.length cursor) (reached : clampCursor source.length cursor ≤ stop)
    (inside : stop ≤ source.length) :
    typedBefore (pieceOf source start stop) start cursor =
      pieceOf source start (clampCursor source.length cursor) := by
  have kept : min (max 0 (cursor - start)).toNat (stop - start) = clampCursor source.length cursor - start := by
    unfold clampCursor at started reached ⊢
    omega
  rw [typedBefore, pieceOf, pieceOf, String.toList_ofList, List.drop_take, List.drop_take, List.take_take, kept]

/-- A located name that is written out is typed up to the cursor. A name that is missing has nothing typed. -/
theorem typed_of_identifier {source : String} {cursor : Int} {span : Span} {name : String}
    (fits : Fits (parse source) (clampCursor source.length cursor) (.identifier span name))
    (started : span.start ≤ clampCursor source.length cursor)
    (reached : clampCursor source.length cursor ≤ span.stop)
    (written : pieceOf source span.start span.stop ≠ placeholder) :
    typedBefore (Node.identifier span name).typedName (Node.identifier span name).start cursor =
      pieceOf source span.start (clampCursor source.length cursor) := by
  show typedBefore (Node.identifier span name).typedName span.start cursor = _
  obtain ⟨_, inside, named⟩ := fits
  rw [parse_size] at inside
  rcases named with spelled | ⟨rfl, rfl⟩
  · rw [slice_eq_piece] at spelled
    have named : (Node.identifier span name).typedName = pieceOf source span.start span.stop := by
      rw [Node.typedName, if_neg (spelled ▸ written), spelled]
    rw [named]
    exact typed_before_eq started reached inside
  · simp [Node.typedName, typedBefore, pieceOf]

/-! ### Names and accesses at a cursor -/

/-- A literal is no name, no access and no call. -/
theorem string_node_kind {parsed : Parsed} {span : Span} {closed : Bool} {node : Node}
    (made : stringNode parsed span closed = .ok node) :
    (∃ value raw, node = .string span value raw) ∨ node = .other span := by
  simp only [stringNode] at made
  split at made
  · cases made
  · split at made
    · cases made
      exact Or.inr rfl
    · cases made
      exact Or.inl ⟨_, _, rfl⟩

theorem string_node_apart {parsed : Parsed} {span : Span} {closed : Bool} {node : Node}
    (noLiteral : ∀ value raw, node ≠ .string span value raw) (known : node ≠ .other span) :
    stringNode parsed span closed ≠ .ok node := by
  intro made
  rcases string_node_kind made with ⟨value, raw, same⟩ | same
  · exact noLiteral value raw same
  · exact known same

theorem located_around {source : String} {cursor : Int} {node : Node} (tiled : (parse source).Tiled)
    (located : locate source cursor = .ok (some node)) :
    node.start ≤ clampCursor source.length cursor ∧
      (clampCursor source.length cursor ≤ node.stop ∨
        RunsToLineEnd (parse source) (clampCursor source.length cursor) node) ∧
      Sound (parse source) (clampCursor source.length cursor) node := by
  have inside := clamp_cursor_le source.length cursor
  rw [← parse_size] at inside
  obtain ⟨found, made, shape⟩ := locate_in_ok (well_tiled_of_tiled tiled) inside
  rw [locate_eq, ← parse_size, made] at located
  rw [← parse_size]
  exact shape node (Except.ok.inj located)

/-- The cursor does not stand behind what is no literal. -/
theorem located_reached {source : String} {cursor : Int} {node : Node} (tiled : (parse source).Tiled)
    (located : locate source cursor = .ok (some node))
    (noLiteral : ∀ span value raw, node ≠ .string span value raw) (known : ∀ span, node ≠ .other span) :
    clampCursor source.length cursor ≤ node.stop := by
  rcases (located_around tiled located).2.1 with reached | runs
  · exact reached
  · exact absurd runs.literal (string_node_apart (fun _ _ => noLiteral _ _ _) (known _))

/-- The property of a located access is a name that starts at or before the cursor. -/
theorem located_property {source : String} {cursor : Int} {span : Span} {object property : Node}
    (located : locate source cursor = .ok (some (.member span object property false))) :
    ∃ inner name, property = .identifier inner name ∧ inner.start ≤ clampCursor source.length cursor := by
  rw [locate_eq] at located
  cases located_origin located with
  | literal literalSpan closed made => exact absurd made (string_node_apart nofun nofun)
  | name before => cases before
  | access _ _ before =>
      obtain ⟨inner, name, started⟩ := before
      exact ⟨inner, name, rfl, started⟩

/-- The strategy for a located node. -/
def completeNode {ε : Type} (around : Surroundings) (source : String) (cursor : Int) (node : Node) :
    Dialogue ε (Option Completion) :=
  match node with
  | .string span value raw => completeString around cursor span value raw
  | .identifier .. => completeIdentifier around cursor node
  | .member _ _ _ true => pure none
  | .member _ object property false => completeMember source cursor object property
  | .call _ callee _ => completeCall source node callee
  | .other _ => do
      Dialogue.note "conch.completer" ("no completion for " ++ node.kindName ++ " node at " ++ toString cursor)
      pure none

theorem complete_at_located {ε : Type} (around : Surroundings) {source : String} {cursor : Int} {node : Node}
    (located : locate source cursor = .ok (some node)) :
    (completeAt around source cursor : Dialogue ε (Option Completion)) = completeNode around source cursor node := by
  have filled : source ≠ "" := by
    rintro rfl
    rw [locate_empty] at located
    cases located
  rw [completeAt, if_neg filled, located]
  rfl

/-! ### Names of the last answer -/

/-- The names that an exchange tells. -/
def Exchange.names? {ε : Type} : Exchange ε → Option (List String)
  | ⟨.globalNames, .ok names⟩ => some names
  | _ => none

/-- The names of the environment that a request was told last. -/
def lastNames? {ε : Type} (log : List (Exchange ε)) : Option (List String) :=
  (log.filterMap Exchange.names?).getLast?

/-- Every request was answered. -/
def AllAnswered {ε : Type} (log : List (Exchange ε)) : Prop :=
  ∀ exchange ∈ log, ∃ answer, exchange.reply = .ok answer

variable {ε : Type} {log : List (Exchange ε)}

theorem loading_tells_no_names {specifiers : List String} {outcome : Except (Trouble ε) Bool}
    (loading : Loading specifiers log outcome) : log.filterMap Exchange.names? = [] := by
  rw [List.filterMap_eq_nil_iff]
  intro exchange member
  obtain ⟨specifier, asked⟩ := loading_requests loading exchange member
  obtain ⟨request, reply⟩ := exchange
  simp only at asked
  subst asked
  rfl

/-- Loading only breaks off at a request that fails. -/
theorem loading_answered {specifiers : List String} {outcome : Except (Trouble ε) Bool}
    (loading : Loading specifiers log outcome) (answered : AllAnswered log) : ∃ loaded, outcome = .ok loaded := by
  induction loading with
  | exhausted | found => exact ⟨_, rfl⟩
  | failed specifier cause =>
      obtain ⟨answer, same⟩ := answered _ List.mem_cons_self
      cases same
  | passed specifier evaluation other later induction =>
      exact induction fun exchange member => answered exchange (List.mem_cons_of_mem _ member)

/-- When every request is answered, the names that count are those of the last answer. -/
theorem name_course_last {around : Surroundings} {name : String} {names : Except (Trouble ε) (List String)}
    (course : NameCourse around name log names) (answered : AllAnswered log) :
    ∃ told, names = .ok told ∧ lastNames? log = some told := by
  cases course with
  | unanswered cause =>
      obtain ⟨told, same⟩ := answered _ List.mem_cons_self
      cases same
  | known names settled => exact ⟨names, rfl, rfl⟩
  | unloaded names worth loading =>
      refine ⟨names, rfl, ?_⟩
      rw [lastNames?, List.filterMap_cons, loading_tells_no_names loading]
      rfl
  | loaded first worth loading =>
      obtain ⟨told, rfl⟩ : ∃ told : List String, names = .ok told := answered ⟨.globalNames, names⟩ (by simp)
      refine ⟨told, rfl, ?_⟩
      rw [lastNames?, List.filterMap_append, List.getLast?_append]
      rfl
  | broken names worth cause loading =>
      obtain ⟨loaded, same⟩ := loading_answered loading fun exchange member =>
        answered exchange (List.mem_cons_of_mem _ member)
      cases same

/-! ### Exactly the names that go on from what was typed -/

/-- A completion that offers, for a typed text, just the suffixes that make it one of some names, in the order of
these names. -/
structure Completes (typed : String) (names : List String) (completion : Completion) : Prop where
  original : completion.typed = typed
  fillable : completion.fillable = true
  exactly : ∀ suffix, suffix ∈ completion.suffixes ↔ suffix ≠ "" ∧ typed ++ suffix ∈ names
  unrepeated : completion.suffixes.Nodup
  inOrder : completion.suffixes.Pairwise fun left right =>
    names.idxOf (typed ++ left) < names.idxOf (typed ++ right)

theorem completes_suffixes (typed : String) (names : List String) :
    Completes typed names { suffixes := suffixesAfter names typed, typed := typed } where
  original := rfl
  fillable := rfl
  exactly _ := mem_suffixes_after
  unrepeated := suffixes_unrepeated names typed
  inOrder := suffixes_in_order names typed

/-- Nothing is offered just when no name goes on from what was typed. -/
theorem offer_eq_none {typed : String} {names : List String} :
    offer typed names = none ↔ ∀ suffix, suffix ≠ "" → typed ++ suffix ∉ names := by
  have empty : offer typed names = none ↔ suffixesAfter names typed = [] := by
    unfold offer
    split
    · next nothing => simp [nothing]
    · next filled => simpa using filled
  rw [empty, List.eq_nil_iff_forall_not_mem]
  simp only [mem_suffixes_after, not_and]

theorem offer_completes {typed : String} {names : List String} {completion : Completion}
    (offered : offer typed names = some completion) : Completes typed names completion := by
  unfold offer at offered
  split at offered
  · cases offered
  · obtain rfl := Option.some.inj offered
    exact completes_suffixes typed names

/-- When the object has a handle and every request is answered, the names that count are those behind it. -/
theorem member_course_names {text : String} {names : Except (Trouble ε) (List String)}
    (course : MemberCourse text log names) (answered : AllAnswered log) {evaluation : Evaluation} {handle : String}
    (evaluated : ⟨.evaluate text true, .ok evaluation⟩ ∈ log) (resolves : evaluation.handle? = some handle) :
    ∃ told, names = .ok told ∧ ⟨.properties handle, .ok told⟩ ∈ log := by
  cases course with
  | unanswered cause => cases List.mem_singleton.mp evaluated
  | unresolved other nothing =>
      cases List.mem_singleton.mp evaluated
      rw [nothing] at resolves
      cases resolves
  | resolved other known gives names released =>
      have same : other = evaluation := by
        rcases List.mem_cons.mp evaluated with first | later
        · cases first
          rfl
        · rcases List.mem_pair.mp later with asked | closed
          · cases asked
          · cases closed
      subst same
      obtain rfl := Option.some.inj (gives.symm.trans resolves)
      obtain ⟨told, rfl⟩ : ∃ told : List String, names = .ok told := answered ⟨.properties known, names⟩ (by simp)
      obtain ⟨done, rfl⟩ : ∃ done : Unit, released = .ok done := answered ⟨.release known, released⟩ (by simp)
      exact ⟨told, rfl, List.mem_cons_of_mem _ List.mem_cons_self⟩

section Located

variable {around : Surroundings} {source : String} {cursor : Int} {inner : Except (Trouble ε) (Option Completion)}

/-- At a name, what is offered goes on from the piece of the source up to the cursor, with the names told last. -/
theorem offer_at_name {span : Span} {name : String} (tiled : (parse source).Tiled)
    (located : locate source cursor = .ok (some (.identifier span name)))
    (written : pieceOf source span.start span.stop ≠ placeholder)
    (ends : Ends (completeAt around source cursor) log inner) (answered : AllAnswered log) :
    ∃ names, lastNames? log = some names ∧
      inner = .ok (offer (pieceOf source span.start (clampCursor source.length cursor)) names) := by
  obtain ⟨started, _, sound⟩ := located_around tiled located
  have reached := located_reached tiled located (by simp) (by simp)
  have typed := typed_of_identifier sound.fits started reached written
  rw [complete_at_located around located] at ends
  obtain ⟨names, course, same⟩ := complete_identifier_course ends
  obtain ⟨told, rfl, last⟩ := name_course_last course answered
  rw [typed] at same
  exact ⟨told, last, same⟩

/-- At a property, what is offered goes on from the piece of the source up to the cursor, with the names of the value
before the dot. -/
theorem offer_at_property {span : Span} {object property : Node} (tiled : (parse source).Tiled)
    (located : locate source cursor = .ok (some (.member span object property false)))
    (written : pieceOf source property.start property.stop ≠ placeholder)
    (ends : Ends (completeAt around source cursor) log inner) (answered : AllAnswered log)
    {evaluation : Evaluation} {handle : String}
    (evaluated : ⟨.evaluate (object.text source.toList) true, .ok evaluation⟩ ∈ log)
    (resolves : evaluation.handle? = some handle) :
    let typed := pieceOf source property.start (clampCursor source.length cursor)
    ∃ names, ⟨.properties handle, .ok names⟩ ∈ log ∧
      inner = .ok (some { suffixes := suffixesAfter names typed, typed }) := by
  obtain ⟨_, _, sound⟩ := located_around tiled located
  have reached := located_reached tiled located (by simp) (by simp)
  obtain ⟨spanName, name, rfl, started⟩ := located_property located
  have stop : spanName.stop = span.stop := sound.fits.2.2.2.2 rfl
  have propertyFits : Fits (parse source) (clampCursor source.length cursor) (.identifier spanName name) :=
    sound _ (.child (by simp [Node.children]) (.self _))
  have typed := typed_of_identifier propertyFits started (by rw [stop]; exact reached) written
  rw [complete_at_located around located] at ends
  obtain ⟨names, course, same⟩ := complete_member_course ends
  obtain ⟨told, rfl, asked⟩ := member_course_names course answered evaluated resolves
  rw [typed] at same
  exact ⟨told, asked, same⟩

end Located

/-- Over an environment that answers every request, completing a name offers exactly what goes on from the piece of
the source between the start of the name and the cursor: with an identifier for the names of the last answer, and
then nothing at all only if no name goes on from there; with an attribute for the names of the value before the dot.
A name that is spelled like the one that stands for a missing name is left out. -/
theorem names_completed_exactly {σ : Type}
    (answer : (request : Request) → σ → Except (Trouble ε) request.Answer × σ) (state : σ)
    (around : Surroundings) (source : String) (cursor : Int) (tiled : (parse source).Tiled)
    (answered : AllAnswered ((complete around source (some cursor)).exchanges answer state)) :
    let log := (complete around source (some cursor)).exchanges answer state
    let result := ((complete around source (some cursor)).run answer state).1
    let typedFrom (start : Nat) := pieceOf source start (clampCursor source.length cursor)
    (∀ span name, locate source cursor = .ok (some (.identifier span name)) →
      pieceOf source span.start span.stop ≠ placeholder →
        ∃ names found, lastNames? log = some names ∧ result = .ok found ∧
          (found = none ↔ ∀ suffix, suffix ≠ "" → typedFrom span.start ++ suffix ∉ names) ∧
          ∀ completion, found = some completion → Completes (typedFrom span.start) names completion) ∧
    ∀ span object property, locate source cursor = .ok (some (.member span object property false)) →
      pieceOf source property.start property.stop ≠ placeholder →
        ∀ evaluation handle, ⟨.evaluate (object.text source.toList) true, .ok evaluation⟩ ∈ log →
          evaluation.handle? = some handle →
            ∃ names completion, ⟨.properties handle, .ok names⟩ ∈ log ∧ result = .ok (some completion) ∧
              Completes (typedFrom property.start) names completion := by
  intro log result typedFrom
  obtain ⟨inner, ends, outcome⟩ := complete_ends (ends_run answer (complete around source (some cursor)) state)
  change Ends (completeAt around source cursor) log inner at ends
  change result = _ at outcome
  refine ⟨?_, ?_⟩
  · intro span name located written
    obtain ⟨names, last, rfl⟩ := offer_at_name tiled located written ends answered
    exact ⟨names, _, last, outcome, offer_eq_none, fun completion => offer_completes⟩
  · intro span object property located written evaluation handle evaluated resolves
    obtain ⟨names, asked, rfl⟩ := offer_at_property tiled located written ends answered evaluated resolves
    exact ⟨names, _, asked, outcome, completes_suffixes _ names⟩

/-- An environment that tells of one object only, always the same. -/
def tellsOfOne (names : List String) : (request : Request) → Unit → Except (Trouble Empty) request.Answer × Unit
  | .evaluate .., _ | .loadModule _, _ => (.ok ({ result := { sort := .object, handle := some "1" } } : Evaluation), ())
  | .globalNames, _ | .properties _, _ => (.ok names, ())
  | .hint .., _ => (.ok Description.undefined, ())
  | .release _, _ => (.ok (), ())

theorem tells_of_one_answers {α : Type} (names : List String) (dialogue : Dialogue Empty α) :
    AllAnswered (dialogue.exchanges (tellsOfOne names) ()) := by
  induction dialogue with
  | finish | trouble => simp [exchanges, AllAnswered]
  | remark made rest induction => exact induction
  | ask request rest induction =>
      have answers : ∃ answer, (tellsOfOne names request ()).1 = .ok answer := by
        cases request <;> exact ⟨_, rfl⟩
      exact List.forall_mem_cons.mpr ⟨answers, induction _⟩

/-- Whether what is located is an access with its property at this place. -/
def isAccessAt (place : Span) : Option Node → Bool
  | some (.member _ _ property false) => decide (property.span = place)
  | _ => false

theorem access_of_seen {place : Span} {node : Option Node} (seen : isAccessAt place node = true) :
    ∃ span object property, node = some (.member span object property false) ∧ property.span = place := by
  unfold isAccessAt at seen
  split at seen
  · next span object property => exact ⟨span, object, property, rfl, of_decide_eq_true seen⟩
  · cases seen

theorem names_completed_exactly_after_dot :
    let around : Surroundings := ⟨{}, .ofTree ⟨[]⟩ ⟨[], [], []⟩, "/"⟩
    let dialogue : Dialogue Empty (Option Completion) := complete around "x.fold" (some 4)
    let log := dialogue.exchanges (tellsOfOne ["fold", "fo", "food"]) ()
    (parse "x.fold").Tiled ∧ AllAnswered log ∧
      ∃ names completion, ⟨.properties "1", .ok names⟩ ∈ log ∧
        (dialogue.run (tellsOfOne ["fold", "fo", "food"]) ()).1 = .ok (some completion) ∧
        Completes "fo" names completion := by
  intro around dialogue log
  have tiled : (parse "x.fold").Tiled := by decide +kernel
  have seen : (locate "x.fold" 4).toOption.any (isAccessAt ⟨2, 6⟩) = true := by decide +kernel
  have answered : AllAnswered log := tells_of_one_answers _ _
  obtain ⟨node, located, isAccess⟩ := Run.ok_of_seen seen
  obtain ⟨span, object, property, rfl, place⟩ := access_of_seen isAccess
  have started : property.start = 2 := congrArg Span.start place
  have stopped : property.stop = 6 := congrArg Span.stop place
  have evaluated : ⟨.evaluate (object.text "x.fold".toList) true,
      .ok { result := { sort := .object, handle := some "1" } }⟩ ∈ log := by
    show _ ∈ ((completeAt around "x.fold" 4).handle _).exchanges _ ()
    rw [complete_at_located around located]
    exact List.mem_cons_self
  have completed := (names_completed_exactly (tellsOfOne ["fold", "fo", "food"]) () around "x.fold" 4 tiled
    answered).2 span object property located (by rw [started, stopped]; decide +kernel) _ "1" evaluated rfl
  rw [started] at completed
  exact ⟨tiled, answered, completed⟩

end LiveShell.Completion
