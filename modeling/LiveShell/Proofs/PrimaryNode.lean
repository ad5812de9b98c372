import LiveShell.Proofs.GroupEnds
import LiveShell.Proofs.ScannedSpacing

/-!
The node of a primary. Where a primary starts is found by going to the left from operand to operand, and its node is
built by going to the left from trailer to trailer, each step down asking again where the rest starts. The two go over
the same operands, so the node covers just the primary, and its last trailer gives the kind. This holds of malformed
chains too: what is no trailer there counts as one opaque piece.
-/

namespace LiveShell.Locate

open Source

set_option autoImplicit false

/-! ### Trailers -/

/-- A name ends here that stands after a dot after an operand. -/
structure NamesMember (leaves : Array Leaf) (operand dot last : Nat) : Prop where
  name : isName (leafAt leaves last) = true
  before : previous? leaves last = some dot
  isDot : isDot (leafAt leaves dot) = true
  after : previous? leaves dot = some operand
  ends : endsOperand (leafAt leaves operand) = true

/-- A round or square bracket ends here whose opener directly follows an operand. -/
structure ClosesTrailer (leaves : Array Leaf) (operand opener last : Nat) : Prop where
  closes : isOneOf [")", "]"] (leafAt leaves last) = true
  matched : matchingOpener? leaves last = some opener
  after : previous? leaves opener = some operand
  ends : endsOperand (leafAt leaves operand) = true

/-- What the node of the leaves from a first to a last one is: the last trailer tells its kind, and what that trailer
follows is the node of the leaves up to there. -/
inductive IsPrimary (parsed : Parsed) (first : Nat) : Nat → Node → Prop
  | leaf {node : Node} (made : leafNode parsed first = .ok node) : IsPrimary parsed first first node
  | member {operand dot last : Nat} {object property : Node} (named : NamesMember parsed.leaves operand dot last)
      (holds : IsPrimary parsed first operand object) (made : leafNode parsed last = .ok property) :
      IsPrimary parsed first last
        (.member ⟨(leafAt parsed.leaves first).start, (leafAt parsed.leaves last).stop⟩ object property false)
  | call {operand opener last : Nat} {callee : Node} {arguments : List Node}
      (closes : ClosesTrailer parsed.leaves operand opener last)
      (round : (leafAt parsed.leaves opener).text = "(") (holds : IsPrimary parsed first operand callee)
      (made : argumentNodes parsed opener (some last) = .ok arguments) :
      IsPrimary parsed first last
        (.call ⟨(leafAt parsed.leaves first).start, (leafAt parsed.leaves last).stop⟩ callee arguments)
  | index {operand opener last : Nat} {object : Node} (closes : ClosesTrailer parsed.leaves operand opener last)
      (square : (leafAt parsed.leaves opener).text = "[") (holds : IsPrimary parsed first operand object) :
      IsPrimary parsed first last
        (.member ⟨(leafAt parsed.leaves first).start, (leafAt parsed.leaves last).stop⟩ object
          (.other ⟨(leafAt parsed.leaves opener).stop, (leafAt parsed.leaves last).start⟩) true)
  | other {last : Nat} (longer : first < last) (noMember : ∀ operand dot, ¬NamesMember parsed.leaves operand dot last)
      (noTrailer : ∀ operand opener, ¬ClosesTrailer parsed.leaves operand opener last) :
      IsPrimary parsed first last
        (.other ⟨(leafAt parsed.leaves first).start, (leafAt parsed.leaves last).stop⟩)

variable {parsed : Parsed} {leaves : Array Leaf} {operand dot opener first last : Nat}

theorem name_no_closer {leaf : Leaf} (name : isName leaf = true) : isCloser leaf = false := by
  rw [Bool.eq_false_iff]
  intro closes
  have noWord := operator_no_word (Bool.and_eq_true_iff.mp closes).1
  rw [name] at noWord
  cases noWord

theorem ClosesTrailer.is_closer (closes : ClosesTrailer leaves operand opener last) :
    isCloser (leafAt leaves last) = true :=
  one_of_more (by decide) closes.closes

theorem NamesMember.order (named : NamesMember leaves operand dot last) : operand < dot ∧ dot < last :=
  ⟨(previous_bounds leaves named.after).1, (previous_bounds leaves named.before).1⟩

theorem ClosesTrailer.order (closes : ClosesTrailer leaves operand opener last) : operand < opener ∧ opener < last :=
  ⟨(previous_bounds leaves closes.after).1,
    (matching_opener_depth leaves closes.is_closer closes.matched).1⟩

theorem NamesMember.no_trailer {other : Nat} (named : NamesMember leaves operand dot last) :
    ¬ClosesTrailer leaves other opener last := fun closes =>
  absurd closes.is_closer (Bool.eq_false_iff.mp (name_no_closer named.name))

/-- The opener of a trailer is round or square. -/
theorem ClosesTrailer.opens (closes : ClosesTrailer leaves operand opener last) :
    opensTrailer (leafAt leaves opener) = true := by
  obtain ⟨_, _, text, _⟩ := matching_opener_depth leaves closes.is_closer closes.matched
  have kinds := closes.closes
  simp only [isOneOf, Bool.and_eq_true, List.contains_eq_mem, decide_eq_true_eq, List.mem_cons, List.not_mem_nil,
    or_false] at kinds
  rw [opensTrailer, text]
  rcases kinds.2 with same | same <;> rw [same] <;> rfl

/-! ### Where a primary starts -/

/-- With enough turns left, it does not matter how many there are. -/
theorem primary_start_within_enough {turns more place : Nat} (enough : place < turns) (enoughToo : place < more) :
    primaryStartWithin leaves turns place = primaryStartWithin leaves more place := by
  induction turns generalizing place more with
  | zero => omega
  | succ turns induction =>
      obtain ⟨more, rfl⟩ : ∃ less, more = less + 1 := ⟨more - 1, by omega⟩
      rw [primaryStartWithin, primaryStartWithin]
      cases started : operandStart? leaves place with
      | none => rfl
      | some start =>
          have order := operand_start_le leaves started
          simp only [Option.bind_some]
          cases goesOn : primaryGoesOn? leaves place start with
          | none => rfl
          | some operand =>
              have left := primary_goes_on_lt leaves goesOn
              exact induction (by omega) (by omega)

/-- A primary goes on to the left of its last operand, or starts with it. -/
theorem primary_start_eq (place : Nat) :
    primaryStart? leaves place = (operandStart? leaves place).bind fun start =>
      match primaryGoesOn? leaves place start with
      | some operand => primaryStart? leaves operand
      | none => some start := by
  rw [primaryStart?, primaryStartWithin]
  cases started : operandStart? leaves place with
  | none => rfl
  | some start =>
      have order := operand_start_le leaves started
      simp only [Option.bind_some]
      cases goesOn : primaryGoesOn? leaves place start with
      | none => rfl
      | some operand =>
          have left := primary_goes_on_lt leaves goesOn
          exact primary_start_within_enough (by omega) (Nat.lt_succ_self operand)

theorem primary_start_of_trailer (closes : ClosesTrailer leaves operand opener last) :
    primaryStart? leaves last = primaryStart? leaves operand := by
  have closing := closes.is_closer
  have started : operandStart? leaves last = some opener := by
    rw [operandStart?, if_pos closing]
    exact closes.matched
  have goesOn : primaryGoesOn? leaves last opener = some operand := by
    simp only [primaryGoesOn?, closing, closes.opens, closes.after, holds, closes.ends, Bool.and_self, if_true]
  rw [primary_start_eq, started, Option.bind_some, goesOn]

theorem primary_start_of_member (named : NamesMember leaves operand dot last) :
    primaryStart? leaves last = primaryStart? leaves operand := by
  have noCloser := name_no_closer named.name
  have started : operandStart? leaves last = some last := by
    rw [operandStart?, if_neg (by rw [noCloser]; exact Bool.false_ne_true)]
    split
    · next back kind =>
        have name := named.name
        rw [isName, kind] at name
        cases name
    · rfl
  have goesOn : primaryGoesOn? leaves last last = some operand := by
    simp only [primaryGoesOn?, noCloser, named.before, holds, named.isDot, named.after, named.ends,
      Option.bind_some, Bool.false_and, Bool.false_eq_true, if_false, if_true]
  rw [primary_start_eq, started, Option.bind_some, goesOn]

/-- The primary that a bracket ends starts no later than the opener of that bracket. -/
theorem primary_start_le_opener (closes : isCloser (leafAt leaves last) = true)
    (matched : matchingOpener? leaves last = some opener) (started : primaryStart? leaves last = some first) :
    first ≤ opener := by
  have start : operandStart? leaves last = some opener := by
    rw [operandStart?, if_pos closes]
    exact matched
  rw [primary_start_eq, start, Option.bind_some] at started
  split at started
  · next operand goesOn =>
      have left := primary_goes_on_lt leaves goesOn
      have order := primary_start_le leaves started
      omega
  · exact Nat.le_of_eq (Option.some.inj started).symm

/-! ### The last trailer -/

theorem trailer_of_member {expression : Nat → Nat → Except Fault Node} {object property : Node}
    (named : NamesMember parsed.leaves operand dot last) (started : primaryStart? parsed.leaves operand = some first)
    (holds : expression first operand = .ok object) (made : leafNode parsed last = .ok property) :
    trailerNode expression parsed first last =
      .ok (some (.member ⟨object.start, property.stop⟩ object property false)) := by
  have atDot : (isName (leafAt parsed.leaves last) && Locate.holds parsed.leaves isDot (some dot)) = true := by
    rw [named.name]
    exact named.isDot
  simp only [trailerNode, named.before, atDot, if_true, made]
  show attributeNode expression parsed dot property = _
  simp only [attributeNode, named.after, named.ends, if_true, started, holds]
  rfl

theorem group_of_trailer {expression : Nat → Nat → Except Fault Node} {object : Node}
    (after : previous? parsed.leaves opener = some operand) (ends : endsOperand (leafAt parsed.leaves operand) = true)
    (started : primaryStart? parsed.leaves operand = some first) (holds : expression first operand = .ok object) :
    ((leafAt parsed.leaves opener).text = "(" → ∀ arguments,
      argumentNodes parsed opener (matchingCloser? parsed.leaves opener) = .ok arguments →
      groupNode expression parsed opener = .ok (.call ⟨object.start, groupStop parsed opener⟩ object arguments)) ∧
    ((leafAt parsed.leaves opener).text = "[" →
      groupNode expression parsed opener = .ok (.member ⟨object.start, groupStop parsed opener⟩ object
        (.other ⟨(leafAt parsed.leaves opener).stop, indexStop parsed opener⟩) true)) := by
  constructor
  · intro round arguments made
    have opens : (opensTrailer (leafAt parsed.leaves opener) && endsOperand (leafAt parsed.leaves operand)) = true := by
      rw [ends, opensTrailer, round]
      rfl
    simp only [groupNode, after, opens, if_true, started, holds, round, made]
    rfl
  · intro square
    have opens : (opensTrailer (leafAt parsed.leaves opener) && endsOperand (leafAt parsed.leaves operand)) = true := by
      rw [ends, opensTrailer, square]
      rfl
    have noCall : ("[" = "(") = False := by decide
    simp only [groupNode, after, opens, if_true, started, holds, square, noCall, if_false]
    rfl

/-- A group whose opener follows no operand is told of as it stands. -/
theorem group_of_no_operand {expression : Nat → Nat → Except Fault Node}
    (noOperand : ∀ operand, previous? parsed.leaves opener = some operand →
      endsOperand (leafAt parsed.leaves operand) = false) :
    groupNode expression parsed opener =
      .ok (.other ⟨(leafAt parsed.leaves opener).start, groupStop parsed opener⟩) := by
  simp only [groupNode]
  cases before : previous? parsed.leaves opener with
  | none => rfl
  | some operand =>
      simp only [noOperand operand before, Bool.and_false, Bool.false_eq_true, if_false]
      rfl

/-- Where no trailer ends, there is nothing to tell of but a group. -/
theorem trailer_of_neither {expression : Nat → Nat → Except Fault Node}
    (noMember : ∀ operand dot, ¬NamesMember parsed.leaves operand dot last)
    (noTrailer : ∀ operand opener, ¬ClosesTrailer parsed.leaves operand opener last) :
    trailerNode expression parsed first last = .ok none ∨ ∃ opener,
      isCloser (leafAt parsed.leaves last) = true ∧ matchingOpener? parsed.leaves last = some opener ∧
        trailerNode expression parsed first last =
          .ok (some (.other ⟨(leafAt parsed.leaves opener).start, groupStop parsed opener⟩)) := by
  simp only [trailerNode]
  split
  · next named =>
      obtain ⟨name, afterDot⟩ := Bool.and_eq_true_iff.mp named
      obtain ⟨property, made⟩ : ∃ property, leafNode parsed last = .ok property := by
        refine ⟨_, by simp only [leafNode, name, Bool.true_or, if_true]; rfl⟩
      left
      cases before : previous? parsed.leaves last with
      | none => rfl
      | some dot =>
          rw [before] at afterDot
          simp only [made]
          show attributeNode expression parsed dot property = _
          unfold attributeNode
          cases after : previous? parsed.leaves dot with
          | none => rfl
          | some operand =>
              have noOperand : ¬endsOperand (leafAt parsed.leaves operand) = true := fun ends =>
                noMember operand dot ⟨name, before, afterDot, after, ends⟩
              simp only [noOperand]
              rfl
  · split
    · next closes =>
        cases matched : matchingOpener? parsed.leaves last with
        | none => exact Or.inl rfl
        | some opener =>
            by_cases whole : opener = first
            · simp only [whole, if_true]
              exact Or.inl rfl
            · refine Or.inr ⟨opener, one_of_more (by decide) closes, rfl, ?_⟩
              have noOperand : ∀ operand, previous? parsed.leaves opener = some operand →
                  endsOperand (leafAt parsed.leaves operand) = false := fun operand after =>
                Bool.eq_false_iff.mpr fun ends => noTrailer operand opener ⟨closes, matched, after, ends⟩
              simp only [whole, if_false, group_of_no_operand noOperand]
              rfl
    · exact Or.inl rfl

/-! ### The whole primary -/

/-- In the primary from a first to a last leaf, every bracket that ends a group is found again from its opener. -/
def FindsClosers (leaves : Array Leaf) (first last : Nat) : Prop :=
  ∀ opener closer, first ≤ opener → closer ≤ last → isCloser (leafAt leaves closer) = true →
    matchingOpener? leaves closer = some opener → matchingCloser? leaves opener = some closer

theorem FindsClosers.upTo {middle : Nat} (finds : FindsClosers leaves first last) (order : middle ≤ last) :
    FindsClosers leaves first middle :=
  fun opener closer start stop => finds opener closer start (Nat.le_trans stop order)

theorem IsPrimary.span (tiled : parsed.WellTiled) (bound : last < parsed.leaves.size) {node : Node}
    (primary : IsPrimary parsed first last node) :
    node.span = ⟨(leafAt parsed.leaves first).start, (leafAt parsed.leaves last).stop⟩ := by
  cases primary with
  | leaf made =>
      obtain ⟨other, madeToo, span, _⟩ := leaf_node_ok tiled 0 bound
      rw [made] at madeToo
      cases madeToo
      exact span
  | member | call | index | other => rfl

theorem IsPrimary.first_le {node : Node} (primary : IsPrimary parsed first last node) : first ≤ last := by
  induction primary with
  | leaf => exact le_refl _
  | member named _ _ start =>
      have order := named.order
      omega
  | call closes _ _ _ start | index closes _ _ start =>
      have order := closes.order
      omega
  | other longer _ _ => exact Nat.le_of_lt longer

theorem NamesMember.longer {node : Node} (named : NamesMember parsed.leaves operand dot last)
    (before : IsPrimary parsed first operand node) : first < last := by
  have order := named.order
  have start := before.first_le
  omega

theorem ClosesTrailer.longer {node : Node} (closes : ClosesTrailer parsed.leaves operand opener last)
    (before : IsPrimary parsed first operand node) : first < last := by
  have order := closes.order
  have start := before.first_le
  omega

/-- The leaves leave no choice of the node. -/
theorem IsPrimary.unique {node other : Node} (one : IsPrimary parsed first last node)
    (two : IsPrimary parsed first last other) : node = other := by
  induction one generalizing other with
  | leaf made =>
      cases two with
      | leaf madeToo => exact Except.ok.inj (made.symm.trans madeToo)
      | member named before _ => exact absurd (named.longer before) (Nat.lt_irrefl _)
      | call closes _ before _ | index closes _ before => exact absurd (closes.longer before) (Nat.lt_irrefl _)
      | other longer => exact absurd longer (Nat.lt_irrefl _)
  | member named before made same =>
      cases two with
      | leaf => exact absurd (named.longer before) (Nat.lt_irrefl _)
      | member namedToo beforeToo madeToo =>
          cases named.before.symm.trans namedToo.before
          cases named.after.symm.trans namedToo.after
          cases made.symm.trans madeToo
          rw [same beforeToo]
      | call closes | index closes => exact absurd closes named.no_trailer
      | other _ noMember => exact absurd named (noMember _ _)
  | call closes round before made same =>
      cases two with
      | leaf => exact absurd (closes.longer before) (Nat.lt_irrefl _)
      | member named => exact absurd closes named.no_trailer
      | call closesToo _ beforeToo madeToo =>
          cases closes.matched.symm.trans closesToo.matched
          cases closes.after.symm.trans closesToo.after
          cases made.symm.trans madeToo
          rw [same beforeToo]
      | index closesToo square =>
          cases closes.matched.symm.trans closesToo.matched
          exact absurd (round.symm.trans square) (by decide)
      | other _ _ noTrailer => exact absurd closes (noTrailer _ _)
  | index closes square before same =>
      cases two with
      | leaf => exact absurd (closes.longer before) (Nat.lt_irrefl _)
      | member named => exact absurd closes named.no_trailer
      | call closesToo round =>
          cases closes.matched.symm.trans closesToo.matched
          exact absurd (round.symm.trans square) (by decide)
      | index closesToo _ beforeToo =>
          cases closes.matched.symm.trans closesToo.matched
          cases closes.after.symm.trans closesToo.after
          rw [same beforeToo]
      | other _ _ noTrailer => exact absurd closes (noTrailer _ _)
  | other longer noMember noTrailer =>
      cases two with
      | leaf => exact absurd longer (Nat.lt_irrefl _)
      | member named => exact absurd named (noMember _ _)
      | call closes | index closes => exact absurd closes (noTrailer _ _)
      | other => rfl

/-- A trailer that a bracket ends is a call or an access over the node of its operand. -/
theorem primary_of_trailer (tiled : parsed.WellTiled) {expression : Nat → Nat → Except Fault Node} {object : Node}
    (bound : last < parsed.leaves.size) (closes : ClosesTrailer parsed.leaves operand opener last)
    (started : primaryStart? parsed.leaves operand = some first) (finds : FindsClosers parsed.leaves first last)
    (holds : expression first operand = .ok object) (primary : IsPrimary parsed first operand object) :
    ∃ node, trailerNode expression parsed first last = .ok (some node) ∧ IsPrimary parsed first last node := by
  have closing := closes.is_closer
  obtain ⟨before, opens, _⟩ := matching_opener_depth _ closing closes.matched
  have order := closes.order
  have firstBefore := primary_start_le _ started
  have apart : opener ≠ first := by omega
  have noName : isName (leafAt parsed.leaves last) = false :=
    Bool.eq_false_iff.mpr fun name => by simp [name_no_closer name] at closing
  have group : trailerNode expression parsed first last = some <$> groupNode expression parsed opener := by
    simp only [trailerNode, noName, Bool.false_and, Bool.false_eq_true, if_false, closes.closes, if_true,
      closes.matched, apart]
  have closed := finds opener last (by omega) (le_refl _) closing closes.matched
  have start : object.start = (leafAt parsed.leaves first).start := by
    rw [Node.start, primary.span tiled (by omega)]
  have stop : groupStop parsed opener = (leafAt parsed.leaves last).stop := by
    rw [groupStop, closed]
    rfl
  have innerStop : indexStop parsed opener = (leafAt parsed.leaves last).start := by
    rw [indexStop, closed]
    rfl
  obtain ⟨call, index⟩ := group_of_trailer closes.after closes.ends started holds
  have kinds := closes.opens
  simp only [opensTrailer, Bool.or_eq_true, decide_eq_true_eq] at kinds
  rcases kinds with round | square
  · obtain ⟨arguments, made, _⟩ := argument_nodes_ok tiled 0 (by omega) opens
    refine ⟨_, by rw [group, call round arguments made]; rfl, ?_⟩
    rw [closed] at made
    rw [start, stop]
    exact .call closes round primary made
  · refine ⟨_, by rw [group, index square]; rfl, ?_⟩
    rw [start, stop, innerStop]
    exact .index closes square primary

/-- A trailer whose node starts with the first leaf is the node of the whole. -/
theorem expression_of_trailer {depth : Nat} {node : Node} (longer : first ≠ last)
    (trailer : trailerNode (expressionWithin parsed depth) parsed first last = .ok (some node))
    (start : node.start = (leafAt parsed.leaves first).start) :
    expressionWithin parsed (depth + 1) first last = .ok node := by
  simp only [expressionWithin, longer, if_false, trailer]
  exact if_pos start

/-- More than one leaf and no trailer at the end: the node tells of nothing but its span. -/
theorem expression_of_neither (depth : Nat) (longer : first ≠ last)
    (started : primaryStart? parsed.leaves last = some first) (finds : FindsClosers parsed.leaves first last)
    (noMember : ∀ operand dot, ¬NamesMember parsed.leaves operand dot last)
    (noTrailer : ∀ operand opener, ¬ClosesTrailer parsed.leaves operand opener last) :
    expressionWithin parsed (depth + 1) first last =
      .ok (.other ⟨(leafAt parsed.leaves first).start, (leafAt parsed.leaves last).stop⟩) := by
  have span : spanNode parsed first last =
      .ok (.other ⟨(leafAt parsed.leaves first).start, (leafAt parsed.leaves last).stop⟩) := by
    rw [spanNode, if_neg longer]
    rfl
  rw [expressionWithin, if_neg longer]
  rcases trailer_of_neither noMember noTrailer with none | ⟨opener, closing, matched, group⟩
  · rw [none]
    exact span
  · have closed := finds opener last (primary_start_le_opener closing matched started) (le_refl _) closing matched
    rw [group, groupStop, closed]
    show (if _ then _ else _) = _
    split
    · next start =>
        have same : (leafAt parsed.leaves opener).start = (leafAt parsed.leaves first).start := start
        rw [same]
        rfl
    · exact span

/-- Every step down keeps to the left of the trailer, so the depth is enough as long as it is more than the place of
the last leaf. -/
theorem expression_within_primary (tiled : parsed.WellTiled) {depth : Nat} (enough : last < depth)
    (bound : last < parsed.leaves.size) (started : primaryStart? parsed.leaves last = some first)
    (finds : FindsClosers parsed.leaves first last) :
    ∃ node, expressionWithin parsed depth first last = .ok node ∧ IsPrimary parsed first last node := by
  induction depth generalizing last with
  | zero => omega
  | succ depth induction =>
      by_cases closes : ∃ operand opener, ClosesTrailer parsed.leaves operand opener last
      · obtain ⟨operand, opener, closes⟩ := closes
        have order := closes.order
        rw [primary_start_of_trailer closes] at started
        have firstBefore := primary_start_le _ started
        obtain ⟨object, holds, primary⟩ := induction (by omega) (by omega) started (finds.upTo (by omega))
        obtain ⟨node, trailer, whole⟩ := primary_of_trailer tiled bound closes started finds holds primary
        have start : node.start = (leafAt parsed.leaves first).start := by
          rw [Node.start, whole.span tiled bound]
        exact ⟨node, expression_of_trailer (by omega) trailer start, whole⟩
      by_cases named : ∃ operand dot, NamesMember parsed.leaves operand dot last
      · obtain ⟨operand, dot, named⟩ := named
        have order := named.order
        rw [primary_start_of_member named] at started
        have firstBefore := primary_start_le _ started
        obtain ⟨object, holds, primary⟩ := induction (by omega) (by omega) started (finds.upTo (by omega))
        obtain ⟨property, made, span, _⟩ := leaf_node_ok tiled 0 bound
        have trailer := trailer_of_member named started holds made
        have start : object.start = (leafAt parsed.leaves first).start := by
          rw [Node.start, primary.span tiled (by omega)]
        have stop : property.stop = (leafAt parsed.leaves last).stop := by
          rw [Node.stop, span]
          rfl
        rw [start, stop] at trailer
        exact ⟨_, expression_of_trailer (by omega) trailer rfl, .member named primary made⟩
      have noTrailer : ∀ operand opener, ¬ClosesTrailer parsed.leaves operand opener last :=
        fun operand opener here => closes ⟨operand, opener, here⟩
      have noMember : ∀ operand dot, ¬NamesMember parsed.leaves operand dot last :=
        fun operand dot here => named ⟨operand, dot, here⟩
      by_cases single : first = last
      · subst single
        obtain ⟨node, made, _⟩ := leaf_node_ok tiled 0 bound
        refine ⟨node, ?_, .leaf made⟩
        rw [expressionWithin, if_pos rfl]
        exact made
      · have longer : first < last := Nat.lt_of_le_of_ne (primary_start_le _ started) single
        exact ⟨_, expression_of_neither depth single started finds noMember noTrailer,
          .other longer noMember noTrailer⟩

/-! ### What is built over a primary -/

/-- What is built over a node that ends with a leaf: the access through a dot behind it, the call and the access through
a bracket behind it hold the node, and only spacing is in between. -/
structure IsBuiltOver (parsed : Parsed) (last : Nat) (node : Node) : Prop where
  dots : ∀ dot < parsed.leaves.size, previous? parsed.leaves dot = some last →
    isDot (leafAt parsed.leaves dot) = true →
    (∀ property, attributeNode (expressionNode parsed) parsed dot property =
      .ok (some (.member ⟨node.start, property.stop⟩ node property false))) ∧
    IsSpacing (parsed.slice node.stop (leafAt parsed.leaves dot).start).toList
  calls : ∀ opener < parsed.leaves.size, previous? parsed.leaves opener = some last →
    isOneOf ["("] (leafAt parsed.leaves opener) = true →
    (∃ arguments, groupNode (expressionNode parsed) parsed opener =
      .ok (.call ⟨node.start, groupStop parsed opener⟩ node arguments)) ∧
    IsSpacing (parsed.slice node.stop (leafAt parsed.leaves opener).start).toList
  indices : ∀ opener < parsed.leaves.size, previous? parsed.leaves opener = some last →
    isOneOf ["["] (leafAt parsed.leaves opener) = true →
    (∃ index, groupNode (expressionNode parsed) parsed opener =
      .ok (.member ⟨node.start, groupStop parsed opener⟩ node index true)) ∧
    IsSpacing (parsed.slice node.stop (leafAt parsed.leaves opener).start).toList

/-- Between an operand and an operator behind it is spacing only. -/
theorem gap_is_spacing {source : String} (tiled : (parse source).Tiled) {place : Nat} {values : List String}
    (bound : place < (parse source).leaves.size) (before : previous? (parse source).leaves place = some last)
    (ends : endsOperand (leafAt (parse source).leaves last) = true)
    (known : isOneOf values (leafAt (parse source).leaves place) = true) (filled : "" ∉ values) :
    IsSpacing ((parse source).slice (leafAt (parse source).leaves last).stop
      (leafAt (parse source).leaves place).start).toList := by
  have operator := (Bool.and_eq_true_iff.mp known).1
  have spacing := operator_spacing source (previous_bounds _ before).1 bound ends operator
  rw [tiled.spaced place bound (operator_has_text_of filled known), Parsed.stopBefore, before] at spacing
  exact spacing

theorem built_over {source : String} (tiled : (parse source).Tiled) {node : Node}
    (ends : endsOperand (leafAt (parse source).leaves last) = true)
    (started : primaryStart? (parse source).leaves last = some first)
    (holds : expressionNode (parse source) first last = .ok node)
    (stop : node.stop = (leafAt (parse source).leaves last).stop) : IsBuiltOver (parse source) last node where
  dots dot within before isDot := by
    refine ⟨fun property => ?_, stop ▸ gap_is_spacing tiled within before ends isDot (by decide)⟩
    simp only [attributeNode, before, ends, if_true, started, holds]
    rfl
  calls opener within before round := by
    have opens : isOpener (leafAt (parse source).leaves opener) = true := one_of_more (by decide) round
    obtain ⟨arguments, made, _⟩ := argument_nodes_ok (well_tiled_of_tiled tiled) 0 within opens
    exact ⟨⟨arguments, (group_of_trailer before ends started holds).1 (text_of_one round) arguments made⟩,
      stop ▸ gap_is_spacing tiled within before ends round (by decide)⟩
  indices opener within before square :=
    ⟨⟨_, (group_of_trailer before ends started holds).2 (text_of_one square)⟩,
      stop ▸ gap_is_spacing tiled within before ends square (by decide)⟩

/-- The node of a primary is exactly that: it runs from the first leaf of the primary to its last one, it is the one
node whose kind the last trailer gives, and it is what accesses and calls behind the primary are built over. -/
theorem expression_is_primary (source : String) (tiled : (parse source).Tiled) {first last : Nat}
    (bound : last < (parse source).leaves.size) (ends : endsOperand (leafAt (parse source).leaves last) = true)
    (started : primaryStart? (parse source).leaves last = some first)
    (unbroken : ∀ opener closer, first ≤ opener → closer ≤ last →
      isCloser (leafAt (parse source).leaves closer) = true →
      matchingOpener? (parse source).leaves closer = some opener → Unbroken (parse source).leaves opener closer) :
    ∃ node, expressionNode (parse source) first last = .ok node ∧
      node.span = ⟨(leafAt (parse source).leaves first).start, (leafAt (parse source).leaves last).stop⟩ ∧
      (∀ other, IsPrimary (parse source) first last other ↔ other = node) ∧ IsBuiltOver (parse source) last node := by
  have wellTiled := well_tiled_of_tiled tiled
  have finds : FindsClosers (parse source).leaves first last := by
    intro opener closer start stop closes matched
    have unfinished := unfinished_before tiled (by omega : closer < (parse source).leaves.size) (closer_has_text closes)
    exact (matching_closer_iff _ (by omega) closes matched fun place _ before => unfinished place before).mpr
      (unbroken opener closer start stop closes matched)
  obtain ⟨node, made, primary⟩ := expression_within_primary wellTiled (Nat.lt_succ_self last) bound started finds
  have span := primary.span wellTiled bound
  have stop : node.stop = (leafAt (parse source).leaves last).stop := by
    rw [Node.stop, span]
  exact ⟨node, made, span, fun other => ⟨fun isToo => isToo.unique primary, fun same => same ▸ primary⟩,
    built_over tiled ends started made stop⟩

theorem expression_is_primary_of_chain :
    let parsed := parse "a.b(c) [0]"
    parsed.Tiled ∧ 8 < parsed.leaves.size ∧ endsOperand (leafAt parsed.leaves 8) = true ∧
      primaryStart? parsed.leaves 8 = some 0 ∧ (∀ place < 8, (leafAt parsed.leaves place).kind ≠ .newline) ∧
      ∃ node, expressionNode parsed 0 8 = .ok node ∧ node.span = ⟨0, 10⟩ ∧
        (∀ other, IsPrimary parsed 0 8 other ↔ other = node) ∧ IsBuiltOver parsed 8 node := by
  intro parsed
  obtain ⟨tiled, bound, ends, started, noBreak, start, stop⟩ :
      (parse "a.b(c) [0]").Tiled ∧ 8 < (parse "a.b(c) [0]").leaves.size ∧
      endsOperand (leafAt (parse "a.b(c) [0]").leaves 8) = true ∧
      primaryStart? (parse "a.b(c) [0]").leaves 8 = some 0 ∧
      (∀ place < 8, (leafAt (parse "a.b(c) [0]").leaves place).kind ≠ .newline) ∧
      (leafAt (parse "a.b(c) [0]").leaves 0).start = 0 ∧ (leafAt (parse "a.b(c) [0]").leaves 8).stop = 10 := by
    decide +kernel
  obtain ⟨node, made, span, primary, above⟩ := expression_is_primary "a.b(c) [0]" tiled bound ends started
    fun opener closer _ upTo _ _ place _ before newline => absurd newline (noBreak place (by omega))
  rw [start, stop] at span
  exact ⟨tiled, bound, ends, started, noBreak, node, made, span, primary, above⟩

end LiveShell.Locate
