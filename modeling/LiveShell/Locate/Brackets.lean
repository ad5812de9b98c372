import LiveShell.Source.Leaf

/-!
Questions on a row of leaves: which operators, names and operands they are, which bracket matches which,
and where the primary expression that ends at a leaf begins. Nothing is assumed of the row, so all of it
holds for the leaves of broken source too.
-/

namespace LiveShell.Locate

open Source

def openers : List String := ["(", "[", "\x7b"]

def closers : List String := [")", "]", "\x7d"]

def closerOf (opener : String) : String :=
  if opener = "(" then ")" else if opener = "[" then "]" else "\x7d"

def openerOf (closer : String) : String :=
  if closer = ")" then "(" else if closer = "]" then "[" else "\x7b"

/-- Operators after which an operand may be left out. -/
def operandOptional : List String :=
  ["(", "[", "\x7b", ")", "]", "\x7d", ",", ";", ".", "..."]

/-- Keywords after which an operand is expected. -/
def operandKeywords : List String :=
  ["and", "assert", "await", "del", "elif", "else", "for", "if", "in", "is", "not", "or", "while", "with"]

def constantKeywords : List String := ["None", "True", "False"]

def isOperator (leaf : Leaf) : Bool :=
  match leaf.kind with
  | .operator | .stray .operator => true
  | _ => false

def isName (leaf : Leaf) : Bool :=
  match leaf.kind with
  | .name => true
  | .stray .name => !keywords.contains leaf.text
  | _ => false

def isKeywordLeaf (leaf : Leaf) : Bool :=
  match leaf.kind with
  | .keyword => true
  | .stray .name => keywords.contains leaf.text
  | _ => false

def isOneOf (values : List String) (leaf : Leaf) : Bool := isOperator leaf && values.contains leaf.text

def isOpener (leaf : Leaf) : Bool := isOneOf openers leaf

def isCloser (leaf : Leaf) : Bool := isOneOf closers leaf

/-- Recovery leaves leaves without text; only the end keeps its place among the others. -/
def isEmpty (leaf : Leaf) : Bool := leaf.text = "" && leaf.kind ≠ .finish

/-- Whether an expression can end with this leaf. -/
def endsOperand (leaf : Leaf) : Bool :=
  match leaf.kind with
  | .string | .number | .formattedEnd _ => true
  | _ =>
      if isName leaf then true
      else if isKeywordLeaf leaf then constantKeywords.contains leaf.text
      else isCloser leaf

def expectsOperand (leaf : Leaf) : Bool :=
  if isKeywordLeaf leaf then operandKeywords.contains leaf.text
  else isOperator leaf && !operandOptional.contains leaf.text

/-- The leaf at a place. The default is the end of an empty source. -/
def leafAt (leaves : Array Leaf) (place : Nat) : Leaf :=
  leaves.getD place { kind := .finish, text := "", spacing := "", start := 0, stop := 0, stopLine := 1 }

/-- The place of the nearest leaf with text before a place. -/
def previous? (leaves : Array Leaf) : Nat → Option Nat
  | 0 => none
  | place + 1 => if isEmpty (leafAt leaves place) then previous? leaves place else some place

def nextWithin (leaves : Array Leaf) : Nat → Nat → Option Nat
  | 0, _ => none
  | count + 1, place => if isEmpty (leafAt leaves place) then nextWithin leaves count (place + 1) else some place

/-- The place of the nearest leaf with text after a place. -/
def next? (leaves : Array Leaf) (place : Nat) : Option Nat :=
  nextWithin leaves (leaves.size - (place + 1)) (place + 1)

/-- Whether the place is there and its leaf has a property. -/
def holds (leaves : Array Leaf) (property : Leaf → Bool) (place : Option Nat) : Bool :=
  match place with
  | some place => property (leafAt leaves place)
  | none => false

/-- Scans left from a place for the opener that brings the depth to zero. It counts only if it is of the
wanted kind. -/
def openerFrom (leaves : Array Leaf) (wanted : String) : Nat → Nat → Option Nat
  | 0, depth =>
      let leaf := leafAt leaves 0
      if isCloser leaf then none
      else if isOpener leaf && depth = 1 && leaf.text = wanted then some 0 else none
  | place + 1, depth =>
      let leaf := leafAt leaves (place + 1)
      if isCloser leaf then openerFrom leaves wanted place (depth + 1)
      else if isOpener leaf then
        if depth = 1 then (if leaf.text = wanted then some (place + 1) else none)
        else openerFrom leaves wanted place (depth - 1)
      else openerFrom leaves wanted place depth

/-- The opening bracket of the group that a closing bracket ends. -/
def matchingOpener? (leaves : Array Leaf) (closer : Nat) : Option Nat :=
  openerFrom leaves (openerOf (leafAt leaves closer).text) closer 0

/-- Scans right for the closer that brings the depth to zero; a line break at depth one or less ends the
scan. -/
def closerFrom (leaves : Array Leaf) (wanted : String) : Nat → Nat → Nat → Option Nat
  | 0, _, _ => none
  | count + 1, place, depth =>
      let leaf := leafAt leaves place
      if leaf.kind = .finish then none
      else if isOpener leaf then closerFrom leaves wanted count (place + 1) (depth + 1)
      else if isCloser leaf then
        if depth = 1 then (if leaf.text = wanted then some place else none)
        else closerFrom leaves wanted count (place + 1) (depth - 1)
      else if leaf.kind = .newline && depth ≤ 1 then none
      else closerFrom leaves wanted count (place + 1) depth

/-- The closing bracket of the group that an opening bracket starts. -/
def matchingCloser? (leaves : Array Leaf) (opener : Nat) : Option Nat :=
  closerFrom leaves (closerOf (leafAt leaves opener).text) (leaves.size - opener) opener 0

/-- Scans left for an opener at depth zero, within one statement. -/
def enclosingFrom (leaves : Array Leaf) : Nat → Nat → Option Nat
  | place, depth =>
      let leaf := leafAt leaves place
      let further (depth : Nat) : Option Nat :=
        match place with
        | 0 => none
        | place + 1 => enclosingFrom leaves place depth
      if isCloser leaf then further (depth + 1)
      else if isOpener leaf then (if depth = 0 then some place else further (depth - 1))
      else if depth = 0 && (leaf.kind = .newline || isOneOf [";"] leaf) then none
      else further depth

/-- The innermost bracket that is open after a place, within its statement. -/
def enclosingOpener? (leaves : Array Leaf) (place : Nat) : Option Nat := enclosingFrom leaves place 0

def opensTrailer (leaf : Leaf) : Bool := leaf.text = "(" || leaf.text = "["

def isDot (leaf : Leaf) : Bool := isOneOf ["."] leaf

/-- Where the operand that ends at a place begins, before any trailer to its left is looked at: the opener
of a group, the start of a formatted string, else the leaf itself. -/
def operandStart? (leaves : Array Leaf) (place : Nat) : Option Nat :=
  let leaf := leafAt leaves place
  if isCloser leaf then matchingOpener? leaves place
  else match leaf.kind with
    | .formattedEnd back => some (place - back)
    | _ => some place

/-- The place to the left where a primary goes on: an operand right before the group that ends here, or
before the dot in front of the operand. -/
def primaryGoesOn? (leaves : Array Leaf) (place first : Nat) : Option Nat :=
  let before := previous? leaves first
  if isCloser (leafAt leaves place) && opensTrailer (leafAt leaves first) && holds leaves endsOperand before then
    before
  else if holds leaves isDot before then
    let operand := before.bind (previous? leaves)
    if holds leaves endsOperand operand then operand else none
  else none

def primaryStartWithin (leaves : Array Leaf) : Nat → Nat → Option Nat
  | 0, _ => none
  | turns + 1, place =>
      (operandStart? leaves place).bind fun first =>
        match primaryGoesOn? leaves place first with
        | some operand => primaryStartWithin leaves turns operand
        | none => some first

/-- The first leaf of the primary (`a.b(c)[d]`, `'s'`, `(x)`) that ends at a place. Every turn moves to
the left, so there are at most as many turns as leaves up to the place. -/
def primaryStart? (leaves : Array Leaf) (place : Nat) : Option Nat :=
  primaryStartWithin leaves (place + 1) place

end LiveShell.Locate
