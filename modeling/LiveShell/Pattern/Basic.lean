import LiveShell.Text.CharacterClass
import LiveShell.Text.LetterCase

/-!
Patterns over texts: what they consist of, the flags they are read under, and how wide a text they can
match.
-/

namespace LiveShell.Pattern

structure Flags where
  ignoreCase : Bool := false
  manyLines : Bool := false
  dotMatchesAll : Bool := false
  verbose : Bool := false
  asciiOnly : Bool := false
  unicode : Bool := false
deriving DecidableEq, Repr, Inhabited

namespace Flags

def union (left right : Flags) : Flags :=
  ⟨left.ignoreCase || right.ignoreCase, left.manyLines || right.manyLines,
    left.dotMatchesAll || right.dotMatchesAll, left.verbose || right.verbose,
    left.asciiOnly || right.asciiOnly, left.unicode || right.unicode⟩

def without (left right : Flags) : Flags :=
  ⟨left.ignoreCase && !right.ignoreCase, left.manyLines && !right.manyLines,
    left.dotMatchesAll && !right.dotMatchesAll, left.verbose && !right.verbose,
    left.asciiOnly && !right.asciiOnly, left.unicode && !right.unicode⟩

def meets (left right : Flags) : Bool :=
  (left.ignoreCase && right.ignoreCase) || (left.manyLines && right.manyLines) ||
    (left.dotMatchesAll && right.dotMatchesAll) || (left.verbose && right.verbose) ||
    (left.asciiOnly && right.asciiOnly) || (left.unicode && right.unicode)

def isEmpty (flags : Flags) : Bool := flags = {}

/-- What is inside a group that adds some flags and removes others. -/
def adjust (flags added removed : Flags) : Flags := (flags.union added).without removed

end Flags

inductive Category
  | digit
  | space
  | word
deriving DecidableEq, Repr, Inhabited

/-- A part of a set of characters. -/
inductive Member
  | single (code : Nat)
  | range (low high : Nat)
  | category (category : Category) (negated : Bool)
deriving DecidableEq, Repr, Inhabited

inductive Anchor
  | lineStart
  | lineEnd
  | textStart
  | textEnd
  | boundary
  | noBoundary
deriving DecidableEq, Repr, Inhabited

inductive Greed
  | greedy
  | lazy
  /-- As much as there is, and nothing of it is given back. -/
  | possessive
deriving DecidableEq, Repr, Inhabited

inductive Item
  | single (code : Nat)
  | notSingle (code : Nat)
  | any
  | oneOf (negated : Bool) (members : List Member)
  | anchor (anchor : Anchor)
  | group (index : Option Nat) (added removed : Flags) (body : List Item)
  | branch (alternatives : List (List Item))
  | repeated (greed : Greed) (low : Nat) (high : Option Nat) (body : List Item)
  | reference (group : Nat)
  /-- One of two bodies, by whether a group has matched. -/
  | conditional (group : Nat) (yes no : List Item)
  | look (ahead negated : Bool) (body : List Item)
  | atomic (body : List Item)
deriving Repr, Inhabited

/-- The least and greatest length of a match; there may be no greatest. -/
structure Width where
  least : Nat
  greatest : Option Nat
deriving DecidableEq, Repr, Inhabited

def Width.add (left right : Width) : Width :=
  ⟨left.least + right.least, do pure ((← left.greatest) + (← right.greatest))⟩

def Width.either (left right : Width) : Width :=
  ⟨min left.least right.least, do pure (max (← left.greatest) (← right.greatest))⟩

def Width.times (width : Width) (low : Nat) (high : Option Nat) : Width :=
  ⟨width.least * low, if width.greatest = some 0 then some 0 else do pure ((← width.greatest) * (← high))⟩

mutual

/-- How wide a text an item matches, given how wide the groups before it are. -/
def itemWidth (groups : List (Nat × Width)) : Item → Width
  | .single _ | .notSingle _ | .any | .oneOf .. => ⟨1, some 1⟩
  | .anchor _ | .look .. => ⟨0, some 0⟩
  | .group _ _ _ body | .atomic body => bodyWidth groups body
  | .branch alternatives => branchWidth groups alternatives
  | .repeated _ low high body => (bodyWidth groups body).times low high
  | .reference group => (groups.lookup group).getD ⟨0, some 0⟩
  | .conditional _ yes no => (bodyWidth groups yes).either (bodyWidth groups no)

def bodyWidth (groups : List (Nat × Width)) : List Item → Width
  | [] => ⟨0, some 0⟩
  | item :: rest => (itemWidth groups item).add (bodyWidth groups rest)

def branchWidth (groups : List (Nat × Width)) : List (List Item) → Width
  | [] => ⟨0, some 0⟩
  | [body] => bodyWidth groups body
  | body :: rest => (bodyWidth groups body).either (branchWidth groups rest)

end

/-- A pattern that has been read. -/
structure Compiled where
  source : String
  flags : Flags
  body : List Item
  /-- How many groups there are, and the names some of them have. -/
  groupCount : Nat
  groupNames : List (String × Nat)
deriving Repr, Inhabited

end LiveShell.Pattern
