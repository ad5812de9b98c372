import LiveShell.Pattern.Reader

/-!
Matching a pattern at a place of a text, and searching for the first place where it matches. Ways to match
are tried in order; what follows an item decides which of its ways is taken.
-/

namespace LiveShell.Pattern

/-- The pieces of the text that groups have matched, the latest first. -/
abbrev Captures := List (Nat × (Nat × Nat))

structure Found where
  start : Nat
  stop : Nat
  captures : Captures
deriving DecidableEq, Repr, Inhabited

def asciiCategory (category : Category) (character : Char) : Bool :=
  let code := character.toNat
  match category with
  | .digit => isAsciiDigit character
  | .space => code = 32 || (9 ≤ code && code ≤ 13)
  | .word => isAsciiDigit character || isAsciiLetter character || character = '_'

def inCategory (flags : Flags) (category : Category) (character : Char) : Bool :=
  if flags.asciiOnly then asciiCategory category character
  else match category with
    | .digit => Text.isDecimalDigit character
    | .space => Text.isSpace character
    | .word => Text.isWordCharacter character

/-- A case form as long as the character itself, or the character. -/
def singleForm (form : Char → List Char) (character : Char) : Char :=
  match form character with
  | [single] => single
  | _ => character

/-- The characters that differ from one in case only, itself included. -/
def caseVariants (flags : Flags) (character : Char) : List Char :=
  if flags.asciiOnly then
    if character.toNat < 0x80 then [character, character.toLower, character.toUpper] else [character]
  else
    let lower := singleForm Text.lowerForm character
    let upper := singleForm Text.upperForm lower
    [character, lower, upper, singleForm Text.lowerForm upper]

/-- Whether two characters are the same for a pattern. -/
def sameCharacter (flags : Flags) (code : Nat) (character : Char) : Bool :=
  if flags.ignoreCase then
    let wanted := caseVariants flags (Char.ofNat code)
    code = character.toNat || (caseVariants flags character).any wanted.contains
  else code = character.toNat

def memberHolds (flags : Flags) (character : Char) : Member → Bool
  | .single code => sameCharacter flags code character
  | .range low high =>
      let holds (character : Char) : Bool := low ≤ character.toNat && character.toNat ≤ high
      if flags.ignoreCase then (caseVariants flags character).any holds else holds character
  | .category category negated => inCategory flags category character != negated

/-- Whether an anchor holds between the characters before and after a place. -/
def anchorHolds (flags : Flags) (text : Array Char) (place : Nat) (anchor : Anchor) : Bool :=
  let isWord (character : Option Char) : Bool := match character with
    | some character => inCategory flags .word character
    | none => false
  let atBoundary : Bool :=
    isWord (if place = 0 then none else text[place - 1]?) != isWord text[place]?
  match anchor with
  | .textStart => place = 0
  | .textEnd => place = text.size
  | .lineStart => place = 0 || (flags.manyLines && text[place - 1]? = some '\n')
  | .lineEnd =>
      place = text.size ||
        (text[place]? = some '\n' && (flags.manyLines || place + 1 = text.size))
  | .boundary => !text.isEmpty && atBoundary
  | .noBoundary => !text.isEmpty && !atBoundary

abbrev Continue := Nat → Captures → Option (Nat × Captures)

mutual

def matchItem (text : Array Char) : Nat → Flags → Item → Nat → Captures → Continue → Option (Nat × Captures)
  | 0, _, _, _, _, _ => none
  | fuel + 1, flags, item, place, captures, next =>
      let step (holds : Char → Bool) : Option (Nat × Captures) :=
        match text[place]? with
        | some character => if holds character then next (place + 1) captures else none
        | none => none
      match item with
      | .single code => step (sameCharacter flags code)
      | .notSingle code => step fun character => !sameCharacter flags code character
      | .any => step fun character => flags.dotMatchesAll || character ≠ '\n'
      | .oneOf negated members =>
          step fun character => members.any (memberHolds flags character) != negated
      | .anchor anchor => if anchorHolds flags text place anchor then next place captures else none
      | .group index added removed body =>
          matchBody text fuel (flags.adjust added removed) body place captures fun stop captures =>
            match index with
            | some index => next stop ((index, (place, stop)) :: captures)
            | none => next stop captures
      | .branch alternatives => matchBranch text fuel flags alternatives place captures next
      | .repeated .possessive low high body =>
          match matchRepeated text fuel flags .greedy low high body none place captures
              fun stop captures => some (stop, captures) with
          | some (stop, captures) => next stop captures
          | none => none
      | .repeated greed low high body =>
          matchRepeated text fuel flags greed low high body none place captures next
      | .reference group =>
          match captures.lookup group with
          | none => none
          | some (start, stop) =>
              let length := stop - start
              let same := (List.range length).all fun offset =>
                match text[start + offset]?, text[place + offset]? with
                | some wanted, some character => sameCharacter flags wanted.toNat character
                | _, _ => false
              if same then next (place + length) captures else none
      | .conditional group yes no =>
          let body := if (captures.lookup group).isSome then yes else no
          matchBody text fuel flags body place captures next
      | .look ahead negated body =>
          let width := (bodyWidth (captures.map fun (index, (start, stop)) =>
            (index, ⟨stop - start, some (stop - start)⟩)) body).least
          let found :=
            if ahead then matchBody text fuel flags body place captures fun stop captures =>
              some (stop, captures)
            else if place < width then none
            else matchBody text fuel flags body (place - width) captures fun stop captures =>
              if stop = place then some (stop, captures) else none
          match found, negated with
          | some (_, captures), false => next place captures
          | none, true => next place captures
          | _, _ => none
      | .atomic body =>
          match matchBody text fuel flags body place captures fun stop captures =>
              some (stop, captures) with
          | some (stop, captures) => next stop captures
          | none => none

def matchBody (text : Array Char) :
    Nat → Flags → List Item → Nat → Captures → Continue → Option (Nat × Captures)
  | 0, _, _, _, _, _ => none
  | _ + 1, _, [], place, captures, next => next place captures
  | fuel + 1, flags, item :: rest, place, captures, next =>
      matchItem text fuel flags item place captures fun place captures =>
        matchBody text fuel flags rest place captures next

def matchBranch (text : Array Char) :
    Nat → Flags → List (List Item) → Nat → Captures → Continue → Option (Nat × Captures)
  | 0, _, _, _, _, _ => none
  | _ + 1, _, [], _, _, _ => none
  | fuel + 1, flags, body :: rest, place, captures, next =>
      (matchBody text fuel flags body place captures next).orElse fun _ =>
        matchBranch text fuel flags rest place captures next

/-- Repeats a body. A round that matched nothing is the last one. -/
def matchRepeated (text : Array Char) :
    Nat → Flags → Greed → Nat → Option Nat → List Item → Option Nat → Nat → Captures → Continue →
      Option (Nat × Captures)
  | 0, _, _, _, _, _, _, _, _, _ => none
  | fuel + 1, flags, greed, low, high, body, last, place, captures, next =>
      let again (_ : Unit) : Option (Nat × Captures) :=
        if high = some 0 || (low = 0 && last = some place) then none
        else matchBody text fuel flags body place captures fun stop captures =>
          matchRepeated text fuel flags greed (low - 1) (high.map (· - 1)) body (some place) stop captures
            next
      if 0 < low then again ()
      else match greed with
        | .lazy => (next place captures).orElse again
        | _ => (again ()).orElse fun _ => next place captures

end

/-- A bound on how deep matching can go: every round of a repetition but the last one takes a character. -/
def matchFuel (compiled : Compiled) (text : Array Char) : Nat :=
  (compiled.source.length + 2) * (text.size + 2) * 8

/-- The match that starts at a place, if there is one. -/
def matchAt (compiled : Compiled) (text : Array Char) (place : Nat) : Option Found :=
  (matchBody text (matchFuel compiled text) compiled.flags compiled.body place []
    fun stop captures => some (stop, captures)).map fun (stop, captures) => ⟨place, stop, captures⟩

/-- The first match from a place on. -/
def searchFrom (compiled : Compiled) (text : Array Char) (place : Nat) : Option Found :=
  if place ≤ text.size then
    match matchAt compiled text place with
    | some found => some found
    | none => searchFrom compiled text (place + 1)
  else none
termination_by text.size + 1 - place

/-- Whether a pattern matches somewhere in a text. -/
def occursIn (compiled : Compiled) (text : String) : Bool :=
  (searchFrom compiled text.toList.toArray 0).isSome

end LiveShell.Pattern
