/-!
Sets of characters as sorted ranges of code points, written down as text: two numbers to base 36 for each
range, how far it starts after the last one ends and how far it reaches.
-/

namespace LiveShell.Text

/-- The value of a number to base 36 written in digits and small letters. -/
def readBase36 (digits : List Char) : Nat :=
  digits.foldl (fun value digit =>
    value * 36 + (if digit.isDigit then digit.toNat - 48 else digit.toNat - 87)) 0

/-- The pieces between the occurrences of a character; there is always one piece more than occurrences. -/
def splitAtEach (mark : Char) : List Char → List (List Char)
  | [] => [[]]
  | character :: rest =>
      if character = mark then [] :: splitAtEach mark rest
      else match splitAtEach mark rest with
        | [] => [[character]]
        | piece :: pieces => (character :: piece) :: pieces

/-- The pieces between spaces and line breaks, empty ones left out. -/
def splitAtSpaces (text : List Char) : List (List Char) :=
  (splitAtEach ' ' (text.map fun character => if character = '\n' then ' ' else character)).filter
    fun piece => !piece.isEmpty

/-- Ranges of code points, ends included, each beginning after the one before it ends. -/
structure Ranges where
  bounds : Array (Nat × Nat)
deriving Inhabited

def Ranges.ofText (text : String) : Ranges :=
  let rec read (last : Nat) : List (List Char) → List (Nat × Nat)
    | gap :: length :: rest =>
        let first := last + readBase36 gap
        (first, first + readBase36 length) :: read (first + readBase36 length) rest
    | _ => []
  ⟨(read 0 (splitAtSpaces text.toList)).toArray⟩

/-- The range around a code point, sought by halving between two indices. -/
def Ranges.search? (ranges : Ranges) (code low high : Nat) : Option (Nat × Nat) :=
  if low < high then
    let middle := (low + high) / 2
    match ranges.bounds[middle]? with
    | none => none
    | some (first, last) =>
        if code < first then ranges.search? code low middle
        else if last < code then ranges.search? code (middle + 1) high
        else some (first, last)
  else none
termination_by high - low

def Ranges.find? (ranges : Ranges) (code : Nat) : Option (Nat × Nat) :=
  ranges.search? code 0 ranges.bounds.size

def Ranges.contains (ranges : Ranges) (code : Nat) : Bool := (ranges.find? code).isSome

/-- How far a code point lies behind the start of its range. -/
def Ranges.offset? (ranges : Ranges) (code : Nat) : Option Nat :=
  (ranges.find? code).map fun (first, _) => code - first

end LiveShell.Text
