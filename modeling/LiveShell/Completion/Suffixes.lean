/-!
Completions are suffixes: what is still to be typed after what stands there. And the two questions about a
string literal that completing inside one asks: where its payload starts, and whether it is finished.
-/

namespace LiveShell.Completion

/-- The text after a prefix, if it stands there. -/
def after? (typed candidate : List Char) : Option (List Char) :=
  if typed.isPrefixOf candidate then some (candidate.drop typed.length) else none

/-- Each item once, where it stands first. -/
def firstOccurrences [BEq α] : List α → List α
  | [] => []
  | item :: rest => item :: (firstOccurrences rest).filter fun other => !(other == item)

/-- What the candidates that go on from a text add to it, without empty additions and repetitions. -/
def suffixesAfter (candidates : List String) (typed : String) : List String :=
  firstOccurrences <|
    candidates.filterMap fun candidate =>
      match after? typed.toList candidate.toList with
      | some (character :: rest) => some (String.ofList (character :: rest))
      | _ => none

/-- Letters that may stand before the quote of a literal. -/
def isLiteralLetter (character : Char) : Bool :=
  ['r', 'R', 'b', 'B', 'u', 'U', 'f', 'F'].contains character

/-- The quote that opens a text: three of a kind before one. -/
def quoteAt (text : List Char) : List Char :=
  (["\x22\x22\x22", "\x27\x27\x27", "\x22", "\x27"].map String.toList).find? (·.isPrefixOf text) |>.getD []

/-- The letters before a literal's quote and the quote; no quote when the text is no literal. -/
def literalOpening (raw : List Char) : List Char × List Char :=
  let letters := raw.takeWhile isLiteralLetter
  (letters, quoteAt (raw.drop letters.length))

/-- Whether a text opens and closes with the same quote. -/
def isFinishedLiteral (raw : List Char) : Bool :=
  let (letters, quote) := literalOpening raw
  let body := raw.drop letters.length
  !quote.isEmpty && 2 * quote.length ≤ body.length && quote.isSuffixOf body

end LiveShell.Completion
