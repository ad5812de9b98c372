/-!
The two ends of a string literal: the letters in front of it and its opening quote.
-/

namespace LiveShell.Literal

def letters : List Char := ['r', 'R', 'u', 'U', 'b', 'B', 'f', 'F']

def singleQuote : Char := '\x27'

def doubleQuote : Char := '\x22'

/-- The quote at the start of a text, three characters before one; empty when there is none. -/
def quoteAt : List Char → List Char
  | first :: second :: third :: _ =>
      if first = singleQuote || first = doubleQuote then
        if second = first && third = first then [first, first, first] else [first]
      else []
  | first :: _ => if first = singleQuote || first = doubleQuote then [first] else []
  | [] => []

/-- The letters and the opening quote of a literal; the quote is empty for any other text. -/
def opening (raw : List Char) : List Char × List Char :=
  (raw.takeWhile letters.contains, quoteAt (raw.dropWhile letters.contains))

/-- Bytes and formatted literals are no plain strings. -/
def isPlain (letters : List Char) : Bool :=
  letters.all fun letter => !(['b', 'B', 'f', 'F'].contains letter)

end LiveShell.Literal
