/-!
Tokens of a partially typed source. Scanning never fails: a character that starts no token becomes a
`stray` one. `spacing` holds the blanks, comments and line continuations before a token, so spacings and
texts in order give the source back.
-/

namespace LiveShell.Source

inductive TokenKind
  | name
  | number
  | string
  | operator
  | newline
  | indent
  | dedent
  /-- An indentation between two levels that are open. -/
  | misindent
  /-- A character, or an unterminated string literal, that starts no token. -/
  | stray
  | formattedStart
  | formattedText
  | formattedEnd
  | finish
deriving DecidableEq, Repr, Inhabited

structure Token where
  kind : TokenKind
  text : List Char
  line : Nat
  column : Nat
  spacing : List Char
deriving Repr, Inhabited

/-- Words that are never names. -/
def keywords : List String :=
  ["False", "None", "True", "and", "as", "assert", "async", "await", "break", "class", "continue",
   "def", "del", "elif", "else", "except", "finally", "for", "from", "global", "if", "import", "in",
   "is", "lambda", "nonlocal", "not", "or", "pass", "raise", "return", "try", "while", "with", "yield"]

def isKeyword (text : List Char) : Bool := keywords.contains (String.ofList text)

end LiveShell.Source
