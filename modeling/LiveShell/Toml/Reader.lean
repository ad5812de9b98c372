import LiveShell.Toml.Scalar

/-!
Except Fault (a × List Char) document: one statement after another, each a value under a key or the heading of a table.
-/

namespace LiveShell.Toml

def isBareKey (character : Char) : Bool :=
  isDigit character || ('a' ≤ character && character ≤ 'z') || ('A' ≤ character && character ≤ 'Z') ||
    character = '-' || character = '_'

def readKeyPart (text : List Char) : Except Fault (String × List Char) :=
  match text with
  | first :: _ =>
      if isBareKey first then
        pure (String.ofList (text.takeWhile isBareKey), text.dropWhile isBareKey)
      else readText true text
  | [] => throw .malformed

/-- Parts joined by dots, blanks allowed around them. -/
def readKey : Nat → List Char → Except Fault (Key × List Char)
  | 0, _ => throw .malformed
  | fuel + 1, text => do
      let (part, rest) ← readKeyPart text
      match skipSpaces rest with
      | '.' :: rest =>
          let (parts, rest) ← readKey fuel (skipSpaces rest)
          pure (part :: parts, rest)
      | rest => pure ([part], rest)

/-- What follows a comment, or the text itself. A comment holds no control characters. -/
def skipComment (text : List Char) : Except Fault (List Char) :=
  match text with
  | '#' :: rest =>
      if (rest.takeWhile (· ≠ '\n')).any isControl then throw .malformed
      else pure (rest.dropWhile (· ≠ '\n'))
  | text => pure text

/-- Blanks, line breaks and comments between the items of an array. -/
def skipFiller : Nat → List Char → Except Fault (List Char)
  | 0, text => pure text
  | fuel + 1, text => do
      match skipSpacesAndBreaks text with
      | '#' :: rest => skipFiller fuel (← skipComment ('#' :: rest))
      | rest => pure rest

mutual

def readValue : Nat → List Char → Except Fault (Value × List Char)
  | 0, _ => throw .malformed
  | fuel + 1, text =>
      match text with
      | '\x22' :: _ | '\x27' :: _ => (fun (found, rest) => (.text found, rest)) <$> readText false text
      | '[' :: rest => do
          let rest ← skipFiller (rest.length + 1) rest
          match rest with
          | ']' :: rest => pure (.list [], rest)
          | rest => readItems fuel [] rest
      | '\x7b' :: rest =>
          match skipSpaces rest with
          | '\x7d' :: rest => pure (.table [], rest)
          | rest => readInline fuel Draft.empty rest
      | text => readBare text

def readItems : Nat → List Value → List Char → Except Fault (Value × List Char)
  | 0, _, _ => throw .malformed
  | fuel + 1, done, text => do
      let (item, rest) ← readValue fuel text
      let rest ← skipFiller (rest.length + 1) rest
      match rest with
      | ']' :: rest => pure (.list (item :: done).reverse, rest)
      | ',' :: rest =>
          let rest ← skipFiller (rest.length + 1) rest
          match rest with
          | ']' :: rest => pure (.list (item :: done).reverse, rest)
          | rest => readItems fuel (item :: done) rest
      | _ => throw .malformed

/-- The rest of a table written in place. -/
def readInline : Nat → Draft → List Char → Except Fault (Value × List Char)
  | 0, _, _ => throw .malformed
  | fuel + 1, draft, text => do
      let (key, rest) ← readKey (text.length + 1) text
      match rest with
      | '=' :: rest =>
          let (value, rest) ← readValue fuel (skipSpaces rest)
          if draft.isFrozen key then throw .malformed
          let name := key.getLastD ""
          match adjust false key.dropLast (putNew name value) draft.content with
          | none => throw .malformed
          | some content =>
              match skipSpaces rest with
              | '\x7d' :: rest => pure (.table content, rest)
              | ',' :: rest =>
                  readInline fuel
                    { draft with
                      content := content
                      frozen := if value.isNest then draft.frozen ++ [key] else draft.frozen }
                    (skipSpaces rest)
              | _ => throw .malformed
      | _ => throw .malformed

end

/-- The rest of a heading after its opening brackets. -/
def readHeading (closing : List Char) (text : List Char) : Except Fault (Key × List Char) := do
  let text := skipSpaces text
  let (key, rest) ← readKey (text.length + 1) text
  if closing.isPrefixOf rest then pure (key, rest.drop closing.length) else throw .malformed

/-- The end of a line after a statement: a comment may stand there and nothing else. -/
def endLine (text : List Char) : Except Fault (List Char) := do
  match ← skipComment (skipSpaces text) with
  | [] => pure []
  | '\n' :: rest => pure rest
  | _ => throw .malformed

def orMalformed (draft : Option Draft) : Except Fault Draft :=
  match draft with
  | some draft => pure draft
  | none => throw .malformed

def readStatements : Nat → Draft → Key → List Char → Except Fault Table
  | 0, draft, _, _ => pure draft.content
  | fuel + 1, draft, heading, text =>
      match skipSpaces text with
      | [] => pure draft.content
      | '[' :: '[' :: rest => do
          let draft := draft.closeDotted
          let (key, rest) ← readHeading [']', ']'] rest
          let draft ← orMalformed (draft.openElement key)
          readStatements fuel draft key (← endLine rest)
      | '[' :: rest => do
          let draft := draft.closeDotted
          let (key, rest) ← readHeading [']'] rest
          let draft ← orMalformed (draft.openTable key)
          readStatements fuel draft key (← endLine rest)
      | first :: rest => do
          if isBareKey first || first = '\x22' || first = '\x27' then
            let (key, rest) ← readKey (rest.length + 2) (first :: rest)
            match rest with
            | '=' :: rest =>
                let (value, rest) ← readValue (rest.length + 2) (skipSpaces rest)
                let draft ← orMalformed (draft.assign heading key value)
                readStatements fuel draft heading (← endLine rest)
            | _ => throw .malformed
          else readStatements fuel draft heading (← endLine (first :: rest))

/-- Line breaks of any kind become one character. -/
def unifyBreaks : List Char → List Char
  | '\r' :: '\n' :: rest => '\n' :: unifyBreaks rest
  | '\r' :: rest => '\n' :: unifyBreaks rest
  | character :: rest => character :: unifyBreaks rest
  | [] => []

/-- The table that a document describes. -/
def read (document : String) : Except Fault Table :=
  let text := unifyBreaks document.toList
  readStatements (text.length + 1) Draft.empty [] text

end LiveShell.Toml
