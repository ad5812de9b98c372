import LiveShell.Source.Token

/-!
The grammar of the shell's language as one regular pattern of symbols per phrase. A state of the parser is
the pattern of what may still follow, and a symbol moves it to its derivative, so no automaton is built.
The grammar needs one token of look-ahead: the symbols that can start a phrase decide which phrase starts.
-/

namespace LiveShell.Source

/-- The phrases of the language. No phrase is empty. -/
inductive Phrase
  | file | statement | simpleStatement | smallStatement | compoundStatement | suite
  | decorator | decorators | decorated | asyncFunction | function | parameters | typedParameters
  | typedParameter | plainParameters | plainParameter
  | expressionStatement | annotatedAssignment | starredTests | augmentedAssignment | deletion | passing
  | flow | breaking | continuing | returning | yielding | raising | importing | importNames | importFrom
  | importedName | importedDottedName | importedNames | importedDottedNames | dottedName
  | globalNames | nonlocalNames | assertion
  | asyncStatement | conditional | whileLoop | forLoop | guarded | withBlock | withItem | exceptClause
  | namedTest | test | lambda | orTest | andTest | notTest | comparison | comparisonOperator
  | starExpression | expression | xorExpression | andExpression | shiftExpression | sum | term | factor
  | power | atomExpression | atom | bracketed | trailer | subscripts | subscript | sliceStep
  | expressions | tests | entries | classDefinition | arguments | argument
  | clauseTail | bareForClause | forClause | ifClause | yieldExpression | yieldArgument
  | strings | formatted | formattedPart | formattedConversion | formattedField | formattedSpecification
deriving DecidableEq, Repr, Inhabited, Hashable

inductive Symbol
  | word (text : String)
  | token (kind : TokenKind)
  | phrase (phrase : Phrase)
deriving DecidableEq, Repr, Inhabited

/-- Regular patterns of symbols. -/
inductive Pattern
  | never
  | done
  | one (symbol : Symbol)
  | followed (first second : Pattern)
  | either (first second : Pattern)
  | repeated (body : Pattern)
deriving Repr, Inhabited

namespace Pattern

def chain : List Pattern → Pattern
  | [] => done
  | [last] => last
  | first :: rest => followed first (chain rest)

def choice : List Pattern → Pattern
  | [] => never
  | [last] => last
  | first :: rest => either first (choice rest)

def optional (body : Pattern) : Pattern := either body done

def atLeastOnce (body : Pattern) : Pattern := followed body (repeated body)

/-- One or more of a body with separators between them, and perhaps one at the end. -/
def listed (body separator : Pattern) : Pattern :=
  chain [body, repeated (followed separator body)]

def accepts : Pattern → Bool
  | never => false
  | done => true
  | one _ => false
  | followed first second => first.accepts && second.accepts
  | either first second => first.accepts || second.accepts
  | repeated _ => true

/-- The symbols that can come first. -/
def starts : Pattern → List Symbol
  | never => []
  | done => []
  | one symbol => [symbol]
  | followed first second => if first.accepts then first.starts ++ second.starts else first.starts
  | either first second => first.starts ++ second.starts
  | repeated body => body.starts

def join : Pattern → Pattern → Pattern
  | never, _ => never
  | done, second => second
  | first, second => followed first second

def merge : Pattern → Pattern → Pattern
  | never, second => second
  | first, never => first
  | first, second => either first second

/-- What may follow a symbol. -/
def after (symbol : Symbol) : Pattern → Pattern
  | never => never
  | done => never
  | one only => if only = symbol then done else never
  | followed first second =>
      let inside := join (after symbol first) second
      if first.accepts then merge inside (after symbol second) else inside
  | either first second => merge (after symbol first) (after symbol second)
  | repeated body => join (after symbol body) (repeated body)

end Pattern

open Pattern

/-- Spells a pattern: words in quotes stand for themselves. -/
def word (text : String) : Pattern := one (.word text)

def name : Pattern := one (.token .name)

def ofKind (kind : TokenKind) : Pattern := one (.token kind)

def sub (phrase : Phrase) : Pattern := one (.phrase phrase)

def newline : Pattern := ofKind .newline

def words (texts : List String) : Pattern := choice (texts.map word)

/-- `, x` any number of times, and perhaps a comma at the end. -/
def moreAfterComma (body : Pattern) : List Pattern :=
  [repeated (followed (word ",") body), optional (word ",")]

def defaulted (parameter : Phrase) : Pattern :=
  followed (sub parameter) (optional (followed (word "=") (sub .test)))

/-- The starred part of a parameter list. -/
def starredParameters (parameter : Phrase) : Pattern :=
  let keywordRest := chain [word "**", sub parameter, optional (word ",")]
  either
    (chain [word "*", optional (sub parameter), repeated (followed (word ",") (defaulted parameter)),
      optional (followed (word ",") (optional keywordRest))])
    keywordRest

/-- Parameters with defaults, one `/` among them, and the starred part. -/
def parameterPattern (parameter : Phrase) : Pattern :=
  let plain := defaulted parameter
  let starred := starredParameters parameter
  let afterSlash := optional (followed (word ",") (optional (either
    (chain [plain, repeated (followed (word ",") plain),
      optional (followed (word ",") (optional starred))])
    starred)))
  either
    (chain [plain, repeated (followed (word ",") plain),
      optional (followed (word ",") (optional (either (followed (word "/") afterSlash) starred)))])
    starred

/-- An operator between operands of one phrase. -/
def infixed (operand : Phrase) (operators : List String) : Pattern :=
  followed (sub operand) (repeated (followed (words operators) (sub operand)))

def blockAfter (head : List Pattern) : List Pattern := head ++ [word ":", sub .suite]

def otherwise : Pattern := optional (chain (blockAfter [word "else"]))

/-- What may follow the words of each phrase. -/
def Phrase.pattern : Phrase → Pattern
  | file => followed (repeated (sub statement)) (ofKind .finish)
  | statement => choice [sub simpleStatement, sub compoundStatement, newline]
  | simpleStatement =>
      chain [sub smallStatement, repeated (followed (word ";") (sub smallStatement)),
        optional (word ";"), newline]
  | smallStatement =>
      choice ([expressionStatement, deletion, passing, flow, importing, globalNames, nonlocalNames,
        assertion].map sub)
  | compoundStatement =>
      choice ([conditional, whileLoop, forLoop, guarded, withBlock, function, classDefinition, decorated,
        asyncStatement].map sub)
  | suite =>
      either (sub simpleStatement)
        (chain [newline, ofKind .indent, atLeastOnce (sub statement), ofKind .dedent])
  | decorator => chain [word "@", sub namedTest, newline]
  | decorators => atLeastOnce (sub decorator)
  | decorated => followed (sub decorators) (choice ([classDefinition, function, asyncFunction].map sub))
  | asyncFunction => followed (word "async") (sub function)
  | function =>
      chain (blockAfter [word "def", name, sub parameters,
        optional (followed (word "->") (sub test))])
  | parameters => chain [word "(", optional (sub typedParameters), word ")"]
  | typedParameters => parameterPattern typedParameter
  | typedParameter => followed name (optional (followed (word ":") (sub test)))
  | plainParameters => parameterPattern plainParameter
  | plainParameter => name
  | expressionStatement =>
      followed (sub starredTests) (choice [sub annotatedAssignment,
        followed (sub augmentedAssignment) (either (sub yieldExpression) (sub tests)),
        repeated (followed (word "=") (either (sub yieldExpression) (sub starredTests)))])
  | annotatedAssignment =>
      chain [word ":", sub test,
        optional (followed (word "=") (either (sub yieldExpression) (sub starredTests)))]
  | starredTests =>
      let item := either (sub test) (sub starExpression)
      chain (item :: moreAfterComma item)
  | augmentedAssignment =>
      words ["+=", "-=", "*=", "@=", "/=", "%=", "&=", "|=", "^=", "<<=", ">>=", "**=", "//="]
  | deletion => followed (word "del") (sub expressions)
  | passing => word "pass"
  | flow => choice ([breaking, continuing, returning, raising, yielding].map sub)
  | breaking => word "break"
  | continuing => word "continue"
  | returning => followed (word "return") (optional (sub starredTests))
  | yielding => sub yieldExpression
  | raising =>
      followed (word "raise")
        (optional (followed (sub test) (optional (followed (word "from") (sub test)))))
  | importing => either (sub importNames) (sub importFrom)
  | importNames => followed (word "import") (sub importedDottedNames)
  | importFrom =>
      let dots := words [".", "..."]
      chain [word "from",
        either (followed (repeated dots) (sub dottedName)) (atLeastOnce dots),
        word "import",
        choice [word "*", chain [word "(", sub importedNames, word ")"], sub importedNames]]
  | importedName => followed name (optional (followed (word "as") name))
  | importedDottedName => followed (sub dottedName) (optional (followed (word "as") name))
  | importedNames => chain (sub importedName :: moreAfterComma (sub importedName))
  | importedDottedNames => listed (sub importedDottedName) (word ",")
  | dottedName => listed name (word ".")
  | globalNames => followed (word "global") (listed name (word ","))
  | nonlocalNames => followed (word "nonlocal") (listed name (word ","))
  | assertion => chain [word "assert", sub test, optional (followed (word ",") (sub test))]
  | asyncStatement => followed (word "async") (choice ([function, withBlock, forLoop].map sub))
  | conditional =>
      chain (blockAfter [word "if", sub namedTest] ++
        [repeated (chain (blockAfter [word "elif", sub namedTest])), otherwise])
  | whileLoop => chain (blockAfter [word "while", sub namedTest] ++ [otherwise])
  | forLoop =>
      chain (blockAfter [word "for", sub expressions, word "in", sub tests] ++ [otherwise])
  | guarded =>
      let finallyBlock := chain (blockAfter [word "finally"])
      chain (blockAfter [word "try"] ++
        [either
          (chain [atLeastOnce (chain (blockAfter [sub exceptClause])), otherwise, optional finallyBlock])
          finallyBlock])
  | withBlock => chain (blockAfter [word "with", listed (sub withItem) (word ",")])
  | withItem => followed (sub test) (optional (followed (word "as") (sub expression)))
  | exceptClause =>
      followed (word "except")
        (optional (followed (sub test) (optional (followed (word "as") name))))
  | namedTest => followed (sub test) (optional (followed (word ":=") (sub test)))
  | test =>
      either
        (followed (sub orTest)
          (optional (chain [word "if", sub orTest, word "else", sub test])))
        (sub lambda)
  | lambda => chain [word "lambda", optional (sub plainParameters), word ":", sub test]
  | orTest => infixed andTest ["or"]
  | andTest => infixed notTest ["and"]
  | notTest => either (followed (word "not") (sub notTest)) (sub comparison)
  | comparison =>
      followed (sub expression) (repeated (followed (sub comparisonOperator) (sub expression)))
  | comparisonOperator =>
      choice [words ["<", ">", "==", ">=", "<=", "<>", "!=", "in"], followed (word "not") (word "in"),
        followed (word "is") (optional (word "not"))]
  | starExpression => followed (word "*") (sub expression)
  | expression => infixed xorExpression ["|"]
  | xorExpression => infixed andExpression ["^"]
  | andExpression => infixed shiftExpression ["&"]
  | shiftExpression => infixed sum ["<<", ">>"]
  | sum => infixed term ["+", "-"]
  | term => infixed factor ["*", "@", "/", "%", "//"]
  | factor => either (followed (words ["+", "-", "~"]) (sub factor)) (sub power)
  | power => followed (sub atomExpression) (optional (followed (word "**") (sub factor)))
  | atomExpression => chain [optional (word "await"), sub atom, repeated (sub trailer)]
  | atom =>
      choice [chain [word "(", optional (either (sub yieldExpression) (sub bracketed)), word ")"],
        chain [word "[", optional (sub bracketed), word "]"],
        chain [word "\x7b", optional (sub entries), word "\x7d"],
        name, ofKind .number, sub strings, words ["...", "None", "True", "False"]]
  | bracketed =>
      let item := either (sub namedTest) (sub starExpression)
      followed item (either (sub forClause) (chain (moreAfterComma item)))
  | trailer =>
      choice [chain [word "(", optional (sub arguments), word ")"],
        chain [word "[", sub subscripts, word "]"], followed (word ".") name]
  | subscripts => chain (sub subscript :: moreAfterComma (sub subscript))
  | subscript =>
      either
        (followed (sub test) (either (followed (word ":=") (sub test))
          (optional (chain [word ":", optional (sub test), optional (sub sliceStep)]))))
        (chain [word ":", optional (sub test), optional (sub sliceStep)])
  | sliceStep => followed (word ":") (optional (sub test))
  | expressions =>
      let item := either (sub expression) (sub starExpression)
      chain (item :: moreAfterComma item)
  | tests => chain (sub test :: moreAfterComma (sub test))
  | entries =>
      let unpacked := followed (word "**") (sub expression)
      let pair := chain [sub test, word ":", sub test]
      let entry := either pair unpacked
      let element := either (followed (sub test) (optional (followed (word ":=") (sub test))))
        (sub starExpression)
      let rest (item : Pattern) := either (sub forClause) (chain (moreAfterComma item))
      choice [
        followed (sub test) (either
          (chain [word ":", sub test, rest entry])
          (followed (optional (followed (word ":=") (sub test))) (rest element))),
        followed unpacked (rest entry),
        followed (sub starExpression) (rest element)]
  | classDefinition =>
      chain (blockAfter [word "class", name,
        optional (chain [word "(", optional (sub arguments), word ")"])])
  | arguments => chain (sub argument :: moreAfterComma (sub argument))
  | argument =>
      choice [
        followed (sub test) (optional (choice [sub forClause, followed (word ":=") (sub test),
          followed (word "=") (sub test)])),
        followed (words ["**", "*"]) (sub test)]
  | clauseTail => either (sub forClause) (sub ifClause)
  | bareForClause =>
      chain [word "for", sub expressions, word "in", sub orTest, optional (sub clauseTail)]
  | forClause => followed (optional (word "async")) (sub bareForClause)
  | ifClause => chain [word "if", sub orTest, optional (sub clauseTail)]
  | yieldExpression => followed (word "yield") (optional (sub yieldArgument))
  | yieldArgument => either (followed (word "from") (sub test)) (sub starredTests)
  | strings => atLeastOnce (either (ofKind .string) (sub formatted))
  | formatted =>
      chain [ofKind .formattedStart, repeated (sub formattedPart), ofKind .formattedEnd]
  | formattedPart => either (ofKind .formattedText) (sub formattedField)
  | formattedConversion => followed (word "!") name
  | formattedField =>
      chain [word "\x7b", either (sub bracketed) (sub yieldExpression), optional (word "="),
        optional (sub formattedConversion), optional (sub formattedSpecification), word "\x7d"]
  | formattedSpecification => followed (word ":") (repeated (sub formattedPart))

def allPhrases : List Phrase :=
  [.file, .statement, .simpleStatement, .smallStatement, .compoundStatement, .suite,
   .decorator, .decorators, .decorated, .asyncFunction, .function, .parameters, .typedParameters,
   .typedParameter, .plainParameters, .plainParameter,
   .expressionStatement, .annotatedAssignment, .starredTests, .augmentedAssignment, .deletion, .passing,
   .flow, .breaking, .continuing, .returning, .yielding, .raising, .importing, .importNames, .importFrom,
   .importedName, .importedDottedName, .importedNames, .importedDottedNames, .dottedName,
   .globalNames, .nonlocalNames, .assertion,
   .asyncStatement, .conditional, .whileLoop, .forLoop, .guarded, .withBlock, .withItem, .exceptClause,
   .namedTest, .test, .lambda, .orTest, .andTest, .notTest, .comparison, .comparisonOperator,
   .starExpression, .expression, .xorExpression, .andExpression, .shiftExpression, .sum, .term, .factor,
   .power, .atomExpression, .atom, .bracketed, .trailer, .subscripts, .subscript, .sliceStep,
   .expressions, .tests, .entries, .classDefinition, .arguments, .argument,
   .clauseTail, .bareForClause, .forClause, .ifClause, .yieldExpression, .yieldArgument,
   .strings, .formatted, .formattedPart, .formattedConversion, .formattedField, .formattedSpecification]

/-- The words and token kinds that can start a phrase, looked for at most `depth` phrases deep. -/
def Phrase.firstWithin : Nat → Phrase → List Symbol
  | 0, _ => []
  | depth + 1, phrase => phrase.pattern.starts.flatMap fun symbol =>
      match symbol with
      | .phrase inner => firstWithin depth inner
      | symbol => [symbol]

/-- No chain of first phrases is longer than this. -/
def phraseDepth : Nat := 40

/-- The starting symbols of all phrases, in the order of `allPhrases`. -/
def firstSymbols : Array (List Symbol) :=
  (allPhrases.map fun phrase => (phrase.firstWithin phraseDepth).eraseDups).toArray

def Phrase.first (phrase : Phrase) : List Symbol := firstSymbols.getD phrase.ctorIdx []

/-- The words of the grammar: a name or operator with such a text is that word. -/
def Pattern.wordsIn : Pattern → List String
  | .never | .done => []
  | .one (.word text) => [text]
  | .one _ => []
  | .followed first second | .either first second => first.wordsIn ++ second.wordsIn
  | .repeated body => body.wordsIn

def grammarWords : List String := (allPhrases.flatMap fun phrase => phrase.pattern.wordsIn).eraseDups

/-- The symbol that the grammar sees in a token. -/
def Token.symbol (token : Token) : Symbol :=
  let text := String.ofList token.text
  if (token.kind = .name || token.kind = .operator) && grammarWords.contains text then .word text
  else .token token.kind

end LiveShell.Source
