import GoStructs.Syntax.Pattern
/-! # Rules, words and small patterns of the grammar

A word is a keyword only where the grammar could use that keyword; elsewhere it is an identifier.
So a pattern for an identifier says which words are reserved at its place.

A rule that may end a statement is told so (`ends`): there a line end ends the statement, so
whatever would go on with the construct has to begin on the same row. -/

namespace GoStructs.Syntax

/-- Where an expression stands. -/
structure Site where
  /-- A line end may end the statement that the expression is in. -/
  ends : Bool
  /-- An opening brace behind a type name begins a literal, and not a block. -/
  braces : Bool
  /-- The operators `<-`, `++` and `--` may make a statement of the expression. -/
  acts : Bool
  deriving DecidableEq, Repr

/-- Between delimiters: no line end ends anything. -/
def Site.inner : Site := ⟨false, true, false⟩

/-- Before the block of an `if`, `for` or `switch`. -/
def Site.header : Site := ⟨false, false, false⟩

/-- The rules of the grammar that refer to each other. -/
inductive Rule where
  | type (ends : Bool)
  | simpleType (ends : Bool)
  | bareType
  | parameters
  | result (ends : Bool)
  | binary (site : Site) (level : Nat)
  | unary (site : Site)
  | primary (site : Site)
  | literalValue
  | block
  | statements (inCase : Bool)
  | statement (outermost inCase : Bool)
  | ifStatement
  | declaration

/-- The patterns of this grammar. -/
abbrev Rules := Pattern Rule

namespace Grammar
open Pattern

/-- The words that begin a type. -/
def typeWords : List String := ["struct", "interface", "map", "chan", "func"]

/-- The words that begin an expression. -/
def expressionWords : List String :=
  typeWords ++ ["nil", "true", "false", "iota", "new", "make"]

/-- The words that begin a statement other than an expression. -/
def statementWords : List String :=
  ["const", "type", "var", "return", "go", "defer", "if", "for", "switch", "select",
   "fallthrough", "break", "continue", "goto"]

/-- The words that begin a declaration of the file. -/
def fileWords : List String := ["package", "import"]

/-- The words that begin a further case. -/
def caseWords : List String := ["case", "default"]

/-- An operator or delimiter. -/
def op (s : String) : Rules := leaf (.operator s) (.token s)

/-- A keyword. -/
def kw (s : String) : Rules := leaf (.keyword s) (.token s)

/-- An identifier that is none of the reserved words. -/
def ident (kind : NodeKind) (reserved : List String) : Rules := leaf (.word reserved) (.node kind)

def openBrace : Rules := op "\x7b"
def closeBrace : Rules := op "\x7d"
def comma : Rules := op ","

/-- Where a line end would end the statement, what follows has to begin on the same row. -/
def glue (ends : Bool) : Rules := if ends then sameLine else empty

/-- What may go on with a construct: on the same row where a line end would end the statement. -/
def further (ends : Bool) (p : Rules) : Rules := optional (seq (glue ends) p)

/-- One or more, separated by commas. -/
def commas (p : Rules) : Rules := separated p comma

/-- One or more, separated by commas, and perhaps a comma at the end. -/
def commasTrailing (p : Rules) : Rules := seq (commas p) (optional comma)

/-- Items ended by terminators, of which the last may be left out. -/
def terminated (p : Rules) : Rules :=
  seqs [p, many (seq terminator p), optional terminator]

/-- The end of an item of a list in which every item is ended; it may be supplied. -/
def itemEnd : Rules := either terminator gap

/-- A parenthesised list of items, each of them ended. -/
def itemGroup (p : Rules) : Rules := seqs [op "(", many (seq p itemEnd), op ")"]

/-- A string literal. -/
def stringLiteral : Rules :=
  choice
    [node .interpretedStringLiteral (seqs
      [leaf (.ofKind .openQuote) (.token "\""),
       many (either
        (leaf (.ofKind .quoted) (.node .interpretedStringLiteralContent))
        (leaf (.ofKind .escape) (.node .escapeSequence))),
       leaf (.ofKind .closeQuote) (.token "\"")]),
     node .rawStringLiteral (seqs
      [leaf (.ofKind .openRaw) (.token "\x60"),
       optional (leaf (.ofKind .raw) (.node .rawStringLiteralContent)),
       leaf (.ofKind .closeRaw) (.token "\x60")])]

/-- An expression. -/
def expression (site : Site) : Rules := rule (.binary site 1)

/-- A list of expressions, as a node of its own. -/
def expressions (site : Site) : Rules :=
  node .expressionList (separated (expression site) (seq (glue site.ends) comma))

end Grammar

end GoStructs.Syntax
