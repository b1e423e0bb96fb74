import GoStructs.Source.Position
/-! # Tokens

A source text is read as a sequence of tokens.  Comments and line ends are tokens too: a line end
may end a statement, and a comment is a node of the syntax tree.  White space within a row is not
a token. -/

namespace GoStructs.Syntax

/-- What a token is, before the grammar gives it a part to play. -/
inductive TokenKind where
  /-- An identifier or a keyword. -/
  | word
  | int | float | imaginary | rune
  /-- An operator or a delimiter. -/
  | operator
  /-- The parts of an interpreted string. -/
  | openQuote | quoted | escape | closeQuote
  /-- The parts of a raw string. -/
  | openRaw | raw | closeRaw
  | comment
  | lineEnd
  /-- The NUL character, which ends a statement like a line end. -/
  | nul
  /-- A character that begins no token. -/
  | stray
  deriving DecidableEq, Repr, Inhabited

/-- A token: its kind, its text and where it stands. -/
structure Token where
  kind : TokenKind
  text : String
  start : Position
  stop : Position
  deriving DecidableEq, Repr, Inhabited

end GoStructs.Syntax
