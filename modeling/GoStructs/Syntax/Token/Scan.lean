import GoStructs.Syntax.Token.Numeral
import GoStructs.Text.Word
/-! # Reading tokens

The text is cut, from the start on, into pieces: tokens and stretches of white space.  No
character is lost: the pieces, one behind the other, are the text.  Of several tokens that could
begin at one place the longest is taken. -/

namespace GoStructs.Syntax

/-- A piece of the text: white space, or a token of some kind. -/
structure Piece where
  kind : Option TokenKind
  chars : List Char

namespace Piece

open Text (fixedDigits? isDigitOf)

/-- White space within a row. -/
def isSpace (c : Char) : Bool :=
  c == ' ' || c == '\t' || c == '\x0b' || c == '\x0c' || c == '\r'

/-- The operators and delimiters, longer ones first. -/
def operators : List String :=
  ["<<=", ">>=", "&^=", "...",
   "<-", "++", "--", ":=", "==", "!=", "<=", ">=", "&&", "||", "<<", ">>", "&^",
   "+=", "-=", "*=", "/=", "%=", "&=", "|=", "^=",
   "+", "-", "*", "/", "%", "&", "|", "^", "<", ">", "=", "!", "~",
   "(", ")", "[", "]", "\x7b", "\x7d", ",", ";", ".", ":"]

/-- The longest operator at the start of the text. -/
def operator? (s : List Char) : Option Piece :=
  (operators.find? fun op => op.toList.isPrefixOf s).map fun op => ⟨some .operator, op.toList⟩

/-- The text up to and including the first `*/`. -/
def untilClose : List Char → Option (List Char)
  | '*' :: '/' :: _ => some ['*', '/']
  | c :: r => (untilClose r).map (c :: ·)
  | [] => none

/-- A comment to the end of the row, or to the closing mark. -/
def comment? : List Char → Option Piece
  | '/' :: '/' :: r => some ⟨some .comment, '/' :: '/' :: r.takeWhile (· != '\n')⟩
  | '/' :: '*' :: r => (untilClose r).map fun body => ⟨some .comment, '/' :: '*' :: body⟩
  | _ => none

/-- The characters behind the backslash of an escape in an interpreted string. -/
def escapeBody? : List Char → Option (List Char)
  | [] => none
  | 'x' :: r =>
    let ds := r.takeWhile (isDigitOf 16)
    if 2 ≤ ds.length then some ('x' :: ds) else none
  | 'u' :: r => (fixedDigits? 16 4 r).map ('u' :: ·)
  | 'U' :: r => (fixedDigits? 16 8 r).map ('U' :: ·)
  | c :: r => if c.isDigit then some ((c :: r).take 3 |>.takeWhile Char.isDigit) else some [c]

/-- The inside of an interpreted string, with its closing mark if there is one on the row. -/
def quotedPieces : Nat → List Char → List Piece
  | 0, _ => []
  | fuel + 1, s =>
    match s with
    | [] => []
    | '"' :: _ => [⟨some .closeQuote, ['"']⟩]
    | '\n' :: _ => []
    | '\\' :: r =>
      match escapeBody? r with
      | some body => ⟨some .escape, '\\' :: body⟩ :: quotedPieces fuel (r.drop body.length)
      | none => []
    | _ =>
      let run := s.takeWhile fun c => c != '"' && c != '\n' && c != '\\'
      ⟨some .quoted, run⟩ :: quotedPieces fuel (s.drop run.length)

/-- The inside of a raw string, with its closing mark if there is one. -/
def rawPieces (s : List Char) : List Piece :=
  let body := s.takeWhile (· != '\x60')
  let inside := if body.isEmpty then [] else [⟨some .raw, body⟩]
  match s.drop body.length with
  | [] => inside
  | _ :: _ => inside ++ [⟨some .closeRaw, ['\x60']⟩]

/-- The characters of a rune literal between its quotation marks. -/
def runeBody? : List Char → Option (List Char)
  | '\\' :: 'x' :: r => (fixedDigits? 16 2 r).map ('\\' :: 'x' :: ·)
  | '\\' :: 'u' :: r => (fixedDigits? 16 4 r).map ('\\' :: 'u' :: ·)
  | '\\' :: 'U' :: r => (fixedDigits? 16 8 r).map ('\\' :: 'U' :: ·)
  | '\\' :: c :: r =>
    if ['a', 'b', 'f', 'n', 'r', 't', 'v', '\\', '\'', '"'].contains c then some ['\\', c]
    else (fixedDigits? 8 3 (c :: r)).map ('\\' :: ·)
  | ['\\'] => none
  | '\'' :: _ => none
  | c :: _ => some [c]
  | [] => none

/-- A rune literal. -/
def rune? : List Char → Option Piece
  | '\'' :: r =>
    match runeBody? r with
    | some body =>
      match r.drop body.length with
      | '\'' :: _ => some ⟨some .rune, '\'' :: body ++ ['\'']⟩
      | _ => none
    | none => none
  | _ => none

/-- A numeral: a digit begins it, or a point with a digit behind. -/
def numeral? (s : List Char) : Option Piece :=
  (Numeral.longest? s).map fun (kind, rest) => ⟨some kind, s.take (s.length - rest.length)⟩

/-- A word. -/
def word? : List Char → Option Piece
  | c :: r => if Text.isWordStart c then some ⟨some .word, c :: r.takeWhile Text.isWordPart⟩
    else none
  | [] => none

/-- A token of one piece that is neither a string nor blank. -/
def simple? (s : List Char) : Option Piece :=
  comment? s <|> word? s <|> numeral? s <|> rune? s <|> operator? s

/-- The pieces at the start of a text that begins with `c`: one piece, or those of a string. -/
def next (c : Char) (r : List Char) : List Piece :=
  if c == '\n' then [⟨some .lineEnd, [c]⟩]
  else if isSpace c then [⟨none, c :: r.takeWhile isSpace⟩]
  else if c == '\x00' then [⟨some .nul, [c]⟩]
  else if c == '"' then ⟨some .openQuote, [c]⟩ :: quotedPieces r.length r
  else if c == '\x60' then ⟨some .openRaw, [c]⟩ :: rawPieces r
  else match simple? (c :: r) with
    | some p => [p]
    | none => [⟨some .stray, [c]⟩]

/-- The number of characters of some pieces. -/
def count (ps : List Piece) : Nat := (ps.flatMap Piece.chars).length

end Piece

/-- The tokens among some pieces of which the first stands at `p`. -/
def Token.ofPieces (p : Position) : List Piece → List Token
  | [] => []
  | piece :: rest =>
    let q := p.skip piece.chars
    match piece.kind with
    | none => Token.ofPieces q rest
    | some kind => ⟨kind, String.ofList piece.chars, p, q⟩ :: Token.ofPieces q rest

/-- The pieces of a text, given at least as much fuel as it has characters. -/
def Piece.all : Nat → List Char → List Piece
  | 0, _ => []
  | _ + 1, [] => []
  | fuel + 1, c :: r =>
    let ps := Piece.next c r
    ps ++ Piece.all fuel ((c :: r).drop (Piece.count ps))

/-- The tokens of a text.  A byte order mark at its very start counts as white space. -/
def Token.scan (s : List Char) : List Token :=
  match s with
  | '\ufeff' :: r => Token.ofPieces (Position.origin.next '\ufeff') (Piece.all r.length r)
  | _ => Token.ofPieces Position.origin (Piece.all s.length s)

end GoStructs.Syntax
