import GoStructs.Syntax.Token
import GoStructs.Syntax.Tree
/-! # Patterns

A grammar is a table of patterns, one for each of its rules.  A pattern describes the tokens that
a construct is made of and, at the same time, the syntax trees that stand for it.  Reading a
pattern is deterministic: of two alternatives the first that fits is taken.

Comments fit everywhere.  A comment becomes part of the smallest construct that has tokens on both
sides of it.  Line ends are read as tokens only where a pattern asks for the end of a statement;
elsewhere they are white space.

## Readings

A `Reading` is what has been read so far in the construct at hand, as trees, and what is left to
read.  `Pattern.read` carries one more number: how far into the text any pattern has looked.  A
statement's end may be supplied (`gap`) only at the place where no pattern got any further, since
only there does the text fail to fit every construct that it could have been; and not beside
another change of the text. -/

namespace GoStructs.Syntax

/-- What a pattern asks of one token. -/
inductive Terminal where
  /-- A word that is not one of those listed. -/
  | word (reserved : List String)
  /-- The word given. -/
  | keyword (text : String)
  /-- The operator given. -/
  | operator (text : String)
  /-- The given beginning of a longer operator; the rest of it is left to be read. -/
  | opening (text : String)
  /-- A token of the given kind. -/
  | ofKind (kind : TokenKind)

/-- The part of a token that fits, and what is left of the token. -/
def Terminal.take? (t : Terminal) (tok : Token) : Option (Token × List Token) :=
  match t with
  | word reserved =>
    if tok.kind = .word ∧ tok.text ∉ reserved then some (tok, []) else none
  | keyword text => if tok.kind = .word ∧ tok.text = text then some (tok, []) else none
  | operator text => if tok.kind = .operator ∧ tok.text = text then some (tok, []) else none
  | ofKind kind => if tok.kind = kind then some (tok, []) else none
  | opening text =>
    let head := text.toList
    let all := tok.text.toList
    if tok.kind = .operator ∧ head.isPrefixOf all ∧ head.length < all.length then
      let middle := tok.start.skip head
      some (⟨.operator, text, tok.start, middle⟩,
        [⟨.operator, String.ofList (all.drop head.length), middle, tok.stop⟩])
    else none

/-- What is left to read: tokens of the text, tokens set aside because they fit nowhere, and empty
tokens put in where the text lacks one. -/
inductive Item where
  | token (t : Token)
  | aside (ts : List Token)
  | supplied (t : Token)
  deriving Repr, Inhabited

/-- A pattern over a grammar whose rules are named by `ρ`. -/
inductive Pattern (ρ : Type) where
  /-- Nothing at all. -/
  | empty
  /-- One token, which becomes a leaf of the given kind. -/
  | leaf (t : Terminal) (kind : Kind)
  /-- One pattern, then another. -/
  | seq (p q : Pattern ρ)
  /-- The first pattern, or else the second. -/
  | either (p q : Pattern ρ)
  /-- The pattern as often as it fits. -/
  | many (p : Pattern ρ)
  /-- A construct of its own. -/
  | node (kind : NodeKind) (p : Pattern ρ)
  /-- A construct that also takes in all that the enclosing group has read so far. -/
  | wrap (kind : NodeKind) (p : Pattern ρ)
  /-- A stretch of the text to which `wrap` is confined. -/
  | group (p : Pattern ρ)
  /-- What the pattern reads plays the given part in the enclosing construct. -/
  | label (l : Label) (p : Pattern ρ)
  /-- The pattern would fit here; nothing is read. -/
  | ahead (p : Pattern ρ)
  /-- The pattern would not fit here; nothing is read. -/
  | notAhead (p : Pattern ρ)
  /-- There is a next token, and no line end before it; nothing is read. -/
  | sameLine
  /-- The end of a statement: a line end, a semicolon or a NUL character. -/
  | terminator
  /-- The end of a statement, supplied where nothing else fits. -/
  | gap
  /-- The end of the text. -/
  | finish
  /-- The pattern of a rule of the grammar. -/
  | rule (x : ρ)

namespace Pattern

variable {ρ : Type}

/-- Patterns one after the other. -/
def seqs : List (Pattern ρ) → Pattern ρ
  | [] => empty
  | [p] => p
  | p :: ps => seq p (seqs ps)

/-- The first pattern that fits.  With no pattern to choose from, nothing fits. -/
def choice : List (Pattern ρ) → Pattern ρ
  | [] => notAhead empty
  | [p] => p
  | p :: ps => either p (choice ps)

/-- The pattern, if it fits. -/
def optional (p : Pattern ρ) : Pattern ρ := either p empty

/-- One or more of a pattern, with a separator between. -/
def separated (p sep : Pattern ρ) : Pattern ρ := seq p (many (seq sep p))

end Pattern

/-- What has been read in the construct at hand, last tree first, what is left to read, and how
many items have been passed. -/
structure Reading where
  done : List SyntaxTree
  rest : List Item
  passed : Nat

/-- A leaf of the tree for a token. -/
def Token.leaf (t : Token) (kind : Kind) (missing : Bool) : SyntaxTree :=
  .node ⟨kind, none, t.start, t.stop, missing, missing⟩ []

/-- The kind of a token that plays no part in a construct: one that ends a statement, or one that
fits nowhere. -/
def Token.looseKind (t : Token) : Kind :=
  match t.kind with
  | .word => .node .identifier
  | .int => .node .intLiteral
  | .float => .node .floatLiteral
  | .imaginary => .node .imaginaryLiteral
  | .rune => .node .runeLiteral
  | .quoted => .node .interpretedStringLiteralContent
  | .escape => .node .escapeSequence
  | .raw => .node .rawStringLiteralContent
  | .comment => .node .comment
  | .lineEnd => .lineEnd
  -- the name of a token ends where a NUL character does, so this one has an empty name
  | .nul => .token ""
  | .operator | .openQuote | .closeQuote | .openRaw | .closeRaw | .stray => .token t.text

/-- Does the token end a statement? -/
def Token.isTerminator (t : Token) : Bool :=
  t.kind == .lineEnd || t.kind == .nul || (t.kind == .operator && t.text == ";")

/-- A construct made of the given trees. -/
def SyntaxTree.ofSubtrees (kind : Kind) (ts : List SyntaxTree) : SyntaxTree :=
  let start := (ts.head?.map SyntaxTree.start).getD .origin
  let stop := (ts.getLast?.map SyntaxTree.stop).getD .origin
  .node ⟨kind, none, start, stop, false, kind == .error || ts.any SyntaxTree.isFlagged⟩ ts

/-- Trees that may stand anywhere: comments, and text that fits nowhere. -/
def SyntaxTree.isLoose (t : SyntaxTree) : Bool := t.isComment || t.isError

/-- The same tree in the given part. -/
def SyntaxTree.withLabel (t : SyntaxTree) (l : Label) : SyntaxTree :=
  if t.isLoose then t else .node { t.info with label := some l } t.subtrees

namespace Reading

/-- Takes up the comments, and the text that fits nowhere, in front of the next token; line ends
are passed over only if `lines` says so. -/
def settle (lines : Bool) (done : List SyntaxTree) (passed : Nat) : List Item → Reading
  | [] => ⟨done, [], passed⟩
  | .aside ts :: rest =>
    let error := SyntaxTree.ofSubtrees .error (ts.map fun t => t.leaf t.looseKind false)
    settle lines (error :: done) (passed + 1) rest
  | .token t :: rest =>
    if t.kind = .comment then settle lines (t.leaf (.node .comment) false :: done) (passed + 1) rest
    else if t.kind = .lineEnd ∧ lines then settle lines done (passed + 1) rest
    else ⟨done, .token t :: rest, passed⟩
  | .supplied t :: rest => ⟨done, .supplied t :: rest, passed⟩

/-- The reading at its next token, which may stand on a later row. -/
def atToken (r : Reading) : Reading := settle true r.done r.passed r.rest

/-- The reading at its next token or line end. -/
def atLine (r : Reading) : Reading := settle false r.done r.passed r.rest

/-- Closes a construct: all that it has read becomes one tree, except for the comments in front of
its first token. -/
def close (r : Reading) (kind : NodeKind) (outer : List SyntaxTree) : Reading :=
  let ts := r.done.reverse
  let lead := ts.takeWhile SyntaxTree.isLoose
  let body := ts.dropWhile SyntaxTree.isLoose
  { r with done := SyntaxTree.ofSubtrees (.node kind) body :: (lead.reverse ++ outer) }

/-- Where the last tree that has been read ends. -/
def reached (r : Reading) : Position := (r.done.head?.map SyntaxTree.stop).getD .origin

/-- One token, if it fits. -/
def leaf? (r : Reading) (t : Terminal) (kind : Kind) : Option Reading :=
  match r.rest with
  | .token tok :: rest =>
    (t.take? tok).map fun (used, more) =>
      ⟨used.leaf kind false :: r.done, more.map .token ++ rest,
        if more.isEmpty then r.passed + 1 else r.passed⟩
  | .supplied tok :: rest =>
    (t.take? tok).map fun (used, _) => ⟨used.leaf kind true :: r.done, rest, r.passed + 1⟩
  | _ => none

/-- The end of a statement, if it is there. -/
def terminator? (r : Reading) : Option Reading :=
  match r.rest with
  | .token tok :: rest =>
    if tok.isTerminator then some ⟨tok.leaf tok.looseKind false :: r.done, rest, r.passed + 1⟩
    else none
  | _ => none

/-- Does the next token stand on the row that has been reached? -/
def onSameLine (r : Reading) : Bool :=
  match r.rest with
  | .token tok :: _ => tok.kind != .lineEnd
  | .supplied _ :: _ => true
  | _ => false

/-- Does the reading stand beside something that is not in the text as it is: beside text set aside,
or beside a token put in? -/
def besideChange (r : Reading) : Bool :=
  let next := r.atLine
  (next.done.takeWhile SyntaxTree.isLoose).any SyntaxTree.isError
    || (match next.rest with
      | .supplied _ :: _ => true
      | _ => false)
    || (r.done.head?.any fun t => t.lastLeaf.isMissing)

/-- The reading with a missing line end put in. -/
def withGap (r : Reading) : Reading :=
  let here := r.reached
  { r with done := .node ⟨.lineEnd, none, here, here, true, true⟩ [] :: r.done }

end Reading

namespace Pattern

variable {ρ : Type}

/-- Reads a pattern.  The number that goes in and out is how far any pattern has looked. -/
def read (grammar : ρ → Pattern ρ) : Nat → Pattern ρ → Nat → Reading → Option Reading × Nat
  | 0, _, far, _ => (none, far)
  | fuel + 1, p, far, r =>
    match p with
    | empty => (some r, far)
    | leaf t kind =>
      let r := r.atToken
      match r.leaf? t kind with
      | some r' => (some r', far)
      | none => (none, max far r.passed)
    | seq p q =>
      match read grammar fuel p far r with
      | (some r', far') => read grammar fuel q far' r'
      | (none, far') => (none, far')
    | either p q =>
      match read grammar fuel p far r with
      | (some r', far') => (some r', far')
      | (none, far') => read grammar fuel q far' r
    | many p =>
      match read grammar fuel p far r with
      | (some r', far') =>
        if r.passed < r'.passed then read grammar fuel (many p) far' r' else (some r, far')
      | (none, far') => (some r, far')
    | node kind p =>
      match read grammar fuel p far { r with done := [] } with
      | (some r', far') => (some (r'.close kind r.done), far')
      | (none, far') => (none, far')
    | wrap kind p =>
      match read grammar fuel p far r with
      | (some r', far') => (some (r'.close kind []), far')
      | (none, far') => (none, far')
    | group p =>
      match read grammar fuel p far { r with done := [] } with
      | (some r', far') => (some { r' with done := r'.done ++ r.done }, far')
      | (none, far') => (none, far')
    | label l p =>
      match read grammar fuel p far { r with done := [] } with
      | (some r', far') =>
        (some { r' with done := r'.done.map (SyntaxTree.withLabel · l) ++ r.done }, far')
      | (none, far') => (none, far')
    | ahead p =>
      match (read grammar fuel p far r).1 with
      | some _ => (some r, far)
      | none => (none, far)
    | notAhead p =>
      match (read grammar fuel p far r).1 with
      | some _ => (none, far)
      | none => (some r, far)
    | sameLine => if r.atLine.onSameLine then (some r, far) else (none, far)
    | terminator =>
      let r := r.atLine
      match r.terminator? with
      | some r' => (some r', far)
      | none => (none, max far r.passed)
    | gap =>
      if far ≤ r.atLine.passed ∧ !r.besideChange then (some r.withGap, far) else (none, far)
    | finish =>
      let r := r.atToken
      if r.rest.isEmpty then (some r, far) else (none, max far r.passed)
    | rule x => read grammar fuel (grammar x) far r

end Pattern

end GoStructs.Syntax
