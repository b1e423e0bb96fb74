import GoStructs.Syntax.Grammar.Types
/-! # Expressions

Binary operators have five levels of strength and group to the left.  A longer operator is read in
two where only its beginning can stand: `a <-b` compares `a` with `-b` unless it may be a statement
that sends. -/

namespace GoStructs.Syntax.Grammar
open Pattern

/-- The beginning of a longer operator. -/
def opening (s : String) : Rules := leaf (.opening s) (.token s)

/-- An operator that is read as the first part of one of the longer operators given, if need be. -/
def splitOp (s : String) (longer : List String) : Rules :=
  either (op s) (seq (ahead (choice (longer.map op))) (opening s))

/-- The binary operators of a level of strength, the strongest being level 5. -/
def binaryOps (site : Site) : Nat → List Rules
  | 1 => [op "||"]
  | 2 => [op "&&"]
  | 3 => [op "==", op "!=", op "<=", op ">=", op ">",
      if site.acts then op "<" else splitOp "<" ["<-"]]
  | 4 => [op "|", op "^",
      if site.acts then op "+" else splitOp "+" ["++"],
      if site.acts then op "-" else splitOp "-" ["--"]]
  | _ => [op "*", op "/", op "%", op "<<", op ">>", op "&^", op "&"]

/-- An expression of binary operators of at least the given level. -/
def binary (site : Site) (level : Nat) : Rules :=
  if 5 < level then rule (.unary site)
  else
    let operand : Rules := rule (.binary site (level + 1))
    group (seq operand
      (many (seq (glue site.ends)
        (wrap .binaryExpression (seq (choice (binaryOps site level)) operand)))))

/-- The operators that stand before their operand. -/
def unaryOps : List Rules :=
  [splitOp "+" ["++"], splitOp "-" ["--"], op "!", op "^", op "*", splitOp "&" ["&&", "&^"],
   op "<-"]

def unary (site : Site) : Rules :=
  either (rule (.primary site))
    (node .unaryExpression (seq (choice unaryOps) (rule (.unary site))))

/-! ## Literals and calls -/

/-- An element of a composite literal. -/
def literalElement : Rules :=
  node .literalElement (either (rule .literalValue) (expression .inner))

/-- An element, perhaps with a key before it. -/
def keyedElement : Rules :=
  group (seq literalElement (optional (wrap .keyedElement (seq (op ":") literalElement))))

/-- The elements of a composite literal, in braces. -/
def literalValue : Rules :=
  node .literalValue (seqs [openBrace, optional (commas keyedElement), optional comma, closeBrace])

/-- A composite literal of a type that is written out. -/
def builtLiteral : Rules :=
  let last : Rules := rule (.type false)
  node .compositeLiteral (seq
    (label .type (choice
      [structType, mapType last, implicitLengthArrayType, arrayType last, sliceType last]))
    (rule .literalValue))

/-- A composite literal of a named type.  Before a block the brace behind a bare name belongs to
the block; a literal of any other named type is one only if the block's brace follows it. -/
def namedLiteral (site : Site) : Rules :=
  if site.braces then
    node .compositeLiteral (seqs
      [label .type (namedType site.ends typeWords), glue site.ends, rule .literalValue])
  else
    seq
      (node .compositeLiteral (seqs
        [label .type (either (genericType false typeWords) (qualifiedType false typeWords)),
         rule .literalValue]))
      (ahead openBrace)

/-- A value in parentheses behind the type that it is converted to. -/
def conversionOperand : Rules := seqs [op "(", expression .inner, optional comma, op ")"]

/-- A conversion to a type that cannot be taken for an expression. -/
def typeConversion : Rules :=
  let last : Rules := rule (.type false)
  node .typeConversionExpression (seq
    (label .type (choice
      [structType, interfaceType, arrayType last, sliceType last, mapType last, channelType last,
       functionType (rule (.result false)), withArguments false (negatedType last),
       negatedType last, parenthesizedType]))
    conversionOperand)

def funcLiteral : Rules :=
  node .funcLiteral (seqs [kw "func", rule .parameters, rule (.result false), rule .block])

/-- The arguments of a call. -/
def arguments : Rules :=
  let argument : Rules :=
    group (seq (expression .inner) (optional (wrap .variadicArgument (op "..."))))
  node .argumentList (seqs [op "(", optional (commasTrailing argument), op ")"])

/-- The arguments of `new` and `make`, of which the first is a type. -/
def typeFirstArguments : Rules :=
  node .argumentList (seqs
    [op "(",
     optional (seqs [rule (.type false), many (seq comma (expression .inner)), optional comma]),
     op ")"])

/-- The functions `new` and `make`, and calls of them. -/
def allocation (site : Site) : Rules :=
  group (seq
    (either
      (leaf (.keyword "new") (.node .identifier))
      (leaf (.keyword "make") (.node .identifier)))
    (further site.ends (wrap .callExpression typeFirstArguments)))

/-! ## Operands and what may follow them -/

def basicLiterals : List Rules :=
  [leaf (.ofKind .int) (.node .intLiteral), leaf (.ofKind .float) (.node .floatLiteral),
   leaf (.ofKind .imaginary) (.node .imaginaryLiteral),
   leaf (.ofKind .rune) (.node .runeLiteral), stringLiteral,
   leaf (.keyword "nil") (.node .nil), leaf (.keyword "true") (.node .true),
   leaf (.keyword "false") (.node .false), leaf (.keyword "iota") (.node .iota)]

/-- An operand. -/
def operand (site : Site) : Rules :=
  choice (basicLiterals ++
    [allocation site, namedLiteral site, ident .identifier expressionWords,
     node .parenthesizedExpression (seqs [op "(", expression .inner, op ")"]),
     funcLiteral, builtLiteral, typeConversion])

/-- The word `type` in parentheses, which asks for the type of a value. -/
def typeQuestion : Rules := seqs [op ".", op "(", kw "type", op ")"]

/-- What may follow an operand. -/
def suffix : Rules :=
  let index : Rules := seqs [op "[", expression .inner, op "]"]
  let capacity : Rules := seq (op ":") (expression .inner)
  let slice : Rules := seqs
    [op "[", optional (expression .inner), op ":",
     optional (seq (expression .inner) (optional capacity)), op "]"]
  let types : Rules := seqs [op "[", commasTrailing (rule (.type false)), op "]"]
  choice
    [wrap .selectorExpression (seq (op ".") (ident .fieldIdentifier [])),
     seq (notAhead (seq typeQuestion openBrace))
      (wrap .typeAssertionExpression (seqs [op ".", op "(", rule (.type false), op ")"])),
     wrap .callExpression arguments,
     wrap .indexExpression index,
     wrap .sliceExpression slice,
     wrap .callExpression (seq typeArguments arguments),
     wrap .typeInstantiationExpression types]

def primary (site : Site) : Rules :=
  group (seq (operand site) (many (seq (glue site.ends) suffix)))

end GoStructs.Syntax.Grammar
