import GoStructs.Syntax.Grammar.Statements
/-! # Declarations and files

A file is a list of declarations and statements, in any order and each of them ended.  The
package clause, imports and functions may stand at the end of the file without a terminator.

The grammar is read over a list of items.  Either they make up a file, and then its trees come
back, or they do not; in both cases it is known how far any pattern has looked. -/

namespace GoStructs.Syntax.Grammar
open Pattern

/-- The names and values of constants. -/
def constSpec : Rules :=
  let names : Rules :=
    separated (label .name (ident .identifier [])) (seq sameLine comma)
  let values : Rules := seq (op "=") (expressions ⟨true, true, false⟩)
  node .constSpec (seq names (further true
    (either values (seq (label .type (rule (.type false))) values))))

/-- The names, type and values of variables. -/
def varSpec : Rules :=
  let values : Rules := seq (op "=") (expressions ⟨true, true, false⟩)
  node .varSpec (seq (commas (label .name (ident .identifier [])))
    (either values (seq (label .type (rule (.type true))) (further true values))))

def constDeclaration : Rules :=
  node .constDeclaration (seq (kw "const") (either (itemGroup constSpec) constSpec))

def varDeclaration : Rules :=
  node .varDeclaration (seq (kw "var")
    (either (node .varSpecList (itemGroup varSpec)) varSpec))

/-- The definition of a type.  Brackets behind the name hold its parameters unless they can be
read as the length of an array. -/
def typeSpec : Rules :=
  let name : Rules := label .name (ident .typeIdentifier [])
  let body : Rules := label .type (rule (.type true))
  choice
    [node .typeAlias (seqs [name, op "=", body]),
     node .typeSpec (seq name (either body
      (seq (label .typeParameters (typeParameters expressionWords)) body)))]

def typeDeclaration : Rules :=
  node .typeDeclaration (seq (kw "type") (either (itemGroup typeSpec) typeSpec))

/-- A declaration that may stand wherever a statement may. -/
def declaration : Rules := choice [constDeclaration, varDeclaration, typeDeclaration]

def packageClause : Rules :=
  node .packageClause (seq (kw "package") (ident .packageIdentifier []))

def importSpec : Rules :=
  node .importSpec (seq
    (optional (label .name (choice
      [leaf (.operator ".") (.node .dot), leaf (.keyword "_") (.node .blankIdentifier),
       ident .packageIdentifier []])))
    stringLiteral)

def importDeclaration : Rules :=
  node .importDeclaration (seq (kw "import") (either
    (node .importSpecList (seqs [op "(", optional (terminated importSpec), op ")"]))
    importSpec))

/-- The body of a function, if it has one. -/
def functionBody : Rules := further true (rule .block)

def functionDeclaration : Rules :=
  node .functionDeclaration (seqs
    [kw "func", label .name (ident .identifier []),
     optional (label .typeParameters (typeParameters [])), rule .parameters,
     rule (.result true), functionBody])

def methodDeclaration : Rules :=
  node .methodDeclaration (seqs
    [kw "func", rule .parameters, label .name (ident .fieldIdentifier []), rule .parameters,
     rule (.result true), functionBody])

/-- A declaration that stands only at the outermost level of a file. -/
def fileDeclaration : Rules :=
  choice [packageClause, importDeclaration, functionDeclaration, methodDeclaration]

/-- A file. -/
def file : Rules :=
  seqs
    [many (either
      (seq fileDeclaration (choice [terminator, ahead finish, gap]))
      (seq (rule (.statement true false)) itemEnd)),
     finish]

/-- The table of the rules. -/
def table : Rule → Rules
  | .type ends => type ends
  | .simpleType ends => simpleType ends
  | .bareType => bareType
  | .parameters => parameters
  | .result ends => result ends
  | .binary site level => binary site level
  | .unary site => unary site
  | .primary site => primary site
  | .literalValue => literalValue
  | .block => block
  | .statements inCase => statements inCase
  | .statement outermost inCase => statement outermost inCase
  | .ifStatement => ifStatement
  | .declaration => declaration

end GoStructs.Syntax.Grammar

namespace GoStructs.Syntax

/-! ## Reading items as a file -/

/-- What comes of reading items as a file. -/
structure Outline where
  /-- The trees of the file, if the items make one up. -/
  trees : Option (List SyntaxTree)
  /-- How many items any pattern has looked past. -/
  far : Nat

/-- More fuel than the nesting of patterns over that many items can use. -/
def patternFuel (items : Nat) : Nat := 1000 + 200 * items

/-- Reads items as a file. -/
def Outline.ofItems (items : List Item) : Outline :=
  match Pattern.read Grammar.table (patternFuel items.length) Grammar.file 0 ⟨[], items, 0⟩ with
  | (some r, far) => ⟨some r.done.reverse, far⟩
  | (none, far) => ⟨none, far⟩

/-- The root of a file whose text ends at `stop`. -/
def SyntaxTree.root (ts : List SyntaxTree) (stop : Position) : SyntaxTree :=
  let start := (ts.head?.map SyntaxTree.start).getD stop
  .node ⟨.node .sourceFile, none, start, stop, false, ts.any SyntaxTree.isFlagged⟩ ts

end GoStructs.Syntax
