import GoStructs.Syntax.Grammar.Expressions
/-! # Statements -/

namespace GoStructs.Syntax.Grammar
open Pattern

/-- The operators that assign. -/
def assignOps : List Rules :=
  ["=", "+=", "-=", "*=", "/=", "%=", "<<=", ">>=", "&=", "&^=", "|=", "^="].map op

/-- A statement made of expressions.  `left` is where its first expression stands, and `right`
where those behind its operator stand. -/
def simpleStatement (left right : Site) : Rules :=
  let listed : Rules := wrap .expressionList empty
  let assignment : Rules := either
    (wrap .assignmentStatement (seq (choice assignOps) (expressions right)))
    (wrap .shortVarDeclaration (seq (op ":=") (expressions right)))
  let others : Rules := separated (expression { left with acts := false }) comma
  group (seq (expression left) (choice
    [seqs [glue left.ends, comma, others, listed, assignment],
     seqs [glue left.ends, ahead (choice (op ":=" :: assignOps)), listed, assignment],
     seq (glue left.ends) (wrap .incStatement (op "++")),
     seq (glue left.ends) (wrap .decStatement (op "--")),
     seq (glue left.ends) (wrap .sendStatement (seq (op "<-") (expression right))),
     wrap .expressionStatement empty]))

/-- A statement before the condition of an `if`, `for` or `switch`, up to its semicolon. -/
def initializer : Rules :=
  seq (simpleStatement { Site.header with acts := true } .inner) (op ";")

/-- The word given is not next. -/
def butNot (words : List String) : Rules := notAhead (choice (words.map kw))

/-- A label. -/
def labelName (reserved : List String) : Rules := ident .labelName reserved

def returnStatement : Rules :=
  node .returnStatement (seq (kw "return") (further true (expressions ⟨true, true, false⟩)))

/-- A statement that jumps, perhaps to a label. -/
def jump (kind : NodeKind) (word : String) (inCase : Bool) : Rules :=
  let reserved := if inCase then caseWords else []
  node kind (seq (kw word) (further true (labelName reserved)))

def ifStatement : Rules :=
  node .ifStatement (seqs
    [kw "if",
     choice
      [seqs [initializer, expression .header, rule .block],
       seqs [expression { Site.header with acts := true }, rule .block]],
     further true (seq (kw "else") (either (rule .ifStatement) (rule .block)))])

def rangeClause : Rules :=
  node .rangeClause (seqs
    [optional (seq (expressions .header) (either (op "=") (op ":="))), kw "range",
     expression .header])

def forClause : Rules :=
  let acting : Site := { Site.header with acts := true }
  node .forClause (seqs
    [optional (simpleStatement acting .inner), op ";",
     optional (expression .inner), op ";",
     optional (simpleStatement acting .header)])

def forStatement : Rules :=
  node .forStatement (seq (kw "for") (choice
    [rule .block, seq rangeClause (rule .block), seq forClause (rule .block),
     seq (expression { Site.header with acts := true }) (rule .block)]))

/-! ## Cases -/

/-- The statements of a case. -/
def caseBody : Rules := seq (op ":") (optional (rule (.statements true)))

def defaultCase : Rules := node .defaultCase (seq (kw "default") caseBody)

/-- The cases of a statement, in braces. -/
def cases (first : Rules) : Rules :=
  seqs [openBrace, many (either first defaultCase), closeBrace]

def expressionSwitch : Rules :=
  node .expressionSwitchStatement (seqs
    [kw "switch", optional initializer, optional (expression .header),
     cases (node .expressionCase (seqs [kw "case", expressions .inner, caseBody]))])

def typeSwitch : Rules :=
  node .typeSwitchStatement (seqs
    [kw "switch", optional initializer, optional (seq (expressions .header) (op ":=")),
     expression .header, typeQuestion,
     cases (node .typeCase (seqs [kw "case", commas (rule (.type false)), caseBody]))])

def selectStatement : Rules :=
  let acting : Site := { Site.inner with acts := true }
  let send : Rules :=
    group (seq (expression acting) (wrap .sendStatement (seq (op "<-") (expression .inner))))
  let receive : Rules := node .receiveStatement (seq
    (optional (seq (expressions .inner) (either (op "=") (op ":="))))
    (expression .inner))
  node .selectStatement (seq (kw "select")
    (cases (node .communicationCase (seqs [kw "case", either send receive, caseBody]))))

/-! ## Statements of all kinds -/

/-- A statement.  At the outermost level of a file the words that begin its declarations are
reserved, and inside a case those that begin another. -/
def statement (outermost inCase : Bool) : Rules :=
  let more := (if outermost then fileWords else []) ++ (if inCase then caseWords else [])
  let reserved := statementWords ++ more
  let site : Site := ⟨true, true, true⟩
  let called (kind : NodeKind) (word : String) : Rules :=
    node kind (seq (kw word) (expression ⟨true, true, false⟩))
  choice
    [rule .declaration, rule .block, rule .ifStatement, forStatement, returnStatement,
     called .goStatement "go", called .deferStatement "defer",
     typeSwitch, expressionSwitch, selectStatement,
     node .fallthroughStatement (kw "fallthrough"),
     jump .breakStatement "break" inCase, jump .continueStatement "continue" inCase,
     node .gotoStatement (seq (kw "goto") (labelName [])),
     node .emptyStatement (op ";"),
     seq (butNot reserved) (either
      (node .labeledStatement (seqs
        [labelName expressionWords, sameLine, op ":", rule (.statement outermost inCase)]))
      (simpleStatement site { site with acts := false }))]

/-- A list of statements with terminators between; a label may stand at its end. -/
def statements (inCase : Bool) : Rules :=
  let reserved := statementWords ++ expressionWords ++ (if inCase then caseWords else [])
  let lastLabel : Rules := node .labeledStatement (seqs
    [labelName reserved, sameLine, op ":"])
  let one : Rules := rule (.statement false inCase)
  either
    (seqs [one, many (seq terminator one), optional (seq terminator (optional lastLabel))])
    lastLabel

def block : Rules :=
  node .block (seqs [openBrace, optional (rule (.statements false)), closeBrace])

end GoStructs.Syntax.Grammar
