import GoStructs.Syntax.SourceFile
import GoStructs.Text.CodePoint
/-! # Documentation

A declaration is documented by the comments right above it: the last of them ends on the row above
the declaration, and each ends on the row above the next.  Semicolons do not come between.  A
comment that stands on the row of a construct before it belongs to that construct, and ends the
documentation. -/

namespace GoStructs

open Syntax (SyntaxTree Kind)

/-- Does the comment stand on the row where a named node right before it ends? -/
def trailsCode (comment : SyntaxTree) (before : List SyntaxTree) : Bool :=
  match before.head? with
  | some t => t.kind.isNamed && t.stop.row == comment.start.row
  | none => false

/-- Is this a semicolon? -/
def isSemicolon (t : SyntaxTree) : Bool := t.kind == .token ";"

/-- The comments that document what begins on a row, nearest first, given the nodes in front of
it, nearest first. -/
def docComments (row : Nat) : List SyntaxTree → List SyntaxTree
  | [] => []
  | t :: before =>
    if t.isComment then
      if t.stop.row + 1 ≠ row ∨ trailsCode t before then []
      else t :: docComments t.start.row before
    else if isSemicolon t then docComments row before
    else []

/-- The documentation of a node of a file, given the nodes in front of it, nearest first: the
texts of its comments in source order, without white space at their ends. -/
def docOf (f : SourceFile) (t : SyntaxTree) (before : List SyntaxTree) : List String :=
  (docComments t.start.row before).reverse.map fun c =>
    String.ofList (Text.trimEnd (c.text f.text))

end GoStructs
