import GoStructs.Source.Location
import GoStructs.Syntax.Kind
/-! # Syntax trees

A syntax tree is a node with its subtrees in source order.  A node covers a piece of the text.
Three marks record how the text failed to fit the grammar:

* a node of kind `error` covers text that fits nowhere;
* a *missing* node is empty and stands for a token that the grammar asks for and the text lacks;
* a node is *flagged* if such a node is known to stand at or below it.

A statement's line end is part of the tree but is not shown; a missing line end flags the nodes
above it and shows nowhere. -/

namespace GoStructs.Syntax

/-- What is known of one node. -/
structure NodeInfo where
  kind : Kind
  label : Option Label
  start : Position
  stop : Position
  missing : Bool
  flagged : Bool
  deriving DecidableEq, Repr, Inhabited

/-- A node and its subtrees, in source order. -/
inductive SyntaxTree where
  | node (info : NodeInfo) (subtrees : List SyntaxTree)
  deriving Repr, Inhabited

namespace SyntaxTree

def info : SyntaxTree → NodeInfo
  | node i _ => i

def subtrees : SyntaxTree → List SyntaxTree
  | node _ ts => ts

def kind (t : SyntaxTree) : Kind := t.info.kind
def start (t : SyntaxTree) : Position := t.info.start
def stop (t : SyntaxTree) : Position := t.info.stop
def isMissing (t : SyntaxTree) : Bool := t.info.missing
def isFlagged (t : SyntaxTree) : Bool := t.info.flagged

/-- A node of kind `error`. -/
def isError (t : SyntaxTree) : Bool := t.kind == .error

/-- A node that shows where the text failed to fit the grammar. -/
def isFault (t : SyntaxTree) : Bool := t.isError || t.isMissing

/-- Is this a comment? -/
def isComment (t : SyntaxTree) : Bool := t.kind == .node .comment

/-- The subtrees that are shown. -/
def children (t : SyntaxTree) : List SyntaxTree := t.subtrees.filter fun c => c.kind.isShown

/-- The first shown subtree of a kind. -/
def child? (t : SyntaxTree) (k : Kind) : Option SyntaxTree := t.children.find? fun c => c.kind == k

/-- The first shown subtree whose kind has the given name. -/
def childNamed? (t : SyntaxTree) (name : String) : Option SyntaxTree :=
  t.children.find? fun c => c.kind.name == name

/-- The first shown subtree that plays the given part. -/
def labelled? (t : SyntaxTree) (l : Label) : Option SyntaxTree :=
  t.children.find? fun c => c.info.label == some l

/-- The shown subtrees that play the given part. -/
def labelled (t : SyntaxTree) (l : Label) : List SyntaxTree :=
  t.children.filter fun c => c.info.label == some l

/-- The node reached by taking, for each name in turn, the first child of that kind. -/
def descend? (t : SyntaxTree) : List String → Option SyntaxTree
  | [] => some t
  | k :: ks => (t.childNamed? k).bind fun c => c.descend? ks

/-- The piece of a file that the node covers. -/
def location (t : SyntaxTree) (file : String) : Location := .between file t.start t.stop

/-- The text that the node covers. -/
def text (t : SyntaxTree) (source : List Char) : List Char :=
  sliceBytes source t.start.offset t.stop.offset

/-! ## Faults -/

mutual
/-- The first node, from the root down and from left to right, that shows a fault.  Where no flag
is set, nothing is searched. -/
def firstFault? : SyntaxTree → Option SyntaxTree
  | node i ts =>
    if i.kind == .error || i.missing then some (node i ts)
    else if !i.flagged then none
    else firstFaultAmong? ts

/-- The first fault in a list of trees, among those that are shown. -/
def firstFaultAmong? : List SyntaxTree → Option SyntaxTree
  | [] => none
  | t :: ts =>
    if t.info.kind.isShown then
      match firstFault? t with
      | some f => some f
      | none => firstFaultAmong? ts
    else firstFaultAmong? ts
end

mutual
/-- The shown nodes of a tree in document order: a node before its subtrees, these from left to
right. -/
def preorder : SyntaxTree → List SyntaxTree
  | node i ts => node i ts :: preorderAll ts

/-- The shown nodes of a list of trees, in document order. -/
def preorderAll : List SyntaxTree → List SyntaxTree
  | [] => []
  | t :: ts => if t.info.kind.isShown then preorder t ++ preorderAll ts else preorderAll ts
end

mutual
/-- The last leaf of a tree. -/
def lastLeaf : SyntaxTree → SyntaxTree
  | node i ts => (lastLeafAmong? ts).getD (node i ts)

/-- The last leaf of a list of trees. -/
def lastLeafAmong? : List SyntaxTree → Option SyntaxTree
  | [] => none
  | t :: ts => (lastLeafAmong? ts).or (some (lastLeaf t))
end

end SyntaxTree

end GoStructs.Syntax
