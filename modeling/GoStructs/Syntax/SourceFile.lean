import GoStructs.Syntax.Repair.Gap
import GoStructs.Syntax.Token.Scan
import GoStructs.World.Event
import GoStructs.World.Files
/-! # Source files

Every text has a syntax tree.  If the text fits the grammar, the tree is the one of the grammar;
if it does not, the tree is that of a file near to it and shows the fault, unless all that the text
lacks is a line end.

A source file is a text whose tree shows no fault and that names its package.  `SourceFile.ofText`
tells which of the two it lacks, if it is not one.  There is no failure for a parser that cannot be
set up or gives no tree: the grammar is part of this library, and every text has a tree. -/

namespace GoStructs

/-! ## The syntax tree of a text -/

namespace Syntax

/-- The trees of a list of items, mended where they do not fit the grammar. -/
def treesOf (items : List Item) : List SyntaxTree :=
  let outline := Outline.ofItems items
  match outline.trees with
  | some ts => Repair.settleGaps items ts
  | none => Repair.mend items outline.far

/-- The syntax tree of a text. -/
def parse (text : List Char) : SyntaxTree :=
  SyntaxTree.root (treesOf ((Token.scan text).map .token)) (Position.origin.skip text)

end Syntax

/-! ## Files -/

open Syntax (SyntaxTree Kind NodeKind)

/-- What is wrong with the text of a file. -/
inductive Malformation where
  /-- There is text that fits nowhere. -/
  | unexpected (location : Location)
  /-- A token is missing. -/
  | missing (kind : String) (location : Location)
  /-- The file does not say which package it belongs to. -/
  | noPackage
  deriving DecidableEq, Repr

namespace Malformation

/-- Where the text is wrong, if at some place. -/
def location? : Malformation → Option Location
  | unexpected l => some l
  | missing _ l => some l
  | noPackage => none

/-- What is wrong, in words. -/
def message : Malformation → String
  | unexpected _ => "syntax error"
  | missing kind _ => "missing `" ++ kind ++ "`"
  | noPackage => "missing package clause"

end Malformation

/-- Why no structs can be had from a file. -/
inductive Failure where
  /-- The file cannot be read. -/
  | unreadable (file : Path) (cause : ReadError)
  /-- The file is no source file. -/
  | malformed (file : Path) (fault : Malformation)
  deriving DecidableEq, Repr

/-- The failure in words. -/
def Failure.message : Failure → String
  | unreadable file cause => "Failed to read file " ++ file.text ++ ": " ++ cause.message
  | malformed file fault => "Failed to parse file " ++ file.text ++ ": " ++ fault.message

/-- A file that fits the grammar and names its package. -/
structure SourceFile where
  path : Path
  text : List Char
  tree : SyntaxTree
  packageName : String
  deriving Inhabited

namespace SourceFile

/-- The text that a node of the file covers. -/
def textOf (f : SourceFile) (t : SyntaxTree) : String := String.ofList (t.text f.text)

/-- The piece of the file that a node covers. -/
def locationOf (f : SourceFile) (t : SyntaxTree) : Location := t.location f.path.text

/-- The identifier of the first package clause. -/
def packageNode? (tree : SyntaxTree) : Option SyntaxTree :=
  (tree.child? (.node .packageClause)).bind fun clause =>
    clause.child? (.node .packageIdentifier)

/-- The malformation that a faulty node shows. -/
def malformationAt (path : Path) (t : SyntaxTree) : Malformation :=
  if t.isMissing then .missing t.kind.name (t.location path.text)
  else .unexpected (t.location path.text)

/-- The source file with a text, or what is wrong with the text, given its syntax tree. -/
def ofTree (path : Path) (text : List Char) (tree : SyntaxTree) :
    Except Malformation SourceFile :=
  match tree.firstFault? with
  | some t => .error (malformationAt path t)
  | none =>
    match packageNode? tree with
    | none => .error .noPackage
    | some t => .ok ⟨path, text, tree, String.ofList (t.text text)⟩

/-- The source file with a text, or what is wrong with the text. -/
def ofText (path : Path) (text : List Char) : Except Malformation SourceFile :=
  ofTree path text (Syntax.parse text)

/-- Reads a text as a source file and tells of a syntax error. -/
def ofTextTold (path : Path) (text : List Char) : Told (Except Failure SourceFile) :=
  match ofText path text with
  | .ok f => .quiet (.ok f)
  | .error fault =>
    ⟨.error (.malformed path fault), fault.location?.toList.map (Event.syntaxError path)⟩

/-- Reads a source file from the world. -/
def read (w : World) (path : Path) : Told (Except Failure SourceFile) :=
  match w.readText path with
  | .error cause => .quiet (.error (.unreadable path cause))
  | .ok text => ofTextTold path text.toList

/-- A short form of the file for a reader. -/
def summary (f : SourceFile) : String :=
  "GoSource \x7b path: " ++ Event.quotedPath f.path ++ ", package_name: "
    ++ Text.quote .double f.packageName ++ ", .. \x7d"

end SourceFile

end GoStructs
