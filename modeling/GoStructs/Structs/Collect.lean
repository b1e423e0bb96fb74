import GoStructs.Structs.Declaration
import GoStructs.Structs.Doc
/-! # The struct declarations of a file

A struct is declared at the outermost level of a file, by a type declaration whose type is written
as a struct.  Its members are kept as they are written: named fields, embedded types, and embedded
members of a type that no struct of the same file can be. -/

namespace GoStructs

open Syntax (SyntaxTree Kind NodeKind Label)

/-- A member of a struct as it is written. -/
inductive Member where
  | named (field : Field)
  | embedded (typeName : String) (location : Location)
  | unsupported (location : Location)
  deriving DecidableEq, Repr, Inhabited

/-- A struct as it is written. -/
structure RawStruct where
  decl : StructDecl
  members : List Member
  deriving DecidableEq, Repr, Inhabited

/-- The name of the type that an embedded member names: an identifier, perhaps with type
arguments.  A type of another package has no such name. -/
def embeddedName? (f : SourceFile) : SyntaxTree → Option String
  | .node i ts =>
    if i.kind == .node .typeIdentifier then some (f.textOf (.node i ts))
    else if i.kind == .node .genericType then
      ((SyntaxTree.node i ts).labelled? .type).bind fun t =>
        if t.kind == .node .typeIdentifier then some (f.textOf t) else none
    else none

/-- The members that one field declaration stands for: one for each of its names, or the embedded
one if it has no name. -/
def membersOf (f : SourceFile) (t : SyntaxTree) : List Member :=
  let type? := t.labelled? .type
  match t.labelled .name with
  | [] =>
    match type?.bind (embeddedName? f) with
    | some name => [.embedded name (f.locationOf t)]
    | none => [.unsupported (f.locationOf t)]
  | names =>
    let typeName := (type?.map f.textOf).getD ""
    let tag := (t.labelled? .tag).map f.textOf
    names.map fun n => .named ⟨f.textOf n, typeName, tag, none, f.locationOf n⟩

/-- The members in the body of a struct type. -/
def structMembers (f : SourceFile) (structType : SyntaxTree) : List Member :=
  match structType.child? (.node .fieldDeclarationList) with
  | none => []
  | some list =>
    (list.children.filter (·.kind == .node .fieldDeclaration)).flatMap (membersOf f)

/-- Each of some nodes with the nodes in front of it, nearest first. -/
def withPreceding (before : List SyntaxTree) :
    List SyntaxTree → List (SyntaxTree × List SyntaxTree)
  | [] => []
  | t :: ts => (t, before) :: withPreceding (t :: before) ts

/-- The documentation of a type specification: that of its own, or that of the declaration if the
declaration is of this type alone. -/
def specDoc (f : SourceFile) (decl spec : SyntaxTree × List SyntaxTree) (grouped : Bool) :
    List String :=
  match docOf f spec.1 spec.2 with
  | [] => if grouped then [] else docOf f decl.1 decl.2
  | doc => doc

/-- The struct that a type specification declares, if its type is written as a struct. -/
def structOfSpec? (f : SourceFile) (decl spec : SyntaxTree × List SyntaxTree) (grouped : Bool) :
    Option RawStruct :=
  match spec.1.labelled? .name, spec.1.labelled? .type with
  | some name, some type =>
    if type.kind == .node .structType then
      let location := f.locationOf name
      let text := f.textOf name
      some
        { decl :=
            { id := ⟨location.line, location.column, text⟩
              name := text
              doc := specDoc f decl spec grouped
              typeParams := (spec.1.labelled? .typeParameters).map f.textOf
              location := location }
          members := structMembers f type }
    else none
  | _, _ => none

/-- The structs that a type declaration declares. -/
def structsOfDeclaration (f : SourceFile) (decl : SyntaxTree × List SyntaxTree) :
    List RawStruct :=
  let grouped := (decl.1.child? (.token "(")).isSome
  ((withPreceding [] decl.1.children).filter (·.1.kind == .node .typeSpec)).filterMap fun spec =>
    structOfSpec? f decl spec grouped

/-- The structs that the file declares, in source order. -/
def rawStructs (f : SourceFile) : List RawStruct :=
  ((withPreceding [] f.tree.children).filter (·.1.kind == .node .typeDeclaration)).flatMap
    (structsOfDeclaration f)

/-- The members that are left out of every field list, in source order. -/
def unsupportedMembers (raws : List RawStruct) : List Location :=
  raws.flatMap fun r => r.members.filterMap fun m => match m with
    | .unsupported l => some l
    | _ => none

/-! ## Declarations by name -/

/-- The declarations of some structs by name, the first of each name, in order. -/
abbrev DeclTable := List (String × StructDecl)

/-- Takes a declaration up, unless its name is there already; then that is told. -/
def DeclTable.add (t : DeclTable) (d : StructDecl) : Told DeclTable :=
  if t.any (·.1 == d.name) then ⟨t, [.duplicateStruct d.name d.location]⟩
  else .quiet (t ++ [(d.name, d)])

/-- The declarations of some structs by name. -/
def DeclTable.ofList (ds : List StructDecl) : Told DeclTable :=
  ds.foldl (fun told d => told.andThen fun t => t.add d) (.quiet [])

/-- The struct declarations of a file of the world, by name. -/
def collectStructs (w : World) (path : Path) : Told (Except Failure DeclTable) :=
  (SourceFile.read w path).andThen fun result =>
    match result with
    | .error e => .quiet (.error e)
    | .ok f =>
      let raws := rawStructs f
      let table := DeclTable.ofList (raws.map RawStruct.decl)
      ⟨.ok table.value, (unsupportedMembers raws).map Event.unsupportedMember ++ table.events⟩

end GoStructs
