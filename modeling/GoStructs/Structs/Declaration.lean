import GoStructs.Source.Location
import GoStructs.Text.Uppercase
/-! # Struct declarations and their fields

What is known of the structs of a file: the declaration of each, its fields, and the file as a
whole, in which the structs are found by their identity. -/

namespace GoStructs

/-- A name is exported if it begins with an upper-case character. -/
def isExportedName (name : String) : Bool :=
  match name.toList.head? with
  | some c => Text.isUppercase c
  | none => false

/-- The identity of a declaration: its name, and where in the file the name stands. -/
structure StructId where
  line : UInt32
  column : UInt32
  name : String
  deriving DecidableEq, Repr, Inhabited

namespace StructId

/-- Identities are ordered as they stand in the file. -/
def order (a b : StructId) : Ordering :=
  (compare a.line b.line).then ((compare a.column b.column).then (compare a.name b.name))

/-- The identity as a reader is shown it. -/
def display (i : StructId) : String :=
  i.name ++ "@" ++ toString i.line.toNat ++ ":" ++ toString i.column.toNat

/-- Some identities in order. -/
def sorted (ids : List StructId) : List StructId := ids.mergeSort fun a b => (order a b).isLE

end StructId

/-- The declaration of a struct. -/
structure StructDecl where
  id : StructId
  name : String
  /-- The comments that document it, one text each. -/
  doc : List String
  /-- The list of its type parameters, as it is written. -/
  typeParams : Option String
  /-- Where its name stands. -/
  location : Location
  deriving DecidableEq, Repr, Inhabited

/-- Is the struct's name exported? -/
def StructDecl.isExported (d : StructDecl) : Bool := isExportedName d.name

/-- A field of a struct. -/
structure Field where
  name : String
  /-- Its type, as it is written. -/
  typeName : String
  /-- Its tag, as it is written. -/
  tag : Option String
  /-- The embedded struct that it comes from. -/
  embeddedFrom : Option String
  /-- Where its name stands. -/
  location : Location
  deriving DecidableEq, Repr, Inhabited

/-- A struct with its fields. -/
structure ParsedStruct where
  decl : StructDecl
  fields : List Field
  deriving DecidableEq, Repr, Inhabited

/-- The names of the fields, in order. -/
def ParsedStruct.fieldNames (s : ParsedStruct) : List String := s.fields.map Field.name

/-- A package. -/
structure Package where
  name : String
  importPath : String
  deriving DecidableEq, Repr, Inhabited

/-- Structs with their identities, in ascending order of these. -/
abbrev StructTable := List (StructId × ParsedStruct)

namespace StructTable

/-- Puts a struct in its place; one with the same identity is replaced. -/
def insert (id : StructId) (s : ParsedStruct) : StructTable → StructTable
  | [] => [(id, s)]
  | (k, v) :: rest =>
    match StructId.order id k with
    | .lt => (id, s) :: (k, v) :: rest
    | .eq => (id, s) :: rest
    | .gt => (k, v) :: insert id s rest

/-- The table of some structs, each under its own identity.  Of several with one identity the last
is kept. -/
def ofList (ss : List ParsedStruct) : StructTable :=
  ss.foldl (fun t s => insert s.decl.id s t) []

/-- The structs in order of their identities. -/
def structs (t : StructTable) : List ParsedStruct := t.map Prod.snd

end StructTable

/-- All that is extracted from a file. -/
structure ParsedFile where
  package : Package
  structs : StructTable
  deriving DecidableEq, Repr, Inhabited

/-- The first struct of a name, in order of the identities. -/
def ParsedFile.get? (f : ParsedFile) (name : String) : Option ParsedStruct :=
  f.structs.structs.find? fun s => s.decl.name == name

end GoStructs
