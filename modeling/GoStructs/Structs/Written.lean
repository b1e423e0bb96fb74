import GoStructs.Config.Config
import GoStructs.Json.Record
import GoStructs.Structs.Declaration
/-! # Structs as JSON values

How declarations, fields and whole files are written as JSON values, and how they are read back.
What may be missing is not written if it is missing.  The structs of a file are written as a list
in order; their identities, which the declarations hold, are not written a second time. -/

namespace GoStructs

/-- The fields of a record that has a field only if there is a value for it. -/
def Json.fieldIfAny (name : String) (v : Option Json) : List (String × Json) :=
  match v with
  | some v => [(name, v)]
  | none => []

/-- A number of 32 bits. -/
def Json.ofWord (n : UInt32) : Json := .integer n.toNat

/-! ## Identities -/

namespace StructId

/-- An identity as it is written. -/
def toJson (i : StructId) : Json :=
  .record [("line", .ofWord i.line), ("column", .ofWord i.column), ("name", .string i.name)]

/-- Reads an identity back. -/
def ofJson (j : Json) : Decoded StructId := do
  let r ← Record.ofJson "StructId" ["line", "column", "name"] j
  let line := r.slot "line" Json.word
  let column := r.slot "column" Json.word
  let name := r.slot "name" Json.text
  Record.refuse [Record.fault? line, Record.fault? column, Record.fault? name]
  let i : StructId := ⟨← r.required line, ← r.required column, ← r.required name⟩
  r.finish
  return i

end StructId

/-! ## Locations -/

namespace Location

/-- A location as it is written. -/
def toJson (l : Location) : Json :=
  .record
    [("file", .string l.file), ("line", .ofWord l.line), ("column", .ofWord l.column),
     ("end_line", .ofWord l.endLine), ("end_column", .ofWord l.endColumn)]

/-- Reads a location back. -/
def ofJson (j : Json) : Decoded Location := do
  let r ← Record.ofJson "Location" ["file", "line", "column", "end_line", "end_column"] j
  let file := r.slot "file" Json.pathText
  let line := r.slot "line" Json.word
  let column := r.slot "column" Json.word
  let endLine := r.slot "end_line" Json.word
  let endColumn := r.slot "end_column" Json.word
  Record.refuse
    [Record.fault? file, Record.fault? line, Record.fault? column, Record.fault? endLine,
     Record.fault? endColumn]
  let l : Location :=
    ⟨← r.required file, ← r.required line, ← r.required column, ← r.required endLine,
     ← r.required endColumn⟩
  r.finish
  return l

end Location

/-! ## Declarations -/

namespace StructDecl

/-- A declaration as it is written. -/
def toJson (d : StructDecl) : Json :=
  .record <|
    [("id", d.id.toJson), ("name", .string d.name)]
      ++ Json.fieldIfAny "doc" (if d.doc.isEmpty then none else some (.ofTexts d.doc))
      ++ Json.fieldIfAny "type_params" (d.typeParams.map .string)
      ++ [("location", d.location.toJson)]

/-- Reads a declaration back. -/
def ofJson (j : Json) : Decoded StructDecl := do
  let r ← Record.ofJson "StructDecl" ["id", "name", "doc", "type_params", "location"] j
  let id := r.slot "id" StructId.ofJson
  let name := r.slot "name" Json.text
  let doc := r.slot "doc" (Json.listOf Json.text)
  let typeParams := r.slot "type_params" (Json.orNull Json.text)
  let location := r.slot "location" Location.ofJson
  Record.refuse
    [Record.fault? id, Record.fault? name, Record.fault? doc, Record.fault? typeParams,
     Record.fault? location]
  let d : StructDecl :=
    ⟨← r.required id, ← r.required name, ← Record.optional doc [],
     ← Record.optional typeParams none, ← r.required location⟩
  r.finish
  return d

end StructDecl

/-! ## Fields -/

namespace Field

/-- A field as it is written. -/
def toJson (f : Field) : Json :=
  .record <|
    [("name", .string f.name), ("type_name", .string f.typeName)]
      ++ Json.fieldIfAny "tag" (f.tag.map .string)
      ++ Json.fieldIfAny "embedded_from" (f.embeddedFrom.map .string)
      ++ [("location", f.location.toJson)]

/-- Reads a field back. -/
def ofJson (j : Json) : Decoded Field := do
  let r ← Record.ofJson "Field" ["name", "type_name", "tag", "embedded_from", "location"] j
  let name := r.slot "name" Json.text
  let typeName := r.slot "type_name" Json.text
  let tag := r.slot "tag" (Json.orNull Json.text)
  let embeddedFrom := r.slot "embedded_from" (Json.orNull Json.text)
  let location := r.slot "location" Location.ofJson
  Record.refuse
    [Record.fault? name, Record.fault? typeName, Record.fault? tag, Record.fault? embeddedFrom,
     Record.fault? location]
  let f : Field :=
    ⟨← r.required name, ← r.required typeName, ← Record.optional tag none,
     ← Record.optional embeddedFrom none, ← r.required location⟩
  r.finish
  return f

end Field

/-! ## Structs, packages and files -/

namespace ParsedStruct

/-- A struct with its fields as it is written. -/
def toJson (s : ParsedStruct) : Json :=
  .record [("decl", s.decl.toJson), ("fields", .array (s.fields.map Field.toJson))]

/-- Reads a struct with its fields back. -/
def ofJson (j : Json) : Decoded ParsedStruct := do
  let r ← Record.ofJson "ParsedStruct" ["decl", "fields"] j
  let decl := r.slot "decl" StructDecl.ofJson
  let fields := r.slot "fields" (Json.listOf Field.ofJson)
  Record.refuse [Record.fault? decl, Record.fault? fields]
  let s : ParsedStruct := ⟨← r.required decl, ← r.required fields⟩
  r.finish
  return s

end ParsedStruct

namespace Package

/-- A package as it is written. -/
def toJson (p : Package) : Json :=
  .record [("name", .string p.name), ("import_path", .string p.importPath)]

/-- Reads a package back. -/
def ofJson (j : Json) : Decoded Package := do
  let r ← Record.ofJson "Package" ["name", "import_path"] j
  let name := r.slot "name" Json.text
  let importPath := r.slot "import_path" Json.text
  Record.refuse [Record.fault? name, Record.fault? importPath]
  let p : Package := ⟨← r.required name, ← r.required importPath⟩
  r.finish
  return p

end Package

namespace StructTable

/-- The structs of a file as it is written. -/
def toJson (t : StructTable) : Json := .array (t.structs.map ParsedStruct.toJson)

/-- Reads the structs of a file back. -/
def ofJson (j : Json) : Decoded StructTable := do
  return StructTable.ofList (← Json.listOf ParsedStruct.ofJson j)

end StructTable

namespace ParsedFile

/-- A file as it is written. -/
def toJson (f : ParsedFile) : Json :=
  .record [("package", f.package.toJson), ("structs", f.structs.toJson)]

/-- Reads a file back. -/
def ofJson (j : Json) : Decoded ParsedFile := do
  let r ← Record.ofJson "ParsedFile" ["package", "structs"] j
  let package := r.slot "package" Package.ofJson
  let structs := r.slot "structs" StructTable.ofJson
  Record.refuse [Record.fault? package, Record.fault? structs]
  let f : ParsedFile := ⟨← r.required package, ← r.required structs⟩
  r.finish
  return f

end ParsedFile

/-! ## Configurations -/

namespace Config

/-- A configuration as it is written. -/
def toJson (c : Config) : Json :=
  .record
    [("gopath", .ofText? (c.gopath.map Path.text)), ("module_path", .ofText? c.modulePath),
     ("project_root", .ofText? (c.projectRoot.map Path.text))]

/-- Reads a configuration back. -/
def ofJson (j : Json) : Decoded Config := do
  let r ← Record.ofJson "Config" ["gopath", "module_path", "project_root"] j
  let gopath := r.slot "gopath" (Json.orNull Json.pathText)
  let modulePath := r.slot "module_path" (Json.orNull Json.text)
  let projectRoot := r.slot "project_root" (Json.orNull Json.pathText)
  Record.refuse [Record.fault? gopath, Record.fault? modulePath, Record.fault? projectRoot]
  let c : Config :=
    ⟨(← Record.optional gopath none).map Path.mk, ← Record.optional modulePath none,
     (← Record.optional projectRoot none).map Path.mk⟩
  r.finish
  return c

end Config

end GoStructs
