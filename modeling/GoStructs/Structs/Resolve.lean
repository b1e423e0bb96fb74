import GoStructs.Structs.Collect
/-! # Fields of structs

The fields of a struct are its own exported fields and those of the structs that it embeds, as far
as the file declares them.  Embedding goes one level deep: what an embedded struct itself embeds
does not count. -/

namespace GoStructs

/-- The exported fields among some members, in order. -/
def exportedFields (members : List Member) : List Field :=
  members.filterMap fun m => match m with
    | .named f => if isExportedName f.name then some f else none
    | _ => none

/-- The first struct of a name. -/
def structNamed? (raws : List RawStruct) (name : String) : Option RawStruct :=
  raws.find? fun r => r.decl.name == name

/-- The fields that a struct has from one of its members, if that is embedded. -/
def promotedFields (raws : List RawStruct) : Member → List Field
  | .embedded typeName _ =>
    match structNamed? raws typeName with
    | some target =>
      (exportedFields target.members).map fun f => { f with embeddedFrom := some typeName }
    | none => []
  | _ => []

/-- All fields of a struct: first its own, then those of its embedded members in order. -/
def fieldsOf (raws : List RawStruct) (r : RawStruct) : List Field :=
  exportedFields r.members ++ r.members.flatMap (promotedFields raws)

/-- The structs with their fields, by identity. -/
def resolveFields (raws : List RawStruct) : StructTable :=
  StructTable.ofList (raws.map fun r => ⟨r.decl, fieldsOf raws r⟩)

/-- The embedded members whose type no struct declares, in source order. -/
def undeclaredMembers (raws : List RawStruct) : List (String × Location) :=
  raws.flatMap fun r => r.members.filterMap fun m => match m with
    | .embedded typeName location =>
      if (structNamed? raws typeName).isNone then some (typeName, location) else none
    | _ => none

end GoStructs
