import GoStructs.Structs.Extract
import Mathlib.Data.List.Induction
/-! # What is extracted under another path

The path of a file is told to readers and has no other part in what is extracted from its text.  So
under another path the same is extracted, with each location in the file of that path.

## Main statements

* `SourceFile.ofText_inFile`: a text is a source file under each path or under none.
* `rawStructs_inFile`, `resolveFields_inFile`: the structs and their fields.
* `value_extractStructsWith_inFile`: all that is extracted. -/

namespace GoStructs

open Syntax (SyntaxTree)

/-! ## The same in another file -/

/-- The same piece of another file. -/
def Location.inFile (file : String) (l : Location) : Location := { l with file := file }

def Field.inFile (file : String) (f : Field) : Field :=
  { f with location := f.location.inFile file }

def StructDecl.inFile (file : String) (d : StructDecl) : StructDecl :=
  { d with location := d.location.inFile file }

def ParsedStruct.inFile (file : String) (s : ParsedStruct) : ParsedStruct :=
  ⟨s.decl.inFile file, s.fields.map (Field.inFile file)⟩

def StructTable.inFile (file : String) (t : StructTable) : StructTable :=
  t.map fun e => (e.1, e.2.inFile file)

def ParsedFile.inFile (file : String) (f : ParsedFile) : ParsedFile :=
  { f with structs := f.structs.inFile file }

def Member.inFile (file : String) : Member → Member
  | .named f => .named (f.inFile file)
  | .embedded typeName l => .embedded typeName (l.inFile file)
  | .unsupported l => .unsupported (l.inFile file)

def RawStruct.inFile (file : String) (r : RawStruct) : RawStruct :=
  ⟨r.decl.inFile file, r.members.map (Member.inFile file)⟩

def Malformation.inFile (file : String) : Malformation → Malformation
  | .unexpected l => .unexpected (l.inFile file)
  | .missing kind l => .missing kind (l.inFile file)
  | .noPackage => .noPackage

def Failure.inFile (path : Path) : Failure → Failure
  | .unreadable _ cause => .unreadable path cause
  | .malformed _ fault => .malformed path (fault.inFile path.text)

def SourceFile.inFile (path : Path) (f : SourceFile) : SourceFile := { f with path := path }

/-- What is extracted, or why nothing is, in the file of another path. -/
def extractedIn (path : Path) : Except Failure ParsedFile → Except Failure ParsedFile
  | .ok f => .ok (f.inFile path.text)
  | .error e => .error (e.inFile path)

/-! ## Structs as they are written -/

section

variable (path : Path) (f : SourceFile)

theorem embeddedName?_inFile (t : SyntaxTree) :
    embeddedName? (f.inFile path) t = embeddedName? f t := by
  cases t
  rfl

theorem membersOf_inFile (t : SyntaxTree) :
    membersOf (f.inFile path) t = (membersOf f t).map (Member.inFile path.text) := by
  have hembedded : embeddedName? (f.inFile path) = embeddedName? f :=
    funext (embeddedName?_inFile path f)
  unfold membersOf
  dsimp only
  rw [hembedded]
  split
  · split
    · rfl
    · rfl
  · rw [List.map_map]
    rfl

theorem structMembers_inFile (t : SyntaxTree) :
    structMembers (f.inFile path) t = (structMembers f t).map (Member.inFile path.text) := by
  unfold structMembers
  split
  · rfl
  · rw [List.map_flatMap, funext (membersOf_inFile path f)]

theorem structOfSpec?_inFile (decl spec : SyntaxTree × List SyntaxTree) (grouped : Bool) :
    structOfSpec? (f.inFile path) decl spec grouped
      = (structOfSpec? f decl spec grouped).map (RawStruct.inFile path.text) := by
  unfold structOfSpec?
  split
  · split
    · rw [structMembers_inFile]
      rfl
    · rfl
  · rfl

theorem structsOfDeclaration_inFile (decl : SyntaxTree × List SyntaxTree) :
    structsOfDeclaration (f.inFile path) decl
      = (structsOfDeclaration f decl).map (RawStruct.inFile path.text) := by
  unfold structsOfDeclaration
  dsimp only
  rw [List.map_filterMap]
  congr 1
  funext spec
  exact structOfSpec?_inFile path f decl spec _

theorem rawStructs_inFile :
    rawStructs (f.inFile path) = (rawStructs f).map (RawStruct.inFile path.text) := by
  unfold rawStructs
  rw [List.map_flatMap, ← funext (structsOfDeclaration_inFile path f)]
  rfl

end

/-! ## Structs with their fields -/

section

variable (file : String)

theorem exportedFields_inFile (members : List Member) :
    exportedFields (members.map (Member.inFile file))
      = (exportedFields members).map (Field.inFile file) := by
  unfold exportedFields
  rw [List.filterMap_map, List.map_filterMap]
  congr 1
  funext m
  cases m with
  | named f =>
    show (if isExportedName f.name then some (f.inFile file) else none) = _
    by_cases h : isExportedName f.name
    · simp [h]
    · simp [h]
  | embedded | unsupported => rfl

theorem structNamed?_inFile (raws : List RawStruct) (name : String) :
    structNamed? (raws.map (RawStruct.inFile file)) name
      = (structNamed? raws name).map (RawStruct.inFile file) := by
  unfold structNamed?
  rw [List.find?_map]
  rfl

theorem promotedFields_inFile (raws : List RawStruct) (m : Member) :
    promotedFields (raws.map (RawStruct.inFile file)) (m.inFile file)
      = (promotedFields raws m).map (Field.inFile file) := by
  cases m with
  | named | unsupported => rfl
  | embedded typeName l =>
    simp only [promotedFields, Member.inFile, structNamed?_inFile]
    cases structNamed? raws typeName with
    | none => rfl
    | some target =>
      simp only [Option.map_some, RawStruct.inFile, exportedFields_inFile, List.map_map]
      rfl

theorem fieldsOf_inFile (raws : List RawStruct) (r : RawStruct) :
    fieldsOf (raws.map (RawStruct.inFile file)) (r.inFile file)
      = (fieldsOf raws r).map (Field.inFile file) := by
  unfold fieldsOf
  rw [List.map_append, List.map_flatMap, RawStruct.inFile, exportedFields_inFile,
    List.flatMap_map]
  rw [funext (promotedFields_inFile file raws)]

theorem insert_inFile (id : StructId) (s : ParsedStruct) (t : StructTable) :
    StructTable.insert id (s.inFile file) (t.inFile file) = (t.insert id s).inFile file := by
  induction t with
  | nil => rfl
  | cons e t ih =>
    obtain ⟨k, v⟩ := e
    -- an identity names no file, so the place in the table stays the same
    show StructTable.insert id (s.inFile file) ((k, v.inFile file) :: StructTable.inFile file t) = _
    unfold StructTable.insert
    split
    · rfl
    · rfl
    · rw [ih]
      rfl

theorem ofList_inFile (ss : List ParsedStruct) :
    StructTable.ofList (ss.map (ParsedStruct.inFile file))
      = (StructTable.ofList ss).inFile file := by
  induction ss using List.reverseRecOn with
  | nil => rfl
  | append_singleton ss s ih =>
    unfold StructTable.ofList at ih ⊢
    rw [List.map_append, List.foldl_append, ih, List.foldl_append]
    exact insert_inFile file s.decl.id s _

theorem resolveFields_inFile (raws : List RawStruct) :
    resolveFields (raws.map (RawStruct.inFile file)) = (resolveFields raws).inFile file := by
  unfold resolveFields
  rw [← ofList_inFile, List.map_map, List.map_map]
  congr 1
  apply List.map_congr_left
  intro r _
  show ParsedStruct.mk (r.decl.inFile file) (fieldsOf _ (r.inFile file)) = _
  rw [fieldsOf_inFile]
  rfl

end

/-! ## Whole files -/

/-- A text is a source file under each path or under none. -/
theorem SourceFile.ofText_inFile (path path' : Path) (text : List Char) :
    ofText path' text = match ofText path text with
      | .ok f => .ok (f.inFile path')
      | .error fault => .error (fault.inFile path'.text) := by
  unfold ofText ofTree
  cases (Syntax.parse text).firstFault? with
  | some t =>
    simp only [malformationAt]
    by_cases hmissing : t.isMissing
    · -- the fault is told under the path that is given
      simp only [if_pos hmissing]
      rfl
    · simp only [if_neg hmissing]
      rfl
  | none =>
    dsimp only
    cases packageNode? (Syntax.parse text) with
    | none => rfl
    | some t => rfl

theorem parsedFile_inFile (path : Path) (f : SourceFile) (importPath : String) :
    parsedFile (f.inFile path) importPath = (parsedFile f importPath).inFile path.text := by
  unfold parsedFile
  rw [rawStructs_inFile, resolveFields_inFile]
  rfl

/-- From two paths of one text that have one import path, the same is extracted. -/
theorem value_extractStructsWith_inFile {w : World} {c c' : Config} {path path' : Path}
    (hread : w.readText path = w.readText path')
    (himport : (Import.importPath w c path).value = (Import.importPath w c' path').value) :
    (extractStructsWith w c' path').value
      = extractedIn path' (extractStructsWith w c path).value := by
  unfold extractStructsWith SourceFile.read
  rw [hread]
  cases w.readText path' with
  | error cause => rfl
  | ok text =>
    simp only [SourceFile.ofTextTold, SourceFile.ofText_inFile path path']
    cases SourceFile.ofText path text.toList with
    | error fault => rfl
    | ok f =>
      -- what is found in the text is the same, and the path is only written into it
      simp only [Told.andThen_value, Told.quiet_value, parsedFile_inFile, himport]
      rfl

end GoStructs
