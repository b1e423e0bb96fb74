import GoStructs.Proofs.Json.Records
import GoStructs.Proofs.Structs.SourceOrder
/-! # Reading back what is written

Each record is read back as it was written: identities, locations, declarations, fields, structs,
packages, files and configurations.  Of a file only the list of its structs is written, so it is
read back if its table is the one of that list; and such is each table that is extracted or read.

## Main statements

* `StructId.ofJson_iff` and its likes: what has to be in a value for a record to be read from it.
* `StructTable.ofList_structs`: a table is the one of its own structs.
* `written_reads_back`: all records are read back as they were written. -/

namespace GoStructs

open Record (refuse_iff required_slot_iff optional_slot_iff fault?_of_gives fault?_of_givesOr)
open Decoded (bind_eq_ok_iff pure_eq_ok_iff)

/-- A field that is only written if there is a value for it. -/
theorem Json.field?_fieldIfAny (key : String) (v : Option Json) (name : String) :
    (object (fieldIfAny key v)).field? name = if key = name then v else none := by
  cases v with
  | none => exact (ite_self none).symm
  | some v => exact field?_cons key v [] name

theorem Json.reverse_fieldIfAny (key : String) (v : Option Json) :
    (fieldIfAny key v).reverse = fieldIfAny key v := by
  cases v <;> rfl

/-! ## Identities and locations -/

theorem StructId.ofJson_iff {j : Json} {i : StructId} :
    ofJson j = .ok i ↔ ∃ r, Record.ofJson "StructId" ["line", "column", "name"] j = .ok r
      ∧ r.finish = .ok () ∧ r.Gives "line" Json.word i.line ∧ r.Gives "column" Json.word i.column
      ∧ r.Gives "name" Json.text i.name := by
  simp only [ofJson, bind_eq_ok_iff, pure_eq_ok_iff, required_slot_iff]
  constructor
  · rintro ⟨r, hr, _, -, line, hline, column, hcolumn, name, hname, _, hfinish, rfl⟩
    exact ⟨r, hr, hfinish, hline, hcolumn, hname⟩
  · rintro ⟨r, hr, hfinish, hline, hcolumn, hname⟩
    refine ⟨r, hr, (), refuse_iff.mpr ?_, _, hline, _, hcolumn, _, hname, (), hfinish, rfl⟩
    simp [fault?_of_gives hline, fault?_of_gives hcolumn, fault?_of_gives hname]

theorem StructId.field?_toJson (i : StructId) :
    i.toJson.field? "line" = some (.ofWord i.line)
      ∧ i.toJson.field? "column" = some (.ofWord i.column)
      ∧ i.toJson.field? "name" = some (.string i.name) := by
  simp [toJson, Json.field?_record, Json.field?_cons]

theorem StructId.ofJson_toJson (i : StructId) : ofJson i.toJson = .ok i := by
  obtain ⟨hline, hcolumn, hname⟩ := field?_toJson i
  exact ofJson_iff.mpr ⟨_, rfl, rfl, .of_field? hline (Json.word_ofWord _),
    .of_field? hcolumn (Json.word_ofWord _), .of_field? hname rfl⟩

theorem Location.ofJson_iff {j : Json} {l : Location} :
    ofJson j = .ok l ↔ ∃ r,
      Record.ofJson "Location" ["file", "line", "column", "end_line", "end_column"] j = .ok r
      ∧ r.finish = .ok () ∧ r.Gives "file" Json.pathText l.file ∧ r.Gives "line" Json.word l.line
      ∧ r.Gives "column" Json.word l.column ∧ r.Gives "end_line" Json.word l.endLine
      ∧ r.Gives "end_column" Json.word l.endColumn := by
  simp only [ofJson, bind_eq_ok_iff, pure_eq_ok_iff, required_slot_iff]
  constructor
  · rintro ⟨r, hr, _, -, file, hfile, line, hline, column, hcolumn, endLine, hendLine, endColumn,
      hendColumn, _, hfinish, rfl⟩
    exact ⟨r, hr, hfinish, hfile, hline, hcolumn, hendLine, hendColumn⟩
  · rintro ⟨r, hr, hfinish, hfile, hline, hcolumn, hendLine, hendColumn⟩
    refine ⟨r, hr, (), refuse_iff.mpr ?_, _, hfile, _, hline, _, hcolumn, _, hendLine, _,
      hendColumn, (), hfinish, rfl⟩
    simp [fault?_of_gives hfile, fault?_of_gives hline, fault?_of_gives hcolumn,
      fault?_of_gives hendLine, fault?_of_gives hendColumn]

theorem Location.field?_toJson (l : Location) :
    l.toJson.field? "file" = some (.string l.file)
      ∧ l.toJson.field? "line" = some (.ofWord l.line)
      ∧ l.toJson.field? "column" = some (.ofWord l.column)
      ∧ l.toJson.field? "end_line" = some (.ofWord l.endLine)
      ∧ l.toJson.field? "end_column" = some (.ofWord l.endColumn) := by
  simp [toJson, Json.field?_record, Json.field?_cons]

theorem Location.ofJson_toJson (l : Location) : ofJson l.toJson = .ok l := by
  obtain ⟨hfile, hline, hcolumn, hendLine, hendColumn⟩ := field?_toJson l
  exact ofJson_iff.mpr ⟨_, rfl, rfl, .of_field? hfile rfl, .of_field? hline (Json.word_ofWord _),
    .of_field? hcolumn (Json.word_ofWord _), .of_field? hendLine (Json.word_ofWord _),
    .of_field? hendColumn (Json.word_ofWord _)⟩

/-! ## Declarations and fields -/

theorem StructDecl.ofJson_iff {j : Json} {d : StructDecl} :
    ofJson j = .ok d ↔ ∃ r,
      Record.ofJson "StructDecl" ["id", "name", "doc", "type_params", "location"] j = .ok r
      ∧ r.finish = .ok () ∧ r.Gives "id" StructId.ofJson d.id ∧ r.Gives "name" Json.text d.name
      ∧ r.GivesOr "doc" (Json.listOf Json.text) [] d.doc
      ∧ r.GivesOr "type_params" (Json.orNull Json.text) none d.typeParams
      ∧ r.Gives "location" Location.ofJson d.location := by
  simp only [ofJson, bind_eq_ok_iff, pure_eq_ok_iff, required_slot_iff, optional_slot_iff]
  constructor
  · rintro ⟨r, hr, _, -, id, hid, name, hname, doc, hdoc, typeParams, htypeParams, location,
      hlocation, _, hfinish, rfl⟩
    exact ⟨r, hr, hfinish, hid, hname, hdoc, htypeParams, hlocation⟩
  · rintro ⟨r, hr, hfinish, hid, hname, hdoc, htypeParams, hlocation⟩
    refine ⟨r, hr, (), refuse_iff.mpr ?_, _, hid, _, hname, _, hdoc, _, htypeParams, _, hlocation,
      (), hfinish, rfl⟩
    simp [fault?_of_gives hid, fault?_of_gives hname, fault?_of_givesOr hdoc,
      fault?_of_givesOr htypeParams, fault?_of_gives hlocation]

theorem StructDecl.field?_toJson (d : StructDecl) :
    d.toJson.field? "id" = some d.id.toJson
      ∧ d.toJson.field? "name" = some (.string d.name)
      ∧ d.toJson.field? "doc" = (if d.doc = [] then none else some (.ofTexts d.doc))
      ∧ d.toJson.field? "type_params" = d.typeParams.map .string
      ∧ d.toJson.field? "location" = some d.location.toJson := by
  simp [toJson, Json.field?_record, Json.field?_cons, Json.field?_nil, Json.field?_append,
    Json.field?_fieldIfAny, Json.reverse_fieldIfAny]

/-- Some texts are read back from their array. -/
theorem Json.listOf_ofTexts (ss : List String) : listOf text (.ofTexts ss) = .ok ss :=
  listOf_array fun _ _ => rfl

theorem StructDecl.ofJson_toJson (d : StructDecl) : ofJson d.toJson = .ok d := by
  obtain ⟨hid, hname, hdoc, htypeParams, hlocation⟩ := field?_toJson d
  exact ofJson_iff.mpr ⟨_, rfl, rfl, .of_field? hid d.id.ofJson_toJson, .of_field? hname rfl,
    Record.givesOr_of_ite hdoc (fun h => h) fun _ => Json.listOf_ofTexts d.doc,
    Record.givesOr_of_map htypeParams, .of_field? hlocation d.location.ofJson_toJson⟩

theorem Field.ofJson_iff {j : Json} {f : Field} :
    ofJson j = .ok f ↔ ∃ r,
      Record.ofJson "Field" ["name", "type_name", "tag", "embedded_from", "location"] j = .ok r
      ∧ r.finish = .ok () ∧ r.Gives "name" Json.text f.name
      ∧ r.Gives "type_name" Json.text f.typeName
      ∧ r.GivesOr "tag" (Json.orNull Json.text) none f.tag
      ∧ r.GivesOr "embedded_from" (Json.orNull Json.text) none f.embeddedFrom
      ∧ r.Gives "location" Location.ofJson f.location := by
  simp only [ofJson, bind_eq_ok_iff, pure_eq_ok_iff, required_slot_iff, optional_slot_iff]
  constructor
  · rintro ⟨r, hr, _, -, name, hname, typeName, htypeName, tag, htag, embeddedFrom, hembeddedFrom,
      location, hlocation, _, hfinish, rfl⟩
    exact ⟨r, hr, hfinish, hname, htypeName, htag, hembeddedFrom, hlocation⟩
  · rintro ⟨r, hr, hfinish, hname, htypeName, htag, hembeddedFrom, hlocation⟩
    refine ⟨r, hr, (), refuse_iff.mpr ?_, _, hname, _, htypeName, _, htag, _, hembeddedFrom, _,
      hlocation, (), hfinish, rfl⟩
    simp [fault?_of_gives hname, fault?_of_gives htypeName, fault?_of_givesOr htag,
      fault?_of_givesOr hembeddedFrom, fault?_of_gives hlocation]

theorem Field.field?_toJson (f : Field) :
    f.toJson.field? "name" = some (.string f.name)
      ∧ f.toJson.field? "type_name" = some (.string f.typeName)
      ∧ f.toJson.field? "tag" = f.tag.map .string
      ∧ f.toJson.field? "embedded_from" = f.embeddedFrom.map .string
      ∧ f.toJson.field? "location" = some f.location.toJson := by
  simp [toJson, Json.field?_record, Json.field?_cons, Json.field?_nil, Json.field?_append,
    Json.field?_fieldIfAny, Json.reverse_fieldIfAny]

theorem Field.ofJson_toJson (f : Field) : ofJson f.toJson = .ok f := by
  obtain ⟨hname, htypeName, htag, hembeddedFrom, hlocation⟩ := field?_toJson f
  exact ofJson_iff.mpr ⟨_, rfl, rfl, .of_field? hname rfl, .of_field? htypeName rfl,
    Record.givesOr_of_map htag, Record.givesOr_of_map hembeddedFrom,
    .of_field? hlocation f.location.ofJson_toJson⟩

/-! ## Structs and packages -/

theorem ParsedStruct.ofJson_iff {j : Json} {s : ParsedStruct} :
    ofJson j = .ok s ↔ ∃ r, Record.ofJson "ParsedStruct" ["decl", "fields"] j = .ok r
      ∧ r.finish = .ok () ∧ r.Gives "decl" StructDecl.ofJson s.decl
      ∧ r.Gives "fields" (Json.listOf Field.ofJson) s.fields := by
  simp only [ofJson, bind_eq_ok_iff, pure_eq_ok_iff, required_slot_iff]
  constructor
  · rintro ⟨r, hr, _, -, decl, hdecl, fields, hfields, _, hfinish, rfl⟩
    exact ⟨r, hr, hfinish, hdecl, hfields⟩
  · rintro ⟨r, hr, hfinish, hdecl, hfields⟩
    refine ⟨r, hr, (), refuse_iff.mpr ?_, _, hdecl, _, hfields, (), hfinish, rfl⟩
    simp [fault?_of_gives hdecl, fault?_of_gives hfields]

theorem ParsedStruct.field?_toJson (s : ParsedStruct) :
    s.toJson.field? "decl" = some s.decl.toJson
      ∧ s.toJson.field? "fields" = some (.array (s.fields.map Field.toJson)) := by
  simp [toJson, Json.field?_record, Json.field?_cons]

theorem ParsedStruct.ofJson_toJson (s : ParsedStruct) : ofJson s.toJson = .ok s := by
  obtain ⟨hdecl, hfields⟩ := field?_toJson s
  exact ofJson_iff.mpr ⟨_, rfl, rfl, .of_field? hdecl s.decl.ofJson_toJson,
    .of_field? hfields (Json.listOf_array fun f _ => f.ofJson_toJson)⟩

theorem Package.ofJson_iff {j : Json} {p : Package} :
    ofJson j = .ok p ↔ ∃ r, Record.ofJson "Package" ["name", "import_path"] j = .ok r
      ∧ r.finish = .ok () ∧ r.Gives "name" Json.text p.name
      ∧ r.Gives "import_path" Json.text p.importPath := by
  simp only [ofJson, bind_eq_ok_iff, pure_eq_ok_iff, required_slot_iff]
  constructor
  · rintro ⟨r, hr, _, -, name, hname, importPath, himportPath, _, hfinish, rfl⟩
    exact ⟨r, hr, hfinish, hname, himportPath⟩
  · rintro ⟨r, hr, hfinish, hname, himportPath⟩
    refine ⟨r, hr, (), refuse_iff.mpr ?_, _, hname, _, himportPath, (), hfinish, rfl⟩
    simp [fault?_of_gives hname, fault?_of_gives himportPath]

theorem Package.field?_toJson (p : Package) :
    p.toJson.field? "name" = some (.string p.name)
      ∧ p.toJson.field? "import_path" = some (.string p.importPath) := by
  simp [toJson, Json.field?_record, Json.field?_cons]

theorem Package.ofJson_toJson (p : Package) : ofJson p.toJson = .ok p := by
  obtain ⟨hname, himportPath⟩ := field?_toJson p
  exact ofJson_iff.mpr ⟨_, rfl, rfl, .of_field? hname rfl, .of_field? himportPath rfl⟩

/-! ## Files -/

/-- The table is in order, and each struct is held under its own identity. -/
structure StructTable.IsKeyed (t : StructTable) : Prop where
  sorted : t.IsSorted
  keys : ∀ e ∈ t, e.1 = e.2.decl.id

/-- The table of a list holds each struct under its own identity. -/
theorem StructTable.isKeyed_ofList (ss : List ParsedStruct) : (ofList ss).IsKeyed := by
  refine ⟨isSorted_ofList ss, ?_⟩
  rintro ⟨id, s⟩ he
  have hid := List.find?_some (mem_ofList_iff.mp he)
  exact (eq_of_beq hid).symm

/-- A table is the one of its own structs. -/
theorem StructTable.ofList_structs {t : StructTable} (h : t.IsKeyed) : ofList t.structs = t := by
  rw [ofList_eq_map, structs, List.map_map]
  · rw [List.map_congr_left fun e he => ?_, List.map_id]
    exact Prod.ext (h.keys e he).symm rfl
  · refine List.pairwise_map.mpr (h.sorted.imp_of_mem ?_)
    intro a b ha hb hlt
    rwa [← h.keys a ha, ← h.keys b hb]

theorem StructTable.ofJson_toJson {t : StructTable} (h : t.IsKeyed) : ofJson t.toJson = .ok t := by
  rw [ofJson, toJson, Json.listOf_array fun s _ => s.ofJson_toJson]
  exact congrArg Except.ok (ofList_structs h)

theorem StructTable.isKeyed_of_ofJson {j : Json} {t : StructTable} (h : ofJson j = .ok t) :
    t.IsKeyed := by
  obtain ⟨ss, -, ht⟩ := bind_eq_ok_iff.mp h
  exact pure_eq_ok_iff.mp ht ▸ isKeyed_ofList ss

theorem ParsedFile.ofJson_iff {j : Json} {f : ParsedFile} :
    ofJson j = .ok f ↔ ∃ r, Record.ofJson "ParsedFile" ["package", "structs"] j = .ok r
      ∧ r.finish = .ok () ∧ r.Gives "package" Package.ofJson f.package
      ∧ r.Gives "structs" StructTable.ofJson f.structs := by
  simp only [ofJson, bind_eq_ok_iff, pure_eq_ok_iff, required_slot_iff]
  constructor
  · rintro ⟨r, hr, _, -, package, hpackage, structs, hstructs, _, hfinish, rfl⟩
    exact ⟨r, hr, hfinish, hpackage, hstructs⟩
  · rintro ⟨r, hr, hfinish, hpackage, hstructs⟩
    refine ⟨r, hr, (), refuse_iff.mpr ?_, _, hpackage, _, hstructs, (), hfinish, rfl⟩
    simp [fault?_of_gives hpackage, fault?_of_gives hstructs]

theorem ParsedFile.field?_toJson (f : ParsedFile) :
    f.toJson.field? "package" = some f.package.toJson
      ∧ f.toJson.field? "structs" = some f.structs.toJson := by
  simp [toJson, Json.field?_record, Json.field?_cons]

theorem ParsedFile.ofJson_toJson {f : ParsedFile} (h : f.structs.IsKeyed) :
    ofJson f.toJson = .ok f := by
  obtain ⟨hpackage, hstructs⟩ := field?_toJson f
  exact ofJson_iff.mpr ⟨_, rfl, rfl, ⟨_, hpackage, f.package.ofJson_toJson⟩,
    ⟨_, hstructs, StructTable.ofJson_toJson h⟩⟩

/-- In a file that is read each struct has its own identity as its key. -/
theorem ParsedFile.isKeyed_of_ofJson {j : Json} {f : ParsedFile} (h : ofJson j = .ok f) :
    f.structs.IsKeyed := by
  obtain ⟨r, -, -, -, v, -, hstructs⟩ := ofJson_iff.mp h
  exact StructTable.isKeyed_of_ofJson hstructs

/-- In a file that is extracted each struct has its own identity as its key. -/
theorem isKeyed_extractStructsWith {w : World} {c : Config} {path : Path} {f : ParsedFile}
    (h : (extractStructsWith w c path).value = .ok f) : f.structs.IsKeyed := by
  unfold extractStructsWith at h
  rw [Told.andThen_value] at h
  cases hread : (SourceFile.read w path).value with
  | error e =>
    rw [hread] at h
    cases h
  | ok source =>
    rw [hread] at h
    cases h
    exact StructTable.isKeyed_ofList _

theorem isKeyed_extractStructs {w : World} {path : Path} {f : ParsedFile}
    (h : (extractStructs w path).value = .ok f) : f.structs.IsKeyed :=
  isKeyed_extractStructsWith (Told.andThen_value .. ▸ h)

/-! ## Configurations -/

theorem Config.ofJson_iff {j : Json} {c : Config} :
    ofJson j = .ok c ↔ ∃ r,
      Record.ofJson "Config" ["gopath", "module_path", "project_root"] j = .ok r
      ∧ r.finish = .ok ()
      ∧ r.GivesOr "gopath" (Json.orNull Json.pathText) none (c.gopath.map Path.text)
      ∧ r.GivesOr "module_path" (Json.orNull Json.text) none c.modulePath
      ∧ r.GivesOr "project_root" (Json.orNull Json.pathText) none
        (c.projectRoot.map Path.text) := by
  have hpath (p : Option Path) : (p.map Path.text).map Path.mk = p := by cases p <;> rfl
  have htext (s : Option String) : (s.map Path.mk).map Path.text = s := by cases s <;> rfl
  simp only [ofJson, bind_eq_ok_iff, pure_eq_ok_iff, optional_slot_iff]
  constructor
  · rintro ⟨r, hr, _, -, gopath, hgopath, modulePath, hmodulePath, projectRoot, hprojectRoot, _,
      hfinish, rfl⟩
    simp only [htext]
    exact ⟨r, hr, hfinish, hgopath, hmodulePath, hprojectRoot⟩
  · rintro ⟨r, hr, hfinish, hgopath, hmodulePath, hprojectRoot⟩
    refine ⟨r, hr, (), refuse_iff.mpr ?_, _, hgopath, _, hmodulePath, _, hprojectRoot, (), hfinish,
      ?_⟩
    · simp [fault?_of_givesOr hgopath, fault?_of_givesOr hmodulePath,
        fault?_of_givesOr hprojectRoot]
    · simp only [hpath]

/-- All settings are written, those that are missing as null. -/
theorem Config.field?_toJson (c : Config) :
    c.toJson.field? "gopath" = some (.ofText? (c.gopath.map Path.text))
      ∧ c.toJson.field? "module_path" = some (.ofText? c.modulePath)
      ∧ c.toJson.field? "project_root" = some (.ofText? (c.projectRoot.map Path.text)) := by
  simp [toJson, Json.field?_record, Json.field?_cons]

theorem Json.orNull_ofText? {read : Json → Decoded String} (h : ∀ s, read (.string s) = .ok s)
    (s : Option String) : orNull read (.ofText? s) = .ok s := by
  cases s with
  | none => rfl
  | some s => exact congrArg (Except.map some) (h s)

theorem Config.ofJson_toJson (c : Config) : ofJson c.toJson = .ok c := by
  obtain ⟨hgopath, hmodulePath, hprojectRoot⟩ := field?_toJson c
  exact ofJson_iff.mpr ⟨_, rfl, rfl,
    .inl (.of_field? hgopath (Json.orNull_ofText? (fun _ => rfl) _)),
    .inl (.of_field? hmodulePath (Json.orNull_ofText? (fun _ => rfl) _)),
    .inl (.of_field? hprojectRoot (Json.orNull_ofText? (fun _ => rfl) _))⟩

/-! ## What is left out -/

open Json (AlwaysHas LeavesOut)

theorem StructId.alwaysHas : AlwaysHas toJson ofJson ["line", "column", "name"] := by
  refine ⟨fun i => by simp [field?_toJson i], fun fields i h => ?_⟩
  obtain ⟨_, ⟨⟩, -, hline, hcolumn, hname⟩ := ofJson_iff.mp h
  simp [hline.field?_ne_none, hcolumn.field?_ne_none, hname.field?_ne_none]

theorem Location.alwaysHas :
    AlwaysHas toJson ofJson ["file", "line", "column", "end_line", "end_column"] := by
  refine ⟨fun l => by simp [field?_toJson l], fun fields l h => ?_⟩
  obtain ⟨_, ⟨⟩, -, hfile, hline, hcolumn, hendLine, hendColumn⟩ := ofJson_iff.mp h
  simp [hfile.field?_ne_none, hline.field?_ne_none, hcolumn.field?_ne_none,
    hendLine.field?_ne_none, hendColumn.field?_ne_none]

theorem StructDecl.alwaysHas : AlwaysHas toJson ofJson ["id", "name", "location"] := by
  refine ⟨fun d => by simp [field?_toJson d], fun fields d h => ?_⟩
  obtain ⟨_, ⟨⟩, -, hid, hname, -, -, hlocation⟩ := ofJson_iff.mp h
  simp [hid.field?_ne_none, hname.field?_ne_none, hlocation.field?_ne_none]

theorem StructDecl.leavesOut_doc :
    LeavesOut toJson ofJson "doc" fun d => { d with doc := [] } := by
  refine ⟨fun d => ?_, fun fields d h => ?_⟩
  · obtain ⟨id, name, doc, typeParams, location⟩ := d
    simp [field?_toJson, eq_comm]
  · obtain ⟨_, ⟨⟩, -, hid, hname, -, htypeParams, hlocation⟩ := ofJson_iff.mp h
    exact ofJson_iff.mpr ⟨_, rfl, rfl, hid.without (by decide), hname.without (by decide),
      Record.givesOr_without, htypeParams.without (by decide), hlocation.without (by decide)⟩

theorem StructDecl.leavesOut_typeParams :
    LeavesOut toJson ofJson "type_params" fun d => { d with typeParams := none } := by
  refine ⟨fun d => ?_, fun fields d h => ?_⟩
  · obtain ⟨id, name, doc, typeParams, location⟩ := d
    simp [field?_toJson, eq_comm]
  · obtain ⟨_, ⟨⟩, -, hid, hname, hdoc, -, hlocation⟩ := ofJson_iff.mp h
    exact ofJson_iff.mpr ⟨_, rfl, rfl, hid.without (by decide), hname.without (by decide),
      hdoc.without (by decide), Record.givesOr_without, hlocation.without (by decide)⟩

theorem Field.alwaysHas : AlwaysHas toJson ofJson ["name", "type_name", "location"] := by
  refine ⟨fun f => by simp [field?_toJson f], fun fields f h => ?_⟩
  obtain ⟨_, ⟨⟩, -, hname, htypeName, -, -, hlocation⟩ := ofJson_iff.mp h
  simp [hname.field?_ne_none, htypeName.field?_ne_none, hlocation.field?_ne_none]

theorem Field.leavesOut_tag : LeavesOut toJson ofJson "tag" fun f => { f with tag := none } := by
  refine ⟨fun f => ?_, fun fields f h => ?_⟩
  · obtain ⟨name, typeName, tag, embeddedFrom, location⟩ := f
    simp [field?_toJson, eq_comm]
  · obtain ⟨_, ⟨⟩, -, hname, htypeName, -, hembeddedFrom, hlocation⟩ := ofJson_iff.mp h
    exact ofJson_iff.mpr ⟨_, rfl, rfl, hname.without (by decide), htypeName.without (by decide),
      Record.givesOr_without, hembeddedFrom.without (by decide), hlocation.without (by decide)⟩

theorem Field.leavesOut_embeddedFrom :
    LeavesOut toJson ofJson "embedded_from" fun f => { f with embeddedFrom := none } := by
  refine ⟨fun f => ?_, fun fields f h => ?_⟩
  · obtain ⟨name, typeName, tag, embeddedFrom, location⟩ := f
    simp [field?_toJson, eq_comm]
  · obtain ⟨_, ⟨⟩, -, hname, htypeName, htag, -, hlocation⟩ := ofJson_iff.mp h
    exact ofJson_iff.mpr ⟨_, rfl, rfl, hname.without (by decide), htypeName.without (by decide),
      htag.without (by decide), Record.givesOr_without, hlocation.without (by decide)⟩

theorem ParsedStruct.alwaysHas : AlwaysHas toJson ofJson ["decl", "fields"] := by
  refine ⟨fun s => by simp [field?_toJson s], fun fields s h => ?_⟩
  obtain ⟨_, ⟨⟩, -, hdecl, hfields⟩ := ofJson_iff.mp h
  simp [hdecl.field?_ne_none, hfields.field?_ne_none]

theorem Package.alwaysHas : AlwaysHas toJson ofJson ["name", "import_path"] := by
  refine ⟨fun p => by simp [field?_toJson p], fun fields p h => ?_⟩
  obtain ⟨_, ⟨⟩, -, hname, himportPath⟩ := ofJson_iff.mp h
  simp [hname.field?_ne_none, himportPath.field?_ne_none]

theorem ParsedFile.alwaysHas : AlwaysHas toJson ofJson ["package", "structs"] := by
  refine ⟨fun f => by simp [field?_toJson f], fun fields f h => ?_⟩
  obtain ⟨_, ⟨⟩, -, hpackage, hstructs⟩ := ofJson_iff.mp h
  simp [hpackage.field?_ne_none, hstructs.field?_ne_none]

/-! ## All records -/

/-- What is written is read back, and what is left out is what is restored. -/
structure ReadsBack : Prop where
  id : ∀ i : StructId, StructId.ofJson i.toJson = .ok i
  location : ∀ l : Location, Location.ofJson l.toJson = .ok l
  decl : ∀ d : StructDecl, StructDecl.ofJson d.toJson = .ok d
  field : ∀ f : Field, Field.ofJson f.toJson = .ok f
  parsedStruct : ∀ s : ParsedStruct, ParsedStruct.ofJson s.toJson = .ok s
  package : ∀ p : Package, Package.ofJson p.toJson = .ok p
  config : ∀ c : Config, Config.ofJson c.toJson = .ok c
  file : ∀ f : ParsedFile, f.structs.IsKeyed → ParsedFile.ofJson f.toJson = .ok f
  /-- Files that are extracted are among these. -/
  extracted : ∀ w path f, (extractStructs w path).value = .ok f →
    f.structs.IsKeyed ∧ ParsedFile.ofJson f.toJson = .ok f
  extractedWith : ∀ w c path f, (extractStructsWith w c path).value = .ok f →
    f.structs.IsKeyed ∧ ParsedFile.ofJson f.toJson = .ok f
  /-- Files that are read are among these, so what is written of them is read and written again
  as it is. -/
  canonical : ∀ v f, ParsedFile.ofJson v = .ok f →
    f.structs.IsKeyed ∧ ParsedFile.ofJson f.toJson = .ok f
      ∧ (ParsedFile.ofJson f.toJson).map ParsedFile.toJson = .ok f.toJson
  /-- Four fields are left out. -/
  doc : LeavesOut StructDecl.toJson StructDecl.ofJson "doc" fun d => { d with doc := [] }
  typeParams : LeavesOut StructDecl.toJson StructDecl.ofJson "type_params" fun d =>
    { d with typeParams := none }
  tag : LeavesOut Field.toJson Field.ofJson "tag" fun f => { f with tag := none }
  embeddedFrom : LeavesOut Field.toJson Field.ofJson "embedded_from" fun f =>
    { f with embeddedFrom := none }
  /-- All other fields of a file, and of its parts, are there. -/
  idHas : AlwaysHas StructId.toJson StructId.ofJson ["line", "column", "name"]
  locationHas : AlwaysHas Location.toJson Location.ofJson
    ["file", "line", "column", "end_line", "end_column"]
  declHas : AlwaysHas StructDecl.toJson StructDecl.ofJson ["id", "name", "location"]
  fieldHas : AlwaysHas Field.toJson Field.ofJson ["name", "type_name", "location"]
  parsedStructHas : AlwaysHas ParsedStruct.toJson ParsedStruct.ofJson ["decl", "fields"]
  packageHas : AlwaysHas Package.toJson Package.ofJson ["name", "import_path"]
  fileHas : AlwaysHas ParsedFile.toJson ParsedFile.ofJson ["package", "structs"]
  /-- Of a configuration nothing is left out. -/
  configHas : ∀ c : Config, ∀ name ∈ ["gopath", "module_path", "project_root"],
    c.toJson.field? name ≠ none

/-- Whatever is written is read back. -/
theorem written_reads_back : ReadsBack where
  id := StructId.ofJson_toJson
  location := Location.ofJson_toJson
  decl := StructDecl.ofJson_toJson
  field := Field.ofJson_toJson
  parsedStruct := ParsedStruct.ofJson_toJson
  package := Package.ofJson_toJson
  config := Config.ofJson_toJson
  file _ h := ParsedFile.ofJson_toJson h
  extracted w path f h := by
    have hkeyed := isKeyed_extractStructs h
    exact ⟨hkeyed, ParsedFile.ofJson_toJson hkeyed⟩
  extractedWith w c path f h := by
    have hkeyed := isKeyed_extractStructsWith h
    exact ⟨hkeyed, ParsedFile.ofJson_toJson hkeyed⟩
  canonical v f h := by
    have hread := ParsedFile.ofJson_toJson (ParsedFile.isKeyed_of_ofJson h)
    exact ⟨ParsedFile.isKeyed_of_ofJson h, hread, congrArg (Except.map ParsedFile.toJson) hread⟩
  doc := StructDecl.leavesOut_doc
  typeParams := StructDecl.leavesOut_typeParams
  tag := Field.leavesOut_tag
  embeddedFrom := Field.leavesOut_embeddedFrom
  idHas := StructId.alwaysHas
  locationHas := Location.alwaysHas
  declHas := StructDecl.alwaysHas
  fieldHas := Field.alwaysHas
  parsedStructHas := ParsedStruct.alwaysHas
  packageHas := Package.alwaysHas
  fileHas := ParsedFile.alwaysHas
  configHas c := by simp [Config.field?_toJson c]

/-- Three structs, two of which have one name, are extracted under a configuration and under the
one for their directory, written and read back, and what was read is written again as it is. -/
theorem written_reads_back_of_twins :
    ∃ file other, (extractStructsWith (.ofFile twins) default ⟨"a.go"⟩).value = .ok file
      ∧ (extractStructs (.ofFile twins) ⟨"a.go"⟩).value = .ok other
      ∧ file.structs.map (fun e => e.2.decl.name) = ["A", "A", "B"]
      ∧ file.structs.IsKeyed ∧ ParsedFile.ofJson file.toJson = .ok file
      ∧ (ParsedFile.ofJson file.toJson).map ParsedFile.toJson = .ok file.toJson
      ∧ other.structs.IsKeyed ∧ ParsedFile.ofJson other.toJson = .ok other := by
  obtain ⟨f, hf, -⟩ := SourceFile.exists_read_ofFile twins (by decide +kernel)
  obtain ⟨file, hfile⟩ : ∃ file,
      (extractStructsWith (.ofFile twins) default ⟨"a.go"⟩).value = .ok file :=
    ⟨_, value_extractStructsWith hf⟩
  obtain ⟨other, hother⟩ : ∃ other,
      (extractStructs (.ofFile twins) ⟨"a.go"⟩).value = .ok other :=
    ⟨_, (Told.andThen_value ..).trans (value_extractStructsWith hf)⟩
  have hnames : ((extractStructsWith (.ofFile twins) default ⟨"a.go"⟩).value.toOption.map
      fun file => file.structs.map fun e => e.2.decl.name) = some ["A", "A", "B"] := by
    decide +kernel
  rw [hfile] at hnames
  obtain ⟨hkeyed, -⟩ := written_reads_back.extractedWith _ _ _ _ hfile
  have hread := written_reads_back.file file hkeyed
  obtain ⟨-, -, hagain⟩ := written_reads_back.canonical _ _ hread
  obtain ⟨hkeyed', hread'⟩ := written_reads_back.extracted _ _ _ hother
  exact ⟨file, other, hfile, hother, Option.some.inj hnames, hkeyed, hread, hagain, hkeyed', hread'⟩

end GoStructs
