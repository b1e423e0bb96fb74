import GoStructs.Proofs.Structs.Fields
/-! # Locations of structs and fields

A location is made of the positions of a node, and a name of the text between them.  Both lead to
the same bytes: whoever cuts the file from the line and column where a location begins up to those
where it ends finds the name.

## Main statements

* `pointsAt_locationOf`: the location of a node of the tree leads to its text.
* `locations_point_at_names`: so do the locations of all structs and fields of a file. -/

namespace GoStructs

open Syntax (SyntaxTree Laid)
open SourceFile

/-- Cut from the bytes of a file, the location gives the name, and its numbers are those of two
positions, none of them cut off to 32 bits. -/
structure PointsAt (path : Path) (bytes : ByteArray) (l : Location) (name : String) : Prop where
  file : l.file = path.text
  cut : l.cut bytes = name.toByteArray
  exact : ∃ start stop : Position, l = .between path.text start stop
    ∧ l.line.toNat = start.row + 1 ∧ l.column.toNat = start.column + 1
    ∧ l.endLine.toNat = stop.row + 1 ∧ l.endColumn.toNat = stop.column + 1

variable {w : World} {c : Config} {path : Path} {text : List Char} {f : SourceFile}
  {bytes : ByteArray}

/-- The location of a node leads to the text of the node. -/
theorem pointsAt_locationOf (hsize : byteSize f.text < 2 ^ 32 - 1) {t : SyntaxTree} {lo hi : Nat}
    (h : Laid f.text lo [t] hi) :
    PointsAt f.path f.text.utf8Encode (f.locationOf t) (f.textOf t) where
  file := rfl
  cut := by
    rw [textOf, String.toByteArray_ofList]
    exact Location.cut_between hsize h.start_in h.stop_in h.subtrees.le f.path.text
  exact :=
    ⟨t.start, t.stop, rfl, Location.line_between hsize h.start_in _ _,
      Location.column_between hsize h.start_in _ _, Location.endLine_between hsize h.stop_in _ _,
      Location.endColumn_between hsize h.stop_in _ _⟩

/-- A declaration of fields in a struct stands in the text. -/
theorem laid_of_mem_fieldDeclarations {spec d : SyntaxTree} {lo hi : Nat}
    (h : Laid f.text lo [spec] hi) (hd : d ∈ spec.fieldDeclarations) :
    ∃ lo hi, Laid f.text lo [d] hi := by
  obtain ⟨type, htype, hd⟩ := List.mem_flatMap.mp hd
  obtain ⟨body, hbody, hd⟩ := List.mem_flatMap.mp hd
  have htype := h.children.of_mem (SyntaxTree.mem_children_of_mem_labelled htype)
  have hbody := htype.children.of_mem (SyntaxTree.mem_children_of_mem_childrenOf hbody)
  exact ⟨_, _, hbody.children.of_mem (SyntaxTree.mem_children_of_mem_childrenOf hd)⟩

/-- The own fields of a struct are located at their names. -/
theorem pointsAt_of_mem_ownFields (hsize : byteSize f.text < 2 ^ 32 - 1) {spec : SyntaxTree}
    {lo hi : Nat} (h : Laid f.text lo [spec] hi) {field : Field}
    (hfield : field ∈ f.ownFields spec) :
    PointsAt f.path f.text.utf8Encode field.location field.name := by
  -- the field is named in some declaration of the struct, which stands in the text
  obtain ⟨d, hd, hfield⟩ := List.mem_flatMap.mp hfield
  obtain ⟨lo', hi', hlaid⟩ := laid_of_mem_fieldDeclarations h hd
  unfold exportedOf at hfield
  split at hfield
  · cases hfield
  · obtain ⟨n, hn, rfl⟩ := List.mem_map.mp hfield
    have hn := SyntaxTree.mem_children_of_mem_labelled (List.mem_filter.mp hn).1
    exact pointsAt_locationOf hsize (hlaid.children.of_mem hn)

/-- So are those that an embedded member adds, wherever they are declared. -/
theorem pointsAt_of_promotes (hof : ofText path text = .ok f)
    (hsize : byteSize f.text < 2 ^ 32 - 1) {e : SyntaxTree} {fields : List Field}
    (h : f.Promotes e fields) {field : Field} (hfield : field ∈ fields) :
    PointsAt f.path f.text.utf8Encode field.location field.name := by
  obtain ⟨hi, hlaid⟩ := laid_structSpecs hof
  cases h with
  | foreign | undeclared => cases hfield
  | @declared name before after spec _ hspecs _ _ =>
    have hspec : spec ∈ f.tree.structSpecs := by rw [hspecs]; simp
    -- to promote a field changes neither its name nor its location
    obtain ⟨own, hown, rfl⟩ := List.mem_map.mp hfield
    have hpoints := pointsAt_of_mem_ownFields hsize (hlaid.of_mem hspec) hown
    exact hpoints

theorem pointsAt_of_hasFields (hof : ofText path text = .ok f)
    (hsize : byteSize f.text < 2 ^ 32 - 1) {spec : SyntaxTree} (hspec : spec ∈ f.tree.structSpecs)
    {fields : List Field} (h : f.HasFields spec fields) {field : Field} (hfield : field ∈ fields) :
    PointsAt f.path f.text.utf8Encode field.location field.name := by
  obtain ⟨hi, hlaid⟩ := laid_structSpecs hof
  obtain ⟨promoted, hpromoted, rfl⟩ := h
  -- a field is the struct's own, or an embedded member adds it
  rcases List.mem_append.mp hfield with hown | hfield
  · exact pointsAt_of_mem_ownFields hsize (hlaid.of_mem hspec) hown
  · obtain ⟨fields, hfields, hfield⟩ := List.mem_flatten.mp hfield
    obtain ⟨e, -, he⟩ := exists_left_of_mem hpromoted hfields
    exact pointsAt_of_promotes hof hsize he hfield

/-- The declaration of a struct is located at its name, and its identity tells the same place. -/
theorem pointsAt_of_isRawOf (hof : ofText path text = .ok f)
    (hsize : byteSize f.text < 2 ^ 32 - 1) {spec : SyntaxTree} (hspec : spec ∈ f.tree.structSpecs)
    {r : RawStruct} (h : IsRawOf f spec r) :
    PointsAt f.path f.text.utf8Encode r.decl.location r.decl.name
      ∧ r.decl.id.line = r.decl.location.line ∧ r.decl.id.column = r.decl.location.column := by
  obtain ⟨hi, hlaid⟩ := laid_structSpecs hof
  obtain ⟨n, hn, hlocation⟩ := Option.map_eq_some_iff.mp h.location
  -- name, identity and location are all taken from one node
  have hname := h.name
  have hid := h.id
  rw [specName?, hn] at hname
  rw [specId?, hn] at hid
  have hmem := SyntaxTree.mem_children_of_mem_labelled (SyntaxTree.mem_labelled_of_labelled? hn)
  rw [← Option.some.inj hname, ← Option.some.inj hid, ← hlocation]
  exact ⟨pointsAt_locationOf hsize ((hlaid.of_mem hspec).children.of_mem hmem), rfl, rfl⟩

/-- In a file of fewer than 2³² - 1 bytes the locations of all structs and of all their fields,
the promoted ones included, point at their names. -/
theorem locations_point_at_names (hbytes : w.readBytes path = .ok bytes)
    (hsize : bytes.size < 2 ^ 32 - 1) (hf : (SourceFile.read w path).value = .ok f) :
    ∃ file, (extractStructsWith w c path).value = .ok file ∧ ∀ e ∈ file.structs,
      PointsAt path bytes e.2.decl.location e.2.decl.name
        ∧ e.2.decl.id.line = e.2.decl.location.line
        ∧ e.2.decl.id.column = e.2.decl.location.column
        ∧ ∀ field ∈ e.2.fields, PointsAt path bytes field.location field.name := by
  have hsize : byteSize f.text < 2 ^ 32 - 1 := byteSize_of_read hbytes hf ▸ hsize
  have hutf8 := utf8Encode_of_read hbytes hf
  obtain ⟨text, -, hof⟩ := ofText_of_read hf
  have htree := isFormed_tree hof
  have hpath := (of_ofText hof).1
  refine ⟨_, value_extractStructsWith hf, ?_⟩
  intro e he
  have he : e ∈ resolveFields (rawStructs f) := he
  -- since nothing is lost from the table, each entry is that of a definition
  rw [resolveFields_eq_map hof hsize] at he
  obtain ⟨r, hr, rfl⟩ := List.mem_map.mp he
  obtain ⟨spec, hspec, hraw⟩ := exists_spec_of_mem_rawStructs htree hr
  obtain ⟨hdecl, hline, hcolumn⟩ := pointsAt_of_isRawOf hof hsize hspec hraw
  have hfields :=
    hasFields_fieldsOf htree hraw (SyntaxTree.isFormed_of_mem_structSpecs htree hspec)
  rw [← hpath, ← hutf8]
  refine ⟨hdecl, hline, hcolumn, ?_⟩
  intro field hfield
  exact pointsAt_of_hasFields hof hsize hspec hfields hfield

/-- A byte order mark, line ends of two characters, and names that are no ASCII. -/
def accents : String :=
  "\uFEFFpackage p\r\n\r\n/* \n */ type Größe struct \x7b Été, X int \x7d\r\n"
    ++ "type B struct \x7b *Größe \x7d\r\n"

theorem locations_point_at_names_of_accents :
    ∃ f file, (SourceFile.read (.ofFile accents) ⟨"a.go"⟩).value = .ok f
      ∧ f.tree.structSpecs.length = 2
      ∧ (extractStructsWith (.ofFile accents) default ⟨"a.go"⟩).value = .ok file
      ∧ ∀ e ∈ file.structs,
        PointsAt ⟨"a.go"⟩ accents.toByteArray e.2.decl.location e.2.decl.name
          ∧ e.2.decl.id.line = e.2.decl.location.line
          ∧ e.2.decl.id.column = e.2.decl.location.column
          ∧ ∀ field ∈ e.2.fields,
            PointsAt ⟨"a.go"⟩ accents.toByteArray field.location field.name := by
  obtain ⟨f, hf, htree⟩ := exists_read_ofFile accents (by decide +kernel)
  have hcount : (Syntax.parse accents.toList).structSpecs.length = 2 := by decide +kernel
  obtain ⟨file, hfile, hpoints⟩ :=
    locations_point_at_names (c := default) (World.readBytes_ofFile accents) (by decide +kernel) hf
  exact ⟨f, file, hf, by rw [htree]; exact hcount, hfile, hpoints⟩

end GoStructs
