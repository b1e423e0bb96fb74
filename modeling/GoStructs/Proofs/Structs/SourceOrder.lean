import GoStructs.Proofs.Source.Bytes
import GoStructs.Proofs.Structs.Specs
import GoStructs.Proofs.Structs.Table
import GoStructs.Structs.Extract
import GoStructs.Structs.Written
/-! # Structs in source order

The definitions of structs stand in the text one behind the other, and in a file of fewer than
2³² - 1 bytes so do their identities in the order of lines and columns.  So no struct takes the
place of another in the table of a file, even if they have one name, and the table lists the
structs as the file does.

## Main statements

* `SourceFile.pairwise_specId`: identities ascend along the source.
* `SourceFile.nodup_specId`: in larger files they are different at least.
* `resolveFields_eq_map`: the table holds each struct that is collected.
* `extracted_lists_specs`: what is extracted is one struct for each definition, in order. -/

namespace GoStructs

open Syntax (SyntaxTree Laid)

namespace SourceFile

variable {w : World} {path : Path} {text : List Char} {f : SourceFile}

/-- What is read of a file is all of its bytes. -/
theorem utf8Encode_of_read {bytes : ByteArray} (hbytes : w.readBytes path = .ok bytes)
    (hf : (read w path).value = .ok f) : f.text.utf8Encode = bytes := by
  obtain ⟨text, htext, hof⟩ := ofText_of_read hf
  have hread := World.readBytes_of_readText htext
  rw [hbytes] at hread
  rw [(of_ofText hof).2.1, Except.ok.inj hread, ← String.utf8Encode_toList]

theorem byteSize_of_read {bytes : ByteArray} (hbytes : w.readBytes path = .ok bytes)
    (hf : (read w path).value = .ok f) : byteSize f.text = bytes.size := by
  rw [← utf8Encode_of_read hbytes hf, size_utf8Encode]

/-- Of two definitions the name of the first begins before that of the second. -/
theorem pairwise_specName (h : ofText path text = .ok f) :
    f.tree.structSpecs.Pairwise fun a b => ∀ m ∈ a.labelled? .name, ∀ n ∈ b.labelled? .name,
      m.start.In f.text ∧ n.start.In f.text ∧ m.start.offset < n.start.offset := by
  -- of two definitions the one that comes first ends before the other begins
  obtain ⟨hi, hlaid⟩ := laid_structSpecs h
  refine hlaid.pairwise.imp_of_mem ?_
  intro a b ha hb hab m hm n hn
  have hm := SyntaxTree.mem_children_of_mem_labelled (SyntaxTree.mem_labelled_of_labelled? hm)
  have hn := SyntaxTree.mem_children_of_mem_labelled (SyntaxTree.mem_labelled_of_labelled? hn)
  have hmlaid := (hlaid.of_mem ha).children.of_mem hm
  have hnlaid := (hlaid.of_mem hb).children.of_mem hn
  -- the first name ends before its definition does, and the second begins no sooner than its own
  have hfilled := hmlaid.start_lt_stop (Or.inr (SyntaxTree.isShown_of_mem_children hm))
  have hstop := hmlaid.stop_le
  have hstart := hnlaid.le_start
  exact ⟨hmlaid.start_in, hnlaid.start_in, by omega⟩

/-- The identities of the definitions ascend along the source. -/
theorem pairwise_specId (h : ofText path text = .ok f) (hsize : byteSize f.text < 2 ^ 32 - 1) :
    f.tree.structSpecs.Pairwise fun a b =>
      ∀ i ∈ f.specId? a, ∀ j ∈ f.specId? b, StructId.order i j = .lt := by
  refine (pairwise_specName h).imp ?_
  intro a b hab i hia j hjb
  obtain ⟨m, hm, rfl⟩ := Option.map_eq_some_iff.mp hia
  obtain ⟨n, hn, rfl⟩ := Option.map_eq_some_iff.mp hjb
  obtain ⟨hmstart, hnstart, hlt⟩ := hab m hm n hn
  have hplace := Location.place_lt_of_offset_lt hsize hmstart hnstart hlt f.path.text m.stop n.stop
  exact StructId.order_eq_lt_of_place hplace

/-- No two definitions have one identity, as long as offsets in the file are 32-bit numbers. -/
theorem nodup_specId (h : ofText path text = .ok f) (hsize : byteSize f.text < 2 ^ 32) :
    (f.tree.structSpecs.map f.specId?).Nodup := by
  refine List.pairwise_map.mpr ((pairwise_specName h).imp_of_mem ?_)
  intro a b ha hb hab heq
  -- each definition has a name
  obtain ⟨r, -, hr⟩ := exists_raw_of_mem_structSpecs (isFormed_tree h) ha
  obtain ⟨m, hm, hmid⟩ := Option.map_eq_some_iff.mp hr.id
  obtain ⟨n, hn, hnid⟩ := Option.map_eq_some_iff.mp (heq ▸ hr.id)
  obtain ⟨hmstart, hnstart, hlt⟩ := hab m hm n hn
  have hid := hmid.trans hnid.symm
  exact Location.place_ne_of_offset_lt hsize hmstart hnstart hlt f.path.text m.stop n.stop
    (congrArg StructId.line hid) (congrArg StructId.column hid)

end SourceFile

variable {w : World} {c : Config} {path : Path} {text : List Char} {f : SourceFile}

theorem map_specId (h : f.tree.IsFormed) :
    f.tree.structSpecs.map f.specId? = (rawStructs f).map fun r => some r.decl.id := by
  rw [← List.forall₂_eq_eq_eq, List.forall₂_map_left_iff, List.forall₂_map_right_iff]
  exact (forall₂_rawStructs h).imp fun _ _ hraw => hraw.id

theorem pairwise_rawStructs (h : SourceFile.ofText path text = .ok f)
    (hsize : byteSize f.text < 2 ^ 32 - 1) :
    (rawStructs f).Pairwise fun a b => StructId.order a.decl.id b.decl.id = .lt := by
  -- the order of the definitions is carried over along their identities
  have hspecs : (f.tree.structSpecs.map f.specId?).Pairwise fun i j =>
      ∀ x ∈ i, ∀ y ∈ j, StructId.order x y = .lt :=
    List.pairwise_map.mpr (SourceFile.pairwise_specId h hsize)
  rw [map_specId (SourceFile.isFormed_tree h), List.pairwise_map] at hspecs
  exact hspecs.imp fun hab => hab _ rfl _ rfl

/-- The table holds each struct that is collected, in the same order. -/
theorem resolveFields_eq_map (h : SourceFile.ofText path text = .ok f)
    (hsize : byteSize f.text < 2 ^ 32 - 1) :
    resolveFields (rawStructs f)
      = (rawStructs f).map fun r => (r.decl.id, ⟨r.decl, fieldsOf (rawStructs f) r⟩) := by
  unfold resolveFields
  rw [StructTable.ofList_eq_map, List.map_map]
  · rfl
  · exact List.pairwise_map.mpr (pairwise_rawStructs h hsize)

/-- From a source file, its structs are extracted. -/
theorem value_extractStructsWith (hf : (SourceFile.read w path).value = .ok f) :
    (extractStructsWith w c path).value
      = .ok ⟨⟨f.packageName, (Import.importPath w c path).value⟩,
        resolveFields (rawStructs f)⟩ := by
  unfold extractStructsWith
  rw [Told.andThen_value, hf]
  rfl

/-- What is extracted is one struct for each definition, in the order of the source. -/
structure ListsSpecs (f : SourceFile) (file : ParsedFile) : Prop where
  /-- The definitions stand in the text one behind the other. -/
  laid : f.tree.structSpecs.Pairwise fun a b => a.stop.offset ≤ b.start.offset
  /-- Each definition is made of a name, perhaps type parameters, and a struct. -/
  shapes : ∀ spec ∈ f.tree.structSpecs,
    Syntax.partsOf spec.subtrees
        = [(.node .typeIdentifier, some .name), (.node .structType, some .type)]
      ∨ Syntax.partsOf spec.subtrees
        = [(.node .typeIdentifier, some .name), (.node .typeParameterList, some .typeParameters),
          (.node .structType, some .type)]
  /-- Each definition has its entry, and there are no others. -/
  ids : f.tree.structSpecs.map f.specId? = file.structs.map fun e => some e.1
  /-- The identities ascend, so no two entries have the same. -/
  sorted : file.structs.IsSorted
  /-- The key of an entry is the identity of its declaration, and tells its name. -/
  keys : ∀ e ∈ file.structs, e.1 = e.2.decl.id ∧ e.1.name = e.2.decl.name
  /-- The structs are written in the same order. -/
  written : file.structs.toJson = .array (file.structs.map fun e => e.2.toJson)

/-- From a file of fewer than 2³² - 1 bytes each definition of a struct is extracted under its own
identity, and nothing besides. -/
theorem extracted_lists_specs {bytes : ByteArray} (hbytes : w.readBytes path = .ok bytes)
    (hsize : bytes.size < 2 ^ 32 - 1) (hf : (SourceFile.read w path).value = .ok f) :
    ∃ file, (extractStructsWith w c path).value = .ok file ∧ ListsSpecs f file := by
  have hsize : byteSize f.text < 2 ^ 32 - 1 := SourceFile.byteSize_of_read hbytes hf ▸ hsize
  obtain ⟨text, -, hof⟩ := SourceFile.ofText_of_read hf
  have hformed := SourceFile.isFormed_tree hof
  obtain ⟨hi, hlaid⟩ := SourceFile.laid_structSpecs hof
  have htable := resolveFields_eq_map hof hsize
  refine ⟨_, value_extractStructsWith hf, hlaid.pairwise, ?_, ?_, StructTable.isSorted_ofList _,
    ?_, ?_⟩
  · exact fun spec hspec => SyntaxTree.parts_of_mem_structSpecs hformed hspec
  · show _ = (resolveFields (rawStructs f)).map _
    rw [map_specId hformed, htable, List.map_map]
    rfl
  · -- an entry is made of one declaration, whose identity has its name
    intro e he
    have he : e ∈ resolveFields (rawStructs f) := he
    rw [htable] at he
    obtain ⟨r, hr, rfl⟩ := List.mem_map.mp he
    obtain ⟨spec, -, hraw⟩ := exists_spec_of_mem_rawStructs hformed hr
    exact ⟨rfl, hraw.id_name⟩
  · rw [StructTable.toJson, StructTable.structs, List.map_map]
    rfl

/-- Two structs of one name on one line, and a group that also holds an alias. -/
def twins : String :=
  "package p\n\ntype A struct\x7b X int \x7d; type A struct\x7b\x7d\n\n"
    ++ "type (\n\tB[T any] struct\x7b A \x7d\n\tC = struct\x7b\x7d\n)\n"

theorem extracted_lists_specs_of_twins :
    ∃ f file, (SourceFile.read (.ofFile twins) ⟨"a.go"⟩).value = .ok f
      ∧ f.tree.structSpecs.length = 3
      ∧ (extractStructsWith (.ofFile twins) default ⟨"a.go"⟩).value = .ok file
      ∧ ListsSpecs f file := by
  obtain ⟨f, hf, htree⟩ := SourceFile.exists_read_ofFile twins (by decide +kernel)
  have hcount : (Syntax.parse twins.toList).structSpecs.length = 3 := by decide +kernel
  obtain ⟨file, hfile, hlists⟩ :=
    extracted_lists_specs (c := default) (World.readBytes_ofFile twins) (by decide +kernel) hf
  exact ⟨f, file, hf, by rw [htree]; exact hcount, hfile, hlists⟩

end GoStructs
