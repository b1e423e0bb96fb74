import GoStructs.Proofs.Structs.SourceOrder
import Mathlib.Data.List.Pairwise
/-! # The fields of structs

Which fields a struct has can be told from the tree of its file: first the exported names of its
own declarations of fields, in source order, and then what each embedded member adds.  A member
adds the own exported fields of the first struct of its name, wherever that is declared, and
nothing if it names no struct of the file.  What is added is never embedded any further.

## Main statements

* `hasFields_fieldsOf`: the fields of a struct that is collected.
* `extracted_fields`: the fields that are extracted for each definition of a struct. -/

namespace GoStructs

open Syntax (SyntaxTree Kind NodeKind Label)

/-! ## Fields as the tree tells them -/

/-- The declarations in the body of a struct that have no name. -/
def Syntax.SyntaxTree.embeddedMembers (spec : SyntaxTree) : List SyntaxTree :=
  spec.fieldDeclarations.filter fun d => (d.labelled .name).isEmpty

namespace SourceFile

/-- The fields that the exported names of one declaration stand for.  All have its type and its
tag. -/
def exportedOf (f : SourceFile) (d : SyntaxTree) : List Field :=
  match d.labelled? .type with
  | none => []
  | some type =>
    ((d.labelled .name).filter fun n => isExportedName (f.textOf n)).map fun n =>
      { name := f.textOf n
        typeName := f.textOf type
        tag := (d.labelled? .tag).map f.textOf
        embeddedFrom := none
        location := f.locationOf n }

/-- The fields that the struct itself declares. -/
def ownFields (f : SourceFile) (spec : SyntaxTree) : List Field :=
  spec.fieldDeclarations.flatMap f.exportedOf

/-- The embedded member is written with this name: `N`, `*N`, `N[...]` or `*N[...]`. -/
inductive Embeds (f : SourceFile) (e : SyntaxTree) : String → Prop where
  | plain {type : SyntaxTree} (htype : e.labelled .type = [type])
      (hkind : type.kind = .node .typeIdentifier) : Embeds f e (f.textOf type)
  | generic {type name : SyntaxTree} (htype : e.labelled .type = [type])
      (hkind : type.kind = .node .genericType) (hname : type.labelled .type = [name])
      (hnamekind : name.kind = .node .typeIdentifier) : Embeds f e (f.textOf name)

/-- The embedded member has a type that no struct of the file can be.  Either it is one of another
package, written `pkg.T`, `*pkg.T`, `pkg.T[...]` or `*pkg.T[...]`, or it is a negated type with
arguments, such as `~T[...]`. -/
inductive IsForeign (e : SyntaxTree) : Prop where
  | plain {type : SyntaxTree} (htype : e.labelled .type = [type])
      (hkind : type.kind = .node .qualifiedType) : IsForeign e
  | generic {type base : SyntaxTree} (htype : e.labelled .type = [type])
      (hkind : type.kind = .node .genericType) (hbase : type.labelled .type = [base])
      (hbasekind : base.kind = .node .qualifiedType ∨ base.kind = .node .negatedType) : IsForeign e

/-- What an embedded member adds to a struct. -/
inductive Promotes (f : SourceFile) (e : SyntaxTree) : List Field → Prop where
  /-- A type that no struct of the file can be adds nothing. -/
  | foreign (h : IsForeign e) : Promotes f e []
  /-- Nor does a type that the file does not declare as a struct. -/
  | undeclared {name : String} (h : f.Embeds e name)
      (hnone : ∀ s ∈ f.tree.structSpecs, f.specName? s ≠ some name) : Promotes f e []
  /-- The first struct of the name adds its own fields. -/
  | declared {name : String} {before after : List SyntaxTree} {spec : SyntaxTree}
      (h : f.Embeds e name) (hspecs : f.tree.structSpecs = before ++ spec :: after)
      (hfirst : ∀ s ∈ before, f.specName? s ≠ some name) (hname : f.specName? spec = some name) :
      Promotes f e ((f.ownFields spec).map fun field => { field with embeddedFrom := some name })

/-- The struct has these fields: its own, and then those that its embedded members add, in source
order. -/
def HasFields (f : SourceFile) (spec : SyntaxTree) (fields : List Field) : Prop :=
  ∃ promoted, List.Forall₂ f.Promotes spec.embeddedMembers promoted
    ∧ fields = f.ownFields spec ++ promoted.flatten

end SourceFile

/-! ## The members of a declaration -/

open SourceFile

variable {path : Path} {text : List Char} {f : SourceFile} {d : SyntaxTree}

/-- The exported fields among the members of a declaration. -/
theorem exportedFields_membersOf (h : d.IsFormed) (hkind : d.kind = .node .fieldDeclaration) :
    exportedFields (membersOf f d) = f.exportedOf d := by
  obtain ⟨type, htype, -, -⟩ := h.fieldDeclaration hkind
  have htype? := SyntaxTree.labelled?_of_labelled htype
  unfold membersOf exportedOf
  simp only [htype?, Option.bind_some]
  split
  · -- an embedded member is no field
    next hnone =>
    rw [hnone]
    split <;> rfl
  · next names hne =>
    rw [exportedFields, List.filterMap_map, ← List.filterMap_eq_filter, List.map_filterMap]
    apply List.filterMap_congr
    intro n _
    by_cases hexp : isExportedName (f.textOf n)
    · simp [hexp, Option.guard]
    · simp [hexp, Option.guard]

/-- A declaration with names has no embedded member, so nothing is promoted from it. -/
theorem promotedFields_of_names (raws : List RawStruct) (h : d.labelled .name ≠ []) :
    (membersOf f d).flatMap (promotedFields raws) = [] := by
  unfold membersOf
  split
  · next hnone => exact absurd hnone h
  · rw [List.flatMap_eq_nil_iff]
    intro m hm
    obtain ⟨n, -, rfl⟩ := List.mem_map.mp hm
    rfl

/-- A declaration without names is an embedded member.  Either it has the name of a type, or a type
that no struct of the file can be. -/
theorem membersOf_of_no_names (h : d.IsFormed) (hkind : d.kind = .node .fieldDeclaration)
    (hnone : d.labelled .name = []) :
    (∃ name, membersOf f d = [.embedded name (f.locationOf d)] ∧ f.Embeds d name)
      ∨ (membersOf f d = [.unsupported (f.locationOf d)] ∧ IsForeign d) := by
  obtain ⟨type, htype, -, hnamed⟩ := h.fieldDeclaration hkind
  have htype? := SyntaxTree.labelled?_of_labelled htype
  have hformed := h.of_labelled htype
  obtain ⟨k, hk, hktype⟩ := hnamed hnone
  -- which of the three ways to name a type is written decides
  simp only [membersOf, hnone, htype?, Option.bind_some]
  obtain ⟨i, ts⟩ := type
  have hi : i.kind = .node k := hktype
  simp only [Syntax.Grammar.embeddedTypeKinds, List.mem_cons, List.not_mem_nil, or_false] at hk
  rcases hk with rfl | rfl | rfl
  · exact Or.inl ⟨_, by simp [embeddedName?, hi], .plain htype hktype⟩
  · -- a generic type is known by the name of what it is made of
    obtain ⟨n, hn, k', hk', hnkind⟩ := hformed.genericType hktype
    have hn? := SyntaxTree.labelled?_of_labelled hn
    simp only [Syntax.Grammar.genericBaseKinds, List.mem_cons, List.not_mem_nil, or_false] at hk'
    rcases hk' with rfl | rfl | rfl
    · exact Or.inl ⟨_, by simp [embeddedName?, hi, hn?, hnkind], .generic htype hktype hn hnkind⟩
    · exact Or.inr ⟨by simp [embeddedName?, hi, hn?, hnkind],
        .generic htype hktype hn (Or.inl hnkind)⟩
    · exact Or.inr ⟨by simp [embeddedName?, hi, hn?, hnkind],
        .generic htype hktype hn (Or.inr hnkind)⟩
  · exact Or.inr ⟨by simp [embeddedName?, hi], .plain htype hktype⟩

/-! ## Structs by name -/

variable {name : String} {specs : List SyntaxTree} {raws : List RawStruct}

theorem specName_ne_of_structNamed_eq_none (h : List.Forall₂ (IsRawOf f) specs raws)
    (hfind : structNamed? raws name = none) : ∀ s ∈ specs, f.specName? s ≠ some name := by
  intro s hs heq
  obtain ⟨r, hr, hraw⟩ := exists_left_of_mem h.flip hs
  have hne := List.find?_eq_none.mp hfind r hr
  rw [hraw.name] at heq
  exact hne (by simpa using heq)

/-- The first struct that is collected under a name is that of the first definition of the name. -/
theorem first_of_structNamed_eq_some (h : List.Forall₂ (IsRawOf f) specs raws) {r : RawStruct}
    (hfind : structNamed? raws name = some r) :
    ∃ before spec after, specs = before ++ spec :: after
      ∧ (∀ s ∈ before, f.specName? s ≠ some name) ∧ f.specName? spec = some name
      ∧ IsRawOf f spec r :=
  exists_first_of_find? (fun s r hraw => by simp [hraw.name]) h hfind

/-! ## The fields of a struct -/

theorem exportedFields_flatMap {ds : List SyntaxTree}
    (h : ∀ d ∈ ds, d.IsFormed ∧ d.kind = .node .fieldDeclaration) :
    exportedFields (ds.flatMap (membersOf f)) = ds.flatMap f.exportedOf := by
  rw [exportedFields, List.filterMap_flatMap]
  apply List.flatMap_congr
  intro d hd
  exact exportedFields_membersOf (h d hd).1 (h d hd).2

/-- The own exported fields of a struct that is collected. -/
theorem IsRawOf.exportedFields_eq {spec : SyntaxTree} {r : RawStruct} (h : IsRawOf f spec r)
    (hspec : spec.IsFormed) : exportedFields r.members = f.ownFields spec := by
  rw [h.members]
  exact exportedFields_flatMap fun d hd => SyntaxTree.isFormed_of_mem_fieldDeclarations hspec hd

/-- What a struct gets from an embedded member is what that member adds. -/
theorem promotes_promotedFields (htree : f.tree.IsFormed) (h : d.IsFormed)
    (hkind : d.kind = .node .fieldDeclaration) (hnone : d.labelled .name = []) :
    f.Promotes d ((membersOf f d).flatMap (promotedFields (rawStructs f))) := by
  have hraws := forall₂_rawStructs htree
  rcases membersOf_of_no_names h hkind hnone with ⟨name, hmembers, hname⟩ | ⟨hmembers, hforeign⟩
  · rw [hmembers, List.flatMap_singleton, promotedFields]
    split
    · -- the struct that is found adds what it declares itself
      next target htarget =>
      obtain ⟨before, spec, after, hspecs, hfirst, hspec, hraw⟩ :=
        first_of_structNamed_eq_some hraws htarget
      have hmem : spec ∈ f.tree.structSpecs := by rw [hspecs]; simp
      rw [hraw.exportedFields_eq (SyntaxTree.isFormed_of_mem_structSpecs htree hmem)]
      exact .declared hname hspecs hfirst hspec
    · next hfind => exact .undeclared hname (specName_ne_of_structNamed_eq_none hraws hfind)
  · rw [hmembers]
    exact .foreign hforeign

/-- The embedded members among some declarations, each with what a struct gets from it. -/
theorem forall₂_promoted (htree : f.tree.IsFormed) {ds : List SyntaxTree}
    (h : ∀ d ∈ ds, d.IsFormed ∧ d.kind = .node .fieldDeclaration) :
    ∃ promoted, List.Forall₂ f.Promotes (ds.filter fun d => (d.labelled .name).isEmpty) promoted
      ∧ (ds.flatMap (membersOf f)).flatMap (promotedFields (rawStructs f))
        = promoted.flatten := by
  induction ds with
  | nil => exact ⟨[], .nil, rfl⟩
  | cons d ds ih =>
    obtain ⟨hd, hds⟩ := List.forall_mem_cons.mp h
    obtain ⟨promoted, hpromoted, heq⟩ := ih hds
    rw [List.flatMap_cons, List.flatMap_append, heq]
    -- only a declaration without names counts on either side
    by_cases hnone : d.labelled .name = []
    · refine ⟨_ :: promoted, ?_, rfl⟩
      rw [List.filter_cons_of_pos (by simp [hnone])]
      exact .cons (promotes_promotedFields htree hd.1 hd.2 hnone) hpromoted
    · refine ⟨promoted, ?_, ?_⟩
      · rw [List.filter_cons_of_neg (by simpa using hnone)]
        exact hpromoted
      · rw [promotedFields_of_names _ hnone, List.nil_append]

/-- The fields of a struct that is collected are those that the tree tells. -/
theorem hasFields_fieldsOf (htree : f.tree.IsFormed) {spec : SyntaxTree} {r : RawStruct}
    (h : IsRawOf f spec r) (hspec : spec.IsFormed) :
    f.HasFields spec (fieldsOf (rawStructs f) r) := by
  obtain ⟨promoted, hpromoted, heq⟩ :=
    forall₂_promoted htree fun d hd => SyntaxTree.isFormed_of_mem_fieldDeclarations hspec hd
  refine ⟨promoted, hpromoted, ?_⟩
  rw [fieldsOf, h.exportedFields_eq hspec, h.members, heq]

/-- The fields that are extracted for a definition of a struct: those of the last definition that
has its identity.  In a file of fewer than 2³² - 1 bytes that is the definition itself, since no
two have one identity. -/
structure ReportsFields (f : SourceFile) (file : ParsedFile) (spec : SyntaxTree) : Prop where
  /-- Each declaration of fields has one type. -/
  types : ∀ d ∈ spec.fieldDeclarations, ∃ type, d.labelled .type = [type]
  /-- Under the identity of the definition there is one struct, with the fields of the last
  definition that has this identity. -/
  fields : ∃ id s before last after, f.specId? spec = some id
    ∧ (∀ s', (id, s') ∈ file.structs ↔ s' = s)
    ∧ f.tree.structSpecs = before ++ last :: after
    ∧ f.specId? last = some id ∧ (∀ t ∈ after, f.specId? t ≠ some id)
    ∧ (byteSize f.text < 2 ^ 32 - 1 → last = spec)
    ∧ f.HasFields last s.fields

variable {spec : SyntaxTree}

/-- Of several structs with one identity, the table holds the last. -/
theorem exists_last_of_mem_resolveFields (htree : f.tree.IsFormed) {id : StructId}
    {s : ParsedStruct} (h : (id, s) ∈ resolveFields (rawStructs f)) :
    ∃ before last after, f.tree.structSpecs = before ++ last :: after
      ∧ f.specId? last = some id ∧ (∀ t ∈ after, f.specId? t ≠ some id)
      ∧ f.HasFields last s.fields := by
  rw [resolveFields, StructTable.mem_ofList_iff, ← List.map_reverse, List.find?_map,
    Option.map_eq_some_iff] at h
  obtain ⟨r, hfind, rfl⟩ := h
  have hraws := List.forall₂_reverse_iff.mpr (forall₂_rawStructs htree)
  -- the last definition is the first one from the end
  obtain ⟨after, last, before, hspecs, hafter, hlast, hraw⟩ := exists_first_of_find?
    (p := fun t => f.specId? t = some id) (fun t r hraw => by simp [hraw.id]) hraws hfind
  have hspecs : f.tree.structSpecs = before.reverse ++ last :: after.reverse := by
    rw [← List.reverse_reverse f.tree.structSpecs, hspecs]
    simp
  have hmem : last ∈ f.tree.structSpecs := by rw [hspecs]; simp
  have hformed := SyntaxTree.isFormed_of_mem_structSpecs htree hmem
  refine ⟨before.reverse, last, after.reverse, hspecs, hlast, ?_, ?_⟩
  · intro t ht
    exact hafter t (List.mem_reverse.mp ht)
  · exact hasFields_fieldsOf htree hraw hformed

/-- In a file of fewer than 2³² - 1 bytes a definition is known by its identity. -/
theorem eq_of_specId?_eq (hof : ofText path text = .ok f) (hsize : byteSize f.text < 2 ^ 32 - 1)
    {spec' : SyntaxTree} (h : spec ∈ f.tree.structSpecs) (h' : spec' ∈ f.tree.structSpecs)
    {id : StructId} (hid : f.specId? spec = some id) (hid' : f.specId? spec' = some id) :
    spec = spec' := by
  have hne : f.tree.structSpecs.Pairwise fun a b =>
      f.specId? a = some id → f.specId? b ≠ some id := by
    refine (pairwise_specId hof hsize).imp ?_
    intro a b hab ha hb
    exact StructId.order_ne_lt id (hab id ha id hb)
  have hsymm : Std.Symm fun a b => f.specId? a = some id → f.specId? b ≠ some id :=
    ⟨fun a b hab hb ha => hab ha hb⟩
  apply Classical.byContradiction
  intro hspec
  exact hne.forall h h' hspec hid hid'

theorem reportsFields_of_mem (hof : ofText path text = .ok f) (hspec : spec ∈ f.tree.structSpecs)
    (package : Package) : ReportsFields f ⟨package, resolveFields (rawStructs f)⟩ spec := by
  have htree := isFormed_tree hof
  have hformed := SyntaxTree.isFormed_of_mem_structSpecs htree hspec
  obtain ⟨r, hr, hraw⟩ := exists_raw_of_mem_structSpecs htree hspec
  -- something is found under the identity, since the definition itself has it
  let structs : List ParsedStruct :=
    (rawStructs f).map fun r => ⟨r.decl, fieldsOf (rawStructs f) r⟩
  have hfound : (structs.reverse.find? (·.decl.id == r.decl.id)).isSome := by
    rw [List.find?_isSome]
    exact ⟨_, List.mem_reverse.mpr (List.mem_map_of_mem hr), by simp⟩
  obtain ⟨s, hs⟩ := Option.isSome_iff_exists.mp hfound
  have hmem : (r.decl.id, s) ∈ resolveFields (rawStructs f) := StructTable.mem_ofList_iff.mpr hs
  obtain ⟨before, last, after, hspecs, hlast, hafter, hfields⟩ :=
    exists_last_of_mem_resolveFields htree hmem
  refine ⟨?_, r.decl.id, s, before, last, after, hraw.id, ?_, hspecs, hlast, hafter, ?_, hfields⟩
  · intro d hd
    obtain ⟨hdformed, hkind⟩ := SyntaxTree.isFormed_of_mem_fieldDeclarations hformed hd
    obtain ⟨type, htype, -, -⟩ := hdformed.fieldDeclaration hkind
    exact ⟨type, htype⟩
  · -- the table holds one struct under an identity
    intro s'
    constructor
    · intro hs'
      have := StructTable.mem_ofList_iff.mp hs'
      exact Option.some.inj (this.symm.trans hs)
    · rintro rfl
      exact hmem
  · intro hsize
    exact eq_of_specId?_eq hof hsize (by rw [hspecs]; simp) hspec hlast hraw.id

/-- For each definition of a struct in a source file, under any configuration, the fields that are
extracted are its own and those that its embedded members add. -/
theorem extracted_fields {w : World} {c : Config} (hf : (SourceFile.read w path).value = .ok f) :
    ∃ file, (extractStructsWith w c path).value = .ok file
      ∧ ∀ spec ∈ f.tree.structSpecs, ReportsFields f file spec := by
  obtain ⟨text, -, hof⟩ := SourceFile.ofText_of_read hf
  exact ⟨_, value_extractStructsWith hf, fun spec hspec => reportsFields_of_mem hof hspec _⟩

/-- Structs that embed each other, a type of another package, and one of two structs of a name. -/
def embeddings : String :=
  "package p\n\ntype A struct \x7b *B; q.C; X, Y int \x60t\x60; z int \x7d\n"
    ++ "type B struct \x7b A; N []A \x7d\ntype B struct \x7b\x7d\n"

theorem extracted_fields_of_embeddings :
    ∃ f file, (SourceFile.read (.ofFile embeddings) ⟨"a.go"⟩).value = .ok f
      ∧ f.tree.structSpecs.length = 3
      ∧ (extractStructsWith (.ofFile embeddings) default ⟨"a.go"⟩).value = .ok file
      ∧ ∀ spec ∈ f.tree.structSpecs, ReportsFields f file spec := by
  obtain ⟨f, hf, htree⟩ := exists_read_ofFile embeddings (by decide +kernel)
  have hcount : (Syntax.parse embeddings.toList).structSpecs.length = 3 := by decide +kernel
  obtain ⟨file, hfile, hfields⟩ := extracted_fields (c := default) hf
  exact ⟨f, file, hf, by rw [htree]; exact hcount, hfile, hfields⟩

/-- A struct gets no field from what its embedded members embed, not even its own again. -/
example : (ofText ⟨"a.go"⟩ embeddings.toList).toOption.map (fun f =>
      (resolveFields (rawStructs f)).map fun e => e.2.fields.map fun x => (x.name, x.embeddedFrom))
    = some [[("X", none), ("Y", none), ("N", some "B")],
        [("N", none), ("X", some "A"), ("Y", some "A")], []] := by
  decide +kernel

end GoStructs
