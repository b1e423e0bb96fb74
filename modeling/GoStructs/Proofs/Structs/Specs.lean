import GoStructs.Proofs.Source.Bytes
import GoStructs.Proofs.Syntax.Formed
import GoStructs.Proofs.Syntax.Layout
import GoStructs.Proofs.Syntax.Preorder
import GoStructs.Structs.Collect
import Mathlib.Data.List.Forall2
/-! # The definitions of structs in a tree

Which structs a file declares can be seen from its tree alone: they are the definitions of types,
directly in a declaration of types that stands at the outermost level, whose type is written as a
struct.  What is collected from a file is one struct for each of them, in the same order.

## Main statements

* `SourceFile.isFormed_tree`, `SourceFile.laid_tree`: what is known of the tree of a source file.
* `forall₂_rawStructs`: the structs that are collected are those that the definitions declare. -/

namespace GoStructs

open Syntax (SyntaxTree Kind NodeKind Label Laid)

/-! ## Definitions of types in a tree -/

namespace Syntax.SyntaxTree

/-- The definitions of types that stand directly in a declaration at the outermost level. -/
def typeSpecs (tree : SyntaxTree) : List SyntaxTree :=
  (tree.childrenOf .typeDeclaration).flatMap (·.childrenOf .typeSpec)

/-- Is the type that is defined written as a struct? -/
def isStructSpec (spec : SyntaxTree) : Bool :=
  (spec.labelled? .type).any (·.kind == .node .structType)

/-- The definitions of structs. -/
def structSpecs (tree : SyntaxTree) : List SyntaxTree := tree.typeSpecs.filter isStructSpec

/-- The declarations of fields directly in the body of the struct that is defined. -/
def fieldDeclarations (spec : SyntaxTree) : List SyntaxTree :=
  (spec.labelled .type).flatMap fun type =>
    (type.childrenOf .fieldDeclarationList).flatMap (·.childrenOf .fieldDeclaration)

theorem mem_children_of_mem_childrenOf {t u : SyntaxTree} {k : NodeKind}
    (h : u ∈ t.childrenOf k) : u ∈ t.children :=
  (List.mem_filter.mp h).1

theorem kind_of_mem_childrenOf {t u : SyntaxTree} {k : NodeKind} (h : u ∈ t.childrenOf k) :
    u.kind = .node k :=
  eq_of_beq (List.mem_filter.mp h).2

theorem childrenOf_sublist (t : SyntaxTree) (k : NodeKind) :
    (t.childrenOf k).Sublist t.subtrees :=
  List.filter_sublist.trans List.filter_sublist

theorem labelled_sublist (t : SyntaxTree) (l : Label) : (t.labelled l).Sublist t.subtrees :=
  List.filter_sublist.trans List.filter_sublist

theorem mem_labelled_of_labelled? {t u : SyntaxTree} {l : Label} (h : t.labelled? l = some u) :
    u ∈ t.labelled l := by
  rw [labelled?_eq_head?] at h
  exact List.mem_of_head? h

theorem mem_structSpecs_iff {tree spec : SyntaxTree} :
    spec ∈ tree.structSpecs ↔ spec ∈ tree.typeSpecs ∧ spec.isStructSpec :=
  List.mem_filter

theorem isFormed_of_mem_typeSpecs {tree spec : SyntaxTree} (htree : tree.IsFormed)
    (h : spec ∈ tree.typeSpecs) : spec.IsFormed ∧ spec.kind = .node .typeSpec := by
  obtain ⟨decl, hdecl, hspec⟩ := List.mem_flatMap.mp h
  have hformed := htree.of_mem_children (mem_children_of_mem_childrenOf hdecl)
  exact ⟨hformed.of_mem_children (mem_children_of_mem_childrenOf hspec),
    kind_of_mem_childrenOf hspec⟩

theorem isFormed_of_mem_structSpecs {tree spec : SyntaxTree} (htree : tree.IsFormed)
    (h : spec ∈ tree.structSpecs) : spec.IsFormed :=
  (isFormed_of_mem_typeSpecs htree (mem_structSpecs_iff.mp h).1).1

/-- A definition of a struct is made of its name, perhaps its type parameters, and a struct. -/
theorem parts_of_mem_structSpecs {tree spec : SyntaxTree} (htree : tree.IsFormed)
    (h : spec ∈ tree.structSpecs) :
    partsOf spec.subtrees
        = [(.node .typeIdentifier, some .name), (.node .structType, some .type)]
      ∨ partsOf spec.subtrees
        = [(.node .typeIdentifier, some .name), (.node .typeParameterList, some .typeParameters),
          (.node .structType, some .type)] := by
  obtain ⟨hspec, hstruct⟩ := mem_structSpecs_iff.mp h
  obtain ⟨hformed, hkind⟩ := isFormed_of_mem_typeSpecs htree hspec
  have hform := hformed.form
  rw [hkind] at hform
  obtain ⟨k, -, hparts⟩ := hform
  obtain ⟨name, type, -, -, htype, -⟩ := hformed.typeSpec hkind
  have htypekind : type.kind = .node .structType := by
    simpa [isStructSpec, labelled?_of_labelled htype] using hstruct
  -- the one part that is the type is a struct
  have hkinds := hformed.kinds_labelled .type
  rw [htype, List.map_singleton, htypekind] at hkinds
  have hk : NodeKind.structType = k := by
    rcases hparts with hparts | hparts
    all_goals
      rw [hparts] at hkinds
      exact Kind.node.inj (List.head_eq_of_cons_eq hkinds)
  rw [hk]
  exact hparts

/-- The declarations of fields in a struct are those of its body. -/
theorem isFormed_of_mem_fieldDeclarations {spec d : SyntaxTree} (hspec : spec.IsFormed)
    (h : d ∈ spec.fieldDeclarations) : d.IsFormed ∧ d.kind = .node .fieldDeclaration := by
  obtain ⟨type, htype, h⟩ := List.mem_flatMap.mp h
  obtain ⟨body, hbody, hd⟩ := List.mem_flatMap.mp h
  have htype := hspec.of_mem_children (mem_children_of_mem_labelled htype)
  have hbody := htype.of_mem_children (mem_children_of_mem_childrenOf hbody)
  exact ⟨hbody.of_mem_children (mem_children_of_mem_childrenOf hd), kind_of_mem_childrenOf hd⟩

end Syntax.SyntaxTree

/-! ## The trees of source files -/

namespace SourceFile

variable {path : Path} {text : List Char} {f : SourceFile}

/-- The name of the type that a definition defines. -/
def specName? (f : SourceFile) (spec : SyntaxTree) : Option String :=
  (spec.labelled? .name).map f.textOf

/-- The identity of a definition: its name, and where that stands. -/
def specId? (f : SourceFile) (spec : SyntaxTree) : Option StructId :=
  (spec.labelled? .name).map fun name =>
    ⟨(f.locationOf name).line, (f.locationOf name).column, f.textOf name⟩

/-- A source file holds what it was made of, and its tree shows no fault. -/
theorem of_ofText (h : ofText path text = .ok f) :
    f.path = path ∧ f.text = text ∧ f.tree = Syntax.parse text
      ∧ f.tree.firstFault? = none := by
  unfold ofText ofTree at h
  split at h
  · cases h
  · next hfault =>
    split at h
    · cases h
    · cases h
      exact ⟨rfl, rfl, rfl, hfault⟩

theorem isFormed_tree (h : ofText path text = .ok f) : f.tree.IsFormed := by
  obtain ⟨-, -, htree, hfault⟩ := of_ofText h
  rw [htree] at hfault ⊢
  exact Syntax.isFormed_of_firstFault_eq_none hfault

/-- What is read from the world is made of the text of the file. -/
theorem ofText_of_read {w : World} (h : (read w path).value = .ok f) :
    ∃ text, w.readText path = .ok text ∧ ofText path text.toList = .ok f := by
  unfold read at h
  split at h
  · cases h
  · next text htext =>
    refine ⟨text, htext, ?_⟩
    unfold ofTextTold at h
    split at h
    · next f' hf =>
      cases h
      exact hf
    · cases h

/-- The trees of a source file are laid out in its text. -/
theorem laid_tree (h : ofText path text = .ok f) : ∃ hi, Laid f.text 0 f.tree.subtrees hi := by
  obtain ⟨-, htext, htree, hfault⟩ := of_ofText h
  rw [htree] at hfault ⊢
  rw [htext]
  exact Syntax.laid_trees_of_firstFault_eq_none hfault

/-- The definitions of structs stand in the text one behind the other. -/
theorem laid_structSpecs (h : ofText path text = .ok f) :
    ∃ hi, Laid f.text 0 f.tree.structSpecs hi := by
  obtain ⟨hi, hlaid⟩ := laid_tree h
  -- declarations are some of the trees of the file, and definitions some of their parts
  have hdecls := hlaid.sublist (f.tree.childrenOf_sublist .typeDeclaration)
  have hspecs := hdecls.flatMap fun t => t.childrenOf_sublist .typeSpec
  exact ⟨hi, hspecs.sublist List.filter_sublist⟩

end SourceFile

/-! ## What is collected -/

/-- The struct that is collected for a definition. -/
structure IsRawOf (f : SourceFile) (spec : SyntaxTree) (r : RawStruct) : Prop where
  id : f.specId? spec = some r.decl.id
  name : f.specName? spec = some r.decl.name
  location : (spec.labelled? .name).map f.locationOf = some r.decl.location
  members : r.members = spec.fieldDeclarations.flatMap (membersOf f)

namespace IsRawOf

variable {f : SourceFile} {spec : SyntaxTree} {r : RawStruct}

theorem id_name (h : IsRawOf f spec r) : r.decl.id.name = r.decl.name := by
  obtain ⟨name, hname, hid⟩ := Option.map_eq_some_iff.mp h.id
  have hname' := h.name
  rw [SourceFile.specName?, hname] at hname'
  rw [← hid]
  exact Option.some.inj hname'

end IsRawOf

theorem forall₂_withPreceding {P : SyntaxTree → Prop} {ts : List SyntaxTree}
    (h : ∀ t ∈ ts, P t) (before : List SyntaxTree) :
    List.Forall₂ (fun t x => x.1 = t ∧ P t) ts (withPreceding before ts) := by
  induction ts generalizing before with
  | nil => exact .nil
  | cons t ts ih =>
    obtain ⟨ht, hts⟩ := List.forall_mem_cons.mp h
    exact .cons ⟨rfl, ht⟩ (ih hts _)

variable {f : SourceFile}

theorem structMembers_eq {type : SyntaxTree} (h : type.IsFormed)
    (hkind : type.kind = .node .structType) :
    structMembers f type
      = ((type.childrenOf .fieldDeclarationList).flatMap (·.childrenOf .fieldDeclaration)).flatMap
          (membersOf f) := by
  obtain ⟨body, hbody⟩ := h.structType hkind
  unfold structMembers
  rw [Syntax.SyntaxTree.child?_eq_head?, hbody]
  simp [Syntax.SyntaxTree.childrenOf]

/-- A definition of a type gives a struct just if its type is written as one. -/
theorem rel_structOfSpec (decl spec : SyntaxTree × List SyntaxTree) (grouped : Bool)
    (h : spec.1.IsFormed) (hkind : spec.1.kind = .node .typeSpec) :
    Option.Rel (IsRawOf f) (Option.guard SyntaxTree.isStructSpec spec.1)
      (structOfSpec? f decl spec grouped) := by
  obtain ⟨name, type, hname, -, htype, -⟩ := h.typeSpec hkind
  have hname? := SyntaxTree.labelled?_of_labelled hname
  have htype? := SyntaxTree.labelled?_of_labelled htype
  have hguard : SyntaxTree.isStructSpec spec.1 = (type.kind == .node .structType) := by
    simp [SyntaxTree.isStructSpec, htype?]
  -- with the name and the type at hand, only the kind of the type decides
  simp only [structOfSpec?, hname?, htype?, Option.guard, hguard]
  split
  · next hstruct =>
    refine .some ⟨?_, ?_, ?_, ?_⟩
    · simp [SourceFile.specId?, hname?]
    · simp [SourceFile.specName?, hname?]
    · simp [hname?]
    · rw [SyntaxTree.fieldDeclarations, htype]
      simpa using structMembers_eq (h.of_labelled htype) (eq_of_beq hstruct)
  · exact .none

/-- The structs that are collected are those that the definitions in the tree declare, in the same
order. -/
theorem forall₂_rawStructs (h : f.tree.IsFormed) :
    List.Forall₂ (IsRawOf f) f.tree.structSpecs (rawStructs f) := by
  unfold SyntaxTree.structSpecs SyntaxTree.typeSpecs rawStructs
  rw [List.filter_flatMap]
  have hdecls := forall₂_withPreceding (fun t ht => h.of_mem_children ht) []
  refine List.rel_flatMap (List.rel_filter ?_ hdecls) ?_
  · rintro t x ⟨rfl, -⟩
    rfl
  · rintro t x ⟨rfl, hformed⟩
    have hspecs := forall₂_withPreceding (fun t ht => hformed.of_mem_children ht) []
    -- definitions whose type is no struct are dropped on both sides
    have hkept : (x.1.childrenOf .typeSpec).filter SyntaxTree.isStructSpec
        = x.1.children.filterMap fun t =>
          if t.kind == .node .typeSpec then Option.guard SyntaxTree.isStructSpec t else none := by
      rw [← List.filterMap_eq_filter]
      exact List.filterMap_filter
    show List.Forall₂ (IsRawOf f) ((x.1.childrenOf .typeSpec).filter SyntaxTree.isStructSpec) _
    rw [hkept, structsOfDeclaration, List.filterMap_filter]
    refine List.rel_filterMap ?_ hspecs
    rintro t spec ⟨rfl, hspec⟩
    cases hkind : spec.1.kind == Kind.node .typeSpec with
    | true => simpa [hkind] using rel_structOfSpec x spec _ hspec (eq_of_beq hkind)
    | false => simp [hkind]

/-! ## Lists that agree -/

/-- Of two lists that agree, each element of the second is related to one of the first. -/
theorem exists_left_of_mem {α β : Type} {R : α → β → Prop} {as : List α} {bs : List β}
    (h : List.Forall₂ R as bs) {b : β} (hb : b ∈ bs) : ∃ a ∈ as, R a b := by
  induction h with
  | nil => cases hb
  | cons hac _ ih =>
    rcases List.mem_cons.mp hb with rfl | hb
    · exact ⟨_, List.mem_cons_self, hac⟩
    · obtain ⟨a, ha, hab⟩ := ih hb
      exact ⟨a, List.mem_cons_of_mem _ ha, hab⟩

/-- What is found first in one of two lists that agree is related to what stands first in the
other. -/
theorem exists_first_of_find? {α β : Type} {R : α → β → Prop} {p : α → Prop} {q : β → Bool}
    (hpq : ∀ a b, R a b → (p a ↔ q b)) {as : List α} {bs : List β} (h : List.Forall₂ R as bs)
    {b : β} (hfind : bs.find? q = some b) :
    ∃ before a after, as = before ++ a :: after ∧ (∀ x ∈ before, ¬p x) ∧ p a ∧ R a b := by
  induction h with
  | nil => cases hfind
  | @cons a c as bs hac _ ih =>
    rw [List.find?_cons] at hfind
    -- what is found is the head of the list, or it stands in its tail
    cases hq : q c with
    | true =>
      rw [hq] at hfind
      have hcb := Option.some.inj hfind
      subst hcb
      exact ⟨[], a, as, rfl, by simp, (hpq a c hac).mpr hq, hac⟩
    | false =>
      rw [hq] at hfind
      obtain ⟨before, a', after, rfl, hbefore, ha', hb⟩ := ih hfind
      refine ⟨a :: before, a', after, rfl, ?_, ha', hb⟩
      intro x hx
      rcases List.mem_cons.mp hx with rfl | hx
      · intro hp
        have := (hpq x c hac).mp hp
        rw [hq] at this
        cases this
      · exact hbefore x hx

/-- Each struct that is collected is declared by a definition. -/
theorem exists_spec_of_mem_rawStructs (h : f.tree.IsFormed) {r : RawStruct}
    (hr : r ∈ rawStructs f) : ∃ spec ∈ f.tree.structSpecs, IsRawOf f spec r :=
  exists_left_of_mem (forall₂_rawStructs h) hr

/-- Each definition declares a struct that is collected. -/
theorem exists_raw_of_mem_structSpecs (h : f.tree.IsFormed) {spec : SyntaxTree}
    (hspec : spec ∈ f.tree.structSpecs) : ∃ r ∈ rawStructs f, IsRawOf f spec r :=
  exists_left_of_mem (forall₂_rawStructs h).flip hspec

/-! ## A world with one file -/

/-- A world with one file, which has the given text. -/
def World.ofFile (text : String) : World := ⟨[(["a.go"], .file text.toByteArray)], some [], []⟩

theorem World.readBytes_ofFile (text : String) :
    (World.ofFile text).readBytes ⟨"a.go"⟩ = .ok text.toByteArray := rfl

theorem World.readText_ofFile (text : String) :
    (World.ofFile text).readText ⟨"a.go"⟩ = .ok text :=
  World.readText_of_readBytes (World.readBytes_ofFile text)

/-- A text that is a source file is read as one. -/
theorem SourceFile.exists_read {w : World} {path : Path} {text : String}
    (htext : w.readText path = .ok text) (h : (ofText path text.toList).toOption.isSome) :
    ∃ f, (read w path).value = .ok f ∧ f.tree = Syntax.parse text.toList := by
  unfold read
  rw [htext]
  simp only [ofTextTold]
  cases hof : ofText path text.toList with
  | error e => simp [hof, Except.toOption] at h
  | ok f => exact ⟨f, rfl, (of_ofText hof).2.2.1⟩

/-- A text that is a source file is read as one from the world that has it. -/
theorem SourceFile.exists_read_ofFile (text : String)
    (h : (ofText ⟨"a.go"⟩ text.toList).toOption.isSome) :
    ∃ f, (read (.ofFile text) ⟨"a.go"⟩).value = .ok f ∧ f.tree = Syntax.parse text.toList :=
  exists_read (World.readText_ofFile text) h

/-- What is read from the world with one file is made of its text. -/
theorem SourceFile.ofText_of_read_ofFile {text : String} {f : SourceFile}
    (h : (read (.ofFile text) ⟨"a.go"⟩).value = .ok f) :
    ofText ⟨"a.go"⟩ text.toList = .ok f := by
  obtain ⟨text', htext, hof⟩ := ofText_of_read h
  rw [World.readText_ofFile] at htext
  cases htext
  exact hof

/-- Something about what is read from the world with one file, told from its text. -/
theorem SourceFile.exists_read_of_map {β : Type} (g : SourceFile → β) (text : String) (b : β)
    (h : (ofText ⟨"a.go"⟩ text.toList).toOption.map g = some b) :
    ∃ f, (read (.ofFile text) ⟨"a.go"⟩).value = .ok f ∧ f.tree = Syntax.parse text.toList
      ∧ g f = b := by
  have hsome := Option.isSome_map.symm.trans (Option.isSome_of_eq_some h)
  obtain ⟨f, hf, htree⟩ := exists_read_ofFile text hsome
  rw [ofText_of_read_ofFile hf] at h
  exact ⟨f, hf, htree, Option.some.inj h⟩

end GoStructs
