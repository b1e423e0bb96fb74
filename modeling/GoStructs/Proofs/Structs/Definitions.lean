import GoStructs.Proofs.Structs.CommentBlocks
/-! # What documents a definition

A definition of a struct stands in a declaration of types, and this among the constructs of the
file.  It is documented by the block of comments above it in the declaration; if there is none and
the declaration is of this definition alone, by the block above the declaration.  Comments in the
one place are never in the other, so no comment documents two structs.

## Main statements

* `SourceFile.Definition`: a definition of a struct with what stands in front of it.
* `SourceFile.Definition.eq_of_documented`: definitions with a comment in common are the same.
* `documented_by_longest_blocks`: what is found for a construct is the longest block above it, each
  struct of a file is documented by such a block, and no comment documents two. -/

namespace GoStructs

open Syntax (SyntaxTree Kind NodeKind Laid)

namespace SourceFile

/-- A definition of a struct at its place: the declaration that it is in, and what stands in front
of the one and of the other. -/
structure Definition (f : SourceFile) where
  above : List SyntaxTree
  decl : SyntaxTree
  inside : List SyntaxTree
  spec : SyntaxTree
  split_file : ∃ below, f.tree.children = above ++ decl :: below
  split_decl : ∃ behind, decl.children = inside ++ spec :: behind
  kind_decl : decl.kind = .node .typeDeclaration
  kind_spec : spec.kind = .node .typeSpec
  isStruct : spec.isStructSpec

namespace Definition

variable {f : SourceFile}

/-- Is the definition one of a group in parentheses? -/
def IsGrouped (p : f.Definition) : Prop := (p.decl.child? (.token "(")).isSome

/-- The comments are the block right above the definition in its declaration, or if that is empty
and there is no group, the block right above the declaration. -/
def IsDocumentedBy (p : f.Definition) (cs : List SyntaxTree) : Prop :=
  ∃ own, IsDocBlock p.inside p.spec.start.row own
    ∧ (own = [] ∧ ¬p.IsGrouped → IsDocBlock p.above p.decl.start.row cs)
    ∧ (own ≠ [] ∨ p.IsGrouped → cs = own)

variable {p q : f.Definition} {cs cs' : List SyntaxTree} {path : Path} {text : List Char}

theorem decl_mem (p : f.Definition) : p.decl ∈ f.tree.children := by
  obtain ⟨below, h⟩ := p.split_file
  rw [h]
  simp

theorem spec_mem (p : f.Definition) : p.spec ∈ p.decl.children := by
  obtain ⟨behind, h⟩ := p.split_decl
  rw [h]
  simp

/-- A comment that documents a definition stands in front of it in its declaration, or if it is no
group, in front of the declaration. -/
theorem IsDocumentedBy.precedes (h : p.IsDocumentedBy cs) {c : SyntaxTree} (hc : c ∈ cs) :
    Precedes p.decl.children c p.spec ∨ ¬p.IsGrouped ∧ Precedes f.tree.children c p.decl := by
  obtain ⟨own, hown, hdecl, hspec⟩ := h
  by_cases hcase : own = [] ∧ ¬p.IsGrouped
  · obtain ⟨below, hsplit⟩ := p.split_file
    rw [hsplit]
    exact Or.inr ⟨hcase.2, (hdecl hcase).precedes p.kind_decl (by decide) hc⟩
  · have hcase : own ≠ [] ∨ p.IsGrouped := by
      by_cases hgrouped : p.IsGrouped
      · exact Or.inr hgrouped
      · exact Or.inl fun hnil => hcase ⟨hnil, hgrouped⟩
    obtain ⟨behind, hsplit⟩ := p.split_decl
    rw [hspec hcase] at hc
    rw [hsplit]
    exact Or.inl (hown.precedes p.kind_spec (by decide) hc)

/-- A declaration that is no group has one definition. -/
theorem spec_eq_of_not_isGrouped (h : ofText path text = .ok f) (hp : ¬p.IsGrouped)
    (hdecl : p.decl = q.decl) : p.spec = q.spec := by
  have hformed := (isFormed_tree h).of_mem_children p.decl_mem
  have hnone : p.decl.child? (.token "(") = none := by simpa [IsGrouped] using hp
  obtain ⟨k, hparts⟩ := hformed.ungrouped p.kind_decl hnone
  have hkinds := Syntax.SyntaxTree.kinds_childrenOf p.decl (k := .typeSpec) (by decide)
  rw [hparts, List.filter_cons_of_neg (by simp)] at hkinds
  have hpmem : p.spec ∈ p.decl.childrenOf .typeSpec :=
    List.mem_filter.mpr ⟨p.spec_mem, beq_iff_eq.mpr p.kind_spec⟩
  have hqmem : q.spec ∈ p.decl.childrenOf .typeSpec := by
    rw [hdecl]
    exact List.mem_filter.mpr ⟨q.spec_mem, beq_iff_eq.mpr q.kind_spec⟩
  -- the one part that is a construct is a definition, since the declaration has one
  by_cases hk : k = .typeSpec
  · rw [hk] at hkinds
    obtain ⟨u, hu, -⟩ := List.map_eq_singleton_iff.mp (show _ = [Kind.node .typeSpec] from hkinds)
    rw [hu] at hpmem hqmem
    rw [List.mem_singleton.mp hpmem, List.mem_singleton.mp hqmem]
  · have hnil : p.decl.childrenOf .typeSpec = [] := by
      simpa [hk] using hkinds
    rw [hnil] at hpmem
    cases hpmem

/-- A comment inside a construct of the file is not between the constructs of the file. -/
theorem not_precedes_both (h : ofText path text = .ok f) {t x y c : SyntaxTree}
    (ht : t ∈ f.tree.children) (hkind : ¬t.isComment) (hinside : Precedes t.children c x)
    (houtside : Precedes f.tree.children c y) : False := by
  obtain ⟨hi, htree⟩ := laid_tree h
  have hlaid : Laid f.text 0 f.tree.children hi := htree.sublist List.filter_sublist
  have hcomment := hinside.1.1
  have hwithin := (hlaid.of_mem ht).children.of_mem hinside.mem
  have hself := (hlaid.of_mem houtside.mem).tight
  have heq := eq_of_laid_within hlaid ht houtside.mem hwithin hself (isShown_of_isComment hcomment)
  rw [heq] at hkind
  exact hkind hcomment

/-- Definitions that are documented by one comment are the same. -/
theorem eq_of_documented (h : ofText path text = .ok f) (hp : p.IsDocumentedBy cs)
    (hq : q.IsDocumentedBy cs') {c : SyntaxTree} (hc : c ∈ cs) (hc' : c ∈ cs') :
    p.spec = q.spec := by
  obtain ⟨hi, htree⟩ := laid_tree h
  have hlaid : Laid f.text 0 f.tree.children hi := htree.sublist List.filter_sublist
  have hpkind : ¬p.decl.isComment := by simp [SyntaxTree.isComment, p.kind_decl]
  have hqkind : ¬q.decl.isComment := by simp [SyntaxTree.isComment, q.kind_decl]
  rcases hp.precedes hc with hpin | ⟨hpsingle, hpout⟩
  · rcases hq.precedes hc' with hqin | ⟨-, hqout⟩
    · -- both in their declarations, which are the same, since the comment is in both
      have hpwithin := (hlaid.of_mem p.decl_mem).children
      have hqwithin := (hlaid.of_mem q.decl_mem).children
      have hdecl := eq_of_laid_within hlaid p.decl_mem q.decl_mem (hpwithin.of_mem hpin.mem)
        (hqwithin.of_mem hqin.mem) (isShown_of_isComment hpin.1.1)
      rw [← hdecl] at hqin
      exact hpin.unique hpwithin hqin
    · exact (not_precedes_both h p.decl_mem hpkind hpin hqout).elim
  · rcases hq.precedes hc' with hqin | ⟨-, hqout⟩
    · exact (not_precedes_both h q.decl_mem hqkind hqin hpout).elim
    · exact spec_eq_of_not_isGrouped h hpsingle (hpout.unique hlaid hqout)

end Definition

/-- The declaration of a struct tells what a definition defines, and is documented by the comments
that document the definition. -/
def IsDocumentedBy (f : SourceFile) (d : StructDecl) (cs : List SyntaxTree) : Prop :=
  ∃ p : f.Definition, f.specId? p.spec = some d.id ∧ p.IsDocumentedBy cs
    ∧ d.doc = cs.map f.docTextOf

/-- Each of the declarations is documented by blocks of comments, and no comment documents two. -/
structure DocsAreBlocks (f : SourceFile) (reported : StructDecl → Prop) : Prop where
  documented : ∀ d, reported d → ∃ cs, f.IsDocumentedBy d cs
  apart : ∀ d d', reported d → reported d' → ∀ cs cs', f.IsDocumentedBy d cs →
    f.IsDocumentedBy d' cs' → (∃ c ∈ cs, c ∈ cs') → d = d'

end SourceFile

/-! ## What is collected and extracted -/

variable {f : SourceFile} {path : Path} {text : List Char}

theorem docOf_eq_map {siblings cs : List SyntaxTree} {t : SyntaxTree}
    (h : IsDocBlock siblings t.start.row cs) :
    docOf f t siblings.reverse = cs.map f.docTextOf := by
  rw [isDocBlock_iff.mp h]
  rfl

theorem isDocBlock_docComments (row : Nat) (siblings : List SyntaxTree) :
    IsDocBlock siblings row (docComments row siblings.reverse).reverse :=
  isDocBlock_iff.mpr rfl

/-- The declaration counts just if the definition has no documentation of its own and there is no
group. -/
theorem specDoc_eq_ite (f : SourceFile) (decl spec : SyntaxTree × List SyntaxTree)
    (grouped : Bool) :
    specDoc f decl spec grouped
      = if docOf f spec.1 spec.2 = [] ∧ ¬grouped then docOf f decl.1 decl.2
        else docOf f spec.1 spec.2 := by
  unfold specDoc
  split
  · next hnil =>
    rw [hnil]
    cases grouped
    · simp
    · simp
  · next hne =>
    rw [if_neg]
    intro hnil
    exact hne hnil.1

namespace SourceFile.Definition

/-- There are comments that document a definition, and their texts are its documentation. -/
theorem exists_isDocumentedBy (p : f.Definition) :
    ∃ cs, p.IsDocumentedBy cs
      ∧ specDoc f (p.decl, p.above.reverse) (p.spec, p.inside.reverse)
          (p.decl.child? (.token "(")).isSome = cs.map f.docTextOf := by
  have hown := isDocBlock_docComments p.spec.start.row p.inside
  have habove := isDocBlock_docComments p.decl.start.row p.above
  rw [specDoc_eq_ite, docOf_eq_map hown, docOf_eq_map habove]
  by_cases hcase : (docComments p.spec.start.row p.inside.reverse).reverse = [] ∧ ¬p.IsGrouped
  · refine ⟨_, ⟨_, hown, fun _ => habove, ?_⟩, ?_⟩
    · intro hother
      rcases hother with hne | hgrouped
      · exact absurd hcase.1 hne
      · exact absurd hgrouped hcase.2
    · rw [if_pos ⟨by rw [hcase.1]; rfl, hcase.2⟩]
  · refine ⟨_, ⟨_, hown, fun h => absurd h hcase, fun _ => rfl⟩, ?_⟩
    rw [if_neg]
    intro hother
    exact hcase ⟨List.map_eq_nil_iff.mp hother.1, hother.2⟩

end SourceFile.Definition

/-- Each struct that is collected is the one of a definition, and documented as that is. -/
theorem exists_definition_of_mem_rawStructs (h : f.tree.IsFormed) {r : RawStruct}
    (hr : r ∈ rawStructs f) : ∃ p : f.Definition, IsRawOf f p.spec r ∧ ∃ cs, p.IsDocumentedBy cs
      ∧ r.decl.doc = cs.map f.docTextOf := by
  obtain ⟨decl, hdecl, hr⟩ := List.mem_flatMap.mp hr
  obtain ⟨hdecl, hdeclkind⟩ := List.mem_filter.mp hdecl
  obtain ⟨spec, hspec, hr⟩ := List.mem_filterMap.mp hr
  obtain ⟨hspec, hspeckind⟩ := List.mem_filter.mp hspec
  have hdeclkind : decl.1.kind = .node .typeDeclaration := eq_of_beq hdeclkind
  have hspeckind : spec.1.kind = .node .typeSpec := eq_of_beq hspeckind
  obtain ⟨above, below, hsplit, habove⟩ := exists_of_mem_withPreceding hdecl
  obtain ⟨inside, behind, hsplit', hinside⟩ := exists_of_mem_withPreceding hspec
  rw [List.append_nil] at habove hinside
  -- the definition gives a struct just because its type is one
  have hformed : spec.1.IsFormed := by
    have hdeclformed : decl.1.IsFormed := h.of_mem_children (by rw [hsplit]; simp)
    exact hdeclformed.of_mem_children (by rw [hsplit']; simp)
  have hrel := rel_structOfSpec (f := f) decl spec (decl.1.child? (.token "(")).isSome hformed
    hspeckind
  rw [hr] at hrel
  obtain ⟨hstruct, hraw⟩ : spec.1.isStructSpec ∧ IsRawOf f spec.1 r := by
    unfold Option.guard at hrel
    split at hrel
    · next hstruct =>
      cases hrel with
      | some hraw => exact ⟨hstruct, hraw⟩
    · cases hrel
  let p : f.Definition := ⟨above, decl.1, inside, spec.1, ⟨below, hsplit⟩, ⟨behind, hsplit'⟩,
    hdeclkind, hspeckind, hstruct⟩
  obtain ⟨cs, hcs, hdoc⟩ := p.exists_isDocumentedBy
  refine ⟨p, hraw, cs, hcs, ?_⟩
  rw [← hdoc]
  show r.decl.doc = specDoc f (decl.1, above.reverse) (spec.1, inside.reverse) _
  rw [← habove, ← hinside]
  unfold structOfSpec? at hr
  split at hr
  · obtain ⟨-, hr⟩ := Option.ite_none_right_eq_some.mp hr
    rw [← Option.some.inj hr]
  · cases hr

/-- Declarations of structs of a file that differ in their identities are documented by blocks of
comments, and no comment documents two. -/
theorem docsAreBlocks (h : SourceFile.ofText path text = .ok f) {reported : StructDecl → Prop}
    (hraw : ∀ d, reported d → ∃ r ∈ rawStructs f, r.decl = d)
    (hids : ∀ d d', reported d → reported d' → d.id = d'.id → d = d') :
    f.DocsAreBlocks reported := by
  constructor
  · intro d hd
    obtain ⟨r, hr, rfl⟩ := hraw d hd
    obtain ⟨p, hp, cs, hcs, hdoc⟩ :=
      exists_definition_of_mem_rawStructs (SourceFile.isFormed_tree h) hr
    exact ⟨cs, p, hp.id, hcs, hdoc⟩
  · intro d d' hd hd' cs cs' hcs hcs' hshared
    obtain ⟨p, hid, hp, -⟩ := hcs
    obtain ⟨q, hid', hq, -⟩ := hcs'
    obtain ⟨c, hc, hc'⟩ := hshared
    apply hids d d' hd hd'
    rw [SourceFile.Definition.eq_of_documented h hp hq hc hc'] at hid
    exact Option.some.inj (hid.symm.trans hid')

/-- What is held in a table of structs is one of those that are collected, and the only one with its
identity. -/
theorem exists_raw_of_mem_resolveFields {raws : List RawStruct} {e : StructId × ParsedStruct}
    (h : e ∈ resolveFields raws) :
    (∃ r ∈ raws, r.decl = e.2.decl) ∧ e.2.decl.id = e.1
      ∧ ∀ e' ∈ resolveFields raws, e'.1 = e.1 → e'.2 = e.2 := by
  have hfind := StructTable.mem_ofList_iff.mp (show (e.1, e.2) ∈ resolveFields raws from h)
  obtain ⟨r, hr, hdecl⟩ :=
    List.mem_map.mp (List.mem_reverse.mp (List.mem_of_find?_eq_some hfind))
  refine ⟨⟨r, hr, by rw [← hdecl]⟩, by simpa using List.find?_some hfind, ?_⟩
  intro e' he' hid
  have hfind' := StructTable.mem_ofList_iff.mp (show (e'.1, e'.2) ∈ resolveFields raws from he')
  rw [hid, hfind] at hfind'
  exact (Option.some.inj hfind').symm

/-- What is held under a name in a table of declarations is one of those that are collected, and
has this name. -/
theorem exists_raw_of_get?_ofList {raws : List RawStruct} {name : String} {d : StructDecl}
    (h : (DeclTable.ofList (raws.map RawStruct.decl)).value.get? name = some d) :
    (∃ r ∈ raws, r.decl = d) ∧ d.name = name := by
  rw [DeclTable.get?_ofList] at h
  exact ⟨List.mem_map.mp (List.mem_of_find?_eq_some h), by simpa using List.find?_some h⟩

/-- For any construct and whatever stands in front of it, what is found is the longest block of
comments above it, in which no row is left out; and whatever is extracted or collected from a file
is documented by such blocks, none of which share a comment. -/
theorem documented_by_longest_blocks :
    (∀ (f : SourceFile) (node : SyntaxTree) (siblings : List SyntaxTree),
        ∃ cs, (∀ cs', IsDocBlock siblings node.start.row cs' ↔ cs' = cs)
          ∧ docOf f node siblings.reverse = cs.map f.docTextOf
          ∧ ∀ c ∈ cs, ∀ row, c.stop.row < row → row < node.start.row →
            ∃ d ∈ cs, d.start.row ≤ row ∧ row ≤ d.stop.row)
      ∧ ∀ (w : World) (c : Config) (path : Path) (f : SourceFile),
        (SourceFile.read w path).value = .ok f →
          (∃ file, (extractStructsWith w c path).value = .ok file
              ∧ f.DocsAreBlocks fun d => ∃ e ∈ file.structs, e.2.decl = d)
            ∧ ∃ table, (collectStructs w path).value = .ok table
              ∧ f.DocsAreBlocks fun d => ∃ name, table.get? name = some d := by
  constructor
  · intro f node siblings
    have hblock := isDocBlock_docComments node.start.row siblings
    refine ⟨_, fun cs' => isDocBlock_iff, docOf_eq_map hblock, ?_⟩
    intro c hc row hlow hhigh
    exact hblock.covers hc hlow hhigh
  · intro w c path f hf
    obtain ⟨text, -, hof⟩ := SourceFile.ofText_of_read hf
    have hformed := SourceFile.isFormed_tree hof
    refine ⟨⟨_, value_extractStructsWith hf, docsAreBlocks hof ?_ ?_⟩,
      ⟨_, value_collectStructs hf, docsAreBlocks hof ?_ ?_⟩⟩
    · intro d hd
      obtain ⟨e, he, rfl⟩ := hd
      exact (exists_raw_of_mem_resolveFields he).1
    · intro d d' hd hd' hid
      obtain ⟨e, he, rfl⟩ := hd
      obtain ⟨e', he', rfl⟩ := hd'
      obtain ⟨-, hkey, hunique⟩ := exists_raw_of_mem_resolveFields he
      have hkey' := (exists_raw_of_mem_resolveFields he').2.1
      rw [hunique e' he' (by rw [← hkey', ← hid, hkey])]
    · intro d hd
      obtain ⟨name, hname⟩ := hd
      exact (exists_raw_of_get?_ofList hname).1
    · intro d d' hd hd' hid
      obtain ⟨name, hname⟩ := hd
      obtain ⟨name', hname'⟩ := hd'
      obtain ⟨⟨r, hr, rfl⟩, hdname⟩ := exists_raw_of_get?_ofList hname
      obtain ⟨⟨r', hr', rfl⟩, hdname'⟩ := exists_raw_of_get?_ofList hname'
      -- the name is a part of the identity
      obtain ⟨spec, -, hspec⟩ := exists_spec_of_mem_rawStructs hformed hr
      obtain ⟨spec', -, hspec'⟩ := exists_spec_of_mem_rawStructs hformed hr'
      have hnames : name = name' := by
        rw [← hdname, ← hdname', ← hspec.id_name, ← hspec'.id_name, hid]
      rw [hnames, hname'] at hname
      exact (Option.some.inj hname).symm

/-- Structs below comments that are too far above, comments of several rows, and a group. -/
def commented : String :=
  "package p\n\n// far above\n\n// one\n/* two\n   three */ \ntype A struct \x7b\x7d\n\n"
    ++ "// of the group\ntype (\n\t// four\n\tB struct \x7b\x7d; C struct \x7b\x7d\n)\n"

theorem documented_by_longest_blocks_of_commented :
    ∃ f file, (SourceFile.read (.ofFile commented) ⟨"a.go"⟩).value = .ok f
      ∧ (extractStructsWith (.ofFile commented) default ⟨"a.go"⟩).value = .ok file
      ∧ file.structs.map (fun e => e.2.decl.doc)
          = [["// one", "/* two\n   three */"], ["// four"], []]
      ∧ f.DocsAreBlocks fun d => ∃ e ∈ file.structs, e.2.decl = d := by
  obtain ⟨f, hf, -, hdocs⟩ := SourceFile.exists_read_of_docs commented
    [["// one", "/* two\n   three */"], ["// four"], []] (by decide +kernel)
  obtain ⟨⟨file, hfile, hblocks⟩, -⟩ :=
    documented_by_longest_blocks.2 (.ofFile commented) default ⟨"a.go"⟩ f hf
  refine ⟨f, file, hf, hfile, ?_, hblocks⟩
  rw [value_extractStructsWith hf] at hfile
  cases hfile
  exact hdocs

end GoStructs
