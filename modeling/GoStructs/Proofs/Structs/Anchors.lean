import GoStructs.Proofs.Structs.Definitions
import GoStructs.Proofs.Syntax.Flags
/-! # Where documentation stands

In a group of definitions each has its own documentation, inside the parentheses.  A declaration
without parentheses is documented above its keyword.  Comments may stand between the keyword and the
name, though, and if a block of them ends right above the name, it takes the place of what stands
above the keyword.

## Main statements

* `SourceFile.Definition.exists_mark`, `exists_keyword`: what stands in front of a definition in its
  declaration.
* `SourceFile.IsAnchored`: where the documentation of a struct stands.
* `documentation_is_anchored`: this holds of each struct of a file. -/

namespace GoStructs

open Syntax (SyntaxTree Kind NodeKind Laid Spreads)

/-! ## Where constructs begin -/

namespace Syntax

/-- A construct begins where its first tree does. -/
theorem spreads_start :
    Spreads fun t => ∀ u us, t.subtrees = u :: us → u.start = t.start where
  leaf t kind missing hkind u us h := by cases h
  gap p u us h := by cases h
  construct kind ts hts u us h := by
    have h : ts = u :: us := h
    rw [h]
    rfl
  withLabel {t} l h := by
    unfold SyntaxTree.withLabel
    split
    · exact h
    · exact h

namespace SyntaxTree

variable {t u : SyntaxTree}

theorem partsOf_children (t : SyntaxTree) :
    partsOf t.children = (partsOf t.subtrees).filter fun x => x.1.isShown := by
  simp only [partsOf, children, List.filter_map, List.filter_filter]
  congr 1
  apply List.filter_congr
  intro u _
  exact Bool.and_comm _ _

end SyntaxTree

end Syntax

namespace SourceFile

variable {f : SourceFile} {path : Path} {text : List Char}

/-- In a source file no construct is an error. -/
theorem isError_eq_false (h : ofText path text = .ok f) {t u : SyntaxTree}
    (ht : t ∈ f.tree.children) (hu : u ∈ t.children) : u.isError = false := by
  obtain ⟨-, -, htree, hfault⟩ := of_ofText h
  have hfirst := Syntax.firstFault?_parse text
  rw [← htree, hfault, eq_comm, List.find?_eq_none] at hfirst
  have hmem : u ∈ f.tree.preorder :=
    SyntaxTree.preorder_subset_of_mem_children ht
      (SyntaxTree.preorder_subset_of_mem_children hu u.mem_preorder_self)
  have hsound := hfirst u hmem
  simp only [SyntaxTree.isFault, Bool.or_eq_true, not_or] at hsound
  simpa using hsound.1

/-- A declaration of types begins where its keyword does. -/
theorem exists_keyword (h : ofText path text = .ok f) {decl : SyntaxTree}
    (hdecl : decl ∈ f.tree.children) (hkind : decl.kind = .node .typeDeclaration) :
    ∃ keyword rest, decl.children = keyword :: rest ∧ keyword.kind = .token "type"
      ∧ keyword.start = decl.start := by
  have hformed := (isFormed_tree h).of_mem_children hdecl
  obtain ⟨keyword, us, hsubtrees, hkeyword⟩ := hformed.first_typeDeclaration hkind
  have hmem : decl ∈ Syntax.treesOf ((Syntax.Token.scan text).map .token) := by
    rw [(of_ofText h).2.2.1] at hdecl
    exact (List.mem_filter.mp hdecl).1
  refine ⟨keyword, us.filter fun c => c.kind.isShown, ?_, hkeyword,
    Syntax.forall_mem_treesOf Syntax.spreads_start _ decl hmem keyword us hsubtrees⟩
  rw [SyntaxTree.children, hsubtrees, List.filter_cons_of_pos]
  rw [hkeyword]
  rfl

namespace Definition

variable {p : f.Definition}

theorem isFormed_decl (h : ofText path text = .ok f) (p : f.Definition) : p.decl.IsFormed :=
  (isFormed_tree h).of_mem_children p.decl_mem

/-- The parts that are shown of a declaration, split at a definition. -/
theorem exists_partsOf (p : f.Definition) :
    ∃ rest, (Syntax.partsOf p.decl.subtrees).filter (fun x => x.1.isShown)
      = Syntax.partsOf p.inside ++ (.node .typeSpec, p.spec.info.label) :: rest := by
  obtain ⟨behind, hsplit⟩ := p.split_decl
  have hloose : p.spec.isLoose = false := by
    rw [Syntax.isLoose_iff_kind, p.kind_spec]
    rfl
  rw [← SyntaxTree.partsOf_children, hsplit, Syntax.partsOf_append,
    Syntax.partsOf_cons_of_not_loose hloose, p.kind_spec]
  exact ⟨_, rfl⟩

/-- In a group the opening parenthesis stands in front of each definition. -/
theorem exists_mark (h : ofText path text = .ok f) (hp : p.IsGrouped) :
    ∃ outside mark inner, p.inside = outside ++ mark :: inner ∧ mark.kind = .token "(" := by
  obtain ⟨rest, hparts⟩ := p.exists_partsOf
  have hform := (isFormed_decl h p).form
  rw [p.kind_decl] at hform
  have hparen : (Kind.token "(", none) ∈ Syntax.partsOf p.inside := by
    rcases hform with ⟨k, hsingle⟩ | ⟨middle, hgroup, -⟩
    · -- a declaration of one definition has no parenthesis
      exfalso
      obtain ⟨u, hu⟩ := Option.isSome_iff_exists.mp hp
      have hukind : u.kind = .token "(" := by simpa using List.find?_some hu
      have humem := (List.mem_filter.mp (List.mem_of_find?_eq_some hu)).1
      have hpart := SyntaxTree.mem_partsOf humem (by rw [Syntax.isLoose_iff_kind, hukind]; rfl)
      rw [show Syntax.partsOf p.decl.subtrees = _ from hsingle, hukind] at hpart
      simp at hpart
    · -- the definition is neither of the first two parts, so both stand in front of it
      rw [show Syntax.partsOf p.decl.subtrees = _ from hgroup] at hparts
      cases hinside : Syntax.partsOf p.inside with
      | nil =>
        rw [hinside] at hparts
        cases hparts
      | cons a as =>
        rw [hinside] at hparts
        cases as with
        | nil => cases hparts
        | cons b bs =>
          have hb : (Kind.token "(", none) = b :=
            (List.cons.inj (List.cons.inj hparts).2).1
          rw [hb]
          simp
  obtain ⟨mark, hmark, hpart⟩ := List.mem_map.mp hparen
  obtain ⟨outside, inner, hsplit⟩ := List.append_of_mem (List.mem_filter.mp hmark).1
  exact ⟨outside, mark, inner, hsplit, congrArg Prod.fst hpart⟩

/-- Without parentheses only comments stand between the keyword and the definition. -/
theorem exists_between (h : ofText path text = .ok f) (hp : ¬p.IsGrouped) :
    ∃ keyword between, p.inside = keyword :: between ∧ keyword.kind = .token "type"
      ∧ keyword.start = p.decl.start ∧ ∀ t ∈ between, t.isComment := by
  obtain ⟨keyword, rest, hchildren, hkeyword, hstart⟩ := exists_keyword h p.decl_mem p.kind_decl
  obtain ⟨behind, hsplit⟩ := p.split_decl
  cases hinside : p.inside with
  | nil =>
    -- the keyword is no definition
    rw [hchildren, hinside] at hsplit
    have heq : keyword = p.spec := (List.cons.inj hsplit).1
    rw [heq, p.kind_spec] at hkeyword
    cases hkeyword
  | cons first between =>
    rw [hchildren, hinside] at hsplit
    have heq : keyword = first := (List.cons.inj hsplit).1
    refine ⟨first, between, rfl, heq ▸ hkeyword, heq ▸ hstart, ?_⟩
    -- the keyword and the definition are all the parts that there are
    have hnone : Syntax.partsOf between = [] := by
      have hungrouped : p.decl.child? (.token "(") = none := by simpa [IsGrouped] using hp
      obtain ⟨k, hparts⟩ := (isFormed_decl h p).ungrouped p.kind_decl hungrouped
      obtain ⟨rest, hsplitparts⟩ := p.exists_partsOf
      have hloose : first.isLoose = false := by
        rw [Syntax.isLoose_iff_kind, ← heq, hkeyword]
        rfl
      rw [hparts, hinside, Syntax.partsOf_cons_of_not_loose hloose] at hsplitparts
      have htail : [(Kind.node k, none)]
          = Syntax.partsOf between ++ (Kind.node .typeSpec, p.spec.info.label) :: rest :=
        (List.cons.inj hsplitparts).2
      have hlength := congrArg List.length htail
      simp only [List.length_append, List.length_cons, List.length_nil] at hlength
      exact List.eq_nil_of_length_eq_zero (by omega)
    intro t ht
    have hmem : t ∈ p.decl.children := by
      rw [hchildren, hsplit]
      simp [ht]
    have herror := isError_eq_false h p.decl_mem hmem
    have hloose : t.isLoose := by
      by_contra hloose
      have hpart := SyntaxTree.mem_partsOf ht (by simpa using hloose)
      rw [hnone] at hpart
      cases hpart
    rw [SyntaxTree.isLoose, herror, Bool.or_false] at hloose
    exact hloose

/-- The comments that document a definition stand right above it behind the parenthesis of its
group; without a group they stand right above the keyword, unless some stand right above the name
behind the keyword. -/
structure IsAnchored (p : f.Definition) (cs : List SyntaxTree) : Prop where
  grouped : p.IsGrouped → ∃ outside mark inner, p.inside = outside ++ mark :: inner
    ∧ mark.kind = .token "(" ∧ IsDocBlock inner p.spec.start.row cs
  single : ¬p.IsGrouped → ∃ keyword between own, p.inside = keyword :: between
    ∧ keyword.kind = .token "type" ∧ (∀ t ∈ between, t.isComment)
    ∧ IsDocBlock between p.spec.start.row own
    ∧ (own = [] → IsDocBlock p.above keyword.start.row cs) ∧ (own ≠ [] → cs = own)

theorem IsDocumentedBy.isAnchored (h : ofText path text = .ok f) {cs : List SyntaxTree}
    (hcs : p.IsDocumentedBy cs) : p.IsAnchored cs := by
  obtain ⟨own, hown, habove, hinner⟩ := hcs
  constructor
  · intro hp
    obtain ⟨outside, mark, inner, hinside, hmark⟩ := exists_mark h hp
    refine ⟨outside, mark, inner, hinside, hmark, ?_⟩
    -- nothing in front of the parenthesis is looked at
    rw [hinside, isDocBlock_behind_mark_iff (by rw [hmark]; rfl) (by rw [isSemicolon, hmark]; rfl)]
      at hown
    rw [hinner (Or.inr hp)]
    exact hown
  · intro hp
    obtain ⟨keyword, between, hinside, hkeyword, hstart, hcomments⟩ := exists_between h hp
    refine ⟨keyword, between, own, hinside, hkeyword, hcomments, ?_, ?_, ?_⟩
    · rw [hinside, ← List.nil_append (keyword :: between),
        isDocBlock_behind_mark_iff (by rw [hkeyword]; rfl) (by rw [isSemicolon, hkeyword]; rfl)]
        at hown
      exact hown
    · intro hnil
      rw [hstart]
      exact habove ⟨hnil, hp⟩
    · intro hne
      exact hinner (Or.inl hne)

end Definition

/-- The documentation of a struct stands where that of its definition does. -/
def IsAnchored (f : SourceFile) (d : StructDecl) : Prop :=
  ∃ p : f.Definition, f.specId? p.spec = some d.id
    ∧ ∃ cs, p.IsAnchored cs ∧ d.doc = cs.map f.docTextOf

end SourceFile

variable {w : World} {c : Config} {path : Path} {text : List Char} {f : SourceFile}

theorem isAnchored_of_mem_rawStructs (h : SourceFile.ofText path text = .ok f) {r : RawStruct}
    (hr : r ∈ rawStructs f) : f.IsAnchored r.decl := by
  obtain ⟨p, hp, cs, hcs, hdoc⟩ :=
    exists_definition_of_mem_rawStructs (SourceFile.isFormed_tree h) hr
  exact ⟨p, hp.id, cs, hcs.isAnchored h, hdoc⟩

/-- Whatever is extracted or collected from a file is documented inside the parentheses of its
group, or above the keyword of its declaration, or right above its name behind the keyword. -/
theorem documentation_is_anchored (hf : (SourceFile.read w path).value = .ok f) :
    (∃ file, (extractStructsWith w c path).value = .ok file
        ∧ ∀ e ∈ file.structs, f.IsAnchored e.2.decl)
      ∧ ∃ table, (collectStructs w path).value = .ok table
        ∧ ∀ name, ∀ d ∈ table.get? name, f.IsAnchored d := by
  obtain ⟨text, -, hof⟩ := SourceFile.ofText_of_read hf
  refine ⟨⟨_, value_extractStructsWith hf, ?_⟩, ⟨_, value_collectStructs hf, ?_⟩⟩
  · intro e he
    obtain ⟨⟨r, hr, hdecl⟩, -⟩ := exists_raw_of_mem_resolveFields he
    rw [← hdecl]
    exact isAnchored_of_mem_rawStructs hof hr
  · intro name d hd
    obtain ⟨⟨r, hr, hdecl⟩, -⟩ := exists_raw_of_get?_ofList hd
    rw [← hdecl]
    exact isAnchored_of_mem_rawStructs hof hr

/-- A struct in a declaration of its own, two in a group, and one whose name stands in a row below
the keyword. -/
def anchored : String :=
  "package p\n\n// of A\ntype A struct \x7b\x7d\n\n"
    ++ "// of the group\ntype (\n\t// of B\n\tB struct \x7b\x7d\n\tC struct \x7b\x7d\n)\n\n"
    ++ "// of D\ntype // the next\n\nD struct \x7b\x7d\n"

theorem documentation_is_anchored_of_anchored :
    ∃ f file, (SourceFile.read (.ofFile anchored) ⟨"a.go"⟩).value = .ok f
      ∧ (extractStructsWith (.ofFile anchored) default ⟨"a.go"⟩).value = .ok file
      ∧ file.structs.map (fun e => e.2.decl.doc) = [["// of A"], ["// of B"], [], ["// of D"]]
      ∧ ∀ e ∈ file.structs, f.IsAnchored e.2.decl := by
  obtain ⟨f, hf, -, hdocs⟩ := SourceFile.exists_read_of_docs anchored
    [["// of A"], ["// of B"], [], ["// of D"]] (by decide +kernel)
  obtain ⟨⟨file, hfile, hanchored⟩, -⟩ := documentation_is_anchored (c := default) hf
  refine ⟨f, file, hf, hfile, ?_, hanchored⟩
  rw [value_extractStructsWith hf] at hfile
  cases hfile
  exact hdocs

theorem mem_withPreceding (before front back : List SyntaxTree) (t : SyntaxTree) :
    (t, front.reverse ++ before) ∈ withPreceding before (front ++ t :: back) := by
  induction front generalizing before with
  | nil => exact List.mem_cons_self
  | cons a front ih =>
    rw [List.cons_append, withPreceding, List.reverse_cons, List.append_assoc]
    exact List.mem_cons_of_mem _ (ih (a :: before))

/-- A struct with comments above the keyword of its declaration and above its name. -/
def displaced : String := "package p\n\n// Doc\ntype\n// inner\nUser struct \x7b\x7d\n"

/-- The block above the keyword is one comment, but the struct is documented by the other. -/
theorem displaced_documentation :
    ∃ f file, (SourceFile.read (.ofFile displaced) ⟨"a.go"⟩).value = .ok f
      ∧ (extractStructsWith (.ofFile displaced) default ⟨"a.go"⟩).value = .ok file
      ∧ file.structs.map (fun e => e.2.decl.doc) = [["// inner"]]
      ∧ ∀ p : f.Definition, ¬p.IsGrouped
        ∧ ∀ cs, IsDocBlock p.above p.decl.start.row cs → cs.map f.docTextOf = ["// Doc"] := by
  have hdecls : ∀ x ∈ withPreceding [] (Syntax.parse displaced.toList).children,
      x.1.kind = .node .typeDeclaration → (x.1.child? (.token "(")).isSome = false
        ∧ (docComments x.1.start.row x.2).reverse.map
            (fun c => String.ofList (Text.trimEnd (c.text displaced.toList))) = ["// Doc"] := by
    decide +kernel
  obtain ⟨f, hf, htree, hdocs⟩ := SourceFile.exists_read_of_docs displaced [["// inner"]]
    (by decide +kernel)
  have hof := SourceFile.ofText_of_read_ofFile hf
  refine ⟨f, _, hf, value_extractStructsWith hf, hdocs, ?_⟩
  intro p
  obtain ⟨below, hsplit⟩ := p.split_file
  have hmem := mem_withPreceding [] p.above below p.decl
  rw [← hsplit, htree, List.append_nil] at hmem
  obtain ⟨hsingle, hdoc⟩ := hdecls _ hmem p.kind_decl
  constructor
  · simpa [SourceFile.Definition.IsGrouped] using hsingle
  · intro cs hcs
    rw [← (SourceFile.of_ofText hof).2.1] at hdoc
    rw [isDocBlock_iff.mp hcs]
    exact hdoc

end GoStructs
