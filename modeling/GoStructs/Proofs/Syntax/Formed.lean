import GoStructs.Proofs.Syntax.Faults
import GoStructs.Proofs.Syntax.Forms
/-! # Trees that keep to the forms

What the grammar reads keeps to the forms at every place of the tree, and a file that shows no
fault is read by the grammar as it is.  So in such a file the children of a definition of a type,
of a struct type, of a generic type and of a declaration of fields are known, and so are the tokens
between the constructs of the file and between those of a declaration of types.

## Main statements

* `Pattern.Reads.isFormed`: what a pattern reads keeps to the forms.
* `isFormed_of_firstFault_eq_none`: so does each tree of a file that shows no fault.
* `SyntaxTree.IsFormed.typeSpec`, `structType`, `genericType`, `fieldDeclaration`,
  `packageClause`: the parts of these constructs.
* `SyntaxTree.IsFormed.sourceFile`, `typeDeclaration`: the tokens between their constructs. -/

namespace GoStructs.Syntax

/-- The tree and all trees in it keep to the forms, comments and errors play no part, and no
construct but the file begins with one. -/
inductive SyntaxTree.IsFormed : SyntaxTree → Prop where
  | node {i : NodeInfo} {ts : List SyntaxTree} (hform : Grammar.form i.kind (partsOf ts))
      (hlabel : (SyntaxTree.node i ts).isLoose → i.label = none)
      (hhead : ∀ u ∈ ts.head?, u.isLoose → i.kind = .error ∨ i.kind = .node .sourceFile)
      (hts : ∀ t ∈ ts, t.IsFormed) : (SyntaxTree.node i ts).IsFormed

namespace SyntaxTree

theorem IsFormed.form {t : SyntaxTree} (h : t.IsFormed) :
    Grammar.form t.kind (partsOf t.subtrees) := by
  cases h with
  | node hform _ _ _ => exact hform

theorem IsFormed.label {t : SyntaxTree} (h : t.IsFormed) (hloose : t.isLoose) :
    t.info.label = none := by
  cases h with
  | node _ hlabel _ _ => exact hlabel hloose

theorem IsFormed.head {t u : SyntaxTree} (h : t.IsFormed) (hu : t.subtrees.head? = some u)
    (herror : t.kind ≠ .error) (hfile : t.kind ≠ .node .sourceFile) : u.isLoose = false := by
  cases h with
  | node _ _ hhead _ =>
    by_cases hloose : u.isLoose
    · rcases hhead u hu hloose with hkind | hkind
      · exact absurd hkind herror
      · exact absurd hkind hfile
    · simpa using hloose

theorem IsFormed.of_mem {t u : SyntaxTree} (h : t.IsFormed) (hu : u ∈ t.subtrees) :
    u.IsFormed := by
  cases h with
  | node _ _ _ hts => exact hts u hu

theorem IsFormed.of_mem_children {t u : SyntaxTree} (h : t.IsFormed) (hu : u ∈ t.children) :
    u.IsFormed :=
  h.of_mem (List.mem_filter.mp hu).1

theorem isFormed_leaf {kind : Kind} (hform : Grammar.form kind []) (t : Token) (missing : Bool) :
    (t.leaf kind missing).IsFormed :=
  .node hform (fun _ => rfl) (by simp) (by simp)

theorem isFormed_looseLeaf (t : Token) : (t.leaf t.looseKind false).IsFormed := by
  refine isFormed_leaf (Grammar.form_of_not_hasForm ?_ _) t false
  unfold Token.looseKind
  split <;> rfl

theorem isFormed_ofSubtrees {kind : Kind} {ts : List SyntaxTree}
    (hform : Grammar.form kind (partsOf ts))
    (hhead : ∀ u ∈ ts.head?, u.isLoose → kind = .error) (hts : ∀ t ∈ ts, t.IsFormed) :
    (ofSubtrees kind ts).IsFormed :=
  .node hform (fun _ => rfl) (fun u hu hloose => Or.inl (hhead u hu hloose)) hts

theorem IsFormed.withLabel {t : SyntaxTree} (h : t.IsFormed) (l : Label) :
    (t.withLabel l).IsFormed := by
  unfold SyntaxTree.withLabel
  split
  · exact h
  · next hloose =>
    cases h with
    | node hform _ hhead hts => exact .node hform (fun hl => absurd hl hloose) hhead hts

end SyntaxTree

open SyntaxTree

namespace Reading

/-- All that has been read keeps to the forms. -/
def IsFormed (r : Reading) : Prop := ∀ t ∈ r.done, t.IsFormed

theorem isFormed_settle (lines : Bool) (done : List SyntaxTree) (passed : Nat)
    (items : List Item) (h : ∀ t ∈ done, t.IsFormed) :
    (settle lines done passed items).IsFormed := by
  fun_induction settle lines done passed items with
  | case1 | case5 | case6 => exact h
  | case2 done passed ts rest error ih =>
    apply ih
    intro t ht
    rcases List.mem_cons.mp ht with rfl | ht
    · -- text that is set aside is an error, whatever its tokens are
      refine isFormed_ofSubtrees trivial (fun _ _ _ => rfl) ?_
      intro u hu
      obtain ⟨tok, -, rfl⟩ := List.mem_map.mp hu
      exact isFormed_looseLeaf tok
    · exact h t ht
  | case3 done passed t rest hc ih =>
    apply ih
    intro u hu
    rcases List.mem_cons.mp hu with rfl | hu
    · have hform : Grammar.form (.node .comment) [] := trivial
      exact isFormed_leaf hform t false
    · exact h u hu
  | case4 done passed t rest hc hl ih => exact ih h

variable {r r' : Reading}

theorem isFormed_leaf {t : Terminal} {kind : Kind} (hform : Grammar.form kind [])
    (h : r.IsFormed) (hleaf : r.leaf? t kind = some r') : r'.IsFormed := by
  have hcons : ∀ (tok : Token) (missing : Bool),
      ∀ u ∈ tok.leaf kind missing :: r.done, u.IsFormed := by
    intro tok missing u hu
    rcases List.mem_cons.mp hu with rfl | hu
    · exact SyntaxTree.isFormed_leaf hform tok missing
    · exact h u hu
  rcases leaf?_cases hleaf with ⟨_, _, used, _, _, -, -, rfl⟩ | ⟨_, _, used, _, -, rfl⟩
  · exact hcons used false
  · exact hcons used true

theorem isFormed_terminator (h : r.IsFormed) (hend : r.terminator? = some r') :
    r'.IsFormed := by
  obtain ⟨tok, _, -, -, rfl⟩ := terminator?_cases hend
  intro u hu
  rcases List.mem_cons.mp hu with rfl | hu
  · exact SyntaxTree.isFormed_looseLeaf tok
  · exact h u hu

theorem isFormed_close {kind : NodeKind} {outer : List SyntaxTree}
    (hform : Grammar.form (.node kind) (partsOf r.done).reverse) (h : r.IsFormed)
    (houter : ∀ t ∈ outer, t.IsFormed) : (r.close kind outer).IsFormed := by
  intro t ht
  simp only [close, List.mem_cons, List.mem_append, List.mem_reverse] at ht
  rcases ht with rfl | ht | ht
  · refine isFormed_ofSubtrees ?_ ?_ ?_
    · rwa [partsOf_dropWhile, partsOf_reverse]
    · -- the comments in front of the construct have been left out of it
      intro u hu hloose
      have hfirst := List.head?_dropWhile_not SyntaxTree.isLoose r.done.reverse
      rw [Option.mem_def.mp hu] at hfirst
      simp [hloose] at hfirst
    · intro u hu
      have hmem := (List.dropWhile_sublist _).mem hu
      exact h u (List.mem_reverse.mp hmem)
  · have hmem := (List.takeWhile_sublist _).mem ht
    exact h t (List.mem_reverse.mp hmem)
  · exact houter t ht

end Reading

open Grammar in
/-- What a pattern that keeps to the forms reads keeps to the forms at every place. -/
theorem Pattern.Reads.isFormed {p : Pattern Rule} {r r' : Reading}
    (h : Pattern.Reads table p r r') {filled : Bool} (hp : p.isProper filling filled)
    (hforms : p.Forms) (hr : r.IsFormed) : r'.IsFormed := by
  have hyields : ∀ {q : Pattern Rule} {s s' : Reading} {b : Bool}, Pattern.Reads table q s s' →
      q.isProper filling b → q.yields spec (partsOf s.done) (partsOf s'.done) :=
    fun hreads hq => hreads.yields isProper_table spec_table hq
  have hnil : ∀ s : Reading, ({ s with done := [] } : Reading).IsFormed := by
    intro s t ht
    cases ht
  induction h generalizing filled with
  | empty => exact hr
  | stop => exact hr
  | test => exact hr
  | leaf h => exact Reading.isFormed_leaf hforms (Reading.isFormed_settle _ _ _ _ hr) h
  | seq _ _ ihp ihq =>
    obtain ⟨hp, hq⟩ := isProper_seq_iff.mp hp
    exact ihq hq hforms.2 (ihp hp hforms.1 hr)
  | left _ ih =>
    obtain ⟨hp, -⟩ := isProper_either_iff.mp hp
    exact ih hp hforms.1 hr
  | right _ ih =>
    obtain ⟨-, hq⟩ := isProper_either_iff.mp hp
    exact ih hq hforms.2 hr
  | again _ _ ihp ihmany => exact ihmany hp hforms (ihp hp hforms hr)
  | node hreads ih =>
    -- the parts of the construct are some that its pattern yields
    obtain ⟨-, hp, -⟩ := isProper_node_iff.mp hp
    exact Reading.isFormed_close (hforms.2 _ (hyields hreads hp)) (ih hp hforms.1 (hnil _)) hr
  | wrap hreads ih =>
    obtain ⟨-, hp, -⟩ := isProper_wrap_iff.mp hp
    exact Reading.isFormed_close (hforms.2 _ _ (hyields hreads hp)) (ih hp hforms.1 hr)
      (by simp)
  | group _ ih =>
    intro t ht
    rcases List.mem_append.mp ht with ht | ht
    · exact ih hp hforms (hnil _) t ht
    · exact hr t ht
  | label _ ih =>
    intro t ht
    rcases List.mem_append.mp ht with ht | ht
    · obtain ⟨u, hu, rfl⟩ := List.mem_map.mp ht
      exact (ih hp hforms (hnil _) u hu).withLabel _
    · exact hr t ht
  | terminator h => exact Reading.isFormed_terminator (Reading.isFormed_settle _ _ _ _ hr) h
  | gap =>
    intro t ht
    rcases List.mem_cons.mp ht with rfl | ht
    · exact .node trivial (fun _ => rfl) (by simp) (by simp)
    · exact hr t ht
  | finish => exact Reading.isFormed_settle _ _ _ _ hr
  | rule _ ih => exact ih (isProper_table.isProper _) (forms_table _) hr

/-- In a file that shows no fault each tree keeps to the forms. -/
theorem isFormed_of_firstFault_eq_none {items : List Item} {stop : Position}
    (h : (SyntaxTree.root (treesOf items) stop).firstFault? = none) :
    (SyntaxTree.root (treesOf items) stop).IsFormed := by
  obtain ⟨r, hreads, hdone, -⟩ := Outline.reads_of_trees (trees_of_firstFault_eq_none h)
  have hr : r.IsFormed :=
    hreads.isFormed Grammar.isProper_file Grammar.forms_file (by intro t ht; cases ht)
  have hparts := Grammar.isOutermost_of_yields_file
    (hreads.yields Grammar.isProper_table Grammar.spec_table Grammar.isProper_file)
  rw [← hdone]
  refine .node ?_ (fun _ => rfl) (fun _ _ _ => Or.inr rfl) ?_
  · intro x hx
    rw [partsOf_reverse] at hx
    exact hparts x (List.mem_reverse.mp hx)
  · intro t ht
    exact hr t (List.mem_reverse.mp ht)

/-! ## Who plays which part -/

namespace SyntaxTree

variable {t : SyntaxTree}

theorem labelled?_eq_head? (t : SyntaxTree) (l : Label) : t.labelled? l = (t.labelled l).head? := by
  simp [labelled?, labelled]

theorem labelled?_of_labelled {u : SyntaxTree} {l : Label} (h : t.labelled l = [u]) :
    t.labelled? l = some u := by
  rw [labelled?_eq_head?, h]
  rfl

theorem mem_children_of_mem_labelled {u : SyntaxTree} {l : Label} (h : u ∈ t.labelled l) :
    u ∈ t.children :=
  (List.mem_filter.mp h).1

/-- The one tree that plays a part keeps to the forms. -/
theorem IsFormed.of_labelled (h : t.IsFormed) {u : SyntaxTree} {l : Label}
    (hu : t.labelled l = [u]) : u.IsFormed := by
  apply h.of_mem_children
  apply mem_children_of_mem_labelled
  rw [hu]
  exact List.mem_singleton_self u

/-- The shown subtrees of a kind. -/
def childrenOf (t : SyntaxTree) (k : NodeKind) : List SyntaxTree :=
  t.children.filter (·.kind == .node k)

theorem child?_eq_head? (t : SyntaxTree) (k : NodeKind) :
    t.child? (.node k) = (t.childrenOf k).head? := by
  simp [child?, childrenOf]

theorem kinds_childrenOf (t : SyntaxTree) {k : NodeKind} (hk : k ≠ .comment) :
    (t.childrenOf k).map kind
      = ((partsOf t.subtrees).filter (·.1 == .node k)).map Prod.fst := by
  have hsame : ∀ u ∈ t.subtrees,
      ((u.kind == .node k) && u.kind.isShown) = ((u.kind == .node k) && !u.isLoose) := by
    intro u _
    by_cases hkind : u.kind = .node k
    · have hloose : u.isLoose = false := by simp [isLoose_iff_kind, hkind, hk]
      have hshown : u.kind.isShown := by rw [hkind]; rfl
      rw [hloose, hshown]
      rfl
    · have hne : (u.kind == Kind.node k) = false := beq_false_of_ne hkind
      rw [hne]
      rfl
  simp only [childrenOf, children, partsOf, List.filter_filter, List.filter_map, List.map_map]
  rw [List.filter_congr hsame]
  rfl

/-- The kinds of the trees that play a part are those that its parts tell. -/
theorem IsFormed.kinds_labelled (h : t.IsFormed) (l : Label) :
    (t.labelled l).map kind
      = ((partsOf t.subtrees).filter fun x => x.1.isShown && x.2 == some l).map Prod.fst := by
  -- what plays a part is neither a comment nor an error, so nothing is lost among the parts
  have hsame : ∀ u ∈ t.subtrees,
      ((u.info.label == some l) && u.kind.isShown)
        = ((u.kind.isShown && u.info.label == some l) && !u.isLoose) := by
    intro u hu
    cases hloose : u.isLoose with
    | true => simp [(h.of_mem hu).label hloose]
    | false => simp [Bool.and_comm]
  simp only [labelled, children, partsOf, List.filter_filter, List.filter_map, List.map_map]
  rw [List.filter_congr hsame]
  rfl

/-- A definition of a type has one name, which is an identifier, and one type. -/
theorem IsFormed.typeSpec (h : t.IsFormed) (hkind : t.kind = .node .typeSpec) :
    ∃ name type, t.labelled .name = [name] ∧ name.kind = .node .typeIdentifier
      ∧ t.labelled .type = [type] ∧ ∃ k ∈ Grammar.typeKinds, type.kind = .node k := by
  have hform := h.form
  have hname := h.kinds_labelled .name
  have htype := h.kinds_labelled .type
  rw [hkind] at hform
  obtain ⟨k, hk, hparts⟩ := hform
  have hkinds : (t.labelled .name).map kind = [.node .typeIdentifier]
      ∧ (t.labelled .type).map kind = [.node k] := by
    rw [hname, htype]
    rcases hparts with hparts | hparts
    all_goals rw [hparts]; exact ⟨rfl, rfl⟩
  obtain ⟨name, hname, hnamekind⟩ := List.map_eq_singleton_iff.mp hkinds.1
  obtain ⟨type, htype, htypekind⟩ := List.map_eq_singleton_iff.mp hkinds.2
  exact ⟨name, type, hname, hnamekind, htype, k, hk, htypekind⟩

/-- A generic type has the type that its arguments stand behind: a name, or a negated type. -/
theorem IsFormed.genericType (h : t.IsFormed) (hkind : t.kind = .node .genericType) :
    ∃ base, t.labelled .type = [base]
      ∧ ∃ k ∈ Grammar.genericBaseKinds, base.kind = .node k := by
  have hform := h.form
  have htype := h.kinds_labelled .type
  rw [hkind] at hform
  obtain ⟨k, hk, hparts⟩ := hform
  have hkinds : (t.labelled .type).map kind = [.node k] := by
    rw [htype, hparts]
    rfl
  obtain ⟨base, hbase, hbasekind⟩ := List.map_eq_singleton_iff.mp hkinds
  exact ⟨base, hbase, k, hk, hbasekind⟩

/-- A struct type has one body. -/
theorem IsFormed.structType (h : t.IsFormed) (hkind : t.kind = .node .structType) :
    ∃ body, t.childrenOf .fieldDeclarationList = [body] := by
  have hform := h.form
  rw [hkind] at hform
  have hkinds : (t.childrenOf .fieldDeclarationList).map kind = [.node .fieldDeclarationList] := by
    rw [kinds_childrenOf t (by decide), show partsOf t.subtrees = _ from hform]
    rfl
  obtain ⟨body, hbody, -⟩ := List.map_eq_singleton_iff.mp hkinds
  exact ⟨body, hbody⟩

/-- A package clause has one identifier. -/
theorem IsFormed.packageClause (h : t.IsFormed) (hkind : t.kind = .node .packageClause) :
    ∃ ident, t.childrenOf .packageIdentifier = [ident] := by
  have hform := h.form
  rw [hkind] at hform
  have hkinds : (t.childrenOf .packageIdentifier).map kind = [.node .packageIdentifier] := by
    rw [kinds_childrenOf t (by decide), show partsOf t.subtrees = _ from hform]
    rfl
  obtain ⟨ident, hident, -⟩ := List.map_eq_singleton_iff.mp hkinds
  exact ⟨ident, hident⟩

/-- A declaration of fields has one type; if it has no name, the type is one that may be
embedded. -/
theorem IsFormed.fieldDeclaration (h : t.IsFormed) (hkind : t.kind = .node .fieldDeclaration) :
    ∃ type, t.labelled .type = [type]
      ∧ (∀ n ∈ t.labelled .name, n.kind = .node .fieldIdentifier)
      ∧ (t.labelled .name = [] → ∃ k ∈ Grammar.embeddedTypeKinds, type.kind = .node k) := by
  have hform := h.form
  have hname := h.kinds_labelled .name
  have htype := h.kinds_labelled .type
  rw [hkind] at hform
  obtain ⟨front, k, tag, hparts, htag, hfront⟩ := hform
  -- neither the tag nor what stands in front of the type plays the part of the type
  have htagname : (tag.filter fun x => x.1.isShown && x.2 == some Label.name) = [] := by
    rcases htag with rfl | ⟨k', rfl⟩ <;> rfl
  have htagtype : (tag.filter fun x => x.1.isShown && x.2 == some Label.type) = [] := by
    rcases htag with rfl | ⟨k', rfl⟩ <;> rfl
  have hfronttype : (front.filter fun x => x.1.isShown && x.2 == some Label.type) = [] := by
    rw [List.filter_eq_nil_iff]
    intro x hx
    rcases hfront with ⟨rfl | rfl, -⟩ | ⟨-, hall, -⟩
    · cases hx
    · rw [List.mem_singleton.mp hx]
      decide
    · rcases hall x hx with rfl | rfl <;> decide
  have hkinds : (t.labelled .type).map kind = [.node k] := by
    rw [htype, hparts]
    simp only [List.filter_append, hfronttype, List.nil_append]
    rw [List.filter_cons_of_pos rfl, htagtype]
    rfl
  have hnames : (t.labelled .name).map kind
      = (front.filter fun x => x.1.isShown && x.2 == some Label.name).map Prod.fst := by
    rw [hname, hparts, List.filter_append, List.filter_cons_of_neg (by simp), htagname]
    simp
  obtain ⟨type, htype, htypekind⟩ := List.map_eq_singleton_iff.mp hkinds
  refine ⟨type, htype, ?_, ?_⟩
  · intro n hn
    have hmem := List.mem_map_of_mem (f := kind) hn
    rw [hnames] at hmem
    obtain ⟨x, hx, hxkind⟩ := List.mem_map.mp hmem
    obtain ⟨hx, hlabel⟩ := List.mem_filter.mp hx
    rcases hfront with ⟨rfl | rfl, -⟩ | ⟨-, hall, -⟩
    · cases hx
    · rw [List.mem_singleton.mp hx] at hlabel
      exact absurd hlabel (by decide)
    · rcases hall x hx with rfl | rfl
      · exact hxkind.symm
      · exact absurd hlabel (by decide)
  · intro hnone
    rcases hfront with ⟨-, hk⟩ | ⟨hmem, -, -⟩
    · exact ⟨k, hk, htypekind⟩
    · -- a name in front of the type would play the part of a name
      rw [hnone, List.map_nil] at hnames
      have hin := List.map_eq_nil_iff.mp hnames.symm
      rw [List.filter_eq_nil_iff] at hin
      exact absurd rfl (hin _ hmem)

/-! ## Tokens between constructs -/

theorem mem_partsOf {u : SyntaxTree} {ts : List SyntaxTree} (h : u ∈ ts)
    (hloose : u.isLoose = false) : (u.kind, u.info.label) ∈ partsOf ts := by
  apply List.mem_map_of_mem (f := fun t : SyntaxTree => (t.kind, t.info.label))
  rw [List.mem_filter]
  exact ⟨h, by simp [hloose]⟩

/-- Comments and errors are named. -/
theorem isLoose_of_not_isNamed {u : SyntaxTree} (h : u.kind.isNamed = false) :
    u.isLoose = false := by
  rw [isLoose_iff_kind]
  cases hkind : u.kind with
  | node | error => simp [hkind, Kind.isNamed] at h
  | token | lineEnd => rfl

/-- Of the terminators between constructs only semicolons and NUL characters are shown. -/
theorem kind_of_isOutermost {u : SyntaxTree} {l : Option Label}
    (h : Grammar.IsOutermost (u.kind, l)) (hnamed : u.kind.isNamed = false)
    (hshown : u.kind.isShown) : u.kind = .token ";" ∨ u.kind = .token "" := by
  rcases h with hname | hend
  · have hname' : u.kind.isNamed := hname
    rw [hnamed] at hname'
    cases hname'
  · have hend' : u.kind ∈ Kind.terminators := hend
    simp only [Kind.terminators, List.mem_cons, List.not_mem_nil, or_false] at hend'
    rcases hend' with hline | hmark
    · rw [hline] at hshown
      cases hshown
    · exact hmark

/-- Between the constructs of a file nothing but semicolons and NUL characters is shown. -/
theorem IsFormed.sourceFile (h : t.IsFormed) (hkind : t.kind = .node .sourceFile)
    {u : SyntaxTree} (hu : u ∈ t.children) (hnamed : u.kind.isNamed = false) :
    u.kind = .token ";" ∨ u.kind = .token "" := by
  have hform := h.form
  rw [hkind] at hform
  obtain ⟨hmem, hshown⟩ := List.mem_filter.mp hu
  have hpart := hform _ (mem_partsOf hmem (isLoose_of_not_isNamed hnamed))
  exact kind_of_isOutermost hpart hnamed hshown

/-- The first tree of a declaration of types is its keyword. -/
theorem IsFormed.first_typeDeclaration (h : t.IsFormed)
    (hkind : t.kind = .node .typeDeclaration) :
    ∃ u us, t.subtrees = u :: us ∧ u.kind = .token "type" := by
  have hform := h.form
  rw [hkind] at hform
  obtain ⟨middle, last, hparts, -⟩ := hform.exists_last
  -- the first of all its trees is no comment, so it is the first of its parts
  cases hts : t.subtrees with
  | nil => simp [hts] at hparts
  | cons u us =>
    have hloose : u.isLoose = false := by
      apply h.head (by simp [hts])
      · simp [hkind]
      · simp [hkind]
    rw [hts, partsOf_cons_of_not_loose hloose] at hparts
    have hpart := (List.cons.inj hparts).1
    exact ⟨u, us, rfl, congrArg Prod.fst hpart⟩

/-- A declaration of types begins with its keyword. -/
theorem IsFormed.head_typeDeclaration (h : t.IsFormed)
    (hkind : t.kind = .node .typeDeclaration) :
    ∃ u rest, t.children = u :: rest ∧ u.kind = .token "type" := by
  obtain ⟨u, us, hts, hutype⟩ := h.first_typeDeclaration hkind
  refine ⟨u, us.filter fun c => c.kind.isShown, ?_, hutype⟩
  rw [children, hts, List.filter_cons_of_pos]
  rw [hutype]
  rfl

/-- A declaration of types without parentheses is made of its keyword and one definition. -/
theorem IsFormed.ungrouped (h : t.IsFormed) (hkind : t.kind = .node .typeDeclaration)
    (hgroup : t.child? (.token "(") = none) :
    ∃ k, partsOf t.subtrees = [(.token "type", none), (.node k, none)] := by
  have hform := h.form
  rw [hkind] at hform
  rcases hform with hparts | ⟨middle, hparts, -⟩
  · exact hparts
  · -- the opening parenthesis of a group is one of the children
    exfalso
    have hparen : (Kind.token "(", none) ∈ partsOf t.subtrees := by
      rw [hparts]
      simp
    obtain ⟨u, hu, hpart⟩ := List.mem_map.mp hparen
    have hukind : u.kind = .token "(" := congrArg Prod.fst hpart
    have hshown : u ∈ t.children := by
      refine List.mem_filter.mpr ⟨(List.mem_filter.mp hu).1, ?_⟩
      rw [hukind]
      rfl
    exact absurd (beq_iff_eq.mpr hukind) (List.find?_eq_none.mp hgroup u hshown)

/-- In a declaration of types no token but its keyword, a parenthesis, semicolons and NUL characters
is shown in front of a construct. -/
theorem IsFormed.typeDeclaration (h : t.IsFormed) (hkind : t.kind = .node .typeDeclaration)
    {before after : List SyntaxTree} {u v : SyntaxTree}
    (hchildren : t.children = before ++ u :: after) (hv : v ∈ after) (hvloose : v.isLoose = false)
    (hnamed : u.kind.isNamed = false) :
    u.kind = .token "type" ∨ u.kind = .token "(" ∨ u.kind = .token ";" ∨ u.kind = .token "" := by
  have hform := h.form
  rw [hkind] at hform
  obtain ⟨middle, last, hparts, hmiddle⟩ := hform.exists_last
  have hu : u ∈ t.children := by rw [hchildren]; simp
  have hushown := (List.mem_filter.mp hu).2
  -- what is shown is found among all trees in the same order
  obtain ⟨front, back, hts, -, hback⟩ := List.filter_eq_append_iff.mp hchildren
  obtain ⟨hidden, behind, rfl, -, -, hbehind⟩ := List.filter_eq_cons_iff.mp hback
  have hvbehind : v ∈ behind := by
    rw [← hbehind] at hv
    exact (List.mem_filter.mp hv).1
  -- so the token is not the last part, since the construct stands behind it
  have hpart : (u.kind, u.info.label) ∈ (partsOf t.subtrees).dropLast := by
    have hne : partsOf behind ≠ [] := List.ne_nil_of_mem (mem_partsOf hvbehind hvloose)
    rw [hts, partsOf_append, partsOf_append,
      partsOf_cons_of_not_loose (isLoose_of_not_isNamed hnamed), ← List.append_assoc,
      List.dropLast_append_of_ne_nil (by simp)]
    apply List.mem_append_right
    rw [List.dropLast_cons_of_ne_nil hne]
    exact List.mem_cons_self
  rw [hparts, ← List.cons_append, List.dropLast_concat] at hpart
  rcases List.mem_cons.mp hpart with heq | hmem
  · exact Or.inl (congrArg Prod.fst heq)
  · rcases hmiddle _ hmem with hparen | houter
    · exact Or.inr (Or.inl hparen)
    · exact Or.inr (Or.inr (kind_of_isOutermost houter hnamed hushown))

end SyntaxTree

end GoStructs.Syntax
