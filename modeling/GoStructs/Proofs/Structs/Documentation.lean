import GoStructs.Proofs.Structs.Lookup
import GoStructs.Proofs.Syntax.Coverage
/-! # Comments that document a struct

A comment that stands on a row behind code belongs to that code.  What ends the documentation of a
struct, though, is a construct that ends on the row where the comment begins; a token of its own
between constructs is none.  So a comment that documents a struct may have code in front of it on
its row, but only if it stands right behind a semicolon or a NUL character, or behind the keyword or
the opening parenthesis of the declaration that the struct is declared by.

## Main statements

* `SourceFile.TrailsMarksOnly`: there is no code on the row in front of a comment, unless such a
  token stands right in front of it.
* `documentation_trails_marks_only`: this holds of each comment that documents a struct. -/

namespace GoStructs

open Syntax (SyntaxTree Kind NodeKind Token Laid)

/-! ## Comments among siblings -/

/-- Each comment of some documentation stands somewhere in front of what is documented, and no
construct right in front of it ends on its row. -/
theorem exists_of_mem_docComments {row : Nat} {before : List SyntaxTree} {c : SyntaxTree}
    (h : c ∈ docComments row before) :
    ∃ nearer farther, before = nearer ++ c :: farther ∧ c.isComment
      ∧ trailsCode c farther = false := by
  fun_induction docComments row before with
  | case1 | case2 | case5 => cases h
  | case3 row t before hcomment hadjacent ih =>
    rcases List.mem_cons.mp h with rfl | h
    · refine ⟨[], before, rfl, hcomment, ?_⟩
      simpa using fun htrails => hadjacent (Or.inr htrails)
    · obtain ⟨nearer, farther, rfl, hc⟩ := ih h
      exact ⟨t :: nearer, farther, rfl, hc⟩
  | case4 row t before hcomment hsemicolon ih =>
    obtain ⟨nearer, farther, rfl, hc⟩ := ih h
    exact ⟨t :: nearer, farther, rfl, hc⟩

theorem exists_of_mem_withPreceding {before ts : List SyntaxTree}
    {x : SyntaxTree × List SyntaxTree} (h : x ∈ withPreceding before ts) :
    ∃ front back, ts = front ++ x.1 :: back ∧ x.2 = front.reverse ++ before := by
  induction ts generalizing before with
  | nil => cases h
  | cons t ts ih =>
    rcases List.mem_cons.mp h with rfl | h
    · exact ⟨[], ts, rfl, rfl⟩
    · obtain ⟨front, back, rfl, hx⟩ := ih h
      exact ⟨t :: front, back, rfl, by simpa using hx⟩

/-- A comment that documents one of some siblings stands in front of it among them. -/
theorem exists_split_of_mem_docComments {ts : List SyntaxTree}
    {x : SyntaxTree × List SyntaxTree} (hx : x ∈ withPreceding [] ts) {row : Nat} {c : SyntaxTree}
    (hc : c ∈ docComments row x.2) :
    ∃ before after, ts = before ++ c :: after ∧ x.1 ∈ after ∧ c.isComment
      ∧ trailsCode c before.reverse = false := by
  obtain ⟨front, back, rfl, hpreceding⟩ := exists_of_mem_withPreceding hx
  obtain ⟨nearer, farther, hfront, hcomment, htrails⟩ := exists_of_mem_docComments hc
  -- the list of what precedes has the nearest first
  have hfront' : front = farther.reverse ++ c :: nearer.reverse := by
    rw [← List.reverse_reverse front, ← List.append_nil front.reverse, ← hpreceding, hfront]
    simp
  refine ⟨farther.reverse, nearer.reverse ++ x.1 :: back, ?_, by simp, hcomment, ?_⟩
  · rw [hfront']
    simp
  · rwa [List.reverse_reverse]

section

variable {text : List Char} {lo hi : Nat} {before after : List SyntaxTree} {c t : SyntaxTree}
  {p : Position}

/-- A leaf that ends in front of one of some siblings is found in those in front of it. -/
theorem mem_before_of_ends (h : Laid text lo (before ++ c :: after) hi)
    (ht : t ∈ before ++ c :: after) (hends : t.Ends p) (hp : p.offset ≤ c.start.offset) :
    t ∈ before := by
  rcases List.mem_append.mp ht with ht | ht
  · exact ht
  · -- all the others begin no sooner than the sibling does
    obtain ⟨mid, -, hrest⟩ := h.exists_of_append
    have hlaid := hrest.from_start.of_mem ht
    have hstart := hlaid.le_start
    have hinside := (hends.between hlaid).1
    omega

/-- A leaf that ends inside one of some siblings is found in that one. -/
theorem eq_of_ends {ts : List SyntaxTree} (h : Laid text lo ts hi) (hc : c ∈ ts) (ht : t ∈ ts)
    (hends : t.Ends p) (hlow : c.start.offset < p.offset) (hhigh : p.offset ≤ c.stop.offset) :
    t = c := by
  obtain ⟨hstart, hstop⟩ := hends.between (h.of_mem ht)
  obtain ⟨front, back, rfl⟩ := List.append_of_mem hc
  obtain ⟨-, hback, hfront⟩ := List.pairwise_append.mp h.pairwise
  rcases List.mem_append.mp ht with ht | ht
  · have hlt := hfront t ht c List.mem_cons_self
    omega
  · rcases List.mem_cons.mp ht with heq | ht
    · exact heq
    · have hlt := (List.pairwise_cons.mp hback).1 t ht
      omega

/-- If code stands in front of a comment on its row, and no construct right in front of it ends
there, then what stands right in front of it is a token of its own. -/
theorem exists_token_before (h : Laid text lo (before ++ c :: after) hi)
    (htrails : trailsCode c before.reverse = false) (hp : p.In text)
    (hrow : p.row = c.start.row) (ht : t ∈ before) (hle : p.offset ≤ t.stop.offset) :
    ∃ front u, before = front ++ [u] ∧ u.kind.isNamed = false ∧ u.stop.row = c.start.row
      ∧ p.offset ≤ u.stop.offset ∧ u.stop.offset ≤ c.start.offset := by
  obtain ⟨front, u, rfl⟩ : ∃ front u, before = front ++ [u] :=
    ⟨_, _, (List.dropLast_concat_getLast (List.ne_nil_of_mem ht)).symm⟩
  obtain ⟨mid, hbefore, hrest⟩ := h.exists_of_append
  have hu : Laid text lo [u] mid := hbefore.of_mem (by simp)
  have hc : Laid text mid [c] hi := hrest.of_mem List.mem_cons_self
  -- the nearest sibling reaches at least as far as the code does, and not beyond the comment
  have hreach : p.offset ≤ u.stop.offset := by
    have hlast := (hbefore.to_stop.of_mem ht).stop_le
    omega
  have hbound : u.stop.offset ≤ c.start.offset := Nat.le_trans hu.stop_le hc.le_start
  have hlow : p.row ≤ u.stop.row := hp.row_le_row hu.stop_in hreach
  have hhigh : u.stop.row ≤ c.start.row := hu.stop_in.row_le_row hc.start_in hbound
  have hurow : u.stop.row = c.start.row := by omega
  refine ⟨front, u, rfl, ?_, hurow, hreach, hbound⟩
  simpa [trailsCode, hurow] using htrails

end

namespace SourceFile

/-! ## Comments of a file -/

/-- The constructs in which the comments stand that may document a struct: the file and its
declarations of types. -/
def levels (f : SourceFile) : List SyntaxTree := f.tree :: f.tree.childrenOf .typeDeclaration

/-- The comment stands right behind a semicolon or a NUL character, or behind the keyword or the
opening parenthesis of a declaration of types. -/
def FollowsMark (f : SourceFile) (c mark : SyntaxTree) : Prop :=
  ∃ level ∈ f.levels, ∃ before after, level.children = before ++ mark :: c :: after
    ∧ ((mark.kind = .token ";" ∨ mark.kind = .token "")
      ∨ level.kind = .node .typeDeclaration ∧ (mark.kind = .token "type" ∨ mark.kind = .token "("))

/-- If some token of code ends in front of the comment on the row where it begins, then the last
of them is a mark, and the comment stands right behind it. -/
def TrailsMarksOnly (f : SourceFile) (c : SyntaxTree) : Prop :=
  ∀ tok ∈ Token.scan f.text, tok.isCode → tok.stop.offset ≤ c.start.offset →
    tok.stop.row = c.start.row →
      ∃ mark, f.FollowsMark c mark ∧ mark.stop.row = c.start.row
        ∧ tok.stop.offset ≤ mark.stop.offset ∧ mark.stop.offset ≤ c.start.offset

/-- A text of a comment as it documents a struct: without white space at its end. -/
def docTextOf (f : SourceFile) (c : SyntaxTree) : String :=
  String.ofList (Text.trimEnd (c.text f.text))

variable {path : Path} {text : List Char} {f : SourceFile}

theorem kind_tree (h : ofText path text = .ok f) : f.tree.kind = .node .sourceFile := by
  rw [(of_ofText h).2.2.1]
  rfl

/-- Each token of code is found among the constructs of the file. -/
theorem exists_ends (h : ofText path text = .ok f) {tok : Token} (htok : tok ∈ Token.scan f.text)
    (hcode : tok.isCode) : ∃ t ∈ f.tree.children, t.Ends tok.stop := by
  obtain ⟨-, htext, htree, hfault⟩ := of_ofText h
  rw [htext] at htok
  rw [htree] at hfault ⊢
  obtain ⟨t, ht, hends⟩ := Syntax.exists_ends_of_mem_scan hfault htok hcode
  exact ⟨t, List.mem_filter.mpr ⟨ht, hends.isShown⟩, hends⟩

/-- A comment between the constructs of the file. -/
theorem trailsMarksOnly_outermost (h : ofText path text = .ok f) {before after : List SyntaxTree}
    {c : SyntaxTree} (hchildren : f.tree.children = before ++ c :: after)
    (htrails : trailsCode c before.reverse = false) : f.TrailsMarksOnly c := by
  intro tok htok hcode hle hrow
  obtain ⟨hi, hlaid⟩ := laid_tree h
  have hlaid : Laid f.text 0 (before ++ c :: after) hi :=
    hchildren ▸ hlaid.sublist List.filter_sublist
  obtain ⟨t, ht, hends⟩ := exists_ends h htok hcode
  rw [hchildren] at ht
  have hbefore := mem_before_of_ends hlaid ht hends hle
  have hreach := (hends.between (hlaid.of_mem ht)).2
  obtain ⟨front, mark, rfl, hnamed, hmark⟩ := exists_token_before hlaid htrails
    (Token.placed_of_mem_scan htok).stop_in hrow hbefore hreach
  -- the only tokens between the constructs of a file are terminators
  have hmem : mark ∈ f.tree.children := by
    rw [hchildren]
    simp
  have hkind := (isFormed_tree h).sourceFile (kind_tree h) hmem hnamed
  exact ⟨mark, ⟨f.tree, List.mem_cons_self, front, after, by simpa using hchildren, Or.inl hkind⟩,
    hmark⟩

/-- Whatever code stands in front of a comment in a construct of the file is not beyond the nodes
in front of the comment, if there are any. -/
theorem exists_reaching (h : ofText path text = .ok f) {t c : SyntaxTree}
    (ht : t ∈ f.tree.children) {before after : List SyntaxTree}
    (hchildren : t.children = before ++ c :: after) (hne : before ≠ []) {tok : Token}
    (htok : tok ∈ Token.scan f.text) (hcode : tok.isCode)
    (hle : tok.stop.offset ≤ c.start.offset) :
    ∃ u ∈ before, tok.stop.offset ≤ u.stop.offset := by
  obtain ⟨hi, htree⟩ := laid_tree h
  have hlaid : Laid f.text 0 f.tree.children hi := htree.sublist List.filter_sublist
  have hparts := (hlaid.of_mem ht).children
  rw [hchildren] at hparts
  by_cases hfront : tok.stop.offset ≤ t.start.offset
  · -- code in front of the construct ends before any node in it
    obtain ⟨u, us, rfl⟩ := List.exists_cons_of_ne_nil hne
    have hu := hparts.of_mem (List.mem_append_left _ List.mem_cons_self)
    have hstart := hu.le_start
    have hstop := hu.subtrees.le
    exact ⟨u, List.mem_cons_self, by omega⟩
  · -- other code is found in the construct itself, and there in front of the comment
    obtain ⟨v, hv, hends⟩ := exists_ends h htok hcode
    have hc : Laid f.text t.start.offset [c] t.stop.offset :=
      hparts.of_mem (List.mem_append_right _ List.mem_cons_self)
    have hinside : tok.stop.offset ≤ t.stop.offset := by
      have hcstop := hc.stop_le
      have hcle := hc.subtrees.le
      omega
    have heq := eq_of_ends hlaid ht hv hends (by omega) hinside
    have hsubtrees : v.subtrees ≠ [] := by
      rw [heq]
      intro hnil
      rw [SyntaxTree.children, hnil] at hchildren
      simp at hchildren
    obtain ⟨u, hu, huends⟩ := hends.exists_child hsubtrees
    rw [heq, hchildren] at hu
    have hubefore := mem_before_of_ends hparts hu huends hle
    exact ⟨u, hubefore, (huends.between (hparts.of_mem hu)).2⟩

/-- A comment in a declaration of types, in front of a definition. -/
theorem trailsMarksOnly_declaration (h : ofText path text = .ok f) {decl c : SyntaxTree}
    (hdecl : decl ∈ f.tree.childrenOf .typeDeclaration) {before after : List SyntaxTree}
    (hchildren : decl.children = before ++ c :: after) (hcomment : c.isComment)
    (hafter : ∃ spec ∈ after, spec.isLoose = false)
    (htrails : trailsCode c before.reverse = false) : f.TrailsMarksOnly c := by
  intro tok htok hcode hle hrow
  obtain ⟨hi, htree⟩ := laid_tree h
  have hmem := SyntaxTree.mem_children_of_mem_childrenOf hdecl
  have hkind := SyntaxTree.kind_of_mem_childrenOf hdecl
  have hformed := (isFormed_tree h).of_mem_children hmem
  have hparts := (htree.of_mem (List.mem_filter.mp hmem).1).children
  rw [hchildren] at hparts
  -- the declaration begins with its keyword, so the comment does not stand first in it
  have hne : before ≠ [] := by
    intro hnil
    obtain ⟨keyword, rest, hkeyword, hktype⟩ := hformed.head_typeDeclaration hkind
    rw [hkeyword, hnil] at hchildren
    have heq : keyword = c := (List.cons.inj hchildren).1
    rw [← heq, SyntaxTree.isComment, hktype] at hcomment
    cases hcomment
  obtain ⟨u, hu, hreach⟩ := exists_reaching h hmem hchildren hne htok hcode hle
  obtain ⟨front, mark, rfl, hnamed, hmark⟩ := exists_token_before hparts htrails
    (Token.placed_of_mem_scan htok).stop_in hrow hu hreach
  have hsplit : decl.children = front ++ mark :: c :: after := by simpa using hchildren
  obtain ⟨spec, hspec, hloose⟩ := hafter
  have hmarks := hformed.typeDeclaration hkind hsplit (List.mem_cons_of_mem c hspec) hloose hnamed
  refine ⟨mark, ⟨decl, List.mem_cons_of_mem _ hdecl, front, after, hsplit, ?_⟩, hmark⟩
  rcases hmarks with htype | hparen | hterminator
  · exact Or.inr ⟨hkind, Or.inl htype⟩
  · exact Or.inr ⟨hkind, Or.inr hparen⟩
  · exact Or.inl hterminator

/-! ## Documentation -/

/-- The struct is documented by comments that trail no code but marks. -/
def DocTrailsMarksOnly (f : SourceFile) (d : StructDecl) : Prop :=
  ∃ comments : List SyntaxTree, d.doc = comments.map f.docTextOf
    ∧ ∀ c ∈ comments, c.isComment ∧ (∃ level ∈ f.levels, c ∈ level.children)
      ∧ f.TrailsMarksOnly c

end SourceFile

variable {w : World} {c : Config} {path : Path} {text : List Char} {f : SourceFile}

/-- Where the documentation of a struct that is collected comes from: the definition and the
declaration around it. -/
theorem exists_of_mem_rawStructs {r : RawStruct} (h : r ∈ rawStructs f) :
    ∃ decl ∈ withPreceding [] f.tree.children, decl.1.kind = .node .typeDeclaration
      ∧ ∃ spec ∈ withPreceding [] decl.1.children, spec.1.kind = .node .typeSpec
        ∧ (r.decl.doc = docOf f spec.1 spec.2 ∨ r.decl.doc = docOf f decl.1 decl.2
          ∨ r.decl.doc = []) := by
  obtain ⟨decl, hdecl, hr⟩ := List.mem_flatMap.mp h
  obtain ⟨hdecl, hdeclkind⟩ := List.mem_filter.mp hdecl
  obtain ⟨spec, hspec, hr⟩ := List.mem_filterMap.mp hr
  obtain ⟨hspec, hspeckind⟩ := List.mem_filter.mp hspec
  refine ⟨decl, hdecl, eq_of_beq hdeclkind, spec, hspec, eq_of_beq hspeckind, ?_⟩
  unfold structOfSpec? at hr
  split at hr
  · obtain ⟨-, hr⟩ := Option.ite_none_right_eq_some.mp hr
    cases hr
    show specDoc f decl spec _ = _ ∨ specDoc f decl spec _ = _ ∨ specDoc f decl spec _ = _
    -- the declaration counts only if the definition has no documentation of its own
    unfold specDoc
    split
    · split
      · exact Or.inr (Or.inr rfl)
      · exact Or.inr (Or.inl rfl)
    · exact Or.inl rfl
  · cases hr

/-- Each struct that is collected is documented by comments that trail no code but marks. -/
theorem docTrailsMarksOnly_of_mem_rawStructs (h : SourceFile.ofText path text = .ok f)
    {r : RawStruct} (hr : r ∈ rawStructs f) : f.DocTrailsMarksOnly r.decl := by
  obtain ⟨decl, hdecl, hdeclkind, spec, hspec, hspeckind, hdoc⟩ := exists_of_mem_rawStructs hr
  have hmem : decl.1 ∈ f.tree.childrenOf .typeDeclaration := by
    obtain ⟨front, back, hsplit, -⟩ := exists_of_mem_withPreceding hdecl
    refine List.mem_filter.mpr ⟨?_, beq_iff_eq.mpr hdeclkind⟩
    rw [hsplit]
    simp
  rcases hdoc with hdoc | hdoc | hdoc
  · refine ⟨(docComments spec.1.start.row spec.2).reverse, hdoc, ?_⟩
    intro c hc
    obtain ⟨before, after, hsplit, hafter, hcomment, htrails⟩ :=
      exists_split_of_mem_docComments hspec (List.mem_reverse.mp hc)
    have hloose : spec.1.isLoose = false := by
      rw [Syntax.isLoose_iff_kind, hspeckind]
      rfl
    refine ⟨hcomment, ⟨decl.1, List.mem_cons_of_mem _ hmem, by rw [hsplit]; simp⟩, ?_⟩
    exact SourceFile.trailsMarksOnly_declaration h hmem hsplit hcomment ⟨_, hafter, hloose⟩ htrails
  · refine ⟨(docComments decl.1.start.row decl.2).reverse, hdoc, ?_⟩
    intro c hc
    obtain ⟨before, after, hsplit, -, hcomment, htrails⟩ :=
      exists_split_of_mem_docComments hdecl (List.mem_reverse.mp hc)
    refine ⟨hcomment, ⟨f.tree, List.mem_cons_self, by rw [hsplit]; simp⟩, ?_⟩
    exact SourceFile.trailsMarksOnly_outermost h hsplit htrails
  · exact ⟨[], hdoc, by simp⟩

/-- Whatever is extracted or collected from a file is documented by comments in front of which, on
the row where they begin, no code stands, unless they stand right behind a semicolon or a NUL
character, or behind the keyword or the opening parenthesis of a declaration of types. -/
theorem documentation_trails_marks_only (hf : (SourceFile.read w path).value = .ok f) :
    (∃ file, (extractStructsWith w c path).value = .ok file
        ∧ ∀ e ∈ file.structs, f.DocTrailsMarksOnly e.2.decl)
      ∧ ∃ table, (collectStructs w path).value = .ok table
        ∧ ∀ name, ∀ d ∈ table.get? name, f.DocTrailsMarksOnly d := by
  obtain ⟨text, -, hof⟩ := SourceFile.ofText_of_read hf
  refine ⟨⟨_, value_extractStructsWith hf, ?_⟩, ⟨_, value_collectStructs hf, ?_⟩⟩
  · intro e he
    have he : (e.1, e.2) ∈ resolveFields (rawStructs f) := he
    rw [resolveFields, StructTable.mem_ofList_iff] at he
    obtain ⟨r, hr, hdecl⟩ := List.mem_map.mp (List.mem_reverse.mp (List.mem_of_find?_eq_some he))
    rw [← hdecl]
    exact docTrailsMarksOnly_of_mem_rawStructs hof hr
  · intro name d hd
    rw [DeclTable.get?_ofList] at hd
    obtain ⟨r, hr, hdecl⟩ := List.mem_map.mp (List.mem_of_find?_eq_some hd)
    rw [← hdecl]
    exact docTrailsMarksOnly_of_mem_rawStructs hof hr

/-- The documentation of the structs of a file, told from its text. -/
theorem SourceFile.exists_read_of_docs (source : String) (docs : List (List String))
    (h : (ofText ⟨"a.go"⟩ source.toList).toOption.map
      (fun f => (resolveFields (rawStructs f)).map fun e => e.2.decl.doc) = some docs) :
    ∃ f, (read (.ofFile source) ⟨"a.go"⟩).value = .ok f
      ∧ f.tree = Syntax.parse source.toList
      ∧ (resolveFields (rawStructs f)).map (fun e => e.2.decl.doc) = docs :=
  exists_read_of_map _ source docs h

/-- Three structs, documented by comments behind a semicolon, a parenthesis and a keyword. -/
def misplaced : String :=
  "package p\n\nvar x = 1; // about x\ntype User struct \x7b\x7d\n\n"
    ++ "type ( // about the group\n\tA struct \x7b\x7d\n)\n\n"
    ++ "type // about the keyword\nB struct \x7b\x7d\n"

/-- What is read of them: the comments do document the structs. -/
theorem exists_read_misplaced :
    ∃ f, (SourceFile.read (.ofFile misplaced) ⟨"a.go"⟩).value = .ok f
      ∧ f.tree = Syntax.parse misplaced.toList
      ∧ (resolveFields (rawStructs f)).map (fun e => e.2.decl.doc)
        = [["// about x"], ["// about the group"], ["// about the keyword"]] :=
  SourceFile.exists_read_of_docs _ _ (by decide +kernel)

theorem documentation_trails_marks_only_of_misplaced :
    ∃ f file, (SourceFile.read (.ofFile misplaced) ⟨"a.go"⟩).value = .ok f
      ∧ (extractStructsWith (.ofFile misplaced) default ⟨"a.go"⟩).value = .ok file
      ∧ file.structs.length = 3 ∧ ∀ e ∈ file.structs, f.DocTrailsMarksOnly e.2.decl := by
  obtain ⟨f, hf, -, hdocs⟩ := exists_read_misplaced
  obtain ⟨⟨file, hfile, hmarks⟩, -⟩ := documentation_trails_marks_only (c := default) hf
  refine ⟨f, file, hf, hfile, ?_, hmarks⟩
  rw [value_extractStructsWith hf] at hfile
  cases hfile
  simpa using congrArg List.length hdocs

/-- A NUL character is a mark, too. -/
example : (SourceFile.ofText ⟨"a.go"⟩
      "package p\n\nvar x = 1\x00 // about x\ntype U struct \x7b\x7d\n".toList).toOption.map
      (fun f => (resolveFields (rawStructs f)).map fun e => e.2.decl.doc)
    = some [["// about x"]] := by
  decide +kernel

/-- Code stands in front of each of these comments on its row. -/
theorem misplaced_comments_trail_code :
    ∃ file, (extractStructsWith (.ofFile misplaced) default ⟨"a.go"⟩).value = .ok file
      ∧ file.structs.length = 3
      ∧ ∀ e ∈ file.structs, ∃ c ∈ Token.scan misplaced.toList, c.kind = .comment
          ∧ e.2.decl.doc = [c.text] ∧ ∃ tok ∈ Token.scan misplaced.toList, tok.isCode
            ∧ tok.stop.row = c.start.row ∧ tok.stop.offset ≤ c.start.offset := by
  have hcode : ∀ doc ∈ [["// about x"], ["// about the group"], ["// about the keyword"]],
      ∃ c ∈ Token.scan misplaced.toList, c.kind = .comment ∧ doc = [c.text]
        ∧ ∃ tok ∈ Token.scan misplaced.toList, tok.isCode
          ∧ tok.stop.row = c.start.row ∧ tok.stop.offset ≤ c.start.offset := by
    decide +kernel
  obtain ⟨f, hf, -, hdocs⟩ := exists_read_misplaced
  refine ⟨_, value_extractStructsWith hf, by simpa using congrArg List.length hdocs, ?_⟩
  intro e he
  apply hcode
  rw [← hdocs]
  exact List.mem_map_of_mem (f := fun e => e.2.decl.doc) he

end GoStructs
