import GoStructs.Proofs.Structs.Documentation
import Mathlib.Data.List.Chain
/-! # The block of comments above a construct

The comments that document a construct are found by going back from it over what stands in front of
it, as long as each comment ends on the row above what comes next.  What is found this way is the
longest run of comments that ends right above the construct and has nothing but semicolons between.
What such a run documents is the first that is no comment behind any comment of it.

## Main statements

* `IsDocBlock`: the longest of the runs of comments right above a row.
* `isDocBlock_iff`: going back finds this block.
* `IsDocBlock.covers`: a block leaves no row out.
* `Precedes.unique`: a comment stands in front of one construct. -/

namespace GoStructs

open Syntax (SyntaxTree Kind NodeKind Laid)

/-! ## Runs of comments -/

/-- The last of some siblings, `back`, are the comments `cs` with semicolons between, each comment
ends on the row above the next and the last on the row above the given one, and none begins on the
row where a construct right in front of it ends. -/
structure IsCommentRun (front back : List SyntaxTree) (row : Nat) (cs : List SyntaxTree) :
    Prop where
  kept : back.filter (fun t => !isSemicolon t) = cs
  comments : ∀ c ∈ cs, c.isComment
  chain : cs.IsChain fun c d => c.stop.row + 1 = d.start.row
  last : ∀ c ∈ cs.getLast?, c.stop.row + 1 = row
  apart : ∀ inner c, inner ++ [c] <+: back → c.isComment →
    ∀ t ∈ (front ++ inner).getLast?, t.kind.isNamed → t.stop.row ≠ c.start.row

/-- Some siblings end with a run of these comments. -/
def EndsInRun (siblings : List SyntaxTree) (row : Nat) (cs : List SyntaxTree) : Prop :=
  ∃ front back, siblings = front ++ back ∧ IsCommentRun front back row cs

/-- The comments are the longest run with which the siblings end. -/
def IsDocBlock (siblings : List SyntaxTree) (row : Nat) (cs : List SyntaxTree) : Prop :=
  EndsInRun siblings row cs ∧ ∀ cs', EndsInRun siblings row cs' → cs' <:+ cs

theorem IsDocBlock.unique {siblings cs cs' : List SyntaxTree} {row : Nat}
    (h : IsDocBlock siblings row cs) (h' : IsDocBlock siblings row cs') : cs = cs' :=
  (h'.2 cs h.1).eq_of_length_le (h.2 cs' h'.1).length_le

section

variable {front back cs : List SyntaxTree} {row : Nat} {t c : SyntaxTree}

theorem isSemicolon_eq_false_of_isComment (h : t.isComment) : isSemicolon t = false := by
  have hkind : t.kind = .node .comment := eq_of_beq h
  rw [isSemicolon, hkind]
  rfl

theorem trailsCode_reverse_eq_false_iff {before : List SyntaxTree} :
    trailsCode c before.reverse = false
      ↔ ∀ t ∈ before.getLast?, t.kind.isNamed → t.stop.row ≠ c.start.row := by
  unfold trailsCode
  rw [List.head?_reverse]
  cases before.getLast? with
  | none => simp
  | some t => simp

theorem isCommentRun_nil (front : List SyntaxTree) (row : Nat) :
    IsCommentRun front [] row [] where
  kept := rfl
  comments := by simp
  chain := .nil
  last := by simp
  apart := by simp

/-- A semicolon at the end changes nothing. -/
theorem isCommentRun_semicolon_iff (h : isSemicolon t) :
    IsCommentRun front (back ++ [t]) row cs ↔ IsCommentRun front back row cs := by
  have hcomment : ¬t.isComment := by
    intro hcomment
    rw [isSemicolon_eq_false_of_isComment hcomment] at h
    cases h
  have hkept : (back ++ [t]).filter (fun t => !isSemicolon t)
      = back.filter fun t => !isSemicolon t := by
    simp [h]
  constructor
  · intro hrun
    refine ⟨hkept ▸ hrun.kept, hrun.comments, hrun.chain, hrun.last, ?_⟩
    intro inner c hinner
    exact hrun.apart inner c (hinner.trans (List.prefix_append _ _))
  · intro hrun
    refine ⟨hkept.trans hrun.kept, hrun.comments, hrun.chain, hrun.last, ?_⟩
    intro inner c hinner hc
    rcases List.prefix_concat_iff.mp hinner with heq | hinner
    · -- the semicolon is no comment
      obtain ⟨-, heq⟩ := List.append_inj' heq rfl
      rw [List.singleton_inj.mp heq] at hc
      exact absurd hc hcomment
    · exact hrun.apart inner c hinner hc

/-- A comment at the end is the last of the run, and the others are a run above it. -/
theorem isCommentRun_comment_iff (h : t.isComment) :
    IsCommentRun front (back ++ [t]) row cs
      ↔ t.stop.row + 1 = row ∧ trailsCode t (front ++ back).reverse = false
        ∧ ∃ cs', cs = cs' ++ [t] ∧ IsCommentRun front back t.start.row cs' := by
  have hkept : (back ++ [t]).filter (fun t => !isSemicolon t)
      = back.filter (fun t => !isSemicolon t) ++ [t] := by
    simp [isSemicolon_eq_false_of_isComment h]
  rw [trailsCode_reverse_eq_false_iff]
  constructor
  · intro hrun
    have hcs := hkept.symm.trans hrun.kept
    have hcomments := hrun.comments
    have hchain := hrun.chain
    rw [← hcs] at hcomments hchain
    obtain ⟨hchain, -, hlast⟩ := List.isChain_append.mp hchain
    refine ⟨hrun.last t (by simp [← hcs]), ?_, _, hcs.symm, rfl, ?_, hchain, ?_, ?_⟩
    · exact hrun.apart back t (List.prefix_refl _) h
    · intro c hc
      exact hcomments c (List.mem_append_left _ hc)
    · intro c hc
      exact hlast c hc t (by simp)
    · intro inner c hinner
      exact hrun.apart inner c (hinner.trans (List.prefix_append _ _))
  · intro hall
    obtain ⟨hrow, hapart, cs', rfl, hrun⟩ := hall
    refine ⟨hkept.trans (by rw [hrun.kept]), ?_, ?_, ?_, ?_⟩
    · intro c hc
      rcases List.mem_append.mp hc with hc | hc
      · exact hrun.comments c hc
      · rw [List.mem_singleton.mp hc]
        exact h
    · refine List.isChain_append.mpr ⟨hrun.chain, List.isChain_singleton t, ?_⟩
      intro c hc d hd
      rw [← Option.some.inj (show some t = some d by simpa using hd)]
      exact hrun.last c hc
    · intro c hc
      rw [← Option.some.inj (show some t = some c by simpa using hc)]
      exact hrow
    · intro inner c hinner hc
      rcases List.prefix_concat_iff.mp hinner with heq | hinner
      · obtain ⟨hinner, heq⟩ := List.append_inj' heq rfl
        rw [hinner, List.singleton_inj.mp heq]
        exact hapart
      · exact hrun.apart inner c hinner hc

/-- Nothing but comments and semicolons is part of a run. -/
theorem IsCommentRun.isComment_or_isSemicolon (h : IsCommentRun front back row cs)
    (ht : t ∈ back) : t.isComment ∨ isSemicolon t := by
  by_cases hsemicolon : isSemicolon t
  · exact Or.inr hsemicolon
  · left
    apply h.comments
    rw [← h.kept]
    exact List.mem_filter.mpr ⟨ht, by simpa using hsemicolon⟩

end

/-! ## Going back finds the longest run -/

variable {row : Nat} {cs : List SyntaxTree}

/-- What is found by going back is a run. -/
theorem endsInRun_docComments (row : Nat) (before : List SyntaxTree) :
    EndsInRun before.reverse row (docComments row before).reverse := by
  fun_induction docComments row before with
  | case1 row => exact ⟨[], [], rfl, isCommentRun_nil _ _⟩
  | case2 row t before hcomment hstop | case5 row t before hcomment hsemicolon =>
    exact ⟨_, [], (List.append_nil _).symm, isCommentRun_nil _ _⟩
  | case3 row t before hcomment hadjacent ih =>
    obtain ⟨front, back, hsplit, hrun⟩ := ih
    refine ⟨front, back ++ [t], by simp [hsplit], ?_⟩
    rw [List.reverse_cons, isCommentRun_comment_iff hcomment, ← hsplit, List.reverse_reverse]
    refine ⟨?_, ?_, _, rfl, hrun⟩
    · by_contra hrow
      exact hadjacent (Or.inl hrow)
    · simpa using fun htrails => hadjacent (Or.inr htrails)
  | case4 row t before hcomment hsemicolon ih =>
    obtain ⟨front, back, hsplit, hrun⟩ := ih
    refine ⟨front, back ++ [t], by simp [hsplit], ?_⟩
    exact (isCommentRun_semicolon_iff hsemicolon).mpr hrun

/-- How siblings end in a run, told from the last of them. -/
theorem EndsInRun.of_concat {siblings : List SyntaxTree} {t : SyntaxTree}
    (h : EndsInRun (siblings ++ [t]) row cs) :
    cs = [] ∨ (isSemicolon t ∧ EndsInRun siblings row cs)
      ∨ t.isComment ∧ t.stop.row + 1 = row ∧ trailsCode t siblings.reverse = false
        ∧ ∃ cs', cs = cs' ++ [t] ∧ EndsInRun siblings t.start.row cs' := by
  obtain ⟨front, back, hsplit, hrun⟩ := h
  by_cases hback : back = []
  · left
    rw [← hrun.kept, hback]
    rfl
  · right
    rw [← List.dropLast_concat_getLast hback, ← List.append_assoc] at hsplit
    obtain ⟨hsiblings, hlast⟩ := List.append_inj' hsplit rfl
    have heq : back.dropLast ++ [t] = back := by
      rw [hlast]
      exact List.dropLast_concat_getLast hback
    rw [← heq] at hrun
    rcases hrun.isComment_or_isSemicolon (List.mem_append_right _ List.mem_cons_self) with
      hcomment | hsemicolon
    · right
      obtain ⟨hrow, htrails, cs', hcs, hrun⟩ := (isCommentRun_comment_iff hcomment).mp hrun
      rw [← hsiblings] at htrails
      exact ⟨hcomment, hrow, htrails, cs', hcs, front, _, hsiblings, hrun⟩
    · left
      exact ⟨hsemicolon, front, _, hsiblings, (isCommentRun_semicolon_iff hsemicolon).mp hrun⟩

/-- The run that is found by going back ends with any other. -/
theorem suffix_docComments {before : List SyntaxTree} (h : EndsInRun before.reverse row cs) :
    cs <:+ (docComments row before).reverse := by
  fun_induction docComments row before generalizing cs with
  | case1 row =>
    obtain ⟨front, back, hsplit, hrun⟩ := h
    rw [← hrun.kept, (List.append_eq_nil_iff.mp hsplit.symm).2]
    exact List.nil_suffix
  | case2 row t before hcomment hstop =>
    rw [List.reverse_cons] at h
    rcases h.of_concat with rfl | ⟨hsemicolon, -⟩ | ⟨-, hrow, htrails, -⟩
    · exact List.nil_suffix
    · rw [isSemicolon_eq_false_of_isComment hcomment] at hsemicolon
      cases hsemicolon
    · -- no run takes up a comment that is too far above or trails code
      rw [List.reverse_reverse] at htrails
      rcases hstop with hne | hstop
      · exact absurd hrow hne
      · rw [htrails] at hstop
        cases hstop
  | case3 row t before hcomment hadjacent ih =>
    rw [List.reverse_cons] at h
    rcases h.of_concat with rfl | ⟨hsemicolon, -⟩ | ⟨-, -, -, cs', rfl, hrun⟩
    · exact List.nil_suffix
    · rw [isSemicolon_eq_false_of_isComment hcomment] at hsemicolon
      cases hsemicolon
    · rw [List.reverse_cons, List.suffix_concat_iff]
      exact Or.inr ⟨cs', rfl, ih hrun⟩
  | case4 row t before hcomment hsemicolon ih =>
    rw [List.reverse_cons] at h
    rcases h.of_concat with rfl | ⟨-, hrun⟩ | ⟨hcomment', -⟩
    · exact List.nil_suffix
    · exact ih hrun
    · exact absurd hcomment' hcomment
  | case5 row t before hcomment hsemicolon =>
    rw [List.reverse_cons] at h
    rcases h.of_concat with rfl | ⟨hsemicolon', -⟩ | ⟨hcomment', -⟩
    · exact List.nil_suffix
    · exact absurd hsemicolon' hsemicolon
    · exact absurd hcomment' hcomment

/-- The comments that are found by going back are the longest run. -/
theorem isDocBlock_iff {siblings : List SyntaxTree} :
    IsDocBlock siblings row cs ↔ cs = (docComments row siblings.reverse).reverse := by
  have hblock : IsDocBlock siblings row (docComments row siblings.reverse).reverse := by
    have hends := endsInRun_docComments row siblings.reverse
    rw [List.reverse_reverse] at hends
    refine ⟨hends, ?_⟩
    intro cs' hcs'
    apply suffix_docComments
    rwa [List.reverse_reverse]
  constructor
  · intro h
    exact h.unique hblock
  · intro h
    rw [h]
    exact hblock

/-- A token that is no semicolon ends the search, as if nothing stood in front of it. -/
theorem docComments_append_mark {x : SyntaxTree} (hnamed : x.kind.isNamed = false)
    (hsemicolon : isSemicolon x = false) (row : Nat) (before rest : List SyntaxTree) :
    docComments row (before ++ x :: rest) = docComments row before := by
  have htrails : ∀ (c : SyntaxTree) (before : List SyntaxTree),
      trailsCode c (before ++ x :: rest) = trailsCode c before := by
    intro c before
    cases before with
    | nil => simp [trailsCode, hnamed]
    | cons t ts => rfl
  have hcomment : x.isComment = false := by
    cases hcomment : x.isComment with
    | false => rfl
    | true =>
      have hkind : x.kind = .node .comment := eq_of_beq hcomment
      rw [hkind] at hnamed
      cases hnamed
  induction before generalizing row with
  | nil => simp [docComments, hcomment, hsemicolon]
  | cons t before ih => simp only [List.cons_append, docComments, htrails, ih]

/-- The block above a row is the same if only what stands behind such a token is looked at. -/
theorem isDocBlock_behind_mark_iff {x : SyntaxTree} (hnamed : x.kind.isNamed = false)
    (hsemicolon : isSemicolon x = false) {front inner : List SyntaxTree} :
    IsDocBlock (front ++ x :: inner) row cs ↔ IsDocBlock inner row cs := by
  rw [isDocBlock_iff, isDocBlock_iff, List.reverse_append, List.reverse_cons, List.append_assoc,
    List.singleton_append, docComments_append_mark hnamed hsemicolon]

/-- In a chain of comments of which the last ends right above a row, each row from the end of one of
them on belongs to another. -/
theorem exists_covering (hchain : cs.IsChain fun c d => c.stop.row + 1 = d.start.row)
    (hlast : ∀ c ∈ cs.getLast?, c.stop.row + 1 = row) {c : SyntaxTree} (hc : c ∈ cs) {r : Nat}
    (hlow : c.stop.row < r) (hhigh : r < row) : ∃ d ∈ cs, d.start.row ≤ r ∧ r ≤ d.stop.row := by
  induction cs generalizing c with
  | nil => cases hc
  | cons a as ih =>
    cases as with
    | nil =>
      have heq : c = a := List.mem_singleton.mp hc
      have hrow : a.stop.row + 1 = row := hlast a rfl
      rw [heq] at hlow
      omega
    | cons b bs =>
      obtain ⟨hrow, hchain⟩ := List.isChain_cons_cons.mp hchain
      have hlast' : ∀ c ∈ (b :: bs).getLast?, c.stop.row + 1 = row := by
        intro c hc
        exact hlast c (by rwa [List.getLast?_cons_cons])
      have hrest : (∃ c ∈ b :: bs, c.stop.row < r) →
          ∃ d ∈ a :: b :: bs, d.start.row ≤ r ∧ r ≤ d.stop.row := by
        intro hbelow
        obtain ⟨c, hc, hlow⟩ := hbelow
        obtain ⟨d, hd, hcovers⟩ := ih hchain hlast' hc hlow
        exact ⟨d, List.mem_cons_of_mem a hd, hcovers⟩
      rcases List.mem_cons.mp hc with heq | hc
      · -- behind the first comment the row is one of the second or below it
        rw [heq] at hlow
        by_cases hb : r ≤ b.stop.row
        · exact ⟨b, by simp, by omega, hb⟩
        · exact hrest ⟨b, List.mem_cons_self, by omega⟩
      · exact hrest ⟨c, hc, hlow⟩

/-- No row is left out between the comments of a block and what they document. -/
theorem IsDocBlock.covers {siblings : List SyntaxTree} (h : IsDocBlock siblings row cs)
    {c : SyntaxTree} (hc : c ∈ cs) {r : Nat} (hlow : c.stop.row < r) (hhigh : r < row) :
    ∃ d ∈ cs, d.start.row ≤ r ∧ r ≤ d.stop.row := by
  obtain ⟨⟨front, back, -, hrun⟩, -⟩ := h
  exact exists_covering hrun.chain hrun.last hc hlow hhigh

/-! ## What stands behind a comment -/

/-- Behind a comment, with nothing but comments and semicolons between, stands a construct that is
neither. -/
def Precedes (ts : List SyntaxTree) (c x : SyntaxTree) : Prop :=
  (c.isComment ∧ ¬x.isComment ∧ ¬isSemicolon x)
    ∧ ∃ before between after, ts = before ++ c :: (between ++ x :: after)
      ∧ ∀ t ∈ between, t.isComment ∨ isSemicolon t

theorem Precedes.mem {ts : List SyntaxTree} {c x : SyntaxTree} (h : Precedes ts c x) : c ∈ ts := by
  obtain ⟨-, before, between, after, rfl, -⟩ := h
  simp

/-- The comments of a block stand in front of what they document. -/
theorem IsDocBlock.precedes {front back : List SyntaxTree} {x : SyntaxTree} {k : NodeKind}
    (h : IsDocBlock front row cs) (hkind : x.kind = .node k) (hk : k ≠ .comment) {c : SyntaxTree}
    (hc : c ∈ cs) : Precedes (front ++ x :: back) c x := by
  obtain ⟨⟨first, last, rfl, hrun⟩, -⟩ := h
  have hmem : c ∈ last := by
    rw [← hrun.kept] at hc
    exact (List.mem_filter.mp hc).1
  obtain ⟨before, between, rfl⟩ := List.append_of_mem hmem
  refine ⟨⟨hrun.comments c hc, ?_, ?_⟩, first ++ before, between, back, by simp, ?_⟩
  · simp [SyntaxTree.isComment, hkind, hk]
  · simp [isSemicolon, hkind]
  · intro t ht
    apply hrun.isComment_or_isSemicolon
    simp [ht]

section

variable {text : List Char} {lo hi : Nat} {ts : List SyntaxTree} {c t u x y : SyntaxTree}

/-- Of trees that are laid out only one reaches over a place. -/
theorem eq_of_overlap (h : Laid text lo ts hi) (ht : t ∈ ts) (hu : u ∈ ts)
    (htu : t.start.offset < u.stop.offset) (hut : u.start.offset < t.stop.offset) : t = u := by
  by_contra hne
  have hpairs : ts.Pairwise fun t u =>
      t.stop.offset ≤ u.start.offset ∨ u.stop.offset ≤ t.start.offset :=
    h.pairwise.imp Or.inl
  have hsymm : Std.Symm fun t u : SyntaxTree =>
      t.stop.offset ≤ u.start.offset ∨ u.stop.offset ≤ t.start.offset := ⟨fun _ _ h => h.symm⟩
  have hapart := hpairs.forall ht hu hne
  omega

/-- A tree that lies within two of those that are laid out shows that they are the same. -/
theorem eq_of_laid_within (h : Laid text lo ts hi) (ht : t ∈ ts) (hu : u ∈ ts)
    (hct : Laid text t.start.offset [c] t.stop.offset)
    (hcu : Laid text u.start.offset [c] u.stop.offset) (hshown : c.kind.isShown) : t = u := by
  have hlt := hct.start_lt_stop (Or.inr hshown)
  have htstart := hct.le_start
  have htstop := hct.stop_le
  have hustart := hcu.le_start
  have hustop := hcu.stop_le
  exact eq_of_overlap h ht hu (by omega) (by omega)

theorem isShown_of_isComment (h : c.isComment) : c.kind.isShown := by
  have hkind : c.kind = .node .comment := eq_of_beq h
  rw [hkind]
  rfl

/-- A comment is found once among trees that are laid out. -/
theorem notMem_of_laid {before after : List SyntaxTree} (h : Laid text lo (before ++ c :: after) hi)
    (hc : c.isComment) : c ∉ before ∧ c ∉ after := by
  obtain ⟨-, hafter, hbefore⟩ := List.pairwise_append.mp h.pairwise
  have hlt := (h.of_mem (by simp)).start_lt_stop (Or.inr (isShown_of_isComment hc))
  constructor
  · intro hmem
    have hle := hbefore c hmem c List.mem_cons_self
    omega
  · intro hmem
    have hle := (List.pairwise_cons.mp hafter).1 c hmem
    omega

/-- What stands behind a comment is determined by the comment. -/
theorem Precedes.unique (h : Laid text lo ts hi) (hx : Precedes ts c x) (hy : Precedes ts c y) :
    x = y := by
  obtain ⟨⟨hc, hxcomment, hxsemicolon⟩, before, between, after, hsplit, hbetween⟩ := hx
  obtain ⟨⟨-, hycomment, hysemicolon⟩, before', between', after', hsplit', hbetween'⟩ := hy
  obtain ⟨hbefore, hafter⟩ := notMem_of_laid (hsplit ▸ h) hc
  have hsplits := hsplit.symm.trans hsplit'
  obtain ⟨-, -, hrest⟩ := (List.append_cons_inj_of_notMem hbefore hafter).mp hsplits
  -- it is the first that is neither a comment nor a semicolon
  have hfind : ∀ (z : SyntaxTree) (zs ws : List SyntaxTree), ¬z.isComment → ¬isSemicolon z →
      (∀ t ∈ zs, t.isComment ∨ isSemicolon t) →
        (zs ++ z :: ws).find? (fun t => !(t.isComment || isSemicolon t)) = some z := by
    intro z zs ws hcomment hsemicolon hzs
    have hnone : zs.find? (fun t => !(t.isComment || isSemicolon t)) = none := by
      rw [List.find?_eq_none]
      intro t ht
      have hpassed : (t.isComment || isSemicolon t) = true := by simpa using hzs t ht
      simp [hpassed]
    rw [List.find?_append, hnone]
    simp [hcomment, hsemicolon]
  have hfirst := hfind x between after hxcomment hxsemicolon hbetween
  rw [hrest, hfind y between' after' hycomment hysemicolon hbetween'] at hfirst
  exact (Option.some.inj hfirst).symm

end

end GoStructs
