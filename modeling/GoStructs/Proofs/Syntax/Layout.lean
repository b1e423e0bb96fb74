import GoStructs.Proofs.Source.Places
import GoStructs.Proofs.Syntax.Faults
/-! # The layout of a tree

The tokens of a text stand one behind the other where the text has them.  A pattern keeps this
order: the trees that it makes stand one behind the other, the parts of each between its beginning
and its end, and only a missing node that is not shown is empty.

## Main statements

* `Token.ahead_scan`: the tokens of a text stand in it one behind the other.
* `Pattern.Reads.laidOut`: a pattern keeps trees and tokens in order.
* `laid_trees_of_firstFault_eq_none`: the trees of a text without a fault are laid out in it. -/

namespace GoStructs.Syntax

open Position (origin)

/-! ## Tokens in a text -/

/-- The token stands in the text where it says, and it is not empty. -/
structure Token.Placed (text : List Char) (t : Token) : Prop where
  split : ∃ a c, text = a ++ t.text.toList ++ c ∧ t.start = origin.skip a
    ∧ t.stop = origin.skip (a ++ t.text.toList)
  ne_nil : t.text.toList ≠ []

/-- The items are tokens of the text from the byte `lo` on, one behind the other. -/
inductive Ahead (text : List Char) : Nat → List Item → Prop where
  | nil (lo : Nat) : Ahead text lo []
  | cons {lo : Nat} {t : Token} {items : List Item} (hlo : lo ≤ t.start.offset)
      (ht : t.Placed text) (h : Ahead text t.stop.offset items) : Ahead text lo (.token t :: items)

variable {text : List Char}

namespace Token

variable {t : Token}

theorem Placed.start_in (h : t.Placed text) : t.start.In text := by
  obtain ⟨a, c, htext, hstart, -⟩ := h.split
  exact ⟨a, t.text.toList ++ c, by simpa using htext, hstart⟩

theorem Placed.stop_in (h : t.Placed text) : t.stop.In text := by
  obtain ⟨a, c, htext, -, hstop⟩ := h.split
  exact ⟨a ++ t.text.toList, c, htext, hstop⟩

theorem Placed.lt (h : t.Placed text) : t.start.offset < t.stop.offset := by
  obtain ⟨a, c, -, hstart, hstop⟩ := h.split
  have := byteSize_pos h.ne_nil
  simp only [hstart, hstop, Position.offset_origin_skip, byteSize_append]
  omega

/-- The tokens among pieces of a text stand in it one behind the other. -/
theorem ahead_ofPieces {ps : List Piece} {a c : List Char}
    (htext : text = a ++ ps.flatMap Piece.chars ++ c) (hne : ∀ p ∈ ps, p.chars ≠ []) {lo : Nat}
    (hlo : lo ≤ byteSize a) : Ahead text lo ((ofPieces (origin.skip a) ps).map .token) := by
  induction ps generalizing a lo with
  | nil => exact .nil lo
  | cons p ps ih =>
    obtain ⟨kind, chars⟩ := p
    have hnext : (origin.skip a).skip chars = origin.skip (a ++ chars) :=
      (Position.skip_append ..).symm
    have htext' : text = (a ++ chars) ++ ps.flatMap Piece.chars ++ c := by simpa using htext
    have hps : ∀ p ∈ ps, p.chars ≠ [] := fun p hp => hne p (List.mem_cons_of_mem _ hp)
    cases kind with
    | none =>
      simp only [ofPieces, hnext]
      apply ih htext' hps
      simp only [byteSize_append]
      omega
    | some kind =>
      simp only [ofPieces, hnext, List.map_cons]
      apply Ahead.cons
      · simpa using hlo
      · refine ⟨⟨a, ps.flatMap Piece.chars ++ c, ?_, rfl, ?_⟩, ?_⟩
        · simpa using htext
        · simp
        · simpa using hne _ List.mem_cons_self
      · exact ih htext' hps (by simp)

/-- The tokens of a text stand in it one behind the other. -/
theorem ahead_scan (text : List Char) : Ahead text 0 ((scan text).map .token) := by
  unfold scan
  split
  · next r =>
    obtain ⟨hall, hne⟩ := Piece.all_cut (Nat.le_refl r.length)
    exact ahead_ofPieces (a := ['\ufeff']) (c := []) (by simp [hall]) hne (Nat.zero_le _)
  · obtain ⟨hall, hne⟩ := Piece.all_cut (Nat.le_refl text.length)
    exact ahead_ofPieces (a := []) (c := []) (by simp [hall]) hne (Nat.zero_le _)

end Token

theorem Ahead.mono {lo lo' : Nat} {items : List Item} (h : Ahead text lo items) (hlo : lo' ≤ lo) :
    Ahead text lo' items := by
  cases h with
  | nil => exact .nil lo'
  | cons hle ht hrest => exact .cons (Nat.le_trans hlo hle) ht hrest

theorem Ahead.placed_of_mem {lo : Nat} {items : List Item} {t : Token} (h : Ahead text lo items)
    (ht : .token t ∈ items) : t.Placed text := by
  induction h with
  | nil => cases ht
  | cons _ hplaced _ ih =>
    rcases List.mem_cons.mp ht with heq | ht
    · cases heq
      exact hplaced
    · exact ih ht

theorem Token.placed_of_mem_scan {t : Token} (h : t ∈ scan text) : t.Placed text :=
  (ahead_scan text).placed_of_mem (List.mem_map_of_mem h)

/-- What a terminal takes of a token and what it leaves stand where the token stood. -/
theorem Terminal.ahead_of_take {t : Terminal} {kind : Kind} {tok used : Token} {more : List Token}
    {items : List Item} (hmakes : t.makesLeaf kind) (htake : t.take? tok = some (used, more))
    (htok : tok.Placed text) (hitems : Ahead text tok.stop.offset items) :
    used.Placed text ∧ used.start = tok.start
      ∧ Ahead text used.stop.offset (more.map .token ++ items) := by
  cases t with
  | opening s =>
    simp only [take?, Option.ite_none_right_eq_some, Option.some.injEq, Prod.mk.injEq] at htake
    obtain ⟨⟨-, hpre, hlt⟩, rfl, rfl⟩ := htake
    obtain ⟨rest, hrest⟩ := List.isPrefixOf_iff_prefix.mp hpre
    have hne : s.toList ≠ [] := by
      simp only [makesLeaf, Bool.and_eq_true] at hmakes
      simpa using hmakes.2
    obtain ⟨⟨a, c, htext, hstart, hstop⟩, -⟩ := htok
    rw [← hrest] at htext hstop hlt
    have hdrop : tok.text.toList.drop s.toList.length = rest := by simp [← hrest]
    have hmiddle : tok.start.skip s.toList = origin.skip (a ++ s.toList) := by
      rw [hstart, Position.skip_append]
    refine ⟨⟨⟨a, rest ++ c, by simpa using htext, hstart, hmiddle⟩, hne⟩, rfl, ?_⟩
    refine .cons (Nat.le_refl _) ⟨⟨a ++ s.toList, c, ?_, hmiddle, ?_⟩, ?_⟩ hitems
    · simpa [hdrop] using htext
    · simpa [hdrop] using hstop
    · rintro hnil
      rw [String.toList_ofList, hdrop] at hnil
      simp [hnil] at hlt
  | word _ | keyword _ | operator _ | ofKind _ =>
    simp only [take?, Option.ite_none_right_eq_some, Option.some.injEq, Prod.mk.injEq] at htake
    obtain ⟨-, rfl, rfl⟩ := htake
    exact ⟨htok, rfl, hitems⟩

/-! ## Trees in a text -/

/-- The trees stand in the text between two bytes, one behind the other, and so do the parts of
each between its beginning and its end.  Only a missing node that is not shown is empty. -/
inductive Laid (text : List Char) : Nat → List SyntaxTree → Nat → Prop where
  | nil {lo hi : Nat} (h : lo ≤ hi) : Laid text lo [] hi
  | cons {lo hi : Nat} {i : NodeInfo} {us ts : List SyntaxTree} (hlo : lo ≤ i.start.offset)
      (hstart : i.start.In text) (hstop : i.stop.In text)
      (hlt : i.missing = false ∨ i.kind.isShown → i.start.offset < i.stop.offset)
      (hus : Laid text i.start.offset us i.stop.offset) (hts : Laid text i.stop.offset ts hi) :
      Laid text lo (.node i us :: ts) hi

namespace Laid

variable {lo mid hi : Nat} {t : SyntaxTree} {ts us : List SyntaxTree}

theorem le (h : Laid text lo ts hi) : lo ≤ hi := by
  induction h with
  | nil h => exact h
  | cons hlo _ _ _ _ _ ihus ihts => omega

theorem mono (h : Laid text lo ts hi) {lo' hi' : Nat} (hlo : lo' ≤ lo) (hhi : hi ≤ hi') :
    Laid text lo' ts hi' := by
  induction h generalizing lo' with
  | nil h => exact .nil (by omega)
  | cons h hstart hstop hlt hus _ _ ih =>
    exact .cons (Nat.le_trans hlo h) hstart hstop hlt hus (ih (Nat.le_refl _) hhi)

theorem append (h : Laid text lo ts mid) (h' : Laid text mid us hi) :
    Laid text lo (ts ++ us) hi := by
  induction h with
  | nil h => exact h'.mono h (Nat.le_refl _)
  | cons hlo hstart hstop hlt hus _ _ ih => exact .cons hlo hstart hstop hlt hus (ih h')

theorem exists_of_append (h : Laid text lo (ts ++ us) hi) :
    ∃ mid, Laid text lo ts mid ∧ Laid text mid us hi := by
  induction ts generalizing lo with
  | nil => exact ⟨lo, .nil (Nat.le_refl _), h⟩
  | cons t ts ih =>
    cases h with
    | cons hlo hstart hstop hlt hus hts =>
      obtain ⟨mid, h1, h2⟩ := ih hts
      exact ⟨mid, .cons hlo hstart hstop hlt hus h1, h2⟩

theorem exists_of_cons (h : Laid text lo (t :: ts) hi) :
    ∃ mid, Laid text lo [t] mid ∧ Laid text mid ts hi := by
  have h' : Laid text lo ([t] ++ ts) hi := h
  exact h'.exists_of_append

/-- A tree of those laid out is laid out alone. -/
theorem of_mem (h : Laid text lo ts hi) (ht : t ∈ ts) : Laid text lo [t] hi := by
  obtain ⟨before, after, rfl⟩ := List.append_of_mem ht
  obtain ⟨mid, hbefore, hrest⟩ := h.exists_of_append
  obtain ⟨mid', ht', hafter⟩ := hrest.exists_of_cons
  exact ht'.mono hbefore.le hafter.le

theorem sublist (h : Laid text lo ts hi) (hsub : us.Sublist ts) : Laid text lo us hi := by
  induction hsub generalizing lo with
  | slnil => exact h
  | cons t _ ih =>
    cases h with
    | cons hlo _ _ _ hus hts => exact ih (hts.mono (Nat.le_trans hlo hus.le) (Nat.le_refl _))
  | cons_cons t _ ih =>
    cases h with
    | cons hlo hstart hstop hlt hus hts => exact .cons hlo hstart hstop hlt hus (ih hts)

/-- How a single tree is laid out. -/
theorem singleton (hlo : lo ≤ t.start.offset) (hstart : t.start.In text) (hstop : t.stop.In text)
    (hlt : t.isMissing = false ∨ t.kind.isShown → t.start.offset < t.stop.offset)
    (hus : Laid text t.start.offset t.subtrees t.stop.offset) (hhi : t.stop.offset ≤ hi) :
    Laid text lo [t] hi := by
  obtain ⟨i, us⟩ := t
  exact .cons hlo hstart hstop hlt hus (.nil hhi)

theorem start_in (h : Laid text lo [t] hi) : t.start.In text := by
  cases h with | cons _ hstart _ _ _ _ => exact hstart

theorem stop_in (h : Laid text lo [t] hi) : t.stop.In text := by
  cases h with | cons _ _ hstop _ _ _ => exact hstop

theorem le_start (h : Laid text lo [t] hi) : lo ≤ t.start.offset := by
  cases h with | cons hlo _ _ _ _ _ => exact hlo

theorem stop_le (h : Laid text lo [t] hi) : t.stop.offset ≤ hi := by
  cases h with | cons _ _ _ _ _ hts => exact hts.le

theorem start_lt_stop (h : Laid text lo [t] hi) (ht : t.isMissing = false ∨ t.kind.isShown) :
    t.start.offset < t.stop.offset := by
  cases h with | cons _ _ _ hlt _ _ => exact hlt ht

/-- The parts of a tree lie between its beginning and its end. -/
theorem subtrees (h : Laid text lo [t] hi) :
    Laid text t.start.offset t.subtrees t.stop.offset := by
  cases h with | cons _ _ _ _ hus _ => exact hus

theorem children (h : Laid text lo [t] hi) :
    Laid text t.start.offset t.children t.stop.offset :=
  h.subtrees.sublist List.filter_sublist

/-- Parts of trees that are laid out are laid out too. -/
theorem flatMap (h : Laid text lo ts hi) {g : SyntaxTree → List SyntaxTree}
    (hg : ∀ t, (g t).Sublist t.subtrees) : Laid text lo (ts.flatMap g) hi := by
  induction ts generalizing lo with
  | nil => exact h
  | cons t ts ih =>
    obtain ⟨mid, ht, hts⟩ := h.exists_of_cons
    have hparts : Laid text lo (g t) mid := (ht.subtrees.sublist (hg t)).mono ht.le_start ht.stop_le
    exact hparts.append (ih hts)

theorem withLabel (h : Laid text lo [t] hi) (l : Label) : Laid text lo [t.withLabel l] hi := by
  unfold SyntaxTree.withLabel
  split
  · exact h
  · cases h with
    | cons hlo hstart hstop hlt hus hts => exact .cons hlo hstart hstop hlt hus hts

theorem map_withLabel (h : Laid text lo ts hi) (l : Label) :
    Laid text lo (ts.map (SyntaxTree.withLabel · l)) hi := by
  induction ts generalizing lo with
  | nil => exact h
  | cons t ts ih =>
    obtain ⟨mid, ht, hts⟩ := h.exists_of_cons
    exact (ht.withLabel l).append (ih hts)

theorem pairwise (h : Laid text lo ts hi) :
    ts.Pairwise fun t u => t.stop.offset ≤ u.start.offset := by
  induction h with
  | nil => exact .nil
  | cons _ _ _ _ _ hts _ ih =>
    exact .cons (fun u hu => (hts.of_mem hu).le_start) ih

/-- Trees laid out begin where the first of them does. -/
theorem from_start (h : Laid text lo (t :: ts) hi) : Laid text t.start.offset (t :: ts) hi := by
  cases h with
  | cons _ hstart hstop hlt hus hts => exact .cons (Nat.le_refl _) hstart hstop hlt hus hts

/-- Trees laid out end where the last of them does. -/
theorem to_stop (h : Laid text lo (ts ++ [t]) hi) :
    Laid text lo (ts ++ [t]) t.stop.offset := by
  obtain ⟨mid, hts, ht⟩ := h.exists_of_append
  exact hts.append (.singleton ht.le_start ht.start_in ht.stop_in ht.start_lt_stop ht.subtrees
    (Nat.le_refl _))

/-- A tree is laid out between its own beginning and its own end. -/
theorem tight (h : Laid text lo [t] hi) : Laid text t.start.offset [t] t.stop.offset :=
  .singleton (Nat.le_refl _) h.start_in h.stop_in h.start_lt_stop h.subtrees (Nat.le_refl _)

/-- A construct of trees that are laid out is laid out, if one of them is no missing node. -/
theorem ofSubtrees (h : Laid text lo ts hi) (hne : ∃ t ∈ ts, t.isMissing = false) (kind : Kind) :
    Laid text lo [SyntaxTree.ofSubtrees kind ts] hi := by
  -- the construct reaches from the beginning of its first tree to the end of its last
  obtain ⟨w, hw, hmissing⟩ := hne
  obtain ⟨t, us, rfl⟩ := List.exists_cons_of_ne_nil (List.ne_nil_of_mem hw)
  obtain ⟨before, v, hts⟩ : ∃ before v, t :: us = before ++ [v] :=
    ⟨_, _, (List.dropLast_concat_getLast (List.cons_ne_nil t us)).symm⟩
  have hfirst : Laid text lo [t] hi := h.of_mem List.mem_cons_self
  have hlast : Laid text lo [v] hi := h.of_mem (by simp [hts])
  have htrees : Laid text t.start.offset (t :: us) v.stop.offset := by
    have hlow := h.from_start
    rw [hts] at hlow ⊢
    exact hlow.to_stop
  -- and is not empty, since one of the trees between is not
  have hwin := htrees.of_mem hw
  have hlt : t.start.offset < v.stop.offset :=
    Nat.lt_of_le_of_lt hwin.le_start
      (Nat.lt_of_lt_of_le (hwin.start_lt_stop (Or.inl hmissing)) hwin.stop_le)
  have hstart : (SyntaxTree.ofSubtrees kind (t :: us)).start = t.start := rfl
  have hstop : (SyntaxTree.ofSubtrees kind (t :: us)).stop = v.stop := by
    simp [SyntaxTree.ofSubtrees, SyntaxTree.stop, SyntaxTree.info, hts]
  apply singleton
  · exact hstart ▸ hfirst.le_start
  · exact hstart ▸ hfirst.start_in
  · exact hstop ▸ hlast.stop_in
  · intro _
    rwa [hstart, hstop]
  · rwa [hstart, hstop]
  · exact hstop ▸ hlast.stop_le

end Laid

/-! ## Readings in a text -/

namespace Reading

variable {lo : Nat} {r r' : Reading}

/-- What has been read and what is left to read stand in the text from the byte `lo` on, one behind
the other. -/
def LaidOut (text : List Char) (lo : Nat) (r : Reading) : Prop :=
  ∃ mid, Laid text lo r.done.reverse mid ∧ Ahead text mid r.rest

/-- A token has been read that is neither a comment nor missing, or a construct. -/
def IsFilled (r : Reading) : Prop :=
  ∃ t ∈ r.done, t.isLoose = false ∧ t.isMissing = false

theorem laid_leaf {t : Token} (ht : t.Placed text) (hlo : lo ≤ t.start.offset) (kind : Kind) :
    Laid text lo [t.leaf kind false] t.stop.offset :=
  .cons hlo ht.start_in ht.stop_in (fun _ => ht.lt) (.nil (Nat.le_of_lt ht.lt))
    (.nil (Nat.le_refl _))

theorem laidOut_settle (lines : Bool) (done : List SyntaxTree) (passed : Nat) (items : List Item)
    (h : (⟨done, items, passed⟩ : Reading).LaidOut text lo) :
    (settle lines done passed items).LaidOut text lo := by
  fun_induction settle lines done passed items with
  | case1 | case5 => exact h
  | case2 | case6 =>
    -- nothing but tokens of the text is ahead
    obtain ⟨mid, -, hrest⟩ := h
    cases hrest
  | case3 done passed t rest hc ih =>
    obtain ⟨mid, hdone, hrest⟩ := h
    cases hrest with
    | cons hlo ht hrest =>
      apply ih
      exact ⟨_, by simpa using hdone.append (laid_leaf ht hlo _), hrest⟩
  | case4 done passed t rest hc hl ih =>
    obtain ⟨mid, hdone, hrest⟩ := h
    cases hrest with
    | cons hlo ht hrest =>
      apply ih
      exact ⟨mid, hdone, hrest.mono (Nat.le_trans hlo (Nat.le_of_lt ht.lt))⟩

/-- Taking up comments loses none of the trees. -/
theorem mem_done_settle {t : SyntaxTree} (lines : Bool) (done : List SyntaxTree) (passed : Nat)
    (items : List Item) (h : t ∈ done) : t ∈ (settle lines done passed items).done := by
  fun_induction settle lines done passed items with
  | case1 | case5 | case6 => exact h
  | case2 done passed ts rest error ih => exact ih (List.mem_cons_of_mem _ h)
  | case3 done passed u rest hc ih => exact ih (List.mem_cons_of_mem _ h)
  | case4 done passed u rest hc hl ih => exact ih h

theorem IsFilled.settle (h : r.IsFilled) (lines : Bool) :
    (settle lines r.done r.passed r.rest).IsFilled := by
  obtain ⟨t, ht, hfilled⟩ := h
  exact ⟨t, mem_done_settle _ _ _ _ ht, hfilled⟩

theorem laidOut_leaf {t : Terminal} {kind : Kind} (hmakes : t.makesLeaf kind)
    (h : r.LaidOut text lo) (hleaf : r.leaf? t kind = some r') :
    r'.LaidOut text lo ∧ r'.IsFilled := by
  obtain ⟨mid, hdone, hahead⟩ := h
  rcases leaf?_cases hleaf with ⟨tok, rest, used, more, passed, hrest, htake, rfl⟩
    | ⟨tok, rest, used, passed, hrest, rfl⟩
  · rw [hrest] at hahead
    cases hahead with
    | cons hlo ht hitems =>
      obtain ⟨hused, hstart, hmore⟩ := Terminal.ahead_of_take hmakes htake ht hitems
      refine ⟨⟨_, ?_, hmore⟩, used.leaf kind false, by simp, ?_, rfl⟩
      · simpa using hdone.append (laid_leaf hused (hstart ▸ hlo) kind)
      · simp only [Terminal.makesLeaf, Bool.and_eq_true, bne_iff_ne] at hmakes
        simp [SyntaxTree.isLoose, SyntaxTree.isComment, SyntaxTree.isError, SyntaxTree.kind,
          SyntaxTree.info, Token.leaf, hmakes.1.1.2, hmakes.1.2]
  · -- only tokens of the text are ahead
    rw [hrest] at hahead
    cases hahead

theorem laidOut_terminator (h : r.LaidOut text lo) (hend : r.terminator? = some r') :
    r'.LaidOut text lo ∧ r'.IsFilled := by
  obtain ⟨mid, hdone, hahead⟩ := h
  obtain ⟨tok, rest, hrest, hkind, rfl⟩ := terminator?_cases hend
  rw [hrest] at hahead
  cases hahead with
  | cons hlo ht hitems =>
    refine ⟨⟨_, ?_, hitems⟩, tok.leaf tok.looseKind false, by simp, ?_, rfl⟩
    · simpa using hdone.append (laid_leaf ht hlo tok.looseKind)
    · exact isLoose_leaf_of_terminator hkind tok false

/-- A list that has an element without the property keeps it behind its longest run of elements
with the property. -/
theorem mem_dropWhile_of_not {α : Type} {p : α → Bool} {a : α} {as : List α} (ha : a ∈ as)
    (hp : p a = false) : a ∈ as.dropWhile p := by
  rw [← List.takeWhile_append_dropWhile (p := p) (l := as)] at ha
  rcases List.mem_append.mp ha with h | h
  · have := List.all_eq_true.mp (List.all_takeWhile (p := p) (l := as)) a h
    simp [hp] at this
  · exact h

/-- A construct closed behind other trees, if a token has been read in it. -/
theorem laidOut_close {kind : NodeKind} {outer : List SyntaxTree} {mid : Nat}
    (hkind : kind ≠ .comment) (houter : Laid text lo outer.reverse mid) (h : r.LaidOut text mid)
    (hfilled : r.IsFilled) :
    (r.close kind outer).LaidOut text lo ∧ (r.close kind outer).IsFilled := by
  obtain ⟨mid', hdone, hrest⟩ := h
  obtain ⟨t, ht, hloose, hmissing⟩ := hfilled
  -- the comments in front go to the enclosing construct, and the rest becomes one tree
  rw [← List.takeWhile_append_dropWhile (p := SyntaxTree.isLoose) (l := r.done.reverse)] at hdone
  obtain ⟨mid'', hlead, hbody⟩ := hdone.exists_of_append
  have hmem := mem_dropWhile_of_not (List.mem_reverse.mpr ht) hloose
  have hnode := hbody.ofSubtrees ⟨t, hmem, hmissing⟩ (.node kind)
  refine ⟨⟨mid', ?_, hrest⟩, ?_⟩
  · simpa [close] using houter.append (hlead.append hnode)
  · refine ⟨_, List.mem_cons_self, ?_, rfl⟩
    simp [SyntaxTree.isLoose, SyntaxTree.isComment, SyntaxTree.isError, SyntaxTree.kind,
      SyntaxTree.info, SyntaxTree.ofSubtrees, hkind]

theorem laidOut_withGap (h : r.LaidOut text lo) (hne : r.done ≠ []) :
    r.withGap.LaidOut text lo := by
  obtain ⟨mid, hdone, hrest⟩ := h
  obtain ⟨t, ts, ht⟩ := List.exists_cons_of_ne_nil hne
  have hreached : r.reached = t.stop := by simp [reached, ht]
  rw [ht, List.reverse_cons] at hdone
  have hstop := (hdone.of_mem (by simp : t ∈ _)).stop_in
  have hle := (hdone.of_mem (by simp : t ∈ _)).stop_le
  -- the missing line end stands right behind the last tree
  refine ⟨t.stop.offset, ?_, hrest.mono hle⟩
  simp only [withGap, hreached, ht, List.reverse_cons]
  apply hdone.to_stop.append
  exact .cons (Nat.le_refl _) hstop hstop (by simp [Kind.isShown]) (.nil (Nat.le_refl _))
    (.nil (Nat.le_refl _))

end Reading

/-- A pattern keeps trees and tokens in order, and reads a token if it is said to. -/
theorem Pattern.Reads.laidOut {ρ : Type} {grammar : ρ → Pattern ρ} {filling : ρ → Bool}
    (hgrammar : IsProperTable filling grammar) {p : Pattern ρ} {r r' : Reading}
    (h : Reads grammar p r r') {filled : Bool} (hp : p.isProper filling filled)
    (hfilled : filled → r.IsFilled) {lo : Nat} (hr : r.LaidOut text lo) :
    r'.LaidOut text lo ∧ (r.IsFilled ∨ p.fills filling → r'.IsFilled) := by
  induction h generalizing filled lo with
  | empty | stop => exact ⟨hr, fun h => h.resolve_right (by simp [fills])⟩
  | @test p r htest =>
    refine ⟨hr, fun h => h.resolve_right ?_⟩
    cases p <;> simp_all [fills, isTest]
  | leaf h =>
    obtain ⟨mid, hdone, hrest⟩ := hr
    obtain ⟨hlaid, hfill⟩ :=
      Reading.laidOut_leaf hp (Reading.laidOut_settle _ _ _ _ ⟨mid, hdone, hrest⟩) h
    exact ⟨hlaid, fun _ => hfill⟩
  | seq _ _ ihp ihq =>
    obtain ⟨hp, hq⟩ := isProper_seq_iff.mp hp
    obtain ⟨hs, hfills⟩ := ihp hp hfilled hr
    obtain ⟨hr', hfills'⟩ := ihq hq (fun h => by
      rcases Bool.or_eq_true_iff.mp h with h | h
      · exact hfills (Or.inl (hfilled h))
      · exact hfills (Or.inr h)) hs
    refine ⟨hr', fun h => hfills' ?_⟩
    simp only [fills, Bool.or_eq_true] at h
    rcases h with h | h | h
    · exact Or.inl (hfills (Or.inl h))
    · exact Or.inl (hfills (Or.inr h))
    · exact Or.inr h
  | left _ ih =>
    obtain ⟨hp, -⟩ := isProper_either_iff.mp hp
    obtain ⟨hr', hfills⟩ := ih hp hfilled hr
    refine ⟨hr', fun h => hfills (h.imp_right ?_)⟩
    simp only [fills, Bool.and_eq_true]
    exact And.left
  | right _ ih =>
    obtain ⟨-, hq⟩ := isProper_either_iff.mp hp
    obtain ⟨hr', hfills⟩ := ih hq hfilled hr
    refine ⟨hr', fun h => hfills (h.imp_right ?_)⟩
    simp only [fills, Bool.and_eq_true]
    exact And.right
  | again _ _ ihp ihmany =>
    obtain ⟨hs, hfills⟩ := ihp hp hfilled hr
    obtain ⟨hr', hfills'⟩ := ihmany hp (fun h => hfills (Or.inl (hfilled h))) hs
    exact ⟨hr', fun h => hfills' (h.imp_left fun h => hfills (Or.inl h))⟩
  | node _ ih =>
    obtain ⟨hkind, hp, hfilling⟩ := isProper_node_iff.mp hp
    -- a construct begins with no trees, where those outside it end
    obtain ⟨mid, hdone, hrest⟩ := hr
    obtain ⟨hr', hfills⟩ := ih hp (by simp) ⟨mid, .nil (Nat.le_refl _), hrest⟩
    obtain ⟨hclose, hfill⟩ := Reading.laidOut_close hkind hdone hr' (hfills (Or.inr hfilling))
    exact ⟨hclose, fun _ => hfill⟩
  | wrap _ ih =>
    obtain ⟨hkind, hp, hfilling⟩ := isProper_wrap_iff.mp hp
    obtain ⟨hr', hfills⟩ := ih hp hfilled hr
    have houter : Laid text lo ([] : List SyntaxTree).reverse lo := .nil (Nat.le_refl _)
    obtain ⟨hclose, hfill⟩ := Reading.laidOut_close hkind houter hr'
      (hfills (hfilling.imp_left hfilled))
    exact ⟨hclose, fun _ => hfill⟩
  | group _ ih =>
    obtain ⟨mid, hdone, hrest⟩ := hr
    obtain ⟨⟨mid', hdone', hrest'⟩, hfills⟩ :=
      ih hp (by simp) ⟨mid, .nil (Nat.le_refl _), hrest⟩
    refine ⟨⟨mid', by simpa using hdone.append hdone', hrest'⟩, fun h => ?_⟩
    rcases h with ⟨t, ht, h⟩ | h
    · exact ⟨t, List.mem_append_right _ ht, h⟩
    · obtain ⟨t, ht, h⟩ := hfills (Or.inr h)
      exact ⟨t, List.mem_append_left _ ht, h⟩
  | @label l _ _ _ _ ih =>
    obtain ⟨mid, hdone, hrest⟩ := hr
    obtain ⟨⟨mid', hdone', hrest'⟩, hfills⟩ :=
      ih hp (by simp) ⟨mid, .nil (Nat.le_refl _), hrest⟩
    refine ⟨⟨mid', ?_, hrest'⟩, fun h => ?_⟩
    · simpa [← List.map_reverse] using hdone.append (hdone'.map_withLabel l)
    · rcases h with ⟨t, ht, h⟩ | h
      · exact ⟨t, List.mem_append_right _ ht, h⟩
      · obtain ⟨t, ht, hloose, hmissing⟩ := hfills (Or.inr h)
        refine ⟨t.withLabel l, List.mem_append_left _ (List.mem_map_of_mem ht), ?_, ?_⟩
        · simp only [SyntaxTree.withLabel, hloose]
          exact hloose
        · simp only [SyntaxTree.withLabel, hloose]
          exact hmissing
  | terminator h =>
    obtain ⟨hlaid, hfill⟩ := Reading.laidOut_terminator (Reading.laidOut_settle _ _ _ _ hr) h
    exact ⟨hlaid, fun _ => hfill⟩
  | gap =>
    obtain ⟨t, ht, h⟩ := hfilled hp
    exact ⟨Reading.laidOut_withGap hr (List.ne_nil_of_mem ht),
      fun _ => ⟨t, List.mem_cons_of_mem _ ht, h⟩⟩
  | finish h =>
    refine ⟨Reading.laidOut_settle _ _ _ _ hr, fun h => ?_⟩
    exact Reading.IsFilled.settle (h.resolve_right (by simp [fills])) true
  | rule _ ih =>
    obtain ⟨hr', hfills⟩ := ih (hgrammar.isProper _) (by simp) hr
    exact ⟨hr', fun h => hfills (h.imp_right (hgrammar.fills _))⟩

/-- The trees of a text without a fault are laid out in it. -/
theorem laid_trees_of_firstFault_eq_none {stop : Position}
    (h : (SyntaxTree.root (treesOf ((Token.scan text).map .token)) stop).firstFault? = none) :
    ∃ hi, Laid text 0 (treesOf ((Token.scan text).map .token)) hi := by
  obtain ⟨r, hr, hdone, -⟩ := Outline.reads_of_trees (trees_of_firstFault_eq_none h)
  have hstart : (⟨[], (Token.scan text).map .token, 0⟩ : Reading).LaidOut text 0 :=
    ⟨0, .nil (Nat.le_refl _), Token.ahead_scan text⟩
  obtain ⟨⟨hi, hlaid, -⟩, -⟩ :=
    hr.laidOut Grammar.isProper_table Grammar.isProper_file (by simp) hstart
  exact ⟨hi, hdone ▸ hlaid⟩

end GoStructs.Syntax
