import GoStructs.Proofs.Syntax.Proper
import GoStructs.Proofs.Syntax.Reads
/-! # What a pattern keeps

A pattern loses nothing of what it reads: an item that is still to be read comes to be a tree, and
a tree comes to stand in a construct.  So if some items matter, and the trees that are made of them
matter, and the constructs that hold these, then whatever mattered at the beginning of a reading
does so at its end.

## Main statements

* `Pattern.Reads.keeps`: what matters is kept. -/

namespace GoStructs.Syntax

/-- Some items matter, and so do the trees that are made of them. -/
structure Keeping (item : Item → Prop) (tree : SyntaxTree → Prop) : Prop where
  aside (ts : List Token) : item (.aside ts) →
    tree (.ofSubtrees .error (ts.map fun t => t.leaf t.looseKind false))
  /-- Only tokens that a construct has a place for matter. -/
  placed (tok : Token) : item (.token tok) → tok.kind ≠ .comment ∧ tok.kind ≠ .lineEnd
  /-- Of a token that matters, the part that is read or the part that is left matters. -/
  taken {t : Terminal} {kind : Kind} {tok used : Token} {more : List Token} :
    t.makesLeaf kind → t.take? tok = some (used, more) → item (.token tok) →
    tree (used.leaf kind false) ∨ ∃ m ∈ more, item (.token m)
  supplied {t : Terminal} {kind : Kind} {tok used : Token} {more : List Token} :
    t.makesLeaf kind → t.take? tok = some (used, more) → item (.supplied tok) →
    tree (used.leaf kind true)
  /-- A token that matters may end a statement. -/
  ending (tok : Token) : item (.token tok) → tree (tok.leaf tok.looseKind false)
  construct (kind : NodeKind) {ts : List SyntaxTree} {t : SyntaxTree} : t ∈ ts → tree t →
    tree (.ofSubtrees (.node kind) ts)
  withLabel {t : SyntaxTree} (l : Label) : tree t → tree (t.withLabel l)

/-- Something that matters is still to be read, or stands in what has been read. -/
def Holds (item : Item → Prop) (tree : SyntaxTree → Prop) (rest : List Item)
    (done : List SyntaxTree) : Prop :=
  (∃ i ∈ rest, item i) ∨ ∃ t ∈ done, tree t

section

variable {item : Item → Prop} {tree : SyntaxTree → Prop} {rest : List Item}
  {done : List SyntaxTree}

theorem Holds.cons (h : Holds item tree rest done) (t : SyntaxTree) :
    Holds item tree rest (t :: done) := by
  rcases h with hrest | ⟨u, hu, hmatters⟩
  · exact Or.inl hrest
  · exact Or.inr ⟨u, List.mem_cons_of_mem _ hu, hmatters⟩

/-- An item that does not matter need not be left to read. -/
theorem Holds.tail {i : Item} (h : Holds item tree (i :: rest) done) (hi : ¬item i) :
    Holds item tree rest done := by
  rcases h with ⟨j, hj, hmatters⟩ | hdone
  · rcases List.mem_cons.mp hj with rfl | hj
    · exact absurd hmatters hi
    · exact Or.inl ⟨j, hj, hmatters⟩
  · exact Or.inr hdone

end

namespace Reading

variable {item : Item → Prop} {tree : SyntaxTree → Prop} {r r' : Reading}

theorem holds_settle (hkeep : Keeping item tree) (lines : Bool) (done : List SyntaxTree)
    (passed : Nat) (items : List Item) (h : Holds item tree items done) :
    Holds item tree (settle lines done passed items).rest
      (settle lines done passed items).done := by
  fun_induction settle lines done passed items with
  | case1 | case5 | case6 => exact h
  | case2 done passed ts rest error ih =>
    by_cases haside : item (.aside ts)
    · exact ih (Or.inr ⟨error, List.mem_cons_self, hkeep.aside ts haside⟩)
    · exact ih ((h.tail haside).cons error)
  | case3 done passed t rest hc ih =>
    have ht : ¬item (.token t) := fun ht => (hkeep.placed t ht).1 hc
    exact ih ((h.tail ht).cons _)
  | case4 done passed t rest hc hl ih =>
    have ht : ¬item (.token t) := fun ht => (hkeep.placed t ht).2 hl.1
    exact ih (h.tail ht)

theorem holds_leaf (hkeep : Keeping item tree) {t : Terminal} {kind : Kind}
    (hmakes : t.makesLeaf kind) (h : Holds item tree r.rest r.done)
    (hleaf : r.leaf? t kind = some r') : Holds item tree r'.rest r'.done := by
  unfold leaf? at hleaf
  split at hleaf
  · next tok rest hrest =>
    rw [hrest] at h
    obtain ⟨⟨used, more⟩, htake, rfl⟩ := Option.map_eq_some_iff.mp hleaf
    by_cases htok : item (.token tok)
    · rcases hkeep.taken hmakes htake htok with hused | ⟨m, hm, hitem⟩
      · exact Or.inr ⟨_, List.mem_cons_self, hused⟩
      · exact Or.inl ⟨.token m, List.mem_append_left _ (List.mem_map_of_mem hm), hitem⟩
    · rcases h.tail htok with ⟨i, hi, hitem⟩ | ⟨u, hu, hmatters⟩
      · exact Or.inl ⟨i, List.mem_append_right _ hi, hitem⟩
      · exact Or.inr ⟨u, List.mem_cons_of_mem _ hu, hmatters⟩
  · next tok rest hrest =>
    rw [hrest] at h
    obtain ⟨⟨used, more⟩, htake, rfl⟩ := Option.map_eq_some_iff.mp hleaf
    by_cases htok : item (.supplied tok)
    · exact Or.inr ⟨_, List.mem_cons_self, hkeep.supplied hmakes htake htok⟩
    · exact (h.tail htok).cons _
  · cases hleaf

theorem holds_terminator (hkeep : Keeping item tree) (h : Holds item tree r.rest r.done)
    (hend : r.terminator? = some r') : Holds item tree r'.rest r'.done := by
  obtain ⟨tok, rest, hrest, -, rfl⟩ := terminator?_cases hend
  rw [hrest] at h
  by_cases htok : item (.token tok)
  · exact Or.inr ⟨_, List.mem_cons_self, hkeep.ending tok htok⟩
  · exact (h.tail htok).cons _

theorem holds_close (hkeep : Keeping item tree) {kind : NodeKind} {outer : List SyntaxTree}
    (h : Holds item tree r.rest r.done ∨ ∃ t ∈ outer, tree t) :
    Holds item tree (r.close kind outer).rest (r.close kind outer).done := by
  rcases h with (hrest | ⟨t, ht, hmatters⟩) | ⟨t, ht, hmatters⟩
  · exact Or.inl hrest
  · -- the tree stands among the comments in front or in the construct
    have hmem : t ∈ r.done.reverse := List.mem_reverse.mpr ht
    rw [← List.takeWhile_append_dropWhile (p := SyntaxTree.isLoose) (l := r.done.reverse)] at hmem
    right
    rcases List.mem_append.mp hmem with hlead | hbody
    · exact ⟨t, by simp [close, hlead], hmatters⟩
    · exact ⟨SyntaxTree.ofSubtrees (.node kind) _, by simp [close],
        hkeep.construct kind hbody hmatters⟩
  · exact Or.inr ⟨t, by simp [close, ht], hmatters⟩

end Reading

/-- A pattern keeps whatever matters. -/
theorem Pattern.Reads.keeps {item : Item → Prop} {tree : SyntaxTree → Prop}
    (hkeep : Keeping item tree) {ρ : Type} {grammar : ρ → Pattern ρ} {filling : ρ → Bool}
    (hgrammar : IsProperTable filling grammar) {p : Pattern ρ} {r r' : Reading}
    (h : Reads grammar p r r') {filled : Bool} (hp : p.isProper filling filled)
    (hr : Holds item tree r.rest r.done) : Holds item tree r'.rest r'.done := by
  induction h generalizing filled with
  | empty | stop | test => exact hr
  | leaf h =>
    exact Reading.holds_leaf hkeep hp (Reading.holds_settle hkeep _ _ _ _ hr) h
  | seq _ _ ihp ihq =>
    obtain ⟨hp, hq⟩ := isProper_seq_iff.mp hp
    exact ihq hq (ihp hp hr)
  | left _ ih =>
    obtain ⟨hp, -⟩ := isProper_either_iff.mp hp
    exact ih hp hr
  | right _ ih =>
    obtain ⟨-, hq⟩ := isProper_either_iff.mp hp
    exact ih hq hr
  | again _ _ ihp ihmany => exact ihmany hp (ihp hp hr)
  | node _ ih =>
    obtain ⟨-, hp, -⟩ := isProper_node_iff.mp hp
    -- inside the construct only what is still to be read counts
    rcases hr with hrest | hdone
    · exact Reading.holds_close hkeep (Or.inl (ih hp (Or.inl hrest)))
    · exact Reading.holds_close hkeep (Or.inr hdone)
  | wrap _ ih =>
    obtain ⟨-, hp, -⟩ := isProper_wrap_iff.mp hp
    exact Reading.holds_close hkeep (Or.inl (ih hp hr))
  | group _ ih =>
    rcases hr with hrest | ⟨t, ht, hmatters⟩
    · rcases ih hp (Or.inl hrest) with hrest' | ⟨t, ht, hmatters⟩
      · exact Or.inl hrest'
      · exact Or.inr ⟨t, List.mem_append_left _ ht, hmatters⟩
    · exact Or.inr ⟨t, List.mem_append_right _ ht, hmatters⟩
  | label _ ih =>
    rcases hr with hrest | ⟨t, ht, hmatters⟩
    · rcases ih hp (Or.inl hrest) with hrest' | ⟨t, ht, hmatters⟩
      · exact Or.inl hrest'
      · exact Or.inr ⟨_, List.mem_append_left _ (List.mem_map_of_mem ht),
          hkeep.withLabel _ hmatters⟩
    · exact Or.inr ⟨t, List.mem_append_right _ ht, hmatters⟩
  | terminator h =>
    exact Reading.holds_terminator hkeep (Reading.holds_settle hkeep _ _ _ _ hr) h
  | gap => exact hr.cons _
  | finish h => exact Reading.holds_settle hkeep _ _ _ _ hr
  | rule _ ih => exact ih (hgrammar.isProper _) hr

end GoStructs.Syntax
