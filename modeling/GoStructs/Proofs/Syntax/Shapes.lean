import GoStructs.Proofs.Syntax.Proper
import GoStructs.Proofs.Syntax.Reads
import Mathlib.Logic.Relation
/-! # The shapes of constructs

Comments apart, the parts of a construct are known from the pattern that made it: what kind each
part is of, and which part it plays.  `Pattern.yields` says which parts a pattern can add to those
that are there; the constructs inside a part do not count.

## Main statements

* `Pattern.Reads.yields`: what a pattern reads are parts that it yields. -/

namespace GoStructs.Syntax

/-- A part of a construct: its kind, and the part that it plays. -/
abbrev Part := Kind × Option Label

/-- The parts that some trees are, comments and errors left out. -/
def partsOf (ts : List SyntaxTree) : List Part :=
  (ts.filter (!·.isLoose)).map fun t => (t.kind, t.info.label)

@[simp] theorem partsOf_nil : partsOf [] = [] := rfl

@[simp] theorem partsOf_append (ts us : List SyntaxTree) :
    partsOf (ts ++ us) = partsOf ts ++ partsOf us := by
  simp [partsOf]

theorem partsOf_reverse (ts : List SyntaxTree) : partsOf ts.reverse = (partsOf ts).reverse := by
  simp [partsOf]

theorem partsOf_cons_of_loose {t : SyntaxTree} (h : t.isLoose) (ts : List SyntaxTree) :
    partsOf (t :: ts) = partsOf ts := by
  simp [partsOf, h]

theorem partsOf_cons_of_not_loose {t : SyntaxTree} (h : t.isLoose = false)
    (ts : List SyntaxTree) : partsOf (t :: ts) = (t.kind, t.info.label) :: partsOf ts := by
  simp [partsOf, h]

theorem partsOf_map_withLabel (ts : List SyntaxTree) (l : Label) :
    partsOf (ts.map (SyntaxTree.withLabel · l)) = (partsOf ts).map fun x => (x.1, some l) := by
  induction ts with
  | nil => rfl
  | cons t ts ih =>
    cases h : t.isLoose with
    | true =>
      have hl : t.withLabel l = t := by simp [SyntaxTree.withLabel, h]
      simp [hl, partsOf_cons_of_loose h, ih]
    | false =>
      have hl : (t.withLabel l).isLoose = false := by
        simp only [SyntaxTree.withLabel, h]
        exact h
      have hpart : ((t.withLabel l).kind, (t.withLabel l).info.label) = (t.kind, some l) := by
        simp only [SyntaxTree.withLabel, h]
        rfl
      simp [partsOf_cons_of_not_loose hl, partsOf_cons_of_not_loose h, hpart, ih]

theorem isLoose_iff_kind {t : SyntaxTree} :
    t.isLoose = (t.kind == .node .comment || t.kind == .error) := rfl

namespace Pattern

variable {ρ : Type}

/-- Which parts a pattern can make of those that are there, last part first, given what the rules
can make of them. -/
def yields (spec : ρ → List Part → List Part → Prop) :
    Pattern ρ → List Part → List Part → Prop
  | leaf _ kind, s, s' => s' = (kind, none) :: s
  | seq p q, s, s' => ∃ m, p.yields spec s m ∧ q.yields spec m s'
  | either p q, s, s' => p.yields spec s s' ∨ q.yields spec s s'
  | many p, s, s' => Relation.ReflTransGen (p.yields spec) s s'
  | node kind _, s, s' => s' = (.node kind, none) :: s
  | wrap kind _, _, s' => s' = [(.node kind, none)]
  | group p, s, s' => ∃ m, p.yields spec [] m ∧ s' = m ++ s
  | label l p, s, s' => ∃ m, p.yields spec [] m ∧ s' = m.map (fun x => (x.1, some l)) ++ s
  | terminator, s, s' => ∃ k ∈ Kind.terminators, s' = (k, none) :: s
  | gap, s, s' => s' = (.lineEnd, none) :: s
  | rule x, s, s' => spec x s s'
  | empty, s, s' | ahead _, s, s' | notAhead _, s, s' | sameLine, s, s' | finish, s, s' => s' = s

end Pattern

namespace Reading

theorem partsOf_settle (lines : Bool) (done : List SyntaxTree) (passed : Nat)
    (items : List Item) : partsOf (settle lines done passed items).done = partsOf done := by
  fun_induction settle lines done passed items with
  | case1 | case5 | case6 => rfl
  | case2 done passed ts rest error ih => rw [ih, partsOf_cons_of_loose rfl]
  | case3 done passed t rest hc ih => rw [ih, partsOf_cons_of_loose rfl]
  | case4 done passed t rest hc hl ih => exact ih

/-- What is left of a list behind its longest run of loose trees has the same parts. -/
theorem partsOf_dropWhile (ts : List SyntaxTree) :
    partsOf (ts.dropWhile SyntaxTree.isLoose) = partsOf ts := by
  induction ts with
  | nil => rfl
  | cons t ts ih =>
    cases h : t.isLoose with
    | true => simp [h, ih, partsOf_cons_of_loose h]
    | false => simp [h]

theorem partsOf_takeWhile (ts : List SyntaxTree) :
    partsOf (ts.takeWhile SyntaxTree.isLoose) = [] := by
  induction ts with
  | nil => rfl
  | cons t ts ih =>
    cases h : t.isLoose with
    | true => simp [h, ih, partsOf_cons_of_loose h]
    | false => simp [h]

theorem partsOf_close {kind : NodeKind} (hkind : kind ≠ .comment) (r : Reading)
    (outer : List SyntaxTree) :
    partsOf (r.close kind outer).done = (.node kind, none) :: partsOf outer := by
  have hloose : (SyntaxTree.ofSubtrees (.node kind)
      (r.done.reverse.dropWhile SyntaxTree.isLoose)).isLoose = false := by
    simp [isLoose_iff_kind, SyntaxTree.kind, SyntaxTree.info, SyntaxTree.ofSubtrees, hkind]
  simp only [close, partsOf_cons_of_not_loose hloose, partsOf_append, partsOf_reverse,
    partsOf_takeWhile]
  rfl

theorem partsOf_leaf {r r' : Reading} {t : Terminal} {kind : Kind} (hmakes : t.makesLeaf kind)
    (hleaf : r.leaf? t kind = some r') : partsOf r'.done = (kind, none) :: partsOf r.done := by
  have hloose : ∀ (tok : Token) (missing : Bool), (tok.leaf kind missing).isLoose = false := by
    intro tok missing
    simp only [Terminal.makesLeaf, Bool.and_eq_true, bne_iff_ne] at hmakes
    simp [isLoose_iff_kind, SyntaxTree.kind, SyntaxTree.info, Token.leaf, hmakes.1.1.2, hmakes.1.2]
  rcases leaf?_cases hleaf with ⟨_, _, _, _, _, -, -, rfl⟩ | ⟨_, _, _, _, -, rfl⟩
  all_goals exact partsOf_cons_of_not_loose (hloose _ _) _

theorem partsOf_terminator {r r' : Reading} (hend : r.terminator? = some r') :
    ∃ k ∈ Kind.terminators, partsOf r'.done = (k, none) :: partsOf r.done := by
  obtain ⟨tok, _, -, hkind, rfl⟩ := terminator?_cases hend
  exact ⟨_, hkind, partsOf_cons_of_not_loose (isLoose_leaf_of_terminator hkind tok false) _⟩

end Reading

namespace Pattern

variable {ρ : Type} {grammar : ρ → Pattern ρ} {filling : ρ → Bool}
  {spec : ρ → List Part → List Part → Prop}

/-- What a pattern reads are parts that it yields. -/
theorem Reads.yields (hgrammar : IsProperTable filling grammar)
    (hspec : ∀ x s s', (grammar x).yields spec s s' → spec x s s') {p : Pattern ρ}
    {r r' : Reading} (h : Reads grammar p r r') {filled : Bool}
    (hp : p.isProper filling filled) :
    p.yields spec (partsOf r.done) (partsOf r'.done) := by
  induction h generalizing filled with
  | empty => rfl
  | stop => exact Relation.ReflTransGen.refl
  | @test p r htest => cases p <;> first | rfl | cases htest
  | leaf h =>
    simp only [Pattern.yields, Reading.partsOf_leaf hp h]
    rw [Reading.atToken, Reading.partsOf_settle]
  | seq _ _ ihp ihq =>
    obtain ⟨hp, hq⟩ := isProper_seq_iff.mp hp
    exact ⟨_, ihp hp, ihq hq⟩
  | left _ ih =>
    obtain ⟨hp, -⟩ := isProper_either_iff.mp hp
    exact Or.inl (ih hp)
  | right _ ih =>
    obtain ⟨-, hq⟩ := isProper_either_iff.mp hp
    exact Or.inr (ih hq)
  | again _ _ ihp ihmany =>
    -- a pattern that fits several times yields step by step
    exact Relation.ReflTransGen.head (ihp hp) (ihmany hp)
  | node _ ih =>
    obtain ⟨hkind, -, -⟩ := isProper_node_iff.mp hp
    exact Reading.partsOf_close hkind _ _
  | wrap _ ih =>
    obtain ⟨hkind, -, -⟩ := isProper_wrap_iff.mp hp
    exact Reading.partsOf_close hkind _ []
  | group _ ih => exact ⟨_, ih hp, partsOf_append _ _⟩
  | label _ ih =>
    refine ⟨_, ih hp, ?_⟩
    rw [partsOf_append, partsOf_map_withLabel]
  | terminator h =>
    simp only [Pattern.yields]
    have := Reading.partsOf_terminator h
    rwa [Reading.atLine, Reading.partsOf_settle] at this
  | gap => exact partsOf_cons_of_not_loose rfl _
  | finish h => exact Reading.partsOf_settle _ _ _ _
  | rule _ ih => exact hspec _ _ _ (ih (hgrammar.isProper _))

end Pattern

end GoStructs.Syntax
