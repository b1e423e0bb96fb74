import GoStructs.Syntax.Grammar.File
/-! # What a pattern reads

`Pattern.Reads` says which readings a pattern can lead to, whatever made the reader choose it: the
fuel, the number of items that any pattern has looked past, and the alternatives that did not fit
are left out.  Whatever holds of every step of `Reads` holds of every tree that the reader gives.

## Main statements

* `Pattern.reads_of_read`: what the reader gives, its pattern reads.
* `Outline.reads_of_trees`: the trees of a file are those that the pattern of a file reads, with
  nothing left to read.  -/

namespace GoStructs.Syntax

/-! ## Single tokens -/

/-- The kinds of the tokens that end a statement: of a line end, a semicolon and a NUL character. -/
def Kind.terminators : List Kind := [.lineEnd, .token ";", .token ""]

theorem Token.looseKind_mem_terminators {tok : Token} (h : tok.isTerminator) :
    tok.looseKind ∈ Kind.terminators := by
  obtain ⟨kind, text, start, stop⟩ := tok
  cases kind <;> simp_all [isTerminator, looseKind, Kind.terminators]

theorem isLoose_leaf_of_terminator {kind : Kind} (h : kind ∈ Kind.terminators) (tok : Token)
    (missing : Bool) : (tok.leaf kind missing).isLoose = false := by
  simp only [Kind.terminators, List.mem_cons, List.not_mem_nil, or_false] at h
  rcases h with rfl | rfl | rfl <;> rfl

namespace Reading

variable {r r' : Reading}

/-- A leaf is made of a token of the text, of which something may be left to read, or of a token
that was put in. -/
theorem leaf?_cases {t : Terminal} {kind : Kind} (h : r.leaf? t kind = some r') :
    (∃ tok rest used more passed, r.rest = .token tok :: rest
        ∧ t.take? tok = some (used, more)
        ∧ r' = ⟨used.leaf kind false :: r.done, more.map .token ++ rest, passed⟩)
      ∨ ∃ tok rest, ∃ used : Token, ∃ passed, r.rest = .supplied tok :: rest
        ∧ r' = ⟨used.leaf kind true :: r.done, rest, passed⟩ := by
  unfold leaf? at h
  split at h
  · next tok rest hrest =>
    obtain ⟨⟨used, more⟩, htake, rfl⟩ := Option.map_eq_some_iff.mp h
    exact Or.inl ⟨tok, rest, used, more, _, hrest, htake, rfl⟩
  · next tok rest hrest =>
    obtain ⟨⟨used, more⟩, -, rfl⟩ := Option.map_eq_some_iff.mp h
    exact Or.inr ⟨tok, rest, used, _, hrest, rfl⟩
  · cases h

/-- The end of a statement is made of a token of the text. -/
theorem terminator?_cases (h : r.terminator? = some r') :
    ∃ tok rest, r.rest = .token tok :: rest ∧ tok.looseKind ∈ Kind.terminators
      ∧ r' = ⟨tok.leaf tok.looseKind false :: r.done, rest, r.passed + 1⟩ := by
  unfold terminator? at h
  split at h
  · next tok rest hrest =>
    obtain ⟨hend, hr⟩ := Option.ite_none_right_eq_some.mp h
    exact ⟨tok, rest, hrest, Token.looseKind_mem_terminators hend, (Option.some.inj hr).symm⟩
  · cases h

end Reading

/-! ## Patterns -/

namespace Pattern

variable {ρ : Type}

/-- A pattern that reads nothing and changes nothing. -/
def isTest : Pattern ρ → Bool
  | ahead _ | notAhead _ | sameLine => true
  | _ => false

/-- The pattern can lead from one reading to another. -/
inductive Reads (grammar : ρ → Pattern ρ) : Pattern ρ → Reading → Reading → Prop where
  | empty (r : Reading) : Reads grammar .empty r r
  | leaf {t : Terminal} {kind : Kind} {r r' : Reading} (h : r.atToken.leaf? t kind = some r') :
      Reads grammar (.leaf t kind) r r'
  | seq {p q : Pattern ρ} {r s r' : Reading} (hp : Reads grammar p r s)
      (hq : Reads grammar q s r') : Reads grammar (.seq p q) r r'
  | left {p q : Pattern ρ} {r r' : Reading} (hp : Reads grammar p r r') :
      Reads grammar (.either p q) r r'
  | right {p q : Pattern ρ} {r r' : Reading} (hq : Reads grammar q r r') :
      Reads grammar (.either p q) r r'
  | stop {p : Pattern ρ} (r : Reading) : Reads grammar (.many p) r r
  | again {p : Pattern ρ} {r s r' : Reading} (hp : Reads grammar p r s)
      (hmany : Reads grammar (.many p) s r') : Reads grammar (.many p) r r'
  | node {kind : NodeKind} {p : Pattern ρ} {r r' : Reading}
      (hp : Reads grammar p { r with done := [] } r') :
      Reads grammar (.node kind p) r (r'.close kind r.done)
  | wrap {kind : NodeKind} {p : Pattern ρ} {r r' : Reading} (hp : Reads grammar p r r') :
      Reads grammar (.wrap kind p) r (r'.close kind [])
  | group {p : Pattern ρ} {r r' : Reading} (hp : Reads grammar p { r with done := [] } r') :
      Reads grammar (.group p) r { r' with done := r'.done ++ r.done }
  | label {l : Label} {p : Pattern ρ} {r r' : Reading}
      (hp : Reads grammar p { r with done := [] } r') :
      Reads grammar (.label l p) r
        { r' with done := r'.done.map (SyntaxTree.withLabel · l) ++ r.done }
  | test {p : Pattern ρ} (r : Reading) (hp : p.isTest) : Reads grammar p r r
  | terminator {r r' : Reading} (h : r.atLine.terminator? = some r') :
      Reads grammar .terminator r r'
  | gap {r : Reading} : Reads grammar .gap r r.withGap
  | finish {r : Reading} (h : r.atToken.rest = []) : Reads grammar .finish r r.atToken
  | rule {x : ρ} {r r' : Reading} (h : Reads grammar (grammar x) r r') :
      Reads grammar (.rule x) r r'

/-- What the reader gives, its pattern reads. -/
theorem reads_of_read {grammar : ρ → Pattern ρ} {fuel : Nat} {p : Pattern ρ} {far far' : Nat}
    {r r' : Reading} (h : read grammar fuel p far r = (some r', far')) : Reads grammar p r r' := by
  induction fuel generalizing p far far' r r' with
  | zero => simp [read] at h
  | succ fuel ih =>
    cases p with
    | empty => simp only [read, Prod.mk.injEq, Option.some.injEq] at h; exact h.1 ▸ .empty r
    | leaf t kind =>
      simp only [read] at h
      split at h
      · next s hs => cases h; exact .leaf hs
      · cases h
    | seq p q =>
      simp only [read] at h
      split at h
      · next hp => exact .seq (ih hp) (ih h)
      · cases h
    | either p q =>
      simp only [read] at h
      split at h
      · next hp => cases h; exact .left (ih hp)
      · exact .right (ih h)
    | many p =>
      simp only [read] at h
      split at h
      · next hp =>
        split at h
        · exact .again (ih hp) (ih h)
        · cases h; exact .stop r
      · cases h; exact .stop r
    | node kind p =>
      simp only [read] at h
      split at h
      · next hp => cases h; exact .node (ih hp)
      · cases h
    | wrap kind p =>
      simp only [read] at h
      split at h
      · next hp => cases h; exact .wrap (ih hp)
      · cases h
    | group p =>
      simp only [read] at h
      split at h
      · next hp => cases h; exact .group (ih hp)
      · cases h
    | label l p =>
      simp only [read] at h
      split at h
      · next hp => cases h; exact .label (ih hp)
      · cases h
    | ahead p =>
      simp only [read] at h
      split at h <;> cases h
      exact .test r rfl
    | notAhead p =>
      simp only [read] at h
      split at h <;> cases h
      exact .test r rfl
    | sameLine =>
      simp only [read] at h
      split at h <;> cases h
      exact .test r rfl
    | terminator =>
      simp only [read] at h
      split at h
      · next hs => cases h; exact .terminator hs
      · cases h
    | gap =>
      simp only [read] at h
      split at h <;> cases h
      exact .gap
    | finish =>
      simp only [read] at h
      split at h
      · next hs => cases h; exact .finish (List.isEmpty_iff.mp hs)
      · cases h
    | rule x => simp only [read] at h; exact .rule (ih h)

/-! ## Steps of a pattern put together from others -/

variable {grammar : ρ → Pattern ρ} {r r' : Reading}

theorem reads_seq_iff {p q : Pattern ρ} :
    Reads grammar (.seq p q) r r' ↔ ∃ s, Reads grammar p r s ∧ Reads grammar q s r' := by
  constructor
  · intro h
    cases h with
    | seq hp hq => exact ⟨_, hp, hq⟩
    | test _ h => cases h
  · rintro ⟨s, hp, hq⟩
    exact .seq hp hq

/-- After the end of the text nothing is left to read. -/
theorem rest_of_reads_finish (h : Reads grammar .finish r r') : r'.rest = [] := by
  cases h with
  | test _ h => cases h
  | finish h => exact h

end Pattern

/-- The trees of a file are read by the pattern of a file, with nothing left to read. -/
theorem Outline.reads_of_trees {items : List Item} {ts : List SyntaxTree}
    (h : (Outline.ofItems items).trees = some ts) :
    ∃ r, Pattern.Reads Grammar.table Grammar.file ⟨[], items, 0⟩ r ∧ r.done.reverse = ts
      ∧ r.rest = [] := by
  unfold Outline.ofItems at h
  split at h
  · next r far hread =>
    have hr := Pattern.reads_of_read hread
    obtain ⟨s, -, hfinish⟩ := Pattern.reads_seq_iff.mp hr
    exact ⟨r, hr, Option.some.inj h, Pattern.rest_of_reads_finish hfinish⟩
  · cases h

end GoStructs.Syntax
