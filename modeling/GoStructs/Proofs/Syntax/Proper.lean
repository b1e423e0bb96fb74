import GoStructs.Syntax.Grammar.File
/-! # Proper patterns

A pattern is proper if every construct that it makes holds at least one token, and if a leaf that
it makes is always shown and never loose.  Whether it is can be computed from the pattern, given
for each rule whether that always reads a token.

## Main statements

* `Grammar.isProper_table`, `Grammar.isProper_file`: the patterns of this grammar are proper. -/

namespace GoStructs.Syntax

/-- A leaf of the kind is shown and is not loose, and the token that makes it is not empty. -/
def Terminal.makesLeaf (t : Terminal) (kind : Kind) : Bool :=
  kind.isShown && kind != .node .comment && kind != .error
    && match t with
      | .opening text => !text.toList.isEmpty
      | _ => true

namespace Pattern

variable {ρ : Type}

/-- Does the pattern always read a token?  For the rules this is given. -/
def fills (filling : ρ → Bool) : Pattern ρ → Bool
  | leaf _ _ | node _ _ | wrap _ _ | terminator => true
  | seq p q => p.fills filling || q.fills filling
  | either p q => p.fills filling && q.fills filling
  | group p | label _ p => p.fills filling
  | rule x => filling x
  | empty | many _ | ahead _ | notAhead _ | sameLine | gap | finish => false

/-- Is the pattern proper?  The mark `filled` tells whether a token has been read before in the
construct at hand. -/
def isProper (filling : ρ → Bool) (filled : Bool) : Pattern ρ → Bool
  | leaf t kind => t.makesLeaf kind
  | seq p q => p.isProper filling filled && q.isProper filling (filled || p.fills filling)
  | either p q => p.isProper filling filled && q.isProper filling filled
  | many p => p.isProper filling filled
  | node kind p => kind != .comment && p.isProper filling false && p.fills filling
  | wrap kind p =>
    kind != .comment && p.isProper filling filled && (filled || p.fills filling)
  | group p | label _ p => p.isProper filling false
  | gap => filled
  | rule _ | empty | ahead _ | notAhead _ | sameLine | terminator | finish => true

section

variable {filling : ρ → Bool} {filled : Bool} {p q : Pattern ρ} {kind : NodeKind}

theorem isProper_seq_iff : (seq p q).isProper filling filled
    ↔ p.isProper filling filled ∧ q.isProper filling (filled || p.fills filling) := by
  simp only [isProper, Bool.and_eq_true]

theorem isProper_either_iff : (either p q).isProper filling filled
    ↔ p.isProper filling filled ∧ q.isProper filling filled := by
  simp only [isProper, Bool.and_eq_true]

theorem isProper_node_iff : (node kind p).isProper filling filled
    ↔ kind ≠ .comment ∧ p.isProper filling false ∧ p.fills filling := by
  simp only [isProper, Bool.and_eq_true, bne_iff_ne, and_assoc]

theorem isProper_wrap_iff : (wrap kind p).isProper filling filled
    ↔ kind ≠ .comment ∧ p.isProper filling filled ∧ (filled ∨ p.fills filling) := by
  simp only [isProper, Bool.and_eq_true, bne_iff_ne, Bool.or_eq_true, and_assoc]

end

/-- A table of rules in which each pattern is proper, and reads a token if its rule is said to. -/
structure IsProperTable (filling : ρ → Bool) (grammar : ρ → Pattern ρ) : Prop where
  isProper : ∀ x, (grammar x).isProper filling false
  fills : ∀ x, filling x → (grammar x).fills filling

end Pattern

namespace Grammar

/-- The rules that always read a token: all but the one for the result of a function. -/
def filling : Rule → Bool
  | .result _ => false
  | _ => true

theorem isProper_file : file.isProper filling false := by decide

theorem isProper_binary (site : Site) (level : Nat) :
    (binary site level).isProper filling false ∧ (binary site level).fills filling := by
  unfold binary
  split
  · exact ⟨rfl, rfl⟩
  · next h =>
    obtain ⟨ends, braces, acts⟩ := site
    have : level = 0 ∨ level = 1 ∨ level = 2 ∨ level = 3 ∨ level = 4 ∨ level = 5 := by omega
    rcases this with rfl | rfl | rfl | rfl | rfl | rfl <;>
      cases ends <;> cases acts <;> decide +revert

/-- Every rule of the grammar is proper. -/
theorem isProper_table : Pattern.IsProperTable filling table where
  isProper := by
    intro x
    cases x with
    | binary site level => exact (isProper_binary site level).1
    | unary site | primary site =>
      obtain ⟨ends, braces, acts⟩ := site
      cases ends <;> cases braces <;> cases acts <;> decide
    | _ => decide +revert
  fills := by
    intro x hx
    cases x with
    | binary site level => exact (isProper_binary site level).2
    | unary site | primary site =>
      obtain ⟨ends, braces, acts⟩ := site
      cases ends <;> cases braces <;> cases acts <;> decide
    | _ => decide +revert

end Grammar

end GoStructs.Syntax
