import GoStructs.Proofs.Syntax.Shapes
/-! # The forms of types and of their declarations

What stands in a definition of a type, in a struct type, in a generic type and in a declaration of
fields, and which part it plays there.  So each definition has a name and a type, a struct has a
body, and a declaration of fields has a type, which is a named one if the declaration has no names.
Of a declaration of types and of a file it is known which tokens may stand between the constructs.
A package clause has the name of the package.

## Main statements

* `Grammar.forms_table`, `Grammar.forms_file`: the patterns of the grammar keep to the forms. -/

namespace GoStructs.Syntax

namespace Grammar

open Pattern

/-- The kinds of types. -/
def typeKinds : List NodeKind :=
  [.typeIdentifier, .genericType, .qualifiedType, .pointerType, .structType, .interfaceType,
   .arrayType, .sliceType, .mapType, .channelType, .functionType, .negatedType,
   .parenthesizedType]

/-- The kinds of types that may be embedded. -/
def embeddedTypeKinds : List NodeKind := [.typeIdentifier, .genericType, .qualifiedType]

/-- The kinds of types that may have arguments behind them. -/
def genericBaseKinds : List NodeKind := [.typeIdentifier, .qualifiedType, .negatedType]

/-- What the rules make of the parts that are there: those for types add a type, and those for
a statement and for what may be one add one construct.  Of the other rules nothing has to be
known. -/
def spec : Rule → List Part → List Part → Prop
  | .type _, s, s' | .simpleType _, s, s' | .bareType, s, s' =>
    ∃ k ∈ typeKinds, s' = (.node k, none) :: s
  | .block, s, s' | .ifStatement, s, s' | .declaration, s, s' | .statement _ _, s, s' =>
    ∃ k, s' = (.node k, none) :: s
  | _, _, _ => True

/-- A statement made of expressions is one construct, whatever it began with. -/
theorem yields_simpleStatement {left right : Site} {s s' : List Part}
    (h : (simpleStatement left right).yields spec s s') : ∃ k, s' = (.node k, none) :: s := by
  simp only [simpleStatement, choice, seqs, yields] at h
  obtain ⟨m, ⟨_, -, hm⟩, rfl⟩ := h
  -- each way to go on ends by making one construct of all that has been read
  have hwrapped : ∃ k, m = [(.node k, none)] := by
    rcases hm with ⟨_, -, _, -, _, -, _, -, rfl | rfl⟩ | ⟨_, -, _, -, _, -, rfl | rfl⟩
      | ⟨_, -, rfl⟩ | ⟨_, -, rfl⟩ | ⟨_, -, rfl⟩ | rfl
    all_goals exact ⟨_, rfl⟩
  obtain ⟨k, rfl⟩ := hwrapped
  exact ⟨k, rfl⟩

theorem yields_statement {outermost inCase : Bool} {s s' : List Part}
    (h : (statement outermost inCase).yields spec s s') : ∃ k, s' = (.node k, none) :: s := by
  simp only [statement, choice, forStatement, returnStatement, typeSwitch, expressionSwitch,
    selectStatement, jump, butNot, yields, spec] at h
  rcases h with h | h | h | h | h | h | h | h | h | h | h | h | h | h | h | ⟨_, rfl, h | h⟩
  case inl | inr.inl | inr.inr.inl => exact h
  case inr.inr.inr.inr.inr.inr.inr.inr.inr.inr.inr.inr.inr.inr.inr.inr =>
    exact yields_simpleStatement h
  all_goals exact ⟨_, h⟩

theorem yields_builtType {last result : Rules} {s s' : List Part}
    (h : (builtType last result).yields spec s s') : ∃ k ∈ typeKinds, s' = (.node k, none) :: s := by
  simp only [builtType, choice, pointerType, structType, interfaceType, arrayType, sliceType,
    mapType, channelType, functionType, negatedType, yields] at h
  rcases h with rfl | rfl | rfl | rfl | rfl | rfl | rfl | rfl | rfl
  all_goals exact ⟨_, by decide, rfl⟩

theorem spec_table (x : Rule) (s s' : List Part) (h : (table x).yields spec s s') :
    spec x s s' := by
  cases x with
  | block => exact ⟨_, h⟩
  | ifStatement => exact ⟨_, h⟩
  | declaration => rcases h with h | h | h <;> exact ⟨_, h⟩
  | statement outermost inCase => exact yields_statement h
  | type ends =>
    simp only [table, type, yields, parenthesizedType] at h
    rcases h with h | rfl
    · exact h
    · exact ⟨.parenthesizedType, by decide, rfl⟩
  | simpleType ends =>
    simp only [table, simpleType, namedType, choice, withArguments, genericType, qualifiedType,
      ident, yields] at h
    rcases h with rfl | h | rfl | rfl | rfl
    case inr.inl => exact yields_builtType h
    all_goals exact ⟨_, by decide, rfl⟩
  | bareType =>
    simp only [table, bareType, choice, parenthesizedType, qualifiedType, ident, yields] at h
    rcases h with h | rfl | rfl | rfl
    case inl => exact yields_builtType h
    all_goals exact ⟨_, by decide, rfl⟩
  | _ => trivial

/-- The parts of a declaration of fields: what stands in front of the type, the type, and perhaps
a tag.  In front of the type stand the names with commas between; if there are none, a star may
stand there, and the type is one that may be embedded. -/
def IsField (s : List Part) : Prop :=
  ∃ (front : List Part) (k : NodeKind) (tag : List Part),
    s = front ++ (.node k, some .type) :: tag
      ∧ (tag = [] ∨ ∃ k', tag = [(.node k', some .tag)])
      ∧ (((front = [] ∨ front = [(.token "*", none)]) ∧ k ∈ embeddedTypeKinds)
        ∨ ((.node .fieldIdentifier, some .name) ∈ front
          ∧ (∀ x ∈ front, x = (.node .fieldIdentifier, some .name) ∨ x = (.token ",", none))
          ∧ k ∈ typeKinds))

/-- A part that may stand between the constructs of a file: one of them, or a terminator. -/
def IsOutermost (x : Part) : Prop :=
  x.1.isNamed ∨ x.1 ∈ Kind.terminators

/-- The parts of a declaration of types: the keyword, and behind it one definition, or a group of
them in parentheses. -/
def IsTypeDeclaration (s : List Part) : Prop :=
  (∃ k, s = [(.token "type", none), (.node k, none)])
    ∨ ∃ middle : List Part,
      s = (.token "type", none) :: (.token "(", none) :: (middle ++ [(.token ")", none)])
        ∧ ∀ x ∈ middle, IsOutermost x

/-- In front of the last part of a declaration of types there is no token but its keyword, the
opening parenthesis and terminators. -/
theorem IsTypeDeclaration.exists_last {s : List Part} (h : IsTypeDeclaration s) :
    ∃ (middle : List Part) (last : Part), s = (.token "type", none) :: (middle ++ [last])
      ∧ ∀ x ∈ middle, x.1 = .token "(" ∨ IsOutermost x := by
  rcases h with ⟨k, rfl⟩ | ⟨middle, rfl, hmiddle⟩
  · exact ⟨[], (.node k, none), rfl, by simp⟩
  · refine ⟨(.token "(", none) :: middle, (.token ")", none), rfl, ?_⟩
    exact List.forall_mem_cons.mpr ⟨Or.inl rfl, fun x hx => Or.inr (hmiddle x hx)⟩

/-- The parts that a construct may have, for the kinds that matter here. -/
def form : Kind → List Part → Prop
  | .node .sourceFile, s => ∀ x ∈ s, IsOutermost x
  | .node .packageClause, s => s = [(.token "package", none), (.node .packageIdentifier, none)]
  | .node .typeDeclaration, s => IsTypeDeclaration s
  | .node .typeSpec, s =>
    ∃ k ∈ typeKinds,
      s = [(.node .typeIdentifier, some .name), (.node k, some .type)]
        ∨ s = [(.node .typeIdentifier, some .name),
          (.node .typeParameterList, some .typeParameters), (.node k, some .type)]
  | .node .structType, s => s = [(.token "struct", none), (.node .fieldDeclarationList, none)]
  | .node .genericType, s =>
    ∃ k ∈ genericBaseKinds, s = [(.node k, some .type), (.node .typeArguments, none)]
  | .node .fieldDeclaration, s => IsField s
  | _, _ => True

end Grammar

/-- The constructs and the leaves that a pattern makes keep to the forms. -/
def Pattern.Forms : Pattern Rule → Prop
  | leaf _ kind => Grammar.form kind []
  | node kind p => p.Forms ∧ ∀ s, p.yields Grammar.spec [] s → Grammar.form (.node kind) s.reverse
  | wrap kind p =>
    p.Forms ∧ ∀ s s', p.yields Grammar.spec s s' → Grammar.form (.node kind) s'.reverse
  | seq p q | either p q => p.Forms ∧ q.Forms
  | many p | group p | label _ p => p.Forms
  | empty | ahead _ | notAhead _ | sameLine | terminator | gap | finish | rule _ => True

/-- Does a form ask anything of the kind? -/
def Kind.hasForm : Kind → Bool
  | .node .sourceFile | .node .packageClause | .node .typeDeclaration | .node .typeSpec
  | .node .structType | .node .genericType | .node .fieldDeclaration => true
  | _ => false

theorem Grammar.form_of_not_hasForm {k : Kind} (h : k.hasForm = false) (s : List Part) :
    Grammar.form k s := by
  unfold Grammar.form
  split
  all_goals trivial

namespace Pattern

/-- Does the pattern make no construct that a form asks anything of? -/
def isFormless : Pattern Rule → Bool
  | leaf _ kind => !kind.hasForm
  | node kind p | wrap kind p => !(Kind.node kind).hasForm && p.isFormless
  | seq p q | either p q => p.isFormless && q.isFormless
  | many p | group p | label _ p => p.isFormless
  | empty | ahead _ | notAhead _ | sameLine | terminator | gap | finish | rule _ => true

theorem forms_of_isFormless {p : Pattern Rule} (h : p.isFormless) : p.Forms := by
  induction p with
  | leaf t kind => exact Grammar.form_of_not_hasForm (by simpa [isFormless] using h) _
  | seq p q ihp ihq | either p q ihp ihq =>
    simp only [isFormless, Bool.and_eq_true] at h
    exact ⟨ihp h.1, ihq h.2⟩
  | node kind p ih =>
    simp only [isFormless, Bool.and_eq_true, Bool.not_eq_true'] at h
    exact ⟨ih h.2, fun s _ => Grammar.form_of_not_hasForm h.1 _⟩
  | wrap kind p ih =>
    simp only [isFormless, Bool.and_eq_true, Bool.not_eq_true'] at h
    exact ⟨ih h.2, fun s s' _ => Grammar.form_of_not_hasForm h.1 _⟩
  | many p ih | group p ih | label l p ih => exact ih h
  | empty | ahead p | notAhead p | sameLine | terminator | gap | finish | rule x => trivial

theorem forms_seqs {ps : List (Pattern Rule)} (h : ∀ p ∈ ps, p.Forms) : (seqs ps).Forms := by
  induction ps with
  | nil => trivial
  | cons p ps ih =>
    have hp := h p List.mem_cons_self
    cases ps with
    | nil => exact hp
    | cons q qs => exact ⟨hp, ih fun q hq => h q (List.mem_cons_of_mem _ hq)⟩

theorem forms_choice {ps : List (Pattern Rule)} (h : ∀ p ∈ ps, p.Forms) : (choice ps).Forms := by
  induction ps with
  | nil => trivial
  | cons p ps ih =>
    have hp := h p List.mem_cons_self
    cases ps with
    | nil => exact hp
    | cons q qs => exact ⟨hp, ih fun q hq => h q (List.mem_cons_of_mem _ hq)⟩

end Pattern

namespace Grammar

open Pattern

/-! ## Generic types and types that may be embedded -/

theorem forms_withArguments {ends : Bool} {base : Rules} (hbase : base.Forms)
    (hyields : ∀ s, base.yields spec [] s → ∃ k ∈ genericBaseKinds, s = [(.node k, none)]) :
    (withArguments ends base).Forms := by
  refine ⟨⟨hbase, forms_of_isFormless (by cases ends <;> rfl)⟩, ?_⟩
  intro s h
  have hglue : ∀ s s', (glue ends).yields spec s s' → s' = s := by
    cases ends <;> exact fun _ _ h => h
  simp only [seqs, typeArguments, yields] at h
  obtain ⟨_, ⟨m, hm, rfl⟩, _, hg, rfl⟩ := h
  -- no part comes from asking for the same row
  obtain rfl := hglue _ _ hg
  obtain ⟨k, hk, rfl⟩ := hyields m hm
  exact ⟨k, hk, rfl⟩

theorem forms_genericType (ends : Bool) (reserved : List String) :
    (genericType ends reserved).Forms := by
  refine forms_withArguments (forms_of_isFormless (by cases ends <;> rfl)) ?_
  intro s h
  simp only [qualifiedType, ident, yields] at h
  rcases h with rfl | rfl
  all_goals exact ⟨_, by decide, rfl⟩

/-- A negated type may have arguments behind it, if the type that is negated keeps to the forms. -/
theorem forms_withArguments_negatedType {ends : Bool} {inner : Rules} (h : inner.Forms) :
    (withArguments ends (negatedType inner)).Forms := by
  refine forms_withArguments ⟨⟨forms_of_isFormless rfl, h⟩, fun _ _ => form_of_not_hasForm rfl _⟩ ?_
  intro s hs
  exact ⟨.negatedType, by decide, hs⟩

theorem forms_namedType (ends : Bool) (reserved : List String) :
    (namedType ends reserved).Forms :=
  ⟨forms_genericType ends reserved, forms_of_isFormless (by cases ends <;> rfl)⟩

theorem forms_embeddedType : embeddedType.Forms :=
  ⟨forms_withArguments_negatedType trivial, forms_withArguments_negatedType trivial,
    forms_namedType true []⟩

/-- An embedded type is one part. -/
theorem yields_embeddedType {s s' : List Part} (h : embeddedType.yields spec s s') :
    ∃ k ∈ embeddedTypeKinds, s' = (.node k, none) :: s := by
  simp only [embeddedType, namedType, choice, genericType, withArguments, qualifiedType, ident,
    yields] at h
  rcases h with rfl | rfl | rfl | rfl | rfl
  all_goals exact ⟨_, by decide, rfl⟩

/-! ## Fields and struct types -/

theorem forms_namedField : namedField.Forms := forms_of_isFormless rfl

/-- Names with commas between, and then their type. -/
theorem yields_namedField {s : List Part} (h : namedField.yields spec [] s) :
    ∃ front, ∃ k ∈ typeKinds, s.reverse = front ++ [(.node k, some .type)]
      ∧ (.node .fieldIdentifier, some .name) ∈ front
      ∧ ∀ x ∈ front, x = (.node .fieldIdentifier, some .name) ∨ x = (.token ",", none) := by
  simp only [namedField, seqs, separated, comma, op, ident, yields, spec] at h
  rcases h with ⟨_, ⟨_, rfl, rfl⟩, _, rfl, _, rfl, t, ⟨_, ⟨_, rfl, rfl⟩, hmany⟩, _,
      ⟨k, hk, rfl⟩, rfl⟩
    | ⟨_, ⟨_, rfl, rfl⟩, _, rfl, _, ⟨k, hk, rfl⟩, rfl⟩
  · -- the names after the second comma, by induction on their number
    refine ⟨t.reverse, k, hk, by simp, ?_⟩
    induction hmany with
    | refl => simp
    | tail _ hstep ih =>
      obtain ⟨_, rfl, _, rfl, rfl⟩ := hstep
      obtain ⟨hmem, hall⟩ := ih
      refine ⟨by simp at hmem ⊢, ?_⟩
      intro x hx
      simp at hx
      rcases hx with hx | rfl | rfl
      · exact hall x (by simpa using hx)
      · exact Or.inr rfl
      · exact Or.inl rfl
  · exact ⟨[(.node .fieldIdentifier, some .name)], k, hk, by simp, by simp, by simp⟩

/-- A tag may stand behind a field. -/
theorem yields_tag {s s' : List Part}
    (h : (further true (label .tag stringLiteral)).yields spec s s') :
    ∃ tag, s'.reverse = s.reverse ++ tag ∧ (tag = [] ∨ ∃ k, tag = [(.node k, some .tag)]) := by
  simp only [further, Pattern.optional, glue, if_true, stringLiteral, choice, seqs, yields] at h
  rcases h with ⟨_, rfl, _, rfl | rfl, rfl⟩ | rfl
  · exact ⟨[(.node .interpretedStringLiteral, some .tag)], by simp, Or.inr ⟨_, rfl⟩⟩
  · exact ⟨[(.node .rawStringLiteral, some .tag)], by simp, Or.inr ⟨_, rfl⟩⟩
  · exact ⟨[], by simp, Or.inl rfl⟩

theorem forms_field : field.Forms := by
  refine ⟨⟨?_, forms_of_isFormless rfl⟩, ?_⟩
  · refine ⟨⟨forms_genericType true [], trivial⟩, forms_namedField, ?_⟩
    exact ⟨forms_of_isFormless rfl, forms_embeddedType⟩
  · rintro s ⟨m, hm, hend⟩
    obtain ⟨tag, hs, htag⟩ := yields_tag hend
    -- the three ways to write a field, tried in this order
    rcases hm with hm | hm | ⟨star, hstar, _, hm, rfl⟩
    · -- a generic type with nothing behind it
      simp only [seqs, genericType, withArguments, yields] at hm
      obtain ⟨_, ⟨_, rfl, rfl⟩, rfl⟩ := hm
      exact ⟨[], .genericType, tag, by simpa using hs, htag, Or.inl ⟨Or.inl rfl, by decide⟩⟩
    · obtain ⟨front, k, hk, hfront, hname, hall⟩ := yields_namedField hm
      exact ⟨front, k, tag, by simpa [hfront] using hs, htag, Or.inr ⟨hname, hall, hk⟩⟩
    · obtain ⟨k, hk, rfl⟩ := yields_embeddedType hm
      simp only [Pattern.optional, op, yields] at hstar
      rcases hstar with rfl | rfl
      · exact ⟨[(.token "*", none)], k, tag, by simpa using hs, htag, Or.inl ⟨Or.inr rfl, hk⟩⟩
      · exact ⟨[], k, tag, by simpa using hs, htag, Or.inl ⟨Or.inl rfl, hk⟩⟩

theorem forms_fields : fields.Forms := by
  have hlist : (terminated field).Forms :=
    forms_seqs (by simp [Forms, forms_field, Pattern.optional])
  refine ⟨forms_seqs ?_, fun s _ => form_of_not_hasForm rfl _⟩
  simp only [List.forall_mem_cons]
  exact ⟨forms_of_isFormless rfl, ⟨hlist, trivial⟩, forms_of_isFormless rfl, by simp⟩

theorem forms_structType : structType.Forms := by
  refine ⟨⟨forms_of_isFormless rfl, forms_fields⟩, ?_⟩
  rintro s ⟨_, rfl, rfl⟩
  rfl

/-! ## Definitions of types -/

theorem forms_typeSpec : typeSpec.Forms := by
  refine ⟨forms_of_isFormless rfl, forms_of_isFormless rfl, ?_⟩
  rintro s ⟨_, ⟨_, rfl, rfl⟩, h⟩
  simp only [typeParameters, yields, spec] at h
  -- the type stands right behind the name, or behind the type parameters
  rcases h with ⟨_, ⟨k, hk, rfl⟩, rfl⟩ | ⟨_, ⟨_, rfl, rfl⟩, _, ⟨k, hk, rfl⟩, rfl⟩
  · exact ⟨k, hk, Or.inl rfl⟩
  · exact ⟨k, hk, Or.inr rfl⟩

theorem yields_typeSpec {s s' : List Part} (h : typeSpec.yields spec s s') :
    ∃ k, s' = (.node k, none) :: s := by
  rcases h with rfl | rfl <;> exact ⟨_, rfl⟩

theorem yields_itemEnd {s s' : List Part} (h : itemEnd.yields spec s s') :
    ∃ x, IsOutermost x ∧ s' = x :: s := by
  rcases h with ⟨k, hk, rfl⟩ | rfl
  · exact ⟨_, Or.inr hk, rfl⟩
  · exact ⟨_, Or.inr List.mem_cons_self, rfl⟩

/-- The keyword, and a definition or a group of them. -/
theorem isTypeDeclaration_of_yields {s : List Part}
    (h : (seq (kw "type") (either (itemGroup typeSpec) typeSpec)).yields spec [] s) :
    IsTypeDeclaration s.reverse := by
  obtain ⟨_, rfl, h | h⟩ := h
  · simp only [itemGroup, seqs, op, yields] at h
    obtain ⟨_, rfl, items, hmany, rfl⟩ := h
    -- behind the opening parenthesis, by induction on the number of definitions
    have hitems : ∃ middle, items = middle ++ [(.token "(", none), (.token "type", none)]
        ∧ ∀ x ∈ middle, IsOutermost x := by
      induction hmany with
      | refl => exact ⟨[], rfl, by simp⟩
      | tail _ hstep ih =>
        obtain ⟨_, hspec, hend⟩ := hstep
        obtain ⟨middle, rfl, hall⟩ := ih
        obtain ⟨k, rfl⟩ := yields_typeSpec hspec
        obtain ⟨x, hx, rfl⟩ := yields_itemEnd hend
        refine ⟨x :: (.node k, none) :: middle, rfl, ?_⟩
        simp only [List.forall_mem_cons]
        exact ⟨hx, Or.inl rfl, hall⟩
    obtain ⟨middle, rfl, hall⟩ := hitems
    refine Or.inr ⟨middle.reverse, by simp, ?_⟩
    intro x hx
    exact hall x (List.mem_reverse.mp hx)
  · obtain ⟨k, rfl⟩ := yields_typeSpec h
    exact Or.inl ⟨k, rfl⟩

theorem forms_declaration : declaration.Forms := by
  refine ⟨forms_of_isFormless rfl, forms_of_isFormless rfl, ?_⟩
  have hgroup : (itemGroup typeSpec).Forms := by
    refine forms_seqs ?_
    simp only [List.forall_mem_cons]
    exact ⟨forms_of_isFormless rfl, ⟨forms_typeSpec, forms_of_isFormless rfl⟩,
      forms_of_isFormless rfl, by simp⟩
  exact ⟨⟨forms_of_isFormless rfl, hgroup, forms_typeSpec⟩,
    fun s h => isTypeDeclaration_of_yields h⟩

/-! ## Types and operands -/

theorem forms_builtType {last result : Rules} (hlast : last.isFormless)
    (hresult : result.isFormless) : (builtType last result).Forms := by
  have hchannel : (channelType last).isFormless := by
    show (last.isFormless && (last.isFormless && last.isFormless)) = true
    simp [hlast]
  refine forms_choice ?_
  simp only [List.forall_mem_cons]
  exact ⟨forms_of_isFormless hlast, forms_structType, forms_of_isFormless rfl,
    forms_of_isFormless hlast, forms_of_isFormless hlast, forms_of_isFormless hlast,
    forms_of_isFormless hchannel, forms_of_isFormless hresult, forms_of_isFormless hlast, by simp⟩

theorem forms_simpleType (ends : Bool) : (simpleType ends).Forms :=
  ⟨forms_withArguments_negatedType ⟨trivial, trivial⟩, forms_builtType rfl rfl,
    forms_namedType ends typeWords⟩

theorem forms_bareType : bareType.Forms :=
  ⟨forms_builtType rfl rfl, forms_of_isFormless rfl⟩

theorem forms_namedLiteral (site : Site) : (namedLiteral site).Forms := by
  unfold namedLiteral
  split
  · refine ⟨forms_seqs ?_, fun s _ => form_of_not_hasForm rfl _⟩
    simp only [List.forall_mem_cons]
    exact ⟨forms_namedType _ _, forms_of_isFormless (by cases site.ends <;> rfl),
      forms_of_isFormless rfl, by simp⟩
  · refine ⟨⟨⟨?_, forms_of_isFormless rfl⟩, fun s _ => form_of_not_hasForm rfl _⟩, trivial⟩
    exact ⟨forms_genericType _ _, forms_of_isFormless rfl⟩

theorem forms_builtLiteral : builtLiteral.Forms := by
  refine ⟨⟨forms_choice ?_, forms_of_isFormless rfl⟩, fun s _ => form_of_not_hasForm rfl _⟩
  simp only [List.forall_mem_cons]
  exact ⟨forms_structType, forms_of_isFormless rfl, forms_of_isFormless rfl,
    forms_of_isFormless rfl, forms_of_isFormless rfl, by simp⟩

theorem forms_typeConversion : typeConversion.Forms := by
  refine ⟨⟨forms_choice ?_, forms_of_isFormless rfl⟩, fun s _ => form_of_not_hasForm rfl _⟩
  simp only [List.forall_mem_cons]
  have hleaf : ∀ p : Rules, p.isFormless → p.Forms := fun p => forms_of_isFormless
  exact ⟨forms_structType, hleaf _ rfl, hleaf _ rfl, hleaf _ rfl, hleaf _ rfl, hleaf _ rfl,
    hleaf _ rfl, forms_withArguments_negatedType trivial, hleaf _ rfl, hleaf _ rfl, by simp⟩

theorem forms_primary (site : Site) : (primary site).Forms := by
  have hrest : (many (seq (glue site.ends) suffix)).Forms :=
    forms_of_isFormless (by cases site.ends <;> rfl)
  refine ⟨forms_choice ?_, hrest⟩
  simp only [basicLiterals, List.cons_append, List.nil_append, List.forall_mem_cons]
  have hleaf : ∀ p : Rules, p.isFormless → p.Forms := fun p => forms_of_isFormless
  refine ⟨hleaf _ rfl, hleaf _ rfl, hleaf _ rfl, hleaf _ rfl, hleaf _ rfl, hleaf _ rfl,
    hleaf _ rfl, hleaf _ rfl, hleaf _ rfl, ?_, forms_namedLiteral site, hleaf _ rfl, hleaf _ rfl,
    hleaf _ rfl, forms_builtLiteral, forms_typeConversion, by simp⟩
  exact hleaf _ (by cases site with | mk ends braces acts => cases ends <;> rfl)

theorem forms_binary (site : Site) (level : Nat) : (binary site level).Forms := by
  unfold binary
  split
  · trivial
  · next hlevel =>
    obtain ⟨ends, braces, acts⟩ := site
    have : level = 0 ∨ level = 1 ∨ level = 2 ∨ level = 3 ∨ level = 4 ∨ level = 5 := by omega
    apply forms_of_isFormless
    rcases this with rfl | rfl | rfl | rfl | rfl | rfl <;> cases ends <;> cases acts <;> rfl

/-- The patterns of the grammar keep to the forms. -/
theorem forms_table (x : Rule) : (table x).Forms := by
  cases x with
  | simpleType ends => exact forms_simpleType ends
  | bareType => exact forms_bareType
  | primary site => exact forms_primary site
  | declaration => exact forms_declaration
  | binary site level => exact forms_binary site level
  | unary site => exact forms_of_isFormless rfl
  | type ends => exact forms_of_isFormless rfl
  | result ends | statements ends => exact forms_of_isFormless (by cases ends <;> rfl)
  | statement outermost inCase =>
    exact forms_of_isFormless (by cases outermost <;> cases inCase <;> rfl)
  | parameters | literalValue | block | ifStatement => exact forms_of_isFormless rfl

theorem forms_packageClause : packageClause.Forms := by
  refine ⟨forms_of_isFormless rfl, ?_⟩
  rintro s ⟨_, rfl, rfl⟩
  rfl

theorem forms_file : file.Forms := by
  have hdecl : fileDeclaration.Forms :=
    ⟨forms_packageClause, forms_of_isFormless rfl, forms_of_isFormless rfl,
      forms_of_isFormless rfl⟩
  exact ⟨⟨⟨hdecl, forms_of_isFormless rfl⟩, forms_of_isFormless rfl⟩, forms_of_isFormless rfl⟩

/-! ## Files -/

theorem yields_fileDeclaration {s s' : List Part} (h : fileDeclaration.yields spec s s') :
    ∃ k, s' = (.node k, none) :: s := by
  rcases h with h | h | h | h <;> exact ⟨_, h⟩

/-- Between the constructs of a file stand nothing but terminators. -/
theorem isOutermost_of_yields_file {s : List Part} (h : file.yields spec [] s) :
    ∀ x ∈ s, IsOutermost x := by
  simp only [file, seqs, choice, yields] at h
  obtain ⟨_, hmany, rfl⟩ := h
  induction hmany with
  | refl => simp
  | tail _ hstep ih =>
    rcases hstep with ⟨_, hdecl, hend⟩ | ⟨_, hstatement, hend⟩
    · -- a declaration may also be ended by the end of the file, which is no part
      obtain ⟨k, rfl⟩ := yields_fileDeclaration hdecl
      have hcons : ∀ x ∈ (Kind.node k, none) :: _, IsOutermost x :=
        List.forall_mem_cons.mpr ⟨Or.inl rfl, ih⟩
      rcases hend with ⟨_, hk, rfl⟩ | rfl | rfl
      · exact List.forall_mem_cons.mpr ⟨Or.inr hk, hcons⟩
      · exact hcons
      · exact List.forall_mem_cons.mpr ⟨Or.inr List.mem_cons_self, hcons⟩
    · obtain ⟨k, rfl⟩ : ∃ k, _ = (Kind.node k, none) :: _ := hstatement
      obtain ⟨x, hx, rfl⟩ := yields_itemEnd hend
      exact List.forall_mem_cons.mpr ⟨hx, List.forall_mem_cons.mpr ⟨Or.inl rfl, ih⟩⟩

end Grammar

end GoStructs.Syntax
