import GoStructs.Syntax.Token.Scan
/-! # Pieces of a text

The pieces that a text is cut into are the text, one behind the other, and none of them is empty.
For this each recogniser of a token has to give a prefix of the characters before it, and one that
is not empty; a recogniser of a numeral gives the rest instead, which has to be shorter. -/

namespace GoStructs.Syntax

/-- A fold that keeps its best so far or takes the next gives one of those that it has seen. -/
theorem mem_of_foldl_eq_some {α : Type} {f : Option α → α → Option α}
    (hnone : ∀ y, f none y = some y)
    (hsome : ∀ b y, f (some b) y = some y ∨ f (some b) y = some b) {ys : List α}
    {best : Option α} {x : α} (h : ys.foldl f best = some x) : best = some x ∨ x ∈ ys := by
  induction ys generalizing best with
  | nil => exact Or.inl h
  | cons y ys ih =>
    rcases ih h with hstep | hmem
    · -- the first step has taken the element at hand or kept the best so far
      have hstep' : best = some x ∨ y = x := by
        cases best with
        | none =>
          rw [hnone] at hstep
          exact Or.inr (Option.some.inj hstep)
        | some b =>
          rcases hsome b y with hy | hb
          · rw [hy] at hstep
            exact Or.inr (Option.some.inj hstep)
          · rw [hb] at hstep
            exact Or.inl hstep
      rcases hstep' with hbest | rfl
      · exact Or.inl hbest
      · exact Or.inr List.mem_cons_self
    · exact Or.inr (List.mem_cons_of_mem _ hmem)

/-! ## Numerals leave less than they are given -/

namespace Numeral

open Text (isDigitOf oneOf? skipOneOf)

variable {digit : Char → Bool} {signs letters : List Char} {s r : List Char}

theorem moreDigits_length_le (digit : Char → Bool) (s : List Char) :
    (moreDigits digit s).length ≤ s.length := by
  fun_induction moreDigits digit s with
  | case1 => simp
  | case2 c h => simp
  | case3 c h => simp
  | case4 c d r h ih => simp only [List.length_cons] at *; omega
  | case5 c d r h h' ih => simp only [List.length_cons] at *; omega
  | case6 c d r h h' => simp

theorem digits_length_lt (h : digits? digit s = some r) : r.length < s.length := by
  cases s with
  | nil => simp [digits?] at h
  | cons c t =>
    simp only [digits?, Option.ite_none_right_eq_some, Option.some.injEq] at h
    obtain ⟨-, rfl⟩ := h
    have := moreDigits_length_le digit t
    simp only [List.length_cons]
    omega

theorem oneOf_length_lt (h : oneOf? signs s = some r) : r.length < s.length := by
  cases s with
  | nil => simp [oneOf?] at h
  | cons c t =>
    simp only [oneOf?, Option.ite_none_right_eq_some, Option.some.injEq] at h
    obtain ⟨-, rfl⟩ := h
    simp

theorem skipOneOf_length_le (signs s : List Char) : (skipOneOf signs s).length ≤ s.length := by
  unfold skipOneOf
  cases h : oneOf? signs s with
  | none => simp
  | some r => exact Nat.le_of_lt (oneOf_length_lt h)

theorem based_length_lt (h : based? letters digit s = some r) : r.length < s.length := by
  simp only [based?, Option.bind_eq_some_iff] at h
  obtain ⟨t, ⟨u, hu, ht⟩, hr⟩ := h
  have h1 := oneOf_length_lt hu
  have h2 := oneOf_length_lt ht
  have h3 := digits_length_lt hr
  have h4 := skipOneOf_length_le ['_'] t
  omega

theorem exponent_length_lt (h : exponent? letters s = some r) : r.length < s.length := by
  simp only [exponent?, Option.bind_eq_some_iff] at h
  obtain ⟨t, ht, hr⟩ := h
  have h1 := oneOf_length_lt ht
  have h2 := digits_length_lt hr
  have h3 := skipOneOf_length_le ['+', '-'] t
  omega

/-- What a part of a numeral leaves, if the part need not be there. -/
theorem getD_length_le {o : Option (List Char)} (h : ∀ t, o = some t → t.length < s.length) :
    (o.getD s).length ≤ s.length := by
  cases o with
  | none => simp
  | some t => exact Nat.le_of_lt (h t rfl)

theorem ints_length_lt (h : r ∈ ints s) : r.length < s.length := by
  simp only [ints, List.mem_filterMap, List.mem_cons, List.not_mem_nil, or_false, id] at h
  obtain ⟨o, ho, rfl⟩ := h
  rcases ho with ho | ho | ho | ho
  · exact based_length_lt ho.symm
  · -- a decimal literal: a zero, or a digit with more of them behind
    split at ho
    · cases ho; simp
    · next c t _ =>
      split at ho
      · cases ho
        have h1 := getD_length_le (s := t) (o := digits? Char.isDigit (skipOneOf ['_'] t))
          fun u hu => Nat.lt_of_lt_of_le (digits_length_lt hu) (skipOneOf_length_le _ _)
        simp only [List.length_cons]
        omega
      · cases ho
    · cases ho
  · -- an octal literal, whose letter may be left out
    obtain ⟨t, ht, hr⟩ := Option.bind_eq_some_iff.mp ho.symm
    have h1 := oneOf_length_lt ht
    have h2 := digits_length_lt hr
    have h3 := skipOneOf_length_le ['_'] (skipOneOf ['o', 'O'] t)
    have h4 := skipOneOf_length_le ['o', 'O'] t
    omega
  · exact based_length_lt ho.symm

theorem floats_length_lt (h : r ∈ floats s) : r.length < s.length := by
  have htail : ∀ t : List Char, ((exponent? ['e', 'E'] t).getD t).length ≤ t.length := fun t =>
    getD_length_le fun _ => exponent_length_lt
  have hmore : ∀ t : List Char, ∀ d : Char → Bool, ((digits? d t).getD t).length ≤ t.length :=
    fun t d => getD_length_le fun _ => digits_length_lt
  simp only [floats, List.mem_filterMap, List.mem_cons, List.not_mem_nil, or_false, id] at h
  obtain ⟨o, ho, rfl⟩ := h
  rcases ho with ho | ho | ho | ho | ho | ho <;>
    simp only [Eq.comm (a := some r), Option.map_eq_some_iff, Option.bind_eq_some_iff] at ho
  -- what is left of each part is no longer than what the part before it leaves
  · obtain ⟨t, ⟨u, hu, ht⟩, rfl⟩ := ho
    have h1 := digits_length_lt hu
    have h2 := oneOf_length_lt ht
    have h3 := htail ((digits? Char.isDigit t).getD t)
    have h4 := hmore t Char.isDigit
    omega
  · obtain ⟨t, ht, hr⟩ := ho
    exact Nat.lt_trans (exponent_length_lt hr) (digits_length_lt ht)
  · obtain ⟨t, ⟨u, hu, ht⟩, rfl⟩ := ho
    have h1 := oneOf_length_lt hu
    have h2 := digits_length_lt ht
    have h3 := htail t
    omega
  · obtain ⟨t, ⟨u, ⟨v, ⟨w, ⟨x, hx, hw⟩, hv⟩, hu⟩, rfl⟩, hr⟩ := ho
    have h1 := oneOf_length_lt hx
    have h2 := oneOf_length_lt hw
    have h3 := digits_length_lt hv
    have h4 := skipOneOf_length_le ['_'] w
    have h5 := oneOf_length_lt hu
    have h6 := hmore u (isDigitOf 16)
    have h7 := exponent_length_lt hr
    omega
  · obtain ⟨t, ⟨u, ⟨v, hv, hu⟩, ht⟩, hr⟩ := ho
    have h1 := oneOf_length_lt hv
    have h2 := oneOf_length_lt hu
    have h3 := digits_length_lt ht
    have h4 := skipOneOf_length_le ['_'] u
    have h5 := exponent_length_lt hr
    omega
  · obtain ⟨t, ⟨u, ⟨v, ⟨w, hw, hv⟩, hu⟩, ht⟩, hr⟩ := ho
    have h1 := oneOf_length_lt hw
    have h2 := oneOf_length_lt hv
    have h3 := oneOf_length_lt hu
    have h4 := digits_length_lt ht
    have h5 := exponent_length_lt hr
    omega

theorem imaginaries_length_lt (h : r ∈ imaginaries s) : r.length < s.length := by
  simp only [imaginaries, List.mem_filterMap, List.mem_append, Option.mem_toList] at h
  obtain ⟨t, (ht | ht) | ht, hr⟩ := h
  · exact Nat.lt_trans (oneOf_length_lt hr) (digits_length_lt ht)
  · exact Nat.lt_trans (oneOf_length_lt hr) (ints_length_lt ht)
  · exact Nat.lt_trans (oneOf_length_lt hr) (floats_length_lt ht)

/-- A numeral is not empty. -/
theorem longest_length_lt {kind : TokenKind} (h : longest? s = some (kind, r)) :
    r.length < s.length := by
  -- the longest reading is one of those that can be made
  rcases mem_of_foldl_eq_some (fun _ => rfl) (fun b y => by simp only; split <;> simp) h with
    hmem | hmem
  · cases hmem
  · simp only [List.mem_append, List.mem_map, Prod.mk.injEq] at hmem
    rcases hmem with (⟨t, ht, -, rfl⟩ | ⟨t, ht, -, rfl⟩) | ⟨t, ht, -, rfl⟩
    · exact ints_length_lt ht
    · exact floats_length_lt ht
    · exact imaginaries_length_lt ht

end Numeral

/-! ## A piece is a prefix of the text -/

namespace Piece

open Text (fixedDigits?)

variable {s r body : List Char} {p : Piece}

/-- The pieces stand at the start of the text, one behind the other, and none is empty. -/
def Cut (ps : List Piece) (s : List Char) : Prop :=
  ps.flatMap chars <+: s ∧ ∀ p ∈ ps, p.chars ≠ []

theorem cut_nil (s : List Char) : Cut [] s := ⟨List.nil_prefix, by simp⟩

theorem cut_singleton {k : Option TokenKind} {cs : List Char} (hpre : cs <+: s) (hne : cs ≠ []) :
    Cut [⟨k, cs⟩] s :=
  ⟨by simpa using hpre, by simpa using hne⟩

/-- A piece at the start of the text, and pieces behind it. -/
theorem cut_cons {k : Option TokenKind} {ps : List Piece} (hne : body ≠ []) (h : Cut ps r) :
    Cut (⟨k, body⟩ :: ps) (body ++ r) := by
  obtain ⟨hpre, hps⟩ := h
  refine ⟨?_, ?_⟩
  · simpa using hpre
  · intro p hp
    rcases List.mem_cons.mp hp with rfl | hp
    · exact hne
    · exact hps p hp

theorem prefix_of_fixedDigits {base n : Nat} (h : fixedDigits? base n s = some body) :
    body <+: s := by
  simp only [fixedDigits?, Option.ite_none_right_eq_some, Option.some.injEq] at h
  obtain ⟨-, rfl⟩ := h
  exact List.take_prefix n s

theorem prefix_of_untilClose (h : untilClose s = some body) : body <+: s := by
  fun_induction untilClose s generalizing body with
  | case1 r => cases h; exact ⟨r, rfl⟩
  | case2 c r _ ih =>
    obtain ⟨t, ht, rfl⟩ := Option.map_eq_some_iff.mp h
    exact List.cons_prefix_cons.mpr ⟨rfl, ih ht⟩
  | case3 => cases h

theorem comment_cut (h : comment? s = some p) : Cut [p] s := by
  unfold comment? at h
  split at h
  · next r =>
    cases h
    apply cut_singleton _ (by simp)
    simpa using List.takeWhile_prefix _
  · next r =>
    obtain ⟨t, ht, rfl⟩ := Option.map_eq_some_iff.mp h
    apply cut_singleton _ (by simp)
    simpa using prefix_of_untilClose ht
  · cases h

theorem prefix_of_escapeBody (h : escapeBody? s = some body) : body <+: s := by
  unfold escapeBody? at h
  split at h
  · cases h
  · simp only [Option.ite_none_right_eq_some, Option.some.injEq] at h
    obtain ⟨-, rfl⟩ := h
    simpa using List.takeWhile_prefix _
  · obtain ⟨t, ht, rfl⟩ := Option.map_eq_some_iff.mp h
    simpa using prefix_of_fixedDigits ht
  · obtain ⟨t, ht, rfl⟩ := Option.map_eq_some_iff.mp h
    simpa using prefix_of_fixedDigits ht
  · split at h <;> cases h
    · exact (List.takeWhile_prefix _).trans (List.take_prefix _ _)
    · simp

/-- A list behind one of its prefixes. -/
theorem append_drop_of_prefix (h : body <+: s) : body ++ s.drop body.length = s := by
  obtain ⟨t, rfl⟩ := h
  simp

theorem quotedPieces_cut (fuel : Nat) (s : List Char) : Cut (quotedPieces fuel s) s := by
  fun_induction quotedPieces fuel s with
  | case1 s => exact cut_nil s
  | case2 => exact cut_nil _
  | case3 fuel r => exact cut_singleton (by simp) (by simp)
  | case4 fuel r => exact cut_nil _
  | case5 fuel r body hbody ih =>
    have hr := append_drop_of_prefix (prefix_of_escapeBody hbody)
    have hcut : Cut (⟨some .escape, '\\' :: body⟩ :: _) ('\\' :: body ++ _) :=
      cut_cons (by simp) ih
    simpa [hr] using hcut
  | case6 => exact cut_nil _
  | case7 fuel s run h1 h2 h3 h4 ih =>
    -- the run is not empty, since the text begins with none of the characters that end it
    have hrun : run ≠ [] := by
      cases s with
      | nil => exact absurd rfl h1
      | cons c t =>
        have hc : c ≠ '"' ∧ c ≠ '\n' ∧ c ≠ '\\' :=
          ⟨fun h => h2 t (by rw [h]), fun h => h3 t (by rw [h]), fun h => h4 t (by rw [h])⟩
        simp [run, hc]
    have hs : run ++ s.drop run.length = s := append_drop_of_prefix (List.takeWhile_prefix _)
    have := cut_cons (k := some .quoted) hrun ih
    rwa [hs] at this

theorem rawPieces_cut (s : List Char) : Cut (rawPieces s) s := by
  have hs : s.takeWhile (· != '\x60') ++ s.drop (s.takeWhile (· != '\x60')).length = s :=
    append_drop_of_prefix (List.takeWhile_prefix _)
  -- what is behind the body, if anything, is the closing mark
  have hclose : ∀ c t, s.drop (s.takeWhile (· != '\x60')).length = c :: t → c = '\x60' := by
    intro c t h
    have hd : s.dropWhile (· != '\x60') = c :: t := by
      rw [← h]
      exact List.append_cancel_left (List.takeWhile_append_dropWhile.trans hs.symm)
    have := List.head?_dropWhile_not (· != '\x60') s
    simpa [hd] using this
  simp only [rawPieces]
  generalize s.takeWhile (· != '\x60') = body at *
  -- either part of the literal may be missing
  cases hd : s.drop body.length with
  | nil =>
    by_cases hb : body = []
    · simp [hb, cut_nil]
    · simpa [hb] using cut_singleton ⟨_, hs⟩ hb
  | cons c t =>
    rw [hd] at hs
    obtain rfl := hclose c t hd
    have hend : Cut [⟨some .closeRaw, ['\x60']⟩] ('\x60' :: t) := cut_singleton (by simp) (by simp)
    by_cases hb : body = []
    · subst hb
      simpa [← hs] using hend
    · have := cut_cons (k := some .raw) hb hend
      simpa [hb, hs] using this

theorem prefix_of_runeBody (h : runeBody? s = some body) : body <+: s := by
  unfold runeBody? at h
  split at h
  · obtain ⟨t, ht, rfl⟩ := Option.map_eq_some_iff.mp h
    simpa using prefix_of_fixedDigits ht
  · obtain ⟨t, ht, rfl⟩ := Option.map_eq_some_iff.mp h
    simpa using prefix_of_fixedDigits ht
  · obtain ⟨t, ht, rfl⟩ := Option.map_eq_some_iff.mp h
    simpa using prefix_of_fixedDigits ht
  · next c r _ _ _ =>
    split at h
    · cases h
      exact ⟨r, rfl⟩
    · obtain ⟨t, ht, rfl⟩ := Option.map_eq_some_iff.mp h
      simpa using prefix_of_fixedDigits ht
  · cases h
  · cases h
  · next c r _ _ _ =>
    cases h
    exact ⟨_, rfl⟩
  · cases h

theorem rune_cut (h : rune? s = some p) : Cut [p] s := by
  unfold rune? at h
  split at h
  · next r =>
    split at h
    · next body hbody =>
      split at h
      · next t ht =>
        cases h
        apply cut_singleton _ (by simp)
        have hr := append_drop_of_prefix (prefix_of_runeBody hbody)
        rw [ht] at hr
        exact ⟨t, by simpa using hr⟩
      · cases h
    · cases h
  · cases h

theorem numeral_cut (h : numeral? s = some p) : Cut [p] s := by
  obtain ⟨⟨kind, r⟩, hr, rfl⟩ := Option.map_eq_some_iff.mp h
  have hlt := Numeral.longest_length_lt hr
  apply cut_singleton (List.take_prefix _ _)
  -- the piece is what the numeral does not leave
  intro hnil
  have := congrArg List.length hnil
  simp only [List.length_take, List.length_nil] at this
  omega

theorem word_cut (h : word? s = some p) : Cut [p] s := by
  unfold word? at h
  split at h
  · split at h
    · cases h
      apply cut_singleton _ (by simp)
      simpa using List.takeWhile_prefix _
    · cases h
  · cases h

theorem operator_cut (h : operator? s = some p) : Cut [p] s := by
  obtain ⟨op, hop, rfl⟩ := Option.map_eq_some_iff.mp h
  have hpre : op.toList <+: s := by
    simpa using List.find?_some hop
  have hne : ∀ op ∈ operators, op.toList ≠ [] := by decide
  exact cut_singleton hpre (hne op (List.mem_of_find?_eq_some hop))

theorem simple_cut (h : simple? s = some p) : Cut [p] s := by
  simp only [simple?, Option.orElse_eq_orElse, Option.orElse_eq_or, Option.or_eq_some_iff] at h
  rcases h with h | ⟨-, h | ⟨-, h | ⟨-, h | ⟨-, h⟩⟩⟩⟩
  · exact comment_cut h
  · exact word_cut h
  · exact numeral_cut h
  · exact rune_cut h
  · exact operator_cut h

/-- The pieces at the start of a text are a prefix of it, and none is empty. -/
theorem next_cut (c : Char) (r : List Char) : Cut (next c r) (c :: r) := by
  unfold next
  split
  · exact cut_singleton (by simp) (by simp)
  split
  · exact cut_singleton (by simpa using List.takeWhile_prefix _) (by simp)
  split
  · exact cut_singleton (by simp) (by simp)
  split
  · exact cut_cons (by simp) (quotedPieces_cut _ r)
  split
  · exact cut_cons (by simp) (rawPieces_cut r)
  split
  · next h => exact simple_cut h
  · exact cut_singleton (by simp) (by simp)

/-- There is a piece at the start of a text that is not empty. -/
theorem next_ne_nil (c : Char) (r : List Char) : next c r ≠ [] := by
  unfold next
  repeat' split
  all_goals simp

/-! ## No character is lost -/

theorem count_next_pos (c : Char) (r : List Char) : 0 < count (next c r) := by
  obtain ⟨p, hp⟩ := List.exists_mem_of_ne_nil _ (next_ne_nil c r)
  have hne := (next_cut c r).2 p hp
  rw [count, List.length_pos_iff]
  intro h
  exact hne (List.flatMap_eq_nil_iff.mp h p hp)

/-- With enough fuel the pieces of a text make it up, and none of them is empty. -/
theorem all_cut {fuel : Nat} {s : List Char} (hfuel : s.length ≤ fuel) :
    (all fuel s).flatMap chars = s ∧ ∀ p ∈ all fuel s, p.chars ≠ [] := by
  induction fuel generalizing s with
  | zero =>
    obtain rfl := List.length_eq_zero_iff.mp (Nat.le_zero.mp hfuel)
    simp [all]
  | succ fuel ih =>
    cases s with
    | nil => simp [all]
    | cons c r =>
      -- at least one character is cut off, so the fuel lasts for the rest
      obtain ⟨hpre, hne⟩ := next_cut c r
      have hpos := count_next_pos c r
      have hrest : ((c :: r).drop (count (next c r))).length ≤ fuel := by
        simp only [List.length_drop, List.length_cons] at *
        omega
      obtain ⟨hall, hallne⟩ := ih hrest
      refine ⟨?_, ?_⟩
      · simp only [all, List.flatMap_append, hall]
        exact append_drop_of_prefix hpre
      · intro p hp
        rcases List.mem_append.mp hp with hp | hp
        · exact hne p hp
        · exact hallne p hp

end Piece

end GoStructs.Syntax
