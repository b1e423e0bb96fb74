import GoStructs.Source.Location
import Mathlib.Algebra.Group.Nat.Defs
/-! # Places of a text

A position means something for a text only if it stands behind one of the text's prefixes.  Such
positions are told apart by their offsets, and row and column tell them apart in the same order.
So a piece of the text between two of them is found by offsets as well as by rows and columns. -/

namespace GoStructs

/-! ## Sizes and slices -/

@[simp] theorem byteSize_nil : byteSize [] = 0 := rfl

@[simp] theorem byteSize_cons (c : Char) (s : List Char) :
    byteSize (c :: s) = c.utf8Size + byteSize s := rfl

@[simp] theorem byteSize_append (s t : List Char) :
    byteSize (s ++ t) = byteSize s + byteSize t := by
  induction s with
  | nil => simp
  | cons c s ih => simp [ih, Nat.add_assoc]

theorem byteSize_pos {s : List Char} (h : s ≠ []) : 0 < byteSize s := by
  cases s with
  | nil => exact absurd rfl h
  | cons c s =>
    have := c.utf8Size_pos
    simp only [byteSize_cons]
    omega

theorem sliceBytes_zero (s : List Char) (start : Nat) : sliceBytes s start 0 = [] := by
  cases s <;> simp [sliceBytes]

theorem sliceBytes_of_append (b c : List Char) : sliceBytes (b ++ c) 0 (byteSize b) = b := by
  induction b with
  | nil => exact sliceBytes_zero c 0
  | cons d b ih =>
    have hpos := d.utf8Size_pos
    have hne : d.utf8Size + byteSize b ≠ 0 := by omega
    simp only [List.cons_append, byteSize_cons, sliceBytes, hne, if_false, if_true]
    simp [ih]

/-- The slice between the ends of two prefixes is what the longer has beyond the shorter. -/
theorem sliceBytes_append (a b c : List Char) :
    sliceBytes (a ++ b ++ c) (byteSize a) (byteSize (a ++ b)) = b := by
  induction a with
  | nil => simpa using sliceBytes_of_append b c
  | cons d a ih =>
    have hpos := d.utf8Size_pos
    have hstart : d.utf8Size + byteSize a ≠ 0 := by omega
    have hstop : d.utf8Size + byteSize (a ++ b) ≠ 0 := by omega
    simp only [List.cons_append, byteSize_cons, sliceBytes, hstart, hstop, if_false]
    simpa using ih

/-! ## Positions of a text -/

namespace Position

/-- The position stands behind a prefix of the text. -/
def In (text : List Char) (p : Position) : Prop :=
  ∃ a c, text = a ++ c ∧ p = origin.skip a

/-- The position stands in an earlier row, or in the same row in an earlier column. -/
def Before (p q : Position) : Prop :=
  p.row < q.row ∨ (p.row = q.row ∧ p.column < q.column)

@[simp] theorem offset_origin_skip (a : List Char) : (origin.skip a).offset = byteSize a := by
  simp [offset_skip, origin]

/-- Neither the row nor the column of a position is greater than its offset. -/
theorem row_column_skip_le (a : List Char) (p : Position) (hrow : p.row ≤ p.offset)
    (hcol : p.column ≤ p.offset) :
    (p.skip a).row ≤ (p.skip a).offset ∧ (p.skip a).column ≤ (p.skip a).offset := by
  induction a generalizing p with
  | nil => exact ⟨hrow, hcol⟩
  | cons c a ih =>
    have hpos := c.utf8Size_pos
    refine ih (p.next c) ?_ ?_ <;> unfold next <;> split <;> simp <;> omega

theorem In.row_le {text : List Char} {p : Position} (h : p.In text) : p.row ≤ byteSize text := by
  obtain ⟨a, c, rfl, rfl⟩ := h
  have := (row_column_skip_le a origin (Nat.le_refl _) (Nat.le_refl _)).1
  simp only [offset_origin_skip] at this
  simp only [byteSize_append]
  omega

theorem In.column_le {text : List Char} {p : Position} (h : p.In text) :
    p.column ≤ byteSize text := by
  obtain ⟨a, c, rfl, rfl⟩ := h
  have := (row_column_skip_le a origin (Nat.le_refl _) (Nat.le_refl _)).2
  simp only [offset_origin_skip] at this
  simp only [byteSize_append]
  omega

/-- Two positions of a text in the order of their offsets cut it into three. -/
theorem In.between {text : List Char} {p q : Position} (hp : p.In text) (hq : q.In text)
    (hle : p.offset ≤ q.offset) :
    ∃ a b c, text = a ++ b ++ c ∧ p = origin.skip a ∧ q = origin.skip (a ++ b) := by
  -- of two prefixes of one text, one is a prefix of the other
  obtain ⟨a, c, htext, rfl⟩ := hp
  obtain ⟨a', c', htext', rfl⟩ := hq
  rcases List.prefix_or_prefix_of_prefix ⟨c, htext.symm⟩ ⟨c', htext'.symm⟩ with h | h
  · obtain ⟨b, rfl⟩ := h
    exact ⟨a, b, c', htext', rfl, rfl⟩
  · -- the later position cannot have the shorter prefix, unless both prefixes are the same
    obtain ⟨b, rfl⟩ := h
    have hb : b = [] := by
      apply Classical.byContradiction
      intro hne
      have := byteSize_pos hne
      simp at hle
      omega
    subst hb
    exact ⟨a', [], c', by simpa using htext', by simp, by simp⟩

/-! ## Rows and columns keep the order -/

theorem before_next (p : Position) (c : Char) : p.Before (p.next c) := by
  have hpos := c.utf8Size_pos
  unfold next Before
  split <;> simp
  omega

theorem Before.trans {p q r : Position} (hpq : p.Before q) (hqr : q.Before r) : p.Before r := by
  unfold Before at *
  omega

theorem before_skip (p : Position) {a : List Char} (h : a ≠ []) : p.Before (p.skip a) := by
  induction a generalizing p with
  | nil => exact absurd rfl h
  | cons c a ih =>
    cases a with
    | nil => exact before_next p c
    | cons d a => exact (before_next p c).trans (ih (p.next c) (by simp))

/-- Of two positions of a text, the one with the smaller offset comes first by row and column. -/
theorem In.before {text : List Char} {p q : Position} (hp : p.In text) (hq : q.In text)
    (hlt : p.offset < q.offset) : p.Before q := by
  obtain ⟨a, b, c, -, rfl, rfl⟩ := hp.between hq (Nat.le_of_lt hlt)
  -- at least one character stands between the two
  rw [skip_append]
  apply before_skip
  rintro rfl
  simp at hlt

/-- Rows keep the order of offsets. -/
theorem In.row_le_row {text : List Char} {p q : Position} (hp : p.In text) (hq : q.In text)
    (hle : p.offset ≤ q.offset) : p.row ≤ q.row := by
  obtain ⟨a, b, c, -, rfl, rfl⟩ := hp.between hq hle
  rw [skip_append]
  by_cases hb : b = []
  · rw [hb]
    exact Nat.le_refl _
  · have hbefore := before_skip (origin.skip a) hb
    unfold Before at hbefore
    omega

end Position

/-! ## Locations of positions

In a text of fewer than 2³² - 1 bytes rows and columns, counted from one, are 32-bit numbers. -/

theorem toNat_toUInt32_of_lt {n : Nat} (h : n < 2 ^ 32) : n.toUInt32.toNat = n := by
  simp only [Nat.toUInt32, UInt32.toNat_ofNat']
  omega

namespace Location

variable {text : List Char} {p q : Position}

theorem line_between (hsize : byteSize text < 2 ^ 32 - 1) (hp : p.In text) (file : String)
    (q : Position) : (between file p q).line.toNat = p.row + 1 := by
  have := hp.row_le
  exact toNat_toUInt32_of_lt (by omega)

theorem column_between (hsize : byteSize text < 2 ^ 32 - 1) (hp : p.In text) (file : String)
    (q : Position) : (between file p q).column.toNat = p.column + 1 := by
  have := hp.column_le
  exact toNat_toUInt32_of_lt (by omega)

theorem endLine_between (hsize : byteSize text < 2 ^ 32 - 1) (hq : q.In text) (file : String)
    (p : Position) : (between file p q).endLine.toNat = q.row + 1 := by
  have := hq.row_le
  exact toNat_toUInt32_of_lt (by omega)

theorem endColumn_between (hsize : byteSize text < 2 ^ 32 - 1) (hq : q.In text) (file : String)
    (p : Position) : (between file p q).endColumn.toNat = q.column + 1 := by
  have := hq.column_le
  exact toNat_toUInt32_of_lt (by omega)

/-- Of two pieces of a text, the one that begins first is the first by line and column. -/
theorem place_lt_of_offset_lt (hsize : byteSize text < 2 ^ 32 - 1) (hp : p.In text)
    (hq : q.In text) (hlt : p.offset < q.offset) (file : String) (p' q' : Position) :
    (between file p p').line < (between file q q').line
      ∨ ((between file p p').line = (between file q q').line
        ∧ (between file p p').column < (between file q q').column) := by
  have hplace := hp.before hq hlt
  rw [UInt32.lt_iff_toNat_lt, UInt32.lt_iff_toNat_lt, ← UInt32.toNat_inj,
    line_between hsize hp, line_between hsize hq, column_between hsize hp,
    column_between hsize hq]
  unfold Position.Before at hplace
  omega

/-- Even where rows and columns, counted from one, are cut off to 32 bits, two pieces of a text do
not begin at the same line and column if offsets in the text are 32-bit numbers. -/
theorem place_ne_of_offset_lt (hsize : byteSize text < 2 ^ 32) (hp : p.In text) (hq : q.In text)
    (hlt : p.offset < q.offset) (file : String) (p' q' : Position)
    (hline : (between file p p').line = (between file q q').line) :
    (between file p p').column ≠ (between file q q').column := by
  have hplace := hp.before hq hlt
  have hrow := hq.row_le
  have hcolumn := hq.column_le
  unfold Position.Before at hplace
  -- numbers less than 2³² apart are told apart by their last 32 bits
  have hlast : ∀ {m n : Nat}, m ≤ n → n < 2 ^ 32 →
      (m + 1).toUInt32 = (n + 1).toUInt32 → m = n := by
    intro m n hle hn heq
    have hmod := congrArg UInt32.toNat heq
    simp only [Nat.toUInt32, UInt32.toNat_ofNat'] at hmod
    omega
  have hsamerow : p.row = q.row := hlast (by omega) (by omega) hline
  intro hsame
  have hsamecolumn : p.column = q.column := hlast (by omega) (by omega) hsame
  omega

end Location

end GoStructs
