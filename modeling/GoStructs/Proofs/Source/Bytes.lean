import GoStructs.Proofs.Source.Places
import GoStructs.World.Files
/-! # The bytes of a text

A reader who has nothing but the bytes of a file finds a place by its line and column: the lines
are ended by the line feed, and columns count bytes.  In UTF-8 the byte of the line feed stands for
nothing else, so the place that is found is the one that the position of the text tells.

## Main statements

* `rowStart_skip`: where a row begins among the bytes.
* `Location.cut_between`: a location cuts from the bytes the text between its two positions.
* `World.readBytes_of_readText`: the bytes of a file are those of its text. -/

namespace GoStructs

/-! ## Where rows begin -/

/-- The byte of the line feed. -/
def lineFeed : UInt8 := 10

/-- How many bytes stand in front of a row, if rows are counted from zero. -/
def rowStart : Nat → List UInt8 → Nat
  | 0, _ => 0
  | _ + 1, [] => 0
  | n + 1, b :: bs => 1 + if b = lineFeed then rowStart n bs else rowStart (n + 1) bs

/-- The bytes from the line and column where the location begins up to those where it ends. -/
def Location.cut (l : Location) (bytes : ByteArray) : ByteArray :=
  let start := rowStart (l.line.toNat - 1) bytes.data.toList + (l.column.toNat - 1)
  let stop := rowStart (l.endLine.toNat - 1) bytes.data.toList + (l.endColumn.toNat - 1)
  bytes.extract start stop

theorem lineFeed_ne_ofNat {n : Nat} (h : 128 ≤ n) (h' : n < 256) : lineFeed ≠ UInt8.ofNat n := by
  intro heq
  have : lineFeed.toNat = (UInt8.ofNat n).toNat := congrArg UInt8.toNat heq
  rw [UInt8.toNat_ofNat', Nat.mod_eq_of_lt h'] at this
  have : lineFeed.toNat = 10 := rfl
  omega

/-- In UTF-8 the byte of the line feed stands for nothing else. -/
theorem lineFeed_mem_iff {c : Char} : lineFeed ∈ String.utf8EncodeChar c ↔ c = '\n' := by
  constructor
  · intro h
    unfold String.utf8EncodeChar at h
    simp only at h
    split at h
    · next hv =>
      have heq : lineFeed.toNat = (UInt8.ofNat c.val.toNat).toNat :=
        congrArg UInt8.toNat (List.mem_singleton.mp h)
      rw [UInt8.toNat_ofNat', Nat.mod_eq_of_lt (by omega)] at heq
      exact Char.toNat_inj.mp heq.symm
    · -- every byte of a longer character is 128 or more
      exfalso
      split at h
      · simp only [List.mem_cons, List.not_mem_nil, or_false] at h
        rcases h with h | h
        all_goals exact lineFeed_ne_ofNat (by omega) (by omega) h
      · split at h
        · simp only [List.mem_cons, List.not_mem_nil, or_false] at h
          rcases h with h | h | h
          all_goals exact lineFeed_ne_ofNat (by omega) (by omega) h
        · simp only [List.mem_cons, List.not_mem_nil, or_false] at h
          rcases h with h | h | h | h
          all_goals exact lineFeed_ne_ofNat (by omega) (by omega) h
  · rintro rfl
    decide

theorem size_utf8Encode (s : List Char) : s.utf8Encode.size = byteSize s := by
  induction s with
  | nil => rfl
  | cons c s ih =>
    rw [List.utf8Encode_cons, ByteArray.size_append, ih, List.utf8Encode_singleton,
      List.size_toByteArray, String.length_utf8EncodeChar, byteSize_cons]

/-- The list of the bytes of a text, character by character. -/
theorem toList_data_utf8Encode_cons (c : Char) (s : List Char) :
    (c :: s).utf8Encode.data.toList = String.utf8EncodeChar c ++ s.utf8Encode.data.toList := by
  rw [List.utf8Encode_cons, ByteArray.toList_data_append, List.utf8Encode_singleton,
    List.data_toByteArray]

/-- Bytes without a line feed belong to the first row. -/
theorem rowStart_append {bs : List UInt8} (h : lineFeed ∉ bs) (n : Nat) (cs : List UInt8) :
    rowStart (n + 1) (bs ++ cs) = bs.length + rowStart (n + 1) cs := by
  induction bs with
  | nil => simp
  | cons b bs ih =>
    have hb : b ≠ lineFeed := fun heq => h (heq ▸ List.mem_cons_self)
    have hbs : lineFeed ∉ bs := fun hmem => h (List.mem_cons_of_mem _ hmem)
    rw [List.cons_append, rowStart, if_neg hb, ih hbs, List.length_cons]
    omega

/-- The row and the column behind a text, counted from a position on: the column counts from the
position's own as long as the row is the same. -/
theorem rowStart_skip_add (p : Position) (a : List Char) (cs : List UInt8) :
    ∃ n, (p.skip a).row = p.row + n
      ∧ rowStart n (a.utf8Encode.data.toList ++ cs) + (p.skip a).column
        = byteSize a + if n = 0 then p.column else 0 := by
  induction a generalizing p with
  | nil => exact ⟨0, by simp, by simp [rowStart]⟩
  | cons c a ih =>
    obtain ⟨n, hrow, hcol⟩ := ih (p.next c)
    rw [Position.skip_cons, toList_data_utf8Encode_cons, List.append_assoc, byteSize_cons]
    -- a line feed begins a row; any other character moves the column on
    by_cases hc : c = '\n'
    · subst hc
      have hbytes : String.utf8EncodeChar '\n' = [lineFeed] := by decide
      have hnext : p.next '\n' = ⟨p.offset + 1, p.row + 1, 0⟩ := rfl
      refine ⟨n + 1, by rw [hrow, hnext]; show p.row + 1 + n = _; omega, ?_⟩
      rw [hbytes, List.singleton_append, rowStart, if_pos rfl, if_neg (by omega)]
      have hcol' : (p.next '\n').column = 0 := by rw [hnext]
      rw [hcol', ite_self] at hcol
      have hsize : Char.utf8Size '\n' = 1 := by decide
      omega
    · have hbytes : lineFeed ∉ String.utf8EncodeChar c := fun h => hc (lineFeed_mem_iff.mp h)
      have hnext : p.next c = ⟨p.offset + c.utf8Size, p.row, p.column + c.utf8Size⟩ := by
        simp [Position.next, hc]
      refine ⟨n, by rw [hrow, hnext], ?_⟩
      rw [show (p.next c).column = p.column + c.utf8Size by rw [hnext]] at hcol
      cases n with
      | zero =>
        simp only [rowStart, if_true] at hcol ⊢
        omega
      | succ n =>
        rw [rowStart_append hbytes, String.length_utf8EncodeChar]
        simp only [Nat.add_one_ne_zero, if_false] at hcol ⊢
        omega

/-- The row of a position begins among the bytes as many bytes before the position as its column
tells. -/
theorem rowStart_skip (a c : List Char) :
    rowStart (Position.origin.skip a).row (a ++ c).utf8Encode.data.toList
      + (Position.origin.skip a).column = byteSize a := by
  obtain ⟨n, hrow, hcol⟩ := rowStart_skip_add .origin a c.utf8Encode.data.toList
  have hn : (Position.origin.skip a).row = n := by
    rw [hrow]
    show 0 + n = n
    omega
  rw [List.utf8Encode_append, ByteArray.toList_data_append, hn, hcol]
  show byteSize a + (if n = 0 then 0 else 0) = byteSize a
  simp

/-! ## Cutting by locations -/

/-- A location cuts from the bytes of a text what the text has between its two positions. -/
theorem Location.cut_between {text : List Char} {p q : Position}
    (hsize : byteSize text < 2 ^ 32 - 1) (hp : p.In text) (hq : q.In text)
    (hle : p.offset ≤ q.offset) (file : String) :
    (Location.between file p q).cut text.utf8Encode
      = (sliceBytes text p.offset q.offset).utf8Encode := by
  have hline := line_between hsize hp file q
  have hcolumn := column_between hsize hp file q
  have hendLine := endLine_between hsize hq file p
  have hendColumn := endColumn_between hsize hq file p
  obtain ⟨a, b, c, rfl, rfl, rfl⟩ := hp.between hq hle
  have hstart := rowStart_skip a (b ++ c)
  have hstop := rowStart_skip (a ++ b) c
  rw [← List.append_assoc] at hstart
  unfold cut
  simp only [hline, hcolumn, hendLine, hendColumn, Nat.add_sub_cancel, hstart, hstop,
    Position.offset_origin_skip, sliceBytes_append]
  rw [byteSize_append, ← size_utf8Encode a, ← size_utf8Encode b, List.utf8Encode_append,
    List.utf8Encode_append, ByteArray.append_assoc]
  -- the text in front and the text behind are cut off one after the other
  have hcut := ByteArray.extract_append_size_add (a := a.utf8Encode)
    (b := b.utf8Encode ++ c.utf8Encode) (i := 0) (j := b.utf8Encode.size)
  rw [Nat.add_zero] at hcut
  rw [hcut, ByteArray.extract_append_eq_left rfl]

/-- The bytes of a file are those of its text. -/
theorem World.readBytes_of_readText {w : World} {path : Path} {text : String}
    (h : w.readText path = .ok text) : w.readBytes path = .ok text.toByteArray := by
  unfold readText at h
  split at h
  · cases h
  · next bytes hbytes =>
    unfold String.fromUTF8? at h
    split at h
    · next htext =>
      split at htext
      · cases h
        cases htext
        exact hbytes
      · cases htext
    · cases h

/-- A file with the bytes of a text is read as that text. -/
theorem World.readText_of_readBytes {w : World} {path : Path} {text : String}
    (h : w.readBytes path = .ok text.toByteArray) : w.readText path = .ok text := by
  rw [readText, h]
  simp only [String.fromUTF8?, String.isValidUTF8, dite_true]
  rfl

end GoStructs
