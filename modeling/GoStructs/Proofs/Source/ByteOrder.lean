import GoStructs.Proofs.Source.Bytes
import Mathlib.Data.String.Basic
/-! # The order of texts and of their bytes

Texts are ordered by their characters.  In UTF-8 the characters of more bytes are the greater ones
and begin with a greater byte, and those of as many bytes differ first in a byte that is greater for
the greater one.  So the order of texts is that of their bytes, compared one after the other.

## Main statements

* `encodeChar_isBelow`: how the bytes of two characters differ.
* `textBytes_lt_iff`: the order of texts is that of their bytes. -/

namespace GoStructs

/-- The bytes of a text in UTF-8. -/
def textBytes (s : String) : List UInt8 := s.toByteArray.data.toList

/-- Neither list of bytes begins with the other, and where they differ first, the first has the
lesser byte. -/
def IsBelow : List UInt8 → List UInt8 → Prop
  | a :: as, b :: bs => a < b ∨ (a = b ∧ IsBelow as bs)
  | _, _ => False

/-- Whatever is behind does not count. -/
theorem IsBelow.append_lt {as bs : List UInt8} (h : IsBelow as bs) (cs ds : List UInt8) :
    as ++ cs < bs ++ ds := by
  induction as generalizing bs with
  | nil => cases h
  | cons a as ih =>
    cases bs with
    | nil => cases h
    | cons b bs =>
      rw [List.cons_append, List.cons_append, List.cons_lt_cons_iff]
      rcases h with hlt | ⟨heq, h⟩
      · exact .inl hlt
      · exact .inr ⟨heq, ih h⟩

/-- Of two characters the lesser one has the lesser bytes. -/
theorem encodeChar_isBelow {c d : Char} (h : c < d) :
    IsBelow (String.utf8EncodeChar c) (String.utf8EncodeChar d) := by
  have hlt : c.val.toNat < d.val.toNat := h
  have hd : d.val.toNat < 0x110000 := by
    rcases d.valid with hd | ⟨-, hd⟩
    all_goals omega
  -- for any two numbers of bytes, the bytes are digits of the two code points
  unfold String.utf8EncodeChar
  generalize c.val.toNat = m at hlt
  generalize d.val.toNat = n at hlt hd
  simp only
  split_ifs
  all_goals
    simp (disch := omega) only [IsBelow, UInt8.lt_iff_toNat_lt, ← UInt8.toNat_inj,
      UInt8.toNat_ofNat', Nat.mod_eq_of_lt]
    omega

theorem utf8Encode_lt {s t : List Char} (h : s < t) :
    s.utf8Encode.data.toList < t.utf8Encode.data.toList := by
  induction s generalizing t with
  | nil =>
    cases t with
    | nil => exact absurd h (List.lt_irrefl _)
    | cons d t =>
      obtain ⟨b, bs, hbytes⟩ :=
        List.exists_cons_of_ne_nil (String.utf8EncodeChar_ne_nil (c := d))
      rw [toList_data_utf8Encode_cons, hbytes]
      exact List.nil_lt_cons b _
  | cons c s ih =>
    cases t with
    | nil => exact absurd h (List.not_lt_nil _)
    | cons d t =>
      rw [toList_data_utf8Encode_cons, toList_data_utf8Encode_cons]
      rcases List.cons_lt_cons_iff.mp h with hlt | ⟨rfl, hlt⟩
      · exact (encodeChar_isBelow hlt).append_lt _ _
      · exact List.append_left_lt (ih hlt)

/-- The order of texts is that of their bytes. -/
theorem textBytes_lt_iff {s t : String} : textBytes s < textBytes t ↔ s < t := by
  -- both orders are total, so it is enough that the one agrees with the other in one direction
  have hmono : ∀ {s t : String}, s < t → textBytes s < textBytes t := by
    intro s t h
    have hlt := utf8Encode_lt (String.lt_iff_toList_lt.mp h)
    rwa [String.utf8Encode_toList, String.utf8Encode_toList] at hlt
  constructor
  · intro h
    rcases lt_trichotomy s t with hlt | rfl | hgt
    · exact hlt
    · exact absurd h (List.lt_irrefl _)
    · exact absurd (hmono hgt) (List.lt_asymm h)
  · exact hmono

end GoStructs
