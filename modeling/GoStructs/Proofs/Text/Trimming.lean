import GoStructs.Text.CodePoint
import Mathlib.Data.List.DropRight
/-! # Taking characters off the ends

White space is taken off both ends of a text, and so are quotation marks.  What is left is the one
part of the text with nothing but such characters around it and none at its own ends.

## Main statements

* `Text.IsCore`: what is left of a text.
* `Text.dropEnds_eq_iff`, `Text.trim_eq_iff`: it is what is computed. -/

namespace GoStructs.Text

variable {p : Char → Bool} {s t : List Char}

/-- Of the text `s` the part `t` is left if the characters that pass the test are taken off both
ends. -/
structure IsCore (p : Char → Bool) (s t : List Char) : Prop where
  around : ∃ front back, s = front ++ t ++ back ∧ (∀ c ∈ front, p c) ∧ ∀ c ∈ back, p c
  first : ∀ c ∈ t.head?, p c = false
  last : ∀ c ∈ t.getLast?, p c = false

/-- A text without such characters at its ends, behind some of them. -/
theorem dropWhile_append_of_head {front : List Char} (hfront : ∀ c ∈ front, p c)
    (hfirst : ∀ c ∈ t.head?, p c = false) : (front ++ t).dropWhile p = t := by
  rw [List.dropWhile_append_of_pos hfront]
  cases t with
  | nil => rfl
  | cons c t =>
    have hc : p c = false := hfirst c rfl
    rw [List.dropWhile_cons_of_neg (by simp [hc])]

theorem dropEnds_of_isCore (h : IsCore p s t) : (s.dropWhile p).rdropWhile p = t := by
  obtain ⟨⟨front, back, rfl, hfront, hback⟩, hfirst, hlast⟩ := h
  cases t with
  | nil =>
    -- nothing is left of characters that all pass the test
    have hall : ∀ c ∈ front ++ [] ++ back, p c := by
      intro c hc
      rw [List.append_nil] at hc
      exact (List.mem_append.mp hc).elim (hfront c) (hback c)
    rw [List.dropWhile_eq_nil_iff.mpr hall, List.rdropWhile_nil]
  | cons c t =>
    have hback' : ∀ c ∈ back.reverse, p c := fun c hc => hback c (List.mem_reverse.mp hc)
    have hlast' : ∀ d ∈ (c :: t).reverse.head?, p d = false := by
      rw [List.head?_reverse]
      exact hlast
    rw [List.append_assoc, dropWhile_append_of_head hfront (by simpa using hfirst),
      List.rdropWhile, List.reverse_append, dropWhile_append_of_head hback' hlast',
      List.reverse_reverse]

theorem head?_dropWhile (p : Char → Bool) (s : List Char) :
    ∀ c ∈ (s.dropWhile p).head?, p c = false := by
  intro c hc
  have hnot := List.head?_dropWhile_not p s
  rw [Option.mem_def.mp hc] at hnot
  exact hnot

theorem isCore_dropEnds (p : Char → Bool) (s : List Char) :
    IsCore p s ((s.dropWhile p).rdropWhile p) := by
  refine ⟨⟨s.takeWhile p, (s.dropWhile p).rtakeWhile p, ?_, ?_, ?_⟩, ?_, ?_⟩
  · rw [List.append_assoc, List.rdropWhile_append_rtakeWhile, List.takeWhile_append_dropWhile]
  · exact fun c hc => List.mem_takeWhile_imp hc
  · exact fun c hc => List.mem_rtakeWhile_imp hc
  · -- what is left begins where the part without such characters in front does
    intro c hc
    obtain ⟨rest, hrest⟩ := List.rdropWhile_prefix p (l := s.dropWhile p)
    apply head?_dropWhile p s c
    rw [← hrest, List.head?_append, Option.mem_def.mp hc]
    rfl
  · intro c hc
    rw [List.rdropWhile, List.getLast?_reverse] at hc
    exact head?_dropWhile p _ c hc

/-- What is left is what is computed. -/
theorem dropEnds_eq_iff : (s.dropWhile p).rdropWhile p = t ↔ IsCore p s t := by
  constructor
  · rintro rfl
    exact isCore_dropEnds p s
  · exact dropEnds_of_isCore

/-- Further such characters change nothing. -/
theorem IsCore.append (h : IsCore p s t) {more : List Char} (hmore : ∀ c ∈ more, p c) :
    IsCore p (s ++ more) t := by
  obtain ⟨⟨front, back, rfl, hfront, hback⟩, hfirst, hlast⟩ := h
  refine ⟨⟨front, back ++ more, by simp, hfront, ?_⟩, hfirst, hlast⟩
  intro c hc
  exact (List.mem_append.mp hc).elim (hback c) (hmore c)

/-- What is left does not end in such characters. -/
theorem IsCore.eq_nil_of_all {a b : List Char} (h : IsCore p s (a ++ b)) (hb : ∀ c ∈ b, p c) :
    b = [] := by
  rw [← List.getLast?_eq_none_iff, Option.eq_none_iff_forall_ne_some]
  intro c hc
  have hlast := h.last c (by rw [List.getLast?_append, hc]; rfl)
  rw [hb c (List.mem_of_getLast? hc)] at hlast
  cases hlast

/-! ## White space -/

theorem trim_eq_iff : trim s = t ↔ IsCore isBlank s t := dropEnds_eq_iff

theorem isCore_trim (s : List Char) : IsCore isBlank s (trim s) := trim_eq_iff.mp rfl

end GoStructs.Text
