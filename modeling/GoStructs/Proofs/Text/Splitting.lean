/-! # Texts with marks between their parts

Splitting a text at a mark and joining parts with the mark between them undo each other; the core
library says so.  Here are the facts about the two that it does not have. -/

namespace GoStructs.Text

variable {α : Type} {mark c : α} {a b part p q : List α} {front parts rest : List (List α)}

/-! ## Joining -/

theorem intercalate_cons (part : List α) (h : parts ≠ []) :
    [mark].intercalate (part :: parts) = part ++ mark :: [mark].intercalate parts := by
  rw [List.intercalate_cons_of_ne_nil h, List.append_assoc, List.singleton_append]

theorem intercalate_append (hfront : front ≠ []) (hrest : rest ≠ []) :
    [mark].intercalate (front ++ rest)
      = [mark].intercalate front ++ mark :: [mark].intercalate rest := by
  induction front with
  | nil => exact absurd rfl hfront
  | cons part front ih =>
    by_cases hnil : front = []
    · simp [hnil, intercalate_cons _ hrest]
    · rw [List.cons_append, intercalate_cons part (by simp [hnil]), ih hnil,
        intercalate_cons part hnil, List.append_assoc, List.cons_append]

theorem intercalate_prefix (h : front <+: parts) (hne : front ≠ []) :
    [mark].intercalate front <+: [mark].intercalate parts := by
  obtain ⟨rest, rfl⟩ := h
  by_cases hrest : rest = []
  · simp [hrest]
  · rw [intercalate_append hne hrest]
    exact List.prefix_append _ _

/-- Two texts that are put together have the part in common where they meet. -/
theorem intercalate_append_intercalate (mark : α) (front rest : List (List α)) (p q : List α) :
    [mark].intercalate (front ++ [p]) ++ [mark].intercalate (q :: rest)
      = [mark].intercalate (front ++ (p ++ q) :: rest) := by
  have hmiddle : p ++ [mark].intercalate (q :: rest) = [mark].intercalate ((p ++ q) :: rest) := by
    by_cases hrest : rest = []
    · simp [hrest]
    · simp [intercalate_cons _ hrest]
  by_cases hfront : front = []
  · simpa [hfront] using hmiddle
  · rw [intercalate_append hfront (by simp), intercalate_append hfront (by simp), ← hmiddle,
      List.intercalate_singleton, List.append_assoc, List.cons_append]

theorem mem_intercalate_iff (hc : c ≠ mark) :
    c ∈ [mark].intercalate parts ↔ ∃ part ∈ parts, c ∈ part := by
  induction parts with
  | nil => simp
  | cons part parts ih =>
    by_cases hparts : parts = []
    · simp [hparts]
    · simp [intercalate_cons part hparts, ih, hc]

/-! ## Splitting -/

variable [BEq α] [LawfulBEq α]

/-- No part has the mark inside it. -/
theorem not_mem_of_mem_splitOn (h : part ∈ a.splitOn mark) : mark ∉ part := by
  induction a generalizing part with
  | nil => simp_all
  | cons c s ih =>
    obtain ⟨q, qs, hq⟩ := List.exists_cons_of_ne_nil (List.splitOn_ne_nil mark s)
    rw [List.splitOn_cons_eq_if_modifyHead] at h
    split at h
    · rcases List.mem_cons.mp h with rfl | h
      · exact List.not_mem_nil
      · exact ih h
    · next hc =>
      -- the character belongs to the first part of the rest
      rw [hq, List.modifyHead_cons] at h
      rcases List.mem_cons.mp h with rfl | h
      · have hfirst : mark ∉ q := ih (by simp [hq])
        have hmark : mark ≠ c := fun heq => hc (by simp [heq])
        simp [hfirst, hmark]
      · exact ih (by simp [hq, h])

theorem splitOn_append_of_eq (ha : a.splitOn mark = front ++ [p])
    (hb : b.splitOn mark = q :: rest) :
    (a ++ b).splitOn mark = front ++ (p ++ q) :: rest := by
  have hjoin : a ++ b = [mark].intercalate (front ++ (p ++ q) :: rest) := by
    rw [← intercalate_append_intercalate, ← ha, ← hb, List.intercalate_splitOn,
      List.intercalate_splitOn]
  have hfront : ∀ part ∈ front ++ [p], mark ∉ part := fun part hmem =>
    not_mem_of_mem_splitOn (ha ▸ hmem)
  have hrest : ∀ part ∈ q :: rest, mark ∉ part := fun part hmem =>
    not_mem_of_mem_splitOn (hb ▸ hmem)
  have hmarks : ∀ part ∈ front ++ (p ++ q) :: rest, mark ∉ part := by
    intro part hmem
    rcases List.mem_append.mp hmem with hmem | hmem
    · exact hfront part (List.mem_append_left _ hmem)
    · rcases List.mem_cons.mp hmem with rfl | hmem
      · simp [hfront p (by simp), hrest q (by simp)]
      · exact hrest part (List.mem_cons_of_mem _ hmem)
  rw [hjoin]
  exact List.splitOn_intercalate mark hmarks (by simp)

end GoStructs.Text
