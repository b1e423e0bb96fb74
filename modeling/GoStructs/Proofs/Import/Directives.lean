import GoStructs.Import.Module
import GoStructs.Proofs.Text.Trimming
import Mathlib.Data.List.Infix
/-! # Module directives

A module file is looked through line by line, and the first line that gives the module a path
counts.  Lines are ended by a line feed with or without a carriage return in front of it, and the
last line need not be ended at all.

## Main statements

* `mem_linesOf_iff`: the lines of a text.
* `directiveOf?_eq_some_iff`: which lines give a path, and which path that is.
* `moduleDirective?_append`: one line of a module file, and what is behind it.
* `moduleDirective?_of_directives`: plain directives are read as they are meant, and there is no
  path only if no line gives one. -/

namespace GoStructs.Import

open GoStructs.Text (IsCore isBlank trim)

variable {line code path text rest : List Char}

/-! ## Comments -/

/-- The part of a line in front of its first `//`, or all of a line without one. -/
def IsCode (line code : List Char) : Prop :=
  (line = code ∨ ∃ comment, line = code ++ '/' :: '/' :: comment)
    ∧ ∀ front back, line = front ++ '/' :: '/' :: back → code.length ≤ front.length

theorem IsCode.unique {code' : List Char} (h : IsCode line code) (h' : IsCode line code') :
    code = code' := by
  -- neither is longer than the other, and the line begins with both
  have hle : ∀ {a b : List Char}, IsCode line a → IsCode line b → a.length ≤ b.length := by
    intro a b ha hb
    rcases hb.1 with hline | ⟨comment, hline⟩
    · rcases ha.1 with hline' | ⟨comment, hline'⟩
      · rw [← hline, ← hline']
      · rw [← hline, hline', List.length_append]
        omega
    · exact ha.2 b comment hline
  have hbegins : ∀ {a : List Char}, IsCode line a → a <+: line := by
    intro a ha
    rcases ha.1 with hline | ⟨comment, hline⟩
    · exact hline ▸ List.prefix_refl _
    · exact ⟨_, hline.symm⟩
  have hlength : code.length = code'.length := Nat.le_antisymm (hle h h') (hle h' h)
  exact (List.prefix_of_prefix_length_le (hbegins h) (hbegins h') hlength.le).eq_of_length hlength

/-- A character that does not begin a comment. -/
theorem withoutComment_cons {c : Char} (h : c = '/' → rest.head? ≠ some '/') :
    withoutComment (c :: rest) = c :: withoutComment rest := by
  rw [withoutComment]
  rintro r rfl rfl
  exact h rfl rfl

theorem isCode_withoutComment (line : List Char) : IsCode line (withoutComment line) := by
  fun_induction withoutComment line with
  | case1 => exact ⟨.inl rfl, by simp⟩
  | case2 comment => exact ⟨.inr ⟨comment, rfl⟩, by simp⟩
  | case3 c rest hno ih =>
    obtain ⟨hsplit, hfirst⟩ := ih
    constructor
    · rcases hsplit with heq | ⟨comment, heq⟩
      · exact .inl (congrArg (c :: ·) heq)
      · exact .inr ⟨comment, congrArg (c :: ·) heq⟩
    · intro front back heq
      cases front with
      | nil =>
        obtain ⟨rfl, hrest⟩ := List.cons.inj heq
        exact (hno _ rfl hrest).elim
      | cons d front =>
        obtain ⟨rfl, hrest⟩ := List.cons.inj heq
        exact Nat.succ_le_succ (hfirst front back hrest)

theorem withoutComment_eq_iff : withoutComment line = code ↔ IsCode line code := by
  constructor
  · rintro rfl
    exact isCode_withoutComment line
  · exact (isCode_withoutComment line).unique

/-- A text in which no comment begins, nor at its end. -/
theorem withoutComment_append {front : List Char}
    (h : ∀ a b, front = a ++ '/' :: b → (b ++ rest).head? ≠ some '/') :
    withoutComment (front ++ rest) = front ++ withoutComment rest := by
  induction front with
  | nil => rfl
  | cons c front ih =>
    rw [List.cons_append, withoutComment_cons, ih, List.cons_append]
    · intro a b hsplit
      exact h (c :: a) b (by rw [hsplit, List.cons_append])
    · rintro rfl
      exact h [] front rfl

/-! ## Lines that give a path -/

/-- The line gives the module the path: what stands in front of its first `//` is, without the white
space around it, the word `module`, white space, and something that is the path but for quotation
marks around it; and the path is not empty. -/
def GivesPath (line path : List Char) : Prop :=
  ∃ code gap quoted, IsCode line code ∧ IsCore isBlank code (directiveWord ++ gap ++ quoted)
    ∧ gap ≠ [] ∧ (∀ c ∈ gap, isBlank c) ∧ (∀ c ∈ quoted.head?, isBlank c = false)
    ∧ IsCore isPathMark quoted path ∧ path ≠ []

theorem withoutMarks_eq_iff {s : List Char} :
    withoutMarks s = path ↔ IsCore isPathMark s path := Text.dropEnds_eq_iff

theorem givesPath_of_directiveOf? (h : directiveOf? line = some path) : GivesPath line path := by
  simp only [directiveOf?, Option.ite_none_right_eq_some] at h
  obtain ⟨hword, h⟩ := h
  obtain ⟨behind, hbody⟩ := List.isPrefixOf_iff_prefix.mp hword
  have hcode := Text.isCore_trim (withoutComment line)
  rw [← hbody, List.drop_left] at h
  rw [← hbody] at hcode
  cases hhead : behind.head? with
  | none =>
    rw [hhead] at h
    cases h
  | some c =>
    rw [hhead] at h
    simp only [Option.ite_none_right_eq_some, Option.ite_none_left_eq_some, List.isEmpty_iff,
      Option.some.injEq] at h
    obtain ⟨hc, hne, hpath⟩ := h
    have hmarks := withoutMarks_eq_iff.mp hpath
    rw [hpath] at hne
    have hquoted := Text.isCore_trim behind
    obtain ⟨gap, back, hsplit, hgap, hback⟩ := hquoted.around
    -- the white space behind has been taken off before
    have hbacknil : back = [] := by
      rw [hsplit, ← List.append_assoc] at hcode
      exact hcode.eq_nil_of_all hback
    rw [hbacknil, List.append_nil] at hsplit
    have hgapne : gap ≠ [] := by
      rintro rfl
      rw [List.nil_append] at hsplit
      have hnot := hquoted.first c (hsplit ▸ hhead)
      rw [hc] at hnot
      cases hnot
    refine ⟨_, gap, trim behind, isCode_withoutComment line, ?_, hgapne, hgap, hquoted.first,
      hmarks, hne⟩
    rwa [List.append_assoc, ← hsplit]

theorem directiveOf?_of_givesPath (h : GivesPath line path) : directiveOf? line = some path := by
  obtain ⟨code, gap, quoted, hcode, hbody, hgapne, hgap, hfirst, hmarks, hne⟩ := h
  obtain ⟨c, gap', rfl⟩ := List.exists_cons_of_ne_nil hgapne
  have hquoted : IsCore isBlank (c :: gap' ++ quoted) quoted := by
    refine ⟨⟨c :: gap', [], (List.append_nil _).symm, hgap, by simp⟩, hfirst, ?_⟩
    intro d hd
    exact hbody.last d (by rw [List.getLast?_append, Option.mem_def.mp hd]; rfl)
  have hword : directiveWord.isPrefixOf (directiveWord ++ (c :: gap' ++ quoted)) :=
    List.isPrefixOf_iff_prefix.mpr (List.prefix_append _ _)
  have hc : isBlank c := hgap c List.mem_cons_self
  rw [List.append_assoc] at hbody
  have hempty : ¬path.isEmpty := by simpa using hne
  rw [directiveOf?, withoutComment_eq_iff.mpr hcode, Text.trim_eq_iff.mpr hbody]
  simp only [hword, if_true, List.drop_left]
  rw [Text.trim_eq_iff.mpr hquoted, withoutMarks_eq_iff.mpr hmarks, List.cons_append,
    List.head?_cons]
  simp only [hc, if_true]
  rw [if_neg hempty]

/-- A line is a module directive if it gives a path. -/
theorem directiveOf?_eq_some_iff : directiveOf? line = some path ↔ GivesPath line path :=
  ⟨givesPath_of_directiveOf?, directiveOf?_of_givesPath⟩

theorem directiveOf?_eq_none_iff : directiveOf? line = none ↔ ∀ path, ¬GivesPath line path := by
  simp only [Option.eq_none_iff_forall_ne_some, ne_eq, directiveOf?_eq_some_iff]

/-! ## Lines -/

/-- How a line is ended. -/
inductive LineEnd where
  | feed
  | returnAndFeed
  deriving DecidableEq, Repr

/-- The characters of a line end. -/
def LineEnd.chars : LineEnd → List Char
  | feed => ['\n']
  | returnAndFeed => ['\r', '\n']

/-- A line of a text begins where the text does or behind a line feed, and has no line feed in it.
It goes up to a line end, where a carriage return in front of a line feed belongs to the line end;
or up to the end of the text, where an empty line is none. -/
def IsLineOf (line text : List Char) : Prop :=
  ∃ before after, text = before ++ line ++ after
    ∧ (before = [] ∨ before.getLast? = some '\n') ∧ '\n' ∉ line
    ∧ ((after = [] ∧ line ≠ []) ∨ (∃ rest, after = LineEnd.returnAndFeed.chars ++ rest)
      ∨ ((∃ rest, after = LineEnd.feed.chars ++ rest) ∧ line.getLast? ≠ some '\r'))

/-- A line without the carriage return that belongs to its end. -/
def withoutReturn (line : List Char) : List Char :=
  if line.getLast? = some '\r' then line.dropLast else line

theorem withoutReturn_concat (line : List Char) : withoutReturn (line ++ ['\r']) = line := by
  simp [withoutReturn]

theorem withoutReturn_of_ne (h : line.getLast? ≠ some '\r') : withoutReturn line = line :=
  if_neg h

theorem withoutReturn_cons {c : Char} (h : line = [] → c ≠ '\r') :
    withoutReturn (c :: line) = c :: withoutReturn line := by
  cases line with
  | nil => simp [withoutReturn, h rfl]
  | cons d line =>
    unfold withoutReturn
    rw [List.getLast?_cons_cons, List.dropLast_cons_of_ne_nil (List.cons_ne_nil d line)]
    split <;> rfl

/-- A character that ends no line stands in front of the first line behind it. -/
theorem linesOf_cons {c : Char} {lines : List (List Char)} (hc : c ≠ '\n')
    (hreturn : c = '\r' → rest.head? ≠ some '\n') (h : linesOf rest = line :: lines) :
    linesOf (c :: rest) = (c :: line) :: lines := by
  cases rest with
  | nil => cases h
  | cons d rest =>
    have hboth : ¬(c = '\r' ∧ (d :: rest).head? = some '\n') := fun hand => hreturn hand.1 hand.2
    rw [linesOf.eq_def]
    simp only [if_neg hc, if_neg hboth, h]

theorem linesOf_append (h : '\n' ∉ line) (rest : List Char) :
    linesOf (line ++ '\n' :: rest) = withoutReturn line :: linesOf rest := by
  induction line with
  | nil => rfl
  | cons c line ih =>
    rw [List.mem_cons, not_or] at h
    obtain ⟨hc, hline⟩ := h
    -- a carriage return right in front of the line feed belongs to the line end
    by_cases hend : line = [] ∧ c = '\r'
    · obtain ⟨rfl, rfl⟩ := hend
      rfl
    · have hreturn : line = [] → c ≠ '\r' := fun hnil heq => hend ⟨hnil, heq⟩
      rw [withoutReturn_cons hreturn]
      refine linesOf_cons (Ne.symm hc) ?_ (ih hline)
      intro heq hhead
      cases line with
      | nil => exact hreturn rfl heq
      | cons d line => exact hline (List.mem_cons.mpr (.inl (Option.some.inj hhead).symm))

/-- What has no line feed is a line, unless it is empty. -/
theorem linesOf_of_notMem (h : '\n' ∉ line) : linesOf line = if line = [] then [] else [line] := by
  induction line with
  | nil => rfl
  | cons c line ih =>
    rw [List.mem_cons, not_or] at h
    obtain ⟨hc, hline⟩ := h
    have hhead : line.head? ≠ some '\n' := fun hhead => hline (List.mem_of_head? hhead)
    rw [if_neg (List.cons_ne_nil c line)]
    cases line with
    | nil => rw [linesOf, if_neg (Ne.symm hc), if_neg (by simp)]
    | cons d line =>
      refine linesOf_cons (Ne.symm hc) (fun _ => hhead) ?_
      rw [ih hline, if_neg (List.cons_ne_nil d line)]

/-- The first line feed is at one place only. -/
theorem append_feed_inj {a b c d : List Char} (ha : '\n' ∉ a) (hc : '\n' ∉ c) :
    a ++ '\n' :: b = c ++ '\n' :: d ↔ a = c ∧ b = d := by
  induction a generalizing c with
  | nil =>
    cases c with
    | nil => simp
    | cons x c =>
      have hx : '\n' ≠ x := fun heq => hc (heq ▸ List.mem_cons_self)
      simp [hx]
  | cons x a ih =>
    rw [List.mem_cons, not_or] at ha
    cases c with
    | nil => simp [Ne.symm ha.1]
    | cons y c =>
      rw [List.mem_cons, not_or] at hc
      simp [ih ha.2 hc.2, and_assoc]

theorem isLineOf_of_notMem {text : List Char} (h : '\n' ∉ text) :
    IsLineOf line text ↔ line = text ∧ text ≠ [] := by
  constructor
  · rintro ⟨before, after, rfl, hbegin, -, hend⟩
    have hbefore : before = [] := by
      refine hbegin.resolve_right fun hlast => h ?_
      simp [List.mem_of_getLast? hlast]
    have hafter : after = [] ∧ line ≠ [] := by
      rcases hend with hend | ⟨rest, rfl⟩ | ⟨⟨rest, rfl⟩, -⟩
      · exact hend
      · exact absurd h (by simp [LineEnd.chars])
      · exact absurd h (by simp [LineEnd.chars])
    simp [hbefore, hafter]
  · rintro ⟨rfl, hne⟩
    exact ⟨[], [], by simp, .inl rfl, h, .inl ⟨rfl, hne⟩⟩

/-- The lines of a text with a line feed are that up to the first one, and the lines behind. -/
theorem isLineOf_append_iff {first : List Char} (h : '\n' ∉ first) :
    IsLineOf line (first ++ '\n' :: rest) ↔ line = withoutReturn first ∨ IsLineOf line rest := by
  constructor
  · rintro ⟨before, after, htext, hbegin, hline, hend⟩
    rcases hbegin with rfl | hlast
    · -- the line at the beginning of the text
      left
      rw [List.nil_append] at htext
      rcases hend with ⟨rfl, -⟩ | ⟨more, rfl⟩ | ⟨⟨more, rfl⟩, hreturn⟩
      · rw [List.append_nil] at htext
        exact absurd hline (by simp [← htext])
      · have hreturned : '\n' ∉ line ++ ['\r'] := by simp [hline]
        have hsplit : first ++ '\n' :: rest = (line ++ ['\r']) ++ '\n' :: more := by
          simp [htext, LineEnd.chars]
        rw [((append_feed_inj h hreturned).mp hsplit).1, withoutReturn_concat]
      · rw [((append_feed_inj h hline).mp htext).1, withoutReturn_of_ne hreturn]
    · -- a line behind a line feed, which is the first one or further behind
      right
      obtain ⟨front, rfl⟩ := List.getLast?_eq_some_iff.mp hlast
      by_cases hfront : '\n' ∈ front
      · obtain ⟨first', before, rfl, hfirst'⟩ := List.eq_append_cons_of_mem hfront
        have hsplit : first ++ '\n' :: rest
            = first' ++ '\n' :: (before ++ ['\n'] ++ line ++ after) := by simp [htext]
        exact ⟨before ++ ['\n'], after, ((append_feed_inj h hfirst').mp hsplit).2,
          .inr List.getLast?_concat, hline, hend⟩
      · have hsplit : first ++ '\n' :: rest = front ++ '\n' :: (line ++ after) := by simp [htext]
        exact ⟨[], after, ((append_feed_inj h hfront).mp hsplit).2, .inl rfl, hline, hend⟩
  · rintro (rfl | ⟨before, after, rfl, hbegin, hline, hend⟩)
    · by_cases hlast : first.getLast? = some '\r'
      · obtain ⟨line, rfl⟩ := List.getLast?_eq_some_iff.mp hlast
        rw [withoutReturn_concat]
        have hline : '\n' ∉ line := fun hmem => h (List.mem_append_left _ hmem)
        exact ⟨[], _, by simp [LineEnd.chars], .inl rfl, hline, .inr (.inl ⟨rest, rfl⟩)⟩
      · rw [withoutReturn_of_ne hlast]
        exact ⟨[], _, rfl, .inl rfl, h, .inr (.inr ⟨⟨rest, rfl⟩, hlast⟩)⟩
    · refine ⟨first ++ '\n' :: before, after, by simp, .inr ?_, hline, hend⟩
      rcases hbegin with rfl | hlast
      · simp
      · rw [List.getLast?_append, List.getLast?_cons, hlast]
        rfl

/-- The lines that are found are the lines of the text. -/
theorem mem_linesOf_iff {text : List Char} : line ∈ linesOf text ↔ IsLineOf line text := by
  induction hlength : text.length using Nat.strong_induction_on generalizing text with
  | h n ih =>
    by_cases hfeed : '\n' ∈ text
    · obtain ⟨first, rest, rfl, hfirst⟩ := List.eq_append_cons_of_mem hfeed
      rw [linesOf_append hfirst, isLineOf_append_iff hfirst, List.mem_cons,
        ih rest.length (by simp at hlength; omega) rfl]
    · rw [linesOf_of_notMem hfeed, isLineOf_of_notMem hfeed]
      split <;> simp_all

/-! ## A module file, line by line -/

/-- A carriage return behind a line is white space, or belongs to the comment. -/
theorem trim_withoutComment_concat (line : List Char) :
    trim (withoutComment (line ++ ['\r'])) = trim (withoutComment line) := by
  -- the carriage return stands in the comment, or it is white space at the end of what is left
  have hcases : withoutComment (line ++ ['\r']) = withoutComment line
      ∨ withoutComment (line ++ ['\r']) = withoutComment line ++ ['\r'] := by
    fun_induction withoutComment line with
    | case1 => exact .inr rfl
    | case2 comment => exact .inl rfl
    | case3 c rest hno ih =>
      have hcons : withoutComment (c :: rest ++ ['\r']) = c :: withoutComment (rest ++ ['\r']) := by
        refine withoutComment_cons fun hc hhead => ?_
        cases rest with
        | nil => cases hhead
        | cons d rest => exact hno rest hc (congrArg (· :: rest) (Option.some.inj hhead))
      rw [hcons]
      rcases ih with heq | heq
      · exact .inl (congrArg (c :: ·) heq)
      · exact .inr (congrArg (c :: ·) heq)
  rcases hcases with heq | heq
  · rw [heq]
  · have hblank : ∀ c ∈ ['\r'], isBlank c := List.forall_mem_singleton.mpr rfl
    rw [heq, Text.trim_eq_iff]
    exact (Text.isCore_trim _).append hblank

theorem directiveOf?_concat (line : List Char) :
    directiveOf? (line ++ ['\r']) = directiveOf? line := by
  unfold directiveOf?
  rw [trim_withoutComment_concat]

theorem directiveOf?_withoutReturn (line : List Char) :
    directiveOf? (withoutReturn line) = directiveOf? line := by
  by_cases hlast : line.getLast? = some '\r'
  · obtain ⟨line, rfl⟩ := List.getLast?_eq_some_iff.mp hlast
    rw [withoutReturn_concat, directiveOf?_concat]
  · rw [withoutReturn_of_ne hlast]

/-- The first line of a module file counts, if it gives a path, and else the lines behind it do. -/
theorem moduleDirective?_append (h : '\n' ∉ line) (e : LineEnd) (rest : List Char) :
    moduleDirective? (line ++ e.chars ++ rest)
      = (directiveOf? line).or (moduleDirective? rest) := by
  have hfeed : ∀ l : List Char, '\n' ∉ l →
      moduleDirective? (l ++ '\n' :: rest) = (directiveOf? l).or (moduleDirective? rest) := by
    intro l hl
    rw [moduleDirective?, linesOf_append hl, List.findSome?_cons, directiveOf?_withoutReturn,
      moduleDirective?]
    cases directiveOf? l <;> rfl
  cases e with
  | feed =>
    rw [List.append_assoc]
    exact hfeed line h
  | returnAndFeed =>
    have hreturned : '\n' ∉ line ++ ['\r'] := by simp [h]
    have hsplit : line ++ LineEnd.returnAndFeed.chars ++ rest
        = (line ++ ['\r']) ++ '\n' :: rest := by simp [LineEnd.chars]
    rw [hsplit, hfeed _ hreturned, directiveOf?_concat]

theorem moduleDirective?_of_notMem (h : '\n' ∉ line) :
    moduleDirective? line = directiveOf? line := by
  rw [moduleDirective?, linesOf_of_notMem h]
  by_cases hline : line = []
  · subst hline
    rfl
  · rw [if_neg hline, List.findSome?_cons, List.findSome?_nil]
    cases directiveOf? line <;> rfl

/-- Some lines with their ends. -/
def joined (lines : List (List Char × LineEnd)) : List Char :=
  lines.flatMap fun l => l.1 ++ l.2.chars

/-- Lines that give no path are passed over. -/
theorem moduleDirective?_joined {earlier : List (List Char × LineEnd)}
    (h : ∀ l ∈ earlier, '\n' ∉ l.1 ∧ ∀ path, ¬GivesPath l.1 path) (rest : List Char) :
    moduleDirective? (joined earlier ++ rest) = moduleDirective? rest := by
  induction earlier with
  | nil => rfl
  | cons l earlier ih =>
    obtain ⟨⟨hline, hnone⟩, hearlier⟩ := List.forall_mem_cons.mp h
    have hsplit : joined (l :: earlier) ++ rest = l.1 ++ l.2.chars ++ (joined earlier ++ rest) := by
      simp [joined]
    rw [hsplit, moduleDirective?_append hline, directiveOf?_eq_none_iff.mpr hnone, Option.none_or,
      ih hearlier]

/-! ## Plain directives -/

/-- A path that can stand in a directive as it is. -/
structure IsPlainPath (path : List Char) : Prop where
  ne_nil : path ≠ []
  not_blank : ∀ c ∈ path, isBlank c = false
  not_mark : ∀ c ∈ path, isPathMark c = false
  no_comment : ¬['/', '/'] <:+: path

theorem isPlainPath_iff :
    IsPlainPath path ↔ path ≠ [] ∧ (path.all fun c => !isBlank c && !isPathMark c)
      ∧ ¬['/', '/'] <:+: path := by
  simp only [List.all_eq_true, Bool.and_eq_true, Bool.not_eq_true', forall_and]
  constructor
  · rintro ⟨hne, hblank, hmark, hcomment⟩
    exact ⟨hne, ⟨hblank, hmark⟩, hcomment⟩
  · rintro ⟨hne, ⟨hblank, hmark⟩, hcomment⟩
    exact ⟨hne, hblank, hmark, hcomment⟩

instance : DecidablePred IsPlainPath := fun _ => decidable_of_iff' _ isPlainPath_iff

theorem withoutComment_append_of_notMem {front : List Char} (h : '/' ∉ front) (rest : List Char) :
    withoutComment (front ++ rest) = front ++ withoutComment rest :=
  withoutComment_append fun a b hsplit => absurd h (by simp [hsplit])

/-- A plain path is no comment and has none in it. -/
theorem IsPlainPath.withoutComment_append (h : IsPlainPath path) (hrest : rest.head? ≠ some '/') :
    withoutComment (path ++ rest) = path ++ withoutComment rest := by
  refine Import.withoutComment_append fun a b hsplit hhead => ?_
  cases b with
  | nil => exact hrest hhead
  | cons c b =>
    obtain rfl := Option.some.inj hhead
    exact h.no_comment ⟨a, b, by simp [hsplit]⟩

theorem slash_notMem_of_blank {s : List Char} (h : ∀ c ∈ s, isBlank c) : '/' ∉ s :=
  fun hmem => absurd (h '/' hmem) (by decide)

/-- A directive made of the word `module`, white space, and a plain path, bare or between two equal
quotation marks; with white space around it, and perhaps a comment behind the latter. -/
structure PlainDirective where
  lead : List Char
  gap : List Char
  mark : List Char
  path : List Char
  trail : List Char
  comment : List Char
  lead_blank : ∀ c ∈ lead, isBlank c
  gap_blank : ∀ c ∈ gap, isBlank c
  gap_ne_nil : gap ≠ []
  mark_cases : mark = [] ∨ mark = ['"'] ∨ mark = ['\x60']
  path_plain : IsPlainPath path
  trail_blank : ∀ c ∈ trail, isBlank c
  comment_cases : comment = [] ∨ trail ≠ [] ∧ ∃ text, comment = '/' :: '/' :: text

namespace PlainDirective

variable (d : PlainDirective)

/-- The path with the quotation marks around it. -/
def quoted : List Char := d.mark ++ d.path ++ d.mark

/-- The line that is the directive. -/
def chars : List Char :=
  d.lead ++ (directiveWord ++ d.gap ++ d.quoted) ++ d.trail ++ d.comment

theorem mark_chars : ∀ c ∈ d.mark, isPathMark c ∧ isBlank c = false ∧ c ≠ '/' := by
  rcases d.mark_cases with h | h | h
  · simp [h]
  · rw [h, List.forall_mem_singleton]
    decide
  · rw [h, List.forall_mem_singleton]
    decide

theorem quoted_not_blank : ∀ c ∈ d.quoted, isBlank c = false := by
  simp only [quoted, List.mem_append]
  rintro c ((hc | hc) | hc)
  · exact (d.mark_chars c hc).2.1
  · exact d.path_plain.not_blank c hc
  · exact (d.mark_chars c hc).2.1

theorem quoted_ne_nil : d.quoted ≠ [] := by simp [quoted, d.path_plain.ne_nil]

/-- Without the quotation marks around it the path is left. -/
theorem isCore_quoted : IsCore isPathMark d.quoted d.path where
  around := ⟨d.mark, d.mark, rfl, fun c hc => (d.mark_chars c hc).1,
    fun c hc => (d.mark_chars c hc).1⟩
  first c hc := d.path_plain.not_mark c (List.mem_of_head? hc)
  last c hc := d.path_plain.not_mark c (List.mem_of_getLast? hc)

/-- Without the white space around it the directive is left. -/
theorem isCore_directive :
    IsCore isBlank (d.lead ++ (directiveWord ++ d.gap ++ d.quoted) ++ d.trail)
      (directiveWord ++ d.gap ++ d.quoted) where
  around := ⟨d.lead, d.trail, rfl, d.lead_blank, d.trail_blank⟩
  first c hc := by
    obtain rfl := Option.some.inj hc
    decide
  last c hc := by
    rw [List.getLast?_append_of_ne_nil _ d.quoted_ne_nil] at hc
    exact d.quoted_not_blank c (List.mem_of_getLast? hc)

/-- No comment begins where the path ends. -/
theorem head?_behind_path : (d.mark ++ d.trail ++ d.comment).head? ≠ some '/' := by
  intro hhead
  have hmem : '/' ∈ d.mark ++ d.trail := by
    rcases d.comment_cases with hnil | ⟨htrail, -⟩
    · rw [hnil, List.append_nil] at hhead
      exact List.mem_of_head? hhead
    · rw [List.head?_append_of_ne_nil _ (by simp [htrail])] at hhead
      exact List.mem_of_head? hhead
  rcases List.mem_append.mp hmem with hmark | htrail
  · exact (d.mark_chars _ hmark).2.2 rfl
  · exact slash_notMem_of_blank d.trail_blank htrail

/-- Only the comment of a directive is cut off. -/
theorem withoutComment_chars :
    withoutComment d.chars = d.lead ++ (directiveWord ++ d.gap ++ d.quoted) ++ d.trail := by
  have hmark : '/' ∉ d.mark := fun hc => (d.mark_chars _ hc).2.2 rfl
  have hfront : '/' ∉ d.lead ++ directiveWord ++ d.gap ++ d.mark := by
    simp only [List.mem_append, not_or]
    exact ⟨⟨⟨slash_notMem_of_blank d.lead_blank, by decide⟩, slash_notMem_of_blank d.gap_blank⟩,
      hmark⟩
  have hback : '/' ∉ d.mark ++ d.trail := by
    simp only [List.mem_append, not_or]
    exact ⟨hmark, slash_notMem_of_blank d.trail_blank⟩
  have hend : withoutComment d.comment = [] := by
    rcases d.comment_cases with h | ⟨-, text, h⟩
    all_goals
      rw [h]
      rfl
  have hsplit : d.chars = (d.lead ++ directiveWord ++ d.gap ++ d.mark)
      ++ (d.path ++ (d.mark ++ d.trail ++ d.comment)) := by simp [chars, quoted]
  -- no comment begins in front of the path, in it, or behind it before the comment itself
  rw [hsplit, withoutComment_append_of_notMem hfront,
    d.path_plain.withoutComment_append d.head?_behind_path,
    withoutComment_append_of_notMem hback, hend]
  simp [quoted]

/-- A plain directive gives the path that stands in it. -/
theorem givesPath : GivesPath d.chars d.path :=
  ⟨_, d.gap, d.quoted, withoutComment_eq_iff.mp d.withoutComment_chars, d.isCore_directive,
    d.gap_ne_nil, d.gap_blank, fun c hc => d.quoted_not_blank c (List.mem_of_head? hc),
    d.isCore_quoted, d.path_plain.ne_nil⟩

end PlainDirective

/-- If lines that give no path are followed by a plain directive, then the module has the path that
stands in it, whatever the lines are behind; and a module file gives no path exactly if none of its
lines gives one. -/
theorem moduleDirective?_of_directives :
    (∀ earlier (d : PlainDirective) later,
        (∀ l ∈ earlier, '\n' ∉ l.1 ∧ ∀ path, ¬GivesPath l.1 path) → '\n' ∉ d.chars →
        (later = [] ∨ ∃ e more, later = LineEnd.chars e ++ more) →
          moduleDirective? (joined earlier ++ d.chars ++ later) = some d.path)
      ∧ ∀ text, moduleDirective? text = none
          ↔ ∀ line, IsLineOf line text → ∀ path, ¬GivesPath line path := by
  constructor
  · intro earlier d later hearlier hline hlater
    have hgives := directiveOf?_eq_some_iff.mpr d.givesPath
    rw [List.append_assoc, moduleDirective?_joined hearlier]
    rcases hlater with rfl | ⟨e, more, rfl⟩
    · rw [List.append_nil, moduleDirective?_of_notMem hline, hgives]
    · rw [← List.append_assoc, moduleDirective?_append hline, hgives, Option.some_or]
  · intro text
    simp only [moduleDirective?, List.findSome?_eq_none_iff, mem_linesOf_iff,
      directiveOf?_eq_none_iff]

/-- A directive with a path in back quotation marks, behind white space of another kind and in front
of a comment. -/
def quotedDirective : PlainDirective where
  lead := ['\t']
  gap := ['\u00a0']
  mark := ['\x60']
  path := "example.com/a/".toList
  trail := [' ']
  comment := "//module b".toList
  lead_blank := List.forall_mem_singleton.mpr rfl
  gap_blank := List.forall_mem_singleton.mpr rfl
  gap_ne_nil := by decide
  mark_cases := by decide
  path_plain := by decide +kernel
  trail_blank := List.forall_mem_singleton.mpr rfl
  comment_cases := .inr ⟨by decide, "module b".toList, by decide +kernel⟩

/-- Lines that are nearly directives are passed over, and so is the directive behind. -/
theorem moduleDirective?_of_directives_quoted :
    moduleDirective?
        ("// module example.com/old\r\nmodules example.com/old\nmodule \"\" // none\r\n"
          ++ "\tmodule\u00a0\x60example.com/a/\x60 //module b\r\nmodule example.com/new").toList
      = some "example.com/a/".toList := by
  have hsplit :
      ("// module example.com/old\r\nmodules example.com/old\nmodule \"\" // none\r\n"
        ++ "\tmodule\u00a0\x60example.com/a/\x60 //module b\r\nmodule example.com/new").toList
      = joined [("// module example.com/old".toList, .returnAndFeed),
          ("modules example.com/old".toList, .feed), ("module \"\" // none".toList, .returnAndFeed)]
        ++ quotedDirective.chars ++ "\r\nmodule example.com/new".toList := by decide +kernel
  rw [hsplit]
  apply moduleDirective?_of_directives.1
  · simp only [← directiveOf?_eq_none_iff]
    decide +kernel
  · decide +kernel
  · exact .inr ⟨.returnAndFeed, "module example.com/new".toList, by decide +kernel⟩

end GoStructs.Import
