import GoStructs.Proofs.World.Steps
import GoStructs.World.Files
/-! # Walks

Where a path leads is found by a walk over its parts.  Only the parts that are steps count, so two
spellings of an absolute path lead to the same place, and a path behind that of a directory leads
where it leads from the directory.  A directory that is reached by detours can be reached by the
names on the way to it alone.

## Main statements

* `walk_append`: a walk goes on from the directory to which its beginning leads.
* `isDirectory_of_walk`: a directory can be reached without detours.
* `resolve_same`: two spellings of a path lead to the same place.
* `resolve_join_same`, `resolve_join_of_place`: a file is found in a directory, however the
  directory is spelled, and by names alone. -/

namespace GoStructs

open GoStructs.Path (Component Same isStep spelled innerComponent? isStep_eq_false_iff
  innerComponent?_eq_none_iff spelled_of_innerComponent?)

namespace World

variable {w : World} {dir place : Place} {part : List Char} {rest : List (List Char)}
  {entry : Entry} {target : Place × Entry}

/-! ## One part at a time -/

/-- The part is the name of something that is not longer than a name may be. -/
structure Names (part : List Char) (name : String) : Prop where
  spelled : name.toList = part
  component : innerComponent? part = some (.name name)
  size : name.utf8ByteSize ≤ longestName

theorem walk_of_not_isStep (h : isStep part = false) :
    w.walk dir (part :: rest) = w.walk dir rest := by
  have hnone := innerComponent?_eq_none_iff.mp (isStep_eq_false_iff.mp h)
  rw [walk, if_pos hnone]

theorem walk_up : w.walk dir (['.', '.'] :: rest) = w.walk dir.dropLast rest := by
  rw [walk, if_neg (by decide), if_pos rfl]

theorem walk_name {name : String} (h : Names part name) :
    w.walk dir (part :: rest) = match w.entry? (dir ++ [name]) with
      | none => .error .notFound
      | some .directory => w.walk (dir ++ [name]) rest
      | some (.file bytes) =>
        if rest.isEmpty then .ok (dir ++ [name], .file bytes) else .error .notDirectory := by
  have hcomponent := h.component
  have hname : String.ofList part = name := by rw [← h.spelled, String.ofList_toList]
  have hstep : ¬(part = [] ∨ part = ['.']) := by
    rw [← innerComponent?_eq_none_iff, hcomponent]
    simp
  have hup : part ≠ ['.', '.'] := by
    rintro rfl
    cases hcomponent
  have hsize : ¬longestName < name.utf8ByteSize := Nat.not_lt.mpr h.size
  rw [walk, if_neg hstep, if_neg hup, hname]
  exact if_neg hsize

/-- A part is no step, or it leads up, or it is a name, or too long for a name. -/
theorem part_cases (part : List Char) :
    isStep part = false ∨ part = ['.', '.'] ∨ (∃ name, Names part name)
      ∨ isStep part ∧ ∀ (w : World) dir rest, w.walk dir (part :: rest) = .error .nameTooLong := by
  by_cases hnone : part = [] ∨ part = ['.']
  · exact .inl (isStep_eq_false_iff.mpr (innerComponent?_eq_none_iff.mpr hnone))
  · by_cases hup : part = ['.', '.']
    · exact .inr (.inl hup)
    · have hcomponent : innerComponent? part = some (.name (String.ofList part)) := by
        unfold innerComponent?
        split <;> simp_all
      by_cases hsize : longestName < (String.ofList part).utf8ByteSize
      · refine .inr (.inr (.inr ⟨by simp [isStep, hcomponent], ?_⟩))
        intro w dir rest
        rw [walk, if_neg hnone, if_neg hup]
        simp only [if_pos hsize]
      · exact .inr (.inr (.inl ⟨_, String.toList_ofList, hcomponent, Nat.not_lt.mp hsize⟩))

theorem Names.isStep {name : String} (h : Names part name) : Path.isStep part := by
  simp [Path.isStep, h.component]

/-- A walk over a name leads somewhere only through a directory, or to a file at its end. -/
theorem walk_name_eq_ok {name : String} (h : Names part name)
    (hwalk : w.walk dir (part :: rest) = .ok target) :
    (w.entry? (dir ++ [name]) = some .directory ∧ w.walk (dir ++ [name]) rest = .ok target)
      ∨ (rest = [] ∧ ∃ bytes, target = (dir ++ [name], .file bytes)) := by
  rw [walk_name h] at hwalk
  split at hwalk
  · cases hwalk
  · next hentry => exact .inl ⟨hentry, hwalk⟩
  · next bytes hentry =>
    split at hwalk
    · next hrest =>
      cases hwalk
      exact .inr ⟨List.isEmpty_iff.mp hrest, bytes, rfl⟩
    · cases hwalk

/-! ## Whole walks -/

/-- A walk goes on from the directory to which its beginning leads. -/
theorem walk_append {ps qs : List (List Char)} (h : w.walk dir ps = .ok (place, .directory)) :
    w.walk dir (ps ++ qs) = w.walk place qs := by
  induction ps generalizing dir with
  | nil =>
    cases h
    rfl
  | cons part ps ih =>
    rw [List.cons_append]
    obtain hstep | rfl | ⟨name, hname⟩ | ⟨-, herror⟩ := part_cases part
    · rw [walk_of_not_isStep hstep] at h ⊢
      exact ih h
    · rw [walk_up] at h ⊢
      exact ih h
    · obtain ⟨hentry, hwalk⟩ | ⟨-, bytes, heq⟩ := walk_name_eq_ok hname h
      · rw [walk_name hname, hentry]
        exact ih hwalk
      · cases heq
    · rw [herror] at h
      cases h

/-- Of a walk that leads somewhere, only the steps count. -/
theorem walk_filter_of_ok {ps : List (List Char)} (h : w.walk dir ps = .ok target) :
    w.walk dir (ps.filter isStep) = .ok target := by
  induction ps generalizing dir with
  | nil => exact h
  | cons part ps ih =>
    obtain hstep | rfl | ⟨name, hname⟩ | ⟨-, herror⟩ := part_cases part
    · rw [walk_of_not_isStep hstep] at h
      rw [List.filter_cons_of_neg (by simp [hstep])]
      exact ih h
    · rw [walk_up] at h
      rw [List.filter_cons_of_pos rfl, walk_up]
      exact ih h
    · rw [List.filter_cons_of_pos hname.isStep]
      obtain ⟨hentry, hwalk⟩ | ⟨rfl, -⟩ := walk_name_eq_ok hname h
      · rw [walk_name hname, hentry]
        exact ih hwalk
      · exact h
    · rw [herror] at h
      cases h

/-- Of a walk to a directory, only the steps count. -/
theorem walk_filter_eq_directory_iff {ps : List (List Char)} :
    w.walk dir (ps.filter isStep) = .ok (place, .directory)
      ↔ w.walk dir ps = .ok (place, .directory) := by
  refine ⟨fun h => ?_, walk_filter_of_ok⟩
  induction ps generalizing dir with
  | nil => exact h
  | cons part ps ih =>
    obtain hstep | rfl | ⟨name, hname⟩ | ⟨hstep, herror⟩ := part_cases part
    · rw [List.filter_cons_of_neg (by simp [hstep])] at h
      rw [walk_of_not_isStep hstep]
      exact ih h
    · rw [List.filter_cons_of_pos rfl, walk_up] at h
      rw [walk_up]
      exact ih h
    · rw [List.filter_cons_of_pos hname.isStep] at h
      obtain ⟨hentry, hwalk⟩ | ⟨-, bytes, heq⟩ := walk_name_eq_ok hname h
      · rw [walk_name hname, hentry]
        exact ih hwalk
      · cases heq
    · rw [List.filter_cons_of_pos hstep, herror] at h
      cases h

/-- Of a walk whose last part is a step, only the steps count. -/
theorem walk_filter {ps : List (List Char)} (h : ∀ part ∈ ps.getLast?, isStep part) :
    w.walk dir (ps.filter isStep) = w.walk dir ps := by
  induction ps generalizing dir with
  | nil => rfl
  | cons part ps ih =>
    have hlast : ∀ part ∈ ps.getLast?, isStep part := by
      intro q hq
      exact h q (by rw [Option.mem_def] at hq ⊢; simp [List.getLast?_cons, hq])
    obtain hstep | rfl | ⟨name, hname⟩ | ⟨hstep, herror⟩ := part_cases part
    · rw [List.filter_cons_of_neg (by simp [hstep]), walk_of_not_isStep hstep]
      exact ih hlast
    · rw [List.filter_cons_of_pos rfl, walk_up, walk_up]
      exact ih hlast
    · -- a file is at the end of both walks or of neither
      have hempty : (ps.filter isStep).isEmpty = ps.isEmpty := by
        rcases List.eq_nil_or_concat ps with rfl | ⟨front, q, rfl⟩
        · rfl
        · have hq : isStep q := hlast q (by simp)
          rw [Bool.eq_iff_iff, List.isEmpty_iff, List.isEmpty_iff]
          simp [hq]
      rw [List.filter_cons_of_pos hname.isStep, walk_name hname, walk_name hname, ih hlast, hempty]
    · rw [List.filter_cons_of_pos hstep, herror, herror]

/-- A walk that ends with a step up ends in a directory. -/
theorem directory_of_walk_up {ps : List (List Char)}
    (h : w.walk dir (ps ++ [['.', '.']]) = .ok target) : target.2 = .directory := by
  induction ps generalizing dir with
  | nil =>
    rw [List.nil_append, walk_up] at h
    cases h
    rfl
  | cons part ps ih =>
    rw [List.cons_append] at h
    obtain hstep | rfl | ⟨name, hname⟩ | ⟨-, herror⟩ := part_cases part
    · rw [walk_of_not_isStep hstep] at h
      exact ih h
    · rw [walk_up] at h
      exact ih h
    · obtain ⟨-, hwalk⟩ | ⟨hnil, -⟩ := walk_name_eq_ok hname h
      · exact ih hwalk
      · simp at hnil
    · rw [herror] at h
      cases h

/-! ## Paths that lead to the same place -/

/-- A path that is short enough and has no NUL leads where its steps lead, if its last part is a
step. -/
theorem resolve_eq_walk {p : Path} (hne : p.text ≠ "") (hsize : p.text.utf8ByteSize < pathLimit)
    (hnul : '\x00' ∉ p.text.toList) (hlast : ∀ part ∈ p.parts.getLast?, isStep part) :
    w.resolve p = match w.startOf p with
      | none => .error .notFound
      | some dir => w.walk dir (p.steps.map spelled) := by
  have hempty : ¬p.text.isEmpty := fun h => hne (String.isEmpty_iff.mp h)
  unfold World.resolve
  rw [if_neg (by simpa using hnul), if_neg hempty, if_neg (Nat.not_le.mpr hsize)]
  cases w.startOf p with
  | none => rfl
  | some dir =>
    show w.walk dir p.parts = w.walk dir (p.steps.map spelled)
    rw [Path.steps, ← Path.filter_isStep, walk_filter hlast]

/-- Two paths with the same steps that are short enough and begin at one place lead to one place. -/
theorem resolve_of_steps_eq {p q : Path} (hstart : w.startOf p = w.startOf q)
    (hsteps : p.steps = q.steps) (hp : p.text ≠ "") (hq : q.text ≠ "")
    (hpsize : p.text.utf8ByteSize < pathLimit) (hqsize : q.text.utf8ByteSize < pathLimit)
    (hplast : ∀ part ∈ p.parts.getLast?, isStep part)
    (hqlast : ∀ part ∈ q.parts.getLast?, isStep part) : w.resolve p = w.resolve q := by
  have hnul : '\x00' ∈ p.text.toList ↔ '\x00' ∈ q.text.toList := by
    rw [Path.mem_text_iff (by decide) (by decide), Path.mem_text_iff (by decide) (by decide),
      hsteps]
  by_cases hin : '\x00' ∈ p.text.toList
  · -- neither path is followed at all
    have hq : q.text.toList.contains '\x00' := by simpa using hnul.mp hin
    have hp : p.text.toList.contains '\x00' := by simpa using hin
    rw [World.resolve, World.resolve, if_pos hp, if_pos hq]
  · rw [resolve_eq_walk hp hpsize hin hplast,
      resolve_eq_walk hq hqsize (fun hq => hin (hnul.mpr hq)) hqlast, hstart, hsteps]

/-- Two spellings of a path that are short enough lead to the same place. -/
theorem resolve_same {p q : Path} (h : Same p q) (hp : p.text.utf8ByteSize < pathLimit)
    (hq : q.text.utf8ByteSize < pathLimit) (hplast : ∀ part ∈ p.parts.getLast?, isStep part)
    (hqlast : ∀ part ∈ q.parts.getLast?, isStep part) : w.resolve p = w.resolve q := by
  refine resolve_of_steps_eq ?_ h.steps (Path.text_ne_of_isAbsolute h.left)
    (Path.text_ne_of_isAbsolute h.right) hp hq hplast hqlast
  rw [startOf, startOf, if_pos h.left, if_pos h.right]

/-! ## Files in a directory -/

theorem readText_same {p q : Path} (h : w.resolve p = w.resolve q) :
    w.readText p = w.readText q := by
  rw [readText, readText, readBytes, readBytes, h]

/-- A file in a directory is the same file, however the directory is spelled. -/
theorem resolve_join_same {p q name : Path} (h : Same p q) (hname : name.isAbsolute = false)
    (hlast : ∀ part ∈ name.parts.getLast?, isStep part)
    (hp : (p.join name).text.utf8ByteSize < pathLimit)
    (hq : (q.join name).text.utf8ByteSize < pathLimit) :
    w.resolve (p.join name) = w.resolve (q.join name) := by
  refine resolve_same (h.join hname) hp hq ?_ ?_
  · rw [Path.getLast?_parts_join hname]
    exact hlast
  · rw [Path.getLast?_parts_join hname]
    exact hlast

/-! ## The current directory -/

theorem isAbsolute_of_currentPath? {cwd : Path} (h : w.currentPath? = some cwd) :
    cwd.isAbsolute := by
  obtain ⟨place, -, rfl⟩ := Option.map_eq_some_iff.mp h
  have hslash : "/".toList = ['/'] := rfl
  simp [Path.isAbsolute_iff, String.toList_append, hslash]

theorem absolute_of_isAbsolute {p : Path} (h : p.isAbsolute) : w.absolute p = p := by
  rw [absolute, if_pos h]

theorem absolute_of_currentPath? {cwd p : Path} (h : w.currentPath? = some cwd)
    (hp : p.isAbsolute = false) : w.absolute p = cwd.join p := by
  rw [absolute, hp, if_neg Bool.false_ne_true, h]

/-- With a current directory each path is seen from the root. -/
theorem isAbsolute_absolute {cwd : Path} (hcwd : w.currentPath? = some cwd) (p : Path) :
    (w.absolute p).isAbsolute := by
  by_cases hp : p.isAbsolute
  · rw [absolute_of_isAbsolute hp]
    exact hp
  · have hrel := Bool.eq_false_iff.mpr hp
    rw [absolute_of_currentPath? hcwd hrel]
    exact Path.isAbsolute_join (isAbsolute_of_currentPath? hcwd) hrel

/-- The path of the current directory leads there. -/
structure Stands (w : World) (cwd : Path) (place : Place) : Prop where
  path : w.currentPath? = some cwd
  current : w.current = some place
  resolve : w.resolve cwd = .ok (place, .directory)

theorem resolve_of_readBytes {p : Path} {bytes : ByteArray} (h : w.readBytes p = .ok bytes) :
    ∃ place, w.resolve p = .ok (place, .file bytes) := by
  unfold readBytes at h
  split at h
  · cases h
  · cases h
  · next place bytes' hplace =>
    cases h
    exact ⟨place, hplace⟩

/-- What a path leads to, if it leads anywhere, is found by following it. -/
theorem walk_of_resolve {p : Path} (h : w.resolve p = .ok target) :
    ∃ dir, w.startOf p = some dir ∧ w.walk dir p.parts = .ok target
      ∧ '\x00' ∉ p.text.toList ∧ p.text ≠ "" := by
  unfold World.resolve at h
  split at h
  · cases h
  · next hnul =>
    split at h
    · cases h
    · next hempty =>
      split at h
      · cases h
      · split at h
        · cases h
        · next dir hdir =>
          refine ⟨dir, hdir, h, by simpa using hnul, ?_⟩
          rintro htext
          simp [htext] at hempty

/-- A path to a file has steps. -/
theorem steps_ne_nil_of_readBytes {p : Path} {bytes : ByteArray} (h : w.readBytes p = .ok bytes) :
    p.steps ≠ [] := by
  intro hnil
  obtain ⟨place, hplace⟩ := resolve_of_readBytes h
  obtain ⟨dir, -, hwalk, -⟩ := walk_of_resolve hplace
  have hfilter := walk_filter_of_ok hwalk
  rw [Path.filter_isStep, show p.parts.filterMap innerComponent? = [] from hnil] at hfilter
  cases hfilter

/-- A path that is too long leads nowhere. -/
theorem resolve_of_long {p : Path} (h : pathLimit ≤ p.text.utf8ByteSize) :
    ∃ e, w.resolve p = .error e := by
  unfold World.resolve
  rw [if_pos h]
  split
  · exact ⟨_, rfl⟩
  · split
    · exact ⟨_, rfl⟩
    · exact ⟨_, rfl⟩

/-- An absolute path leads where its steps lead. -/
theorem walk_steps_of_resolve {p : Path} (habs : p.isAbsolute) (h : w.resolve p = .ok target) :
    w.walk [] (p.steps.map spelled) = .ok target := by
  obtain ⟨dir, hdir, hwalk, -⟩ := walk_of_resolve h
  rw [startOf, if_pos habs] at hdir
  obtain rfl : [] = dir := Option.some.inj hdir
  rw [Path.steps, ← Path.filter_isStep]
  exact walk_filter_of_ok hwalk

/-- A relative path leads where it leads behind the path of the current directory, unless that is
too long. -/
theorem resolve_join_current {cwd p : Path} (h : w.Stands cwd place)
    (hp : p.isAbsolute = false) (hne : p.text ≠ "")
    (hsize : (cwd.join p).text.utf8ByteSize < pathLimit) :
    w.resolve (cwd.join p) = w.resolve p := by
  have habs := isAbsolute_of_currentPath? h.path
  obtain ⟨dir, hdir, hwalk, hnul, hcwd⟩ := walk_of_resolve h.resolve
  obtain rfl : dir = [] := by
    rw [startOf, if_pos habs] at hdir
    exact (Option.some.inj hdir).symm
  obtain ⟨front, hparts, hfront⟩ := Path.parts_join hcwd hp
  -- the parts in front of those of the path lead to the current directory
  have hfrontwalk : w.walk [] front = .ok (place, .directory) := by
    rw [← walk_filter_eq_directory_iff, Path.filter_isStep, hfront, Path.steps,
      ← Path.filter_isStep, walk_filter_eq_directory_iff]
    exact hwalk
  have hnul' : (cwd.join p).text.toList.contains '\x00' = p.text.toList.contains '\x00' := by
    rw [Bool.eq_iff_iff, List.contains_iff_mem, List.contains_iff_mem,
      Path.mem_join_iff (by decide) hp]
    exact or_iff_right hnul
  have hempty : (cwd.join p).text.isEmpty = p.text.isEmpty := by
    have hjoin := Path.isAbsolute_join habs hp
    rw [Bool.eq_iff_iff, String.isEmpty_iff, String.isEmpty_iff]
    exact iff_of_false (Path.text_ne_of_isAbsolute hjoin) hne
  have hsize' : p.text.utf8ByteSize < pathLimit :=
    Nat.lt_of_le_of_lt (Path.size_le_join hp) hsize
  have hstart : w.startOf (cwd.join p) = some [] := by
    rw [startOf, if_pos (Path.isAbsolute_join habs hp)]
  have hstart' : w.startOf p = some place := by
    rw [startOf, hp, if_neg Bool.false_ne_true, h.current]
  unfold World.resolve
  rw [hnul', hempty, if_neg (Nat.not_le.mpr hsize), if_neg (Nat.not_le.mpr hsize'), hstart, hstart']
  simp only [hparts, walk_append hfrontwalk]

/-! ## The way to a place -/

/-- There is a directory at the place, and on the way to it there are only directories. -/
def IsDirectory (w : World) (place : Place) : Prop :=
  ∀ front, front <+: place → w.walk [] (front.map String.toList) = .ok (front, .directory)

theorem isDirectory_nil : w.IsDirectory [] := by
  intro front hfront
  rw [List.prefix_nil.mp hfront]
  rfl

/-- A directory that is reached from another one, by whatever detours, can be reached from the root
by names alone. -/
theorem isDirectory_of_walk {ps : List (List Char)} (hdir : w.IsDirectory dir)
    (h : w.walk dir ps = .ok (place, .directory)) : w.IsDirectory place := by
  induction ps generalizing dir with
  | nil =>
    cases h
    exact hdir
  | cons part ps ih =>
    obtain hstep | rfl | ⟨name, hname⟩ | ⟨-, herror⟩ := part_cases part
    · rw [walk_of_not_isStep hstep] at h
      exact ih hdir h
    · rw [walk_up] at h
      exact ih (fun front hfront => hdir front (hfront.trans (List.dropLast_prefix dir))) h
    · obtain ⟨hentry, hwalk⟩ | ⟨-, bytes, heq⟩ := walk_name_eq_ok hname h
      · refine ih (fun front hfront => ?_) hwalk
        rcases List.prefix_concat_iff.mp hfront with rfl | hfront
        · rw [List.map_append, walk_append (hdir dir (List.prefix_refl dir)), List.map_singleton,
            hname.spelled, walk_name hname, hentry]
          rfl
        · exact hdir front hfront
      · cases heq
    · rw [herror] at h
      cases h

/-- The names on the way to a place are parts of each path that leads there. -/
theorem mem_of_mem_place {ps : List (List Char)} (h : w.walk dir ps = .ok target) {s : String}
    (hs : s ∈ target.1) : s ∈ dir ∨ s.toList ∈ ps := by
  induction ps generalizing dir with
  | nil =>
    cases h
    exact .inl hs
  | cons part ps ih =>
    have hcons : ∀ d, w.walk d ps = .ok target → (∀ t ∈ d, t ∈ dir ∨ t.toList = part) →
        s ∈ dir ∨ s.toList ∈ part :: ps := by
      intro d hwalk hd
      rcases ih hwalk with hmem | hmem
      · rcases hd s hmem with hs | rfl
        · exact .inl hs
        · exact .inr List.mem_cons_self
      · exact .inr (List.mem_cons_of_mem _ hmem)
    obtain hstep | rfl | ⟨name, hname⟩ | ⟨-, herror⟩ := part_cases part
    · rw [walk_of_not_isStep hstep] at h
      exact hcons dir h fun t ht => .inl ht
    · rw [walk_up] at h
      exact hcons _ h fun t ht => .inl (List.mem_of_mem_dropLast ht)
    · have hd : ∀ t ∈ dir ++ [name], t ∈ dir ∨ t.toList = part := by
        intro t ht
        rcases List.mem_append.mp ht with ht | ht
        · exact .inl ht
        · exact .inr (List.mem_singleton.mp ht ▸ hname.spelled)
      obtain ⟨-, hwalk⟩ | ⟨-, bytes, rfl⟩ := walk_name_eq_ok hname h
      · exact hcons _ hwalk hd
      · rcases hd s hs with hs | rfl
        · exact .inl hs
        · exact .inr List.mem_cons_self
    · rw [herror] at h
      cases h

/-- A file in a directory is found in each spelling of that directory by names alone, if its path is
short enough. -/
theorem resolve_join_of_place {p a name : Path} (hp : p.isAbsolute)
    (hplace : w.resolve p = .ok (place, .directory)) (ha : a.isAbsolute)
    (hsteps : a.steps = place.map .name) (hname : name.isAbsolute = false)
    (hlast : ∀ part ∈ name.parts.getLast?, isStep part)
    (hfile : w.resolve (p.join name) = .ok target)
    (hsize : (a.join name).text.utf8ByteSize < pathLimit) :
    w.resolve (a.join name) = .ok target := by
  have hwalk := walk_steps_of_resolve hp hplace
  have hjoined := walk_steps_of_resolve (Path.isAbsolute_join hp hname) hfile
  rw [Path.steps_join hname, List.map_append, walk_append hwalk] at hjoined
  have habs := Path.isAbsolute_join ha hname
  have hstart : w.startOf (a.join name) = some [] := by rw [startOf, if_pos habs]
  have hnames : (place.map Component.name).map spelled = place.map String.toList := by
    rw [List.map_map]
    rfl
  have hplacewalk : w.walk [] (place.map String.toList) = .ok (place, .directory) :=
    isDirectory_of_walk isDirectory_nil hwalk place (List.prefix_refl place)
  obtain ⟨-, -, -, hnul, -⟩ := walk_of_resolve hplace
  obtain ⟨-, -, -, hnulfile, -⟩ := walk_of_resolve hfile
  rw [resolve_eq_walk (Path.text_ne_of_isAbsolute habs) hsize]
  · simp only [hstart, Path.steps_join hname, hsteps, List.map_append, hnames,
      walk_append hplacewalk, hjoined]
  · rw [Path.mem_join_iff (by decide) hname] at hnulfile ⊢
    rw [Path.mem_text_iff (by decide) (by decide)] at hnul
    intro hmem
    rcases hmem with hmem | hmem
    · -- each step is one of a path that is followed
      rw [Path.mem_text_iff (by decide) (by decide), hsteps] at hmem
      obtain ⟨step, hstep, hmem⟩ := hmem
      obtain ⟨s, hs, rfl⟩ := List.mem_map.mp hstep
      obtain hnil | hpart := mem_of_mem_place hwalk hs
      · cases hnil
      · obtain ⟨step, hstep, heq⟩ := List.mem_map.mp hpart
        exact hnul ⟨step, hstep, heq ▸ hmem⟩
    · exact hnulfile (Or.inr hmem)
  · rw [Path.getLast?_parts_join hname]
    exact hlast

end World

end GoStructs
