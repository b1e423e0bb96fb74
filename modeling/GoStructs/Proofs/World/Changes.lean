import GoStructs.Proofs.World.Visits
/-! # Changes of files

Where a path of names leads depends on nothing but the entries on the way.  So a change of files
with one name, which stand in directories strictly above a place, is not seen by a path that goes on
from that place: on the way to it there are only directories, and further down nothing changed.

## Main statements

* `entry?_of_walk`: on the way to where a path leads there are only directories.
* `DiffersAbove.resolve_join`: a change strictly above a place is not seen from there. -/

namespace GoStructs

open GoStructs.Path (Component IsWritten spelled isStep)

namespace World

variable {w w' : World} {dir place : Place} {target : Place × Entry} {ns : List String}

/-! ## Walks over names -/

/-- On the way to where some names lead there are only directories. -/
theorem entry?_of_walk {rest : List (List Char)} (hns : ∀ s ∈ ns, IsWritten (.name s))
    (hrest : rest ≠ []) (hdir : w.entry? dir = some .directory)
    (hwalk : w.walk dir (ns.map String.toList ++ rest) = .ok target) {front : List String}
    (hfront : front <+: ns) : w.entry? (dir ++ front) = some .directory := by
  induction ns generalizing dir front with
  | nil =>
    rw [List.prefix_nil.mp hfront, List.append_nil]
    exact hdir
  | cons s ns ih =>
    obtain ⟨hs, hothers⟩ := List.forall_mem_cons.mp hns
    rw [List.map_cons, List.cons_append] at hwalk
    have hname := names_of_walk hs hwalk
    obtain ⟨hentry, hwalk⟩ | ⟨hnil, -⟩ := walk_name_eq_ok hname hwalk
    · cases front with
      | nil =>
        rw [List.append_nil]
        exact hdir
      | cons t front =>
        obtain ⟨rfl, hmore⟩ := List.cons_prefix_cons.mp hfront
        have hih := ih hothers hentry hwalk hmore
        rwa [List.append_assoc] at hih
    · -- more stands behind the name
      exact absurd (List.append_eq_nil_iff.mp hnil).2 hrest

/-- Only the entries on the way count. -/
theorem walk_names_congr (hns : ∀ s ∈ ns, IsWritten (.name s))
    (h : ∀ front, front <+: ns → w'.entry? (dir ++ front) = w.entry? (dir ++ front)) :
    w'.walk dir (ns.map String.toList) = w.walk dir (ns.map String.toList) := by
  induction ns generalizing dir with
  | nil => rfl
  | cons s ns ih =>
    obtain ⟨hs, hothers⟩ := List.forall_mem_cons.mp hns
    have hentry : w'.entry? (dir ++ [s]) = w.entry? (dir ++ [s]) :=
      h [s] (List.cons_prefix_cons.mpr ⟨rfl, List.nil_prefix⟩)
    have hrest : w'.walk (dir ++ [s]) (ns.map String.toList)
        = w.walk (dir ++ [s]) (ns.map String.toList) := by
      apply ih hothers
      intro front hfront
      have hcons := h (s :: front) (List.cons_prefix_cons.mpr ⟨rfl, hfront⟩)
      rwa [List.append_assoc]
    rw [List.map_cons]
    obtain hname | herror := names_or_long hs
    · rw [walk_name hname, walk_name hname, hentry, hrest]
    · rw [herror, herror]

/-- An absolute path of names leads to the same place in two worlds, if the entries on its way are
the same. -/
theorem resolve_congr {p : Path} (habs : p.isAbsolute) (hsteps : p.steps = ns.map .name)
    (hlast : ∀ part ∈ p.parts.getLast?, isStep part)
    (h : ∀ front, front <+: ns → w'.entry? front = w.entry? front) :
    w'.resolve p = w.resolve p := by
  have hns : ∀ s ∈ ns, IsWritten (.name s) := by
    intro s hs
    apply Path.isWritten_of_mem_steps (p := p)
    rw [hsteps]
    exact List.mem_map_of_mem hs
  have hspelled : (ns.map Component.name).map spelled = ns.map String.toList := by
    rw [List.map_map]
    rfl
  have hwalk : w'.walk [] p.parts = w.walk [] p.parts := by
    rw [← walk_filter hlast, ← walk_filter hlast, Path.filter_isStep]
    show w'.walk [] (p.steps.map spelled) = w.walk [] (p.steps.map spelled)
    rw [hsteps, hspelled]
    exact walk_names_congr hns h
  unfold resolve startOf
  simp only [if_pos habs, hwalk]

/-! ## Worlds that differ above a place -/

/-- The second world differs from the first at most in files with the given name, which stand in
directories strictly above the place.  There may be such a file in one of the two only. -/
structure DiffersAbove (name : String) (place : Place) (w w' : World) : Prop where
  current : w'.current = w.current
  entries : ∀ p, w'.entry? p = w.entry? p
    ∨ w.entry? p ≠ some .directory ∧ ∃ dir, dir <+: place ∧ dir ≠ place ∧ p = dir ++ [name]

/-- On the way to the place and from there on, the two worlds have the same entries. -/
theorem DiffersAbove.entry?_eq {name : String} (h : DiffersAbove name place w w')
    (hplace : ∀ front, front <+: place → w.entry? front = some .directory) {p : Place}
    (hp : p <+: place ∨ place <+: p) : w'.entry? p = w.entry? p := by
  obtain heq | ⟨hne, dir, hdir, habove, rfl⟩ := h.entries p
  · exact heq
  · exfalso
    by_cases hpre : dir ++ [name] <+: place
    · exact hne (hplace _ hpre)
    · rcases List.prefix_concat_iff.mp (hp.resolve_left hpre) with hsame | hback
      · exact hpre (hsame ▸ List.prefix_refl _)
      · exact habove (hdir.eq_of_length_le hback.length_le)

/-- A file at or below the place is found in both worlds alike. -/
theorem DiffersAbove.resolve_join {name : String} (h : DiffersAbove name place w w')
    (hplace : ∀ front, front <+: place → w.entry? front = some .directory) {p q : Path}
    {s : String} (habs : p.isAbsolute) (hsteps : p.steps = ns.map .name) (hbelow : place <+: ns)
    (hq : q.isAbsolute = false) (hqsteps : q.steps = [.name s])
    (hlast : ∀ part ∈ q.parts.getLast?, isStep part) :
    w'.resolve (p.join q) = w.resolve (p.join q) := by
  have hjoin : (p.join q).steps = (ns ++ [s]).map .name := by
    rw [Path.steps_join hq, hsteps, hqsteps, List.map_append]
    rfl
  refine resolve_congr (Path.isAbsolute_join habs hq) hjoin ?_ ?_
  · rw [Path.getLast?_parts_join hq]
    exact hlast
  · intro front hfront
    have hlong : place <+: ns ++ [s] := hbelow.trans (List.prefix_append ns [s])
    exact h.entry?_eq hplace (List.prefix_or_prefix_of_prefix hfront hlong)

end World

end GoStructs
