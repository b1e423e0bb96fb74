import GoStructs.Proofs.World.Walks
import Mathlib.Data.List.Infix
/-! # Places that a path passes

A path makes a detour where it enters a directory and leaves it by `..` at once.  With a detour or
without, the path leads to the same place, but going up the path as it is written passes the places
to which its beginnings lead.  Without detours these are all above the place to which the whole path
leads.  Whatever detours a path makes, though, it passes each place above its end, and behind the
last time that it passes such a place it goes nowhere but further down.

## Main statements

* `Path.exists_passing`: a path passes each place above its end.
* `Path.prefix_of_direct`: without detours it passes no others.
* `Path.IsLast.direct`: the last place with some property that a path passes is the same without
  detours, if it is above the end.
* `World.walk_direct`: a walk without the detours leads to the same place.
* `World.walk_follow`: a walk passes the places that its steps tell. -/

namespace GoStructs

namespace Path

/-! ## Detours -/

/-- Some steps without the detours among them. -/
def direct : List Component → List Component
  | [] => []
  | .name s :: cs =>
    match direct cs with
    | .up :: rest => rest
    | rest => .name s :: rest
  | c :: cs => c :: direct cs

theorem direct_name_of_up {s : String} {cs rest : List Component} (h : direct cs = .up :: rest) :
    direct (.name s :: cs) = rest := by
  simp [direct, h]

theorem direct_name {s : String} {cs : List Component} (h : ∀ rest, direct cs ≠ .up :: rest) :
    direct (.name s :: cs) = .name s :: direct cs := by
  rw [direct]
  split
  · next rest hrest => exact absurd hrest (h rest)
  · rfl

/-- Either a name is on a detour with the first step up behind it, or a step is kept. -/
theorem direct_cons (c : Component) (cs : List Component) :
    (∃ s rest, c = .name s ∧ direct cs = .up :: rest ∧ direct (c :: cs) = rest)
      ∨ direct (c :: cs) = c :: direct cs := by
  cases c with
  | name s =>
    by_cases hup : ∃ rest, direct cs = .up :: rest
    · obtain ⟨rest, hrest⟩ := hup
      exact .inl ⟨s, rest, rfl, hrest, direct_name_of_up hrest⟩
    · exact .inr (direct_name fun rest hrest => hup ⟨rest, hrest⟩)
  | up | root | here =>
    right
    rw [direct]
    simp

/-- Names behind some steps are on no detour with them. -/
theorem direct_append_of_names (cs : List Component) {ds : List Component} {ns : List String}
    (h : direct ds = ns.map .name) : direct (cs ++ ds) = direct cs ++ ns.map .name := by
  induction cs with
  | nil => exact h
  | cons c cs ih =>
    cases c with
    | name s =>
      rw [List.cons_append, direct, ih, direct]
      cases hcs : direct cs with
      | nil => cases ns <;> rfl
      | cons d ds => cases d <;> rfl
    | up | root | here =>
      rw [List.cons_append, direct, ih, direct]
      all_goals simp

/-- The last name is not on a detour. -/
theorem direct_append_name (cs : List Component) (s : String) :
    direct (cs ++ [.name s]) = direct cs ++ [.name s] := by
  show direct (cs ++ [.name s]) = direct cs ++ [s].map .name
  exact direct_append_of_names cs rfl

theorem direct_cons_congr (c : Component) {cs ds : List Component} (h : direct cs = direct ds) :
    direct (c :: cs) = direct (c :: ds) := by
  cases c <;> simp [direct, h]

/-- Detours may be left out at the beginning first. -/
theorem direct_append_direct (cs ds : List Component) :
    direct (direct cs ++ ds) = direct (cs ++ ds) := by
  induction cs with
  | nil => rfl
  | cons c cs ih =>
    obtain ⟨s, rest, rfl, hup, h⟩ | h := direct_cons c cs
    · rw [hup, List.cons_append, direct] at ih
      · rw [h]
        exact (direct_name_of_up ih.symm).symm
      · simp
    · rw [h]
      exact direct_cons_congr c ih

theorem direct_sublist (cs : List Component) : (direct cs).Sublist cs := by
  induction cs with
  | nil => exact List.Sublist.refl []
  | cons c cs ih =>
    obtain ⟨s, rest, -, hup, h⟩ | h := direct_cons c cs
    · rw [h]
      rw [hup] at ih
      exact ((List.sublist_cons_self .up rest).trans ih).cons c
    · rw [h]
      exact ih.cons_cons c

/-- A step, as it stands in a path. -/
structure IsWritten (c : Component) : Prop where
  component : innerComponent? (spelled c) = some c
  slash : '/' ∉ spelled c

theorem isWritten_of_mem_steps {p : Path} {c : Component} (h : c ∈ p.steps) : IsWritten c := by
  obtain ⟨part, hpart, hc⟩ := List.mem_filterMap.mp h
  have hspelled := spelled_of_innerComponent? hc
  refine ⟨by rw [hspelled, hc], ?_⟩
  rw [hspelled]
  exact Text.not_mem_of_mem_splitOn hpart

theorem IsWritten.isStep {c : Component} (h : IsWritten c) : isStep (spelled c) := by
  simp [Path.isStep, h.component]

/-! ## Where steps lead -/

/-- The place to which a step leads from a place, if it leads anywhere. -/
def arrive (dir : Place) : Component → Place
  | .name s => dir ++ [s]
  | .up => dir.dropLast
  | .root | .here => dir

/-- The place to which some steps lead. -/
def follow (dir : Place) (cs : List Component) : Place := cs.foldl arrive dir

@[simp] theorem follow_nil (dir : Place) : follow dir [] = dir := rfl

@[simp] theorem follow_cons (dir : Place) (c : Component) (cs : List Component) :
    follow dir (c :: cs) = follow (arrive dir c) cs := rfl

theorem follow_append (dir : Place) (cs ds : List Component) :
    follow dir (cs ++ ds) = follow (follow dir cs) ds :=
  List.foldl_append

@[simp] theorem follow_names (dir : Place) (ns : List String) :
    follow dir (ns.map .name) = dir ++ ns := by
  induction ns generalizing dir with
  | nil => simp
  | cons s ns ih => simp [arrive, ih]

/-- Steps up lead up. -/
theorem follow_ups_above (dir : Place) (k : Nat) : follow dir (List.replicate k .up) <+: dir := by
  induction k generalizing dir with
  | zero => exact List.prefix_refl dir
  | succ k ih => exact (ih dir.dropLast).trans (List.dropLast_prefix dir)

/-- Detours lead nowhere. -/
theorem follow_direct (dir : Place) (cs : List Component) :
    follow dir (direct cs) = follow dir cs := by
  induction cs generalizing dir with
  | nil => rfl
  | cons c cs ih =>
    rw [follow_cons, ← ih]
    obtain ⟨s, rest, rfl, hup, h⟩ | h := direct_cons c cs
    · rw [h, hup]
      simp [arrive]
    · rw [h, follow_cons]

/-- Some steps lead to the end of others only past each place above that end, unless they begin
below it. -/
theorem exists_passing {dir q : Place} {cs : List Component} (hq : q <+: follow dir cs)
    (hdir : q <+: dir → q = dir) : ∃ front back, cs = front ++ back ∧ follow dir front = q := by
  induction cs generalizing dir with
  | nil => exact ⟨[], [], rfl, (hdir hq).symm⟩
  | cons c cs ih =>
    by_cases hhere : q = dir
    · exact ⟨[], c :: cs, rfl, hhere.symm⟩
    · -- one step does not pass over a place
      have hnext : q <+: arrive dir c → q = arrive dir c := by
        intro hpre
        cases c with
        | name s =>
          rcases List.prefix_concat_iff.mp hpre with heq | hpre
          · exact heq
          · exact absurd (hdir hpre) hhere
        | up => exact absurd (hdir (hpre.trans (List.dropLast_prefix dir))) hhere
        | root | here => exact hdir hpre
      obtain ⟨front, back, hsplit, hfront⟩ := ih hq hnext
      exact ⟨c :: front, back, by rw [hsplit, List.cons_append], hfront⟩

/-! ## Steps without detours -/

/-- The steps without detours are steps up and then names, and some beginning of all steps leads as
far up. -/
theorem exists_climb {cs : List Component} (h : ∀ c ∈ cs, IsWritten c) :
    ∃ (k : Nat) (ns : List String) (front : List Component),
      direct cs = List.replicate k .up ++ ns.map .name ∧ front <+: cs
        ∧ ∀ dir, follow dir front = follow dir (List.replicate k .up) := by
  induction cs with
  | nil => exact ⟨0, [], [], rfl, List.prefix_refl [], fun dir => rfl⟩
  | cons c cs ih =>
    obtain ⟨hc, hcs⟩ := List.forall_mem_cons.mp h
    obtain ⟨k, ns, front, hdirect, hfront, hclimb⟩ := ih hcs
    cases c with
    | root | here => cases hc.component
    | up =>
      refine ⟨k + 1, ns, .up :: front, ?_, List.cons_prefix_cons.mpr ⟨rfl, hfront⟩, ?_⟩
      · rw [direct, hdirect]
        · rfl
        · simp
      · intro dir
        exact hclimb dir.dropLast
    | name s =>
      cases k with
      | zero =>
        have hnames : direct cs = ns.map .name := hdirect
        refine ⟨0, s :: ns, [], ?_, List.nil_prefix, fun dir => rfl⟩
        rw [direct_name, hnames]
        · rfl
        · intro rest hrest
          rw [hnames] at hrest
          cases ns <;> cases hrest
      | succ k =>
        -- the first of the steps up takes the name back
        refine ⟨k, ns, .name s :: front, ?_, List.cons_prefix_cons.mpr ⟨rfl, hfront⟩, ?_⟩
        · exact direct_name_of_up hdirect
        · intro dir
          rw [follow_cons, hclimb]
          show follow (dir ++ [s]).dropLast _ = _
          rw [List.dropLast_concat]

/-! ## The last place with some property -/

variable {holds : Place → Prop} {cs P Q : List Component}

/-- `P` is the longest beginning of the steps that leads to a place with the property. -/
def IsLast (holds : Place → Prop) (cs P : List Component) : Prop :=
  ∃ rest, cs = P ++ rest ∧ holds (follow [] P)
    ∧ ∀ front, front <+: rest → front ≠ [] → ¬holds (follow [] (P ++ front))

/-- If some beginning leads to a place with the property, a longest one does. -/
theorem exists_isLast {rest : List Component} (hcs : cs = P ++ rest) (hP : holds (follow [] P)) :
    ∃ Q, IsLast holds cs Q := by
  -- by induction on what is behind the beginning, which gets less with each longer one
  induction hlen : rest.length using Nat.strong_induction_on generalizing P rest with
  | _ n ih =>
    by_cases hlonger : ∃ front, front <+: rest ∧ front ≠ [] ∧ holds (follow [] (P ++ front))
    · obtain ⟨front, ⟨back, hrest⟩, hne, hfront⟩ := hlonger
      have hlt : back.length < n := by
        have := List.length_pos_of_ne_nil hne
        rw [← hlen, ← hrest, List.length_append]
        omega
      refine ih back.length hlt ?_ hfront rfl
      rw [hcs, ← hrest, List.append_assoc]
    · refine ⟨P, rest, hcs, hP, ?_⟩
      intro front hpre hne hholds
      exact hlonger ⟨front, hpre, hne, hholds⟩

/-- Above the end of the path no place with the property is nearer to the end. -/
theorem IsLast.nearest (h : IsLast holds cs P) {q : Place} (hP : follow [] P <+: q)
    (hq : q <+: follow [] cs) (hholds : holds q) : q = follow [] P := by
  obtain ⟨rest, rfl, -, hlast⟩ := h
  rw [follow_append] at hq
  obtain ⟨front, back, hrest, hfront⟩ :=
    exists_passing hq fun hpre => hpre.eq_of_length_le hP.length_le
  by_cases hnil : front = []
  · rw [hnil] at hfront
    exact hfront.symm
  · -- the path would pass another place with the property later
    rw [← hfront, ← follow_append] at hholds
    exact absurd hholds (hlast front (hrest ▸ List.prefix_append front back) hnil)

/-- Seen from the root, the steps without detours are steps up, which lead nowhere, and then the
names on the way to the end. -/
theorem exists_climb_root (h : ∀ c ∈ cs, IsWritten c) :
    ∃ k, direct cs = List.replicate k .up ++ (follow [] cs).map .name := by
  obtain ⟨k, ns, -, hdirect, -, -⟩ := exists_climb h
  have hroot : follow [] (List.replicate k .up) = [] :=
    List.prefix_nil.mp (follow_ups_above [] k)
  refine ⟨k, ?_⟩
  rw [← follow_direct [] cs, hdirect, follow_append, hroot, follow_names, List.nil_append]

/-- Without detours, a path passes only places above its end. -/
theorem prefix_of_direct (h : ∀ c ∈ cs, IsWritten c) (hP : P <+: direct cs) :
    follow [] P <+: follow [] cs := by
  obtain ⟨k, hdirect⟩ := exists_climb_root h
  obtain ⟨rest, hrest⟩ := hP
  have hroot : ∀ j, follow [] (List.replicate j .up) = [] := fun j =>
    List.prefix_nil.mp (follow_ups_above [] j)
  rw [hdirect] at hrest
  obtain ⟨ups, hups, -⟩ | ⟨names, rfl, hnames⟩ := List.append_eq_append_iff.mp hrest
  · -- there is nothing above the root
    obtain ⟨-, hfront⟩ := List.prefix_replicate_iff.mp ⟨ups, hups.symm⟩
    rw [hfront, hroot]
    exact List.nil_prefix
  · obtain ⟨front, back, hends, hfront, -⟩ := List.map_eq_append_iff.mp hnames
    rw [follow_append, hroot, ← hfront, follow_names, hends]
    exact List.prefix_append front back

/-- Behind the last visit to a place above the end of the path there are only names, but for
detours. -/
theorem IsLast.exists_names {rest : List Component} (h : ∀ c ∈ rest, IsWritten c)
    (hholds : holds (follow [] P))
    (hlast : ∀ front, front <+: rest → front ≠ [] → ¬holds (follow [] (P ++ front)))
    (habove : follow [] P <+: follow [] (P ++ rest)) :
    ∃ ns : List String, direct rest = ns.map .name := by
  obtain ⟨k, ns, front, hdirect, ⟨back, rfl⟩, hclimb⟩ := exists_climb h
  cases k with
  | zero => exact ⟨ns, hdirect⟩
  | succ k =>
    exfalso
    have hne : front ≠ [] := by
      rintro rfl
      have hup := follow_ups_above ["above"].dropLast k
      have hclimb := hclimb ["above"]
      rw [List.replicate_succ, follow_cons] at hclimb
      exact List.cons_ne_nil _ _ (List.prefix_nil.mp (hclimb ▸ hup))
    -- the path goes up from the place, so it comes back there
    have hup : follow (follow [] P) front <+: follow [] P := by
      rw [hclimb]
      exact follow_ups_above _ _
    rw [← List.append_assoc, follow_append, follow_append] at habove
    obtain ⟨middle, behind, hback, hmiddle⟩ :=
      exists_passing habove fun hpre => hpre.eq_of_length_le hup.length_le
    refine hlast (front ++ middle) ?_ (by simp [hne]) ?_
    · rw [hback, ← List.append_assoc]
      exact List.prefix_append _ _
    · rw [← List.append_assoc, follow_append, follow_append, hmiddle]
      exact hholds

/-- Leaving out the detours, the last place with the property is the same, if it is above the end of
the path. -/
theorem IsLast.direct (h : ∀ c ∈ cs, IsWritten c) (hP : IsLast holds cs P)
    (habove : follow [] P <+: follow [] cs) : IsLast holds (Path.direct cs) (Path.direct P) := by
  obtain ⟨rest, hcs, hholds, hlast⟩ := hP
  obtain ⟨ns, hns⟩ := IsLast.exists_names (fun c hc => h c (by simp [hcs, hc])) hholds hlast
    (hcs ▸ habove)
  have hsplit : Path.direct cs = Path.direct P ++ ns.map .name := by
    rw [hcs, direct_append_of_names _ hns]
  refine ⟨ns.map .name, hsplit, by rwa [follow_direct], ?_⟩
  intro front hfront hne hnext
  obtain ⟨names, others, rfl, rfl, -⟩ := List.map_eq_append_iff.mp hfront.choose_spec.symm
  rw [follow_append, follow_direct, follow_names] at hnext
  have hend : follow [] P ++ names <+: follow [] cs := by
    rw [← follow_direct [] cs, hsplit, follow_append, follow_direct, follow_names]
    exact (List.prefix_append_right_inj _).mpr (List.prefix_append names others)
  have hsame := IsLast.nearest ⟨rest, hcs, hholds, hlast⟩ (List.prefix_append _ names) hend hnext
  exact hne (by simpa using hsame)

end Path

open GoStructs.Path (Component direct follow spelled IsWritten)

namespace World

variable {w : World} {dir place : Place} {target : Place × Entry}

/-- A name that is written can be followed, or it is too long in each world. -/
theorem names_or_long {s : String} (hs : IsWritten (.name s)) :
    Names s.toList s
      ∨ ∀ (w : World) dir rest, w.walk dir (s.toList :: rest) = .error .nameTooLong := by
  have hspelled : spelled (.name s) = s.toList := rfl
  have hstep := hs.isStep
  have hcomponent := hs.component
  rw [hspelled] at hstep hcomponent
  obtain hno | hup | ⟨name, hname⟩ | ⟨-, herror⟩ := part_cases s.toList
  · rw [hno] at hstep
    cases hstep
  · rw [hup] at hcomponent
    cases hcomponent
  · obtain rfl : name = s := String.toList_injective hname.spelled
    exact .inl hname
  · exact .inr herror

/-- A name over which a walk leads somewhere is not too long. -/
theorem names_of_walk {s : String} {rest : List (List Char)} (hs : IsWritten (.name s))
    (hwalk : w.walk dir (spelled (.name s) :: rest) = .ok target) :
    Names (spelled (.name s)) s := by
  obtain hname | herror := names_or_long hs
  · exact hname
  · have hspelled : spelled (.name s) = s.toList := rfl
    rw [hspelled, herror] at hwalk
    cases hwalk

/-- A detour leads back to the directory in which it began. -/
theorem walk_direct {cs : List Component} (h : ∀ c ∈ cs, IsWritten c)
    (hwalk : w.walk dir (cs.map spelled) = .ok target) :
    w.walk dir ((direct cs).map spelled) = .ok target := by
  induction cs generalizing dir with
  | nil => exact hwalk
  | cons c cs ih =>
    obtain ⟨hc, hcs⟩ := List.forall_mem_cons.mp h
    cases c with
    | root | here => cases hc.component
    | up =>
      have hup : spelled .up = ['.', '.'] := rfl
      rw [List.map_cons, hup, walk_up] at hwalk
      rw [direct, List.map_cons, hup, walk_up]
      · exact ih hcs hwalk
      · simp
    | name s =>
      rw [List.map_cons] at hwalk
      have hname := names_of_walk hc hwalk
      obtain ⟨hentry, hrest⟩ | ⟨hnil, -⟩ := walk_name_eq_ok hname hwalk
      · have hdirect := ih hcs hrest
        by_cases hup : ∃ rest, direct cs = .up :: rest
        · -- the walk comes back from the directory at once
          obtain ⟨rest, hrest⟩ := hup
          have hspelled : spelled .up = ['.', '.'] := rfl
          rw [hrest, List.map_cons, hspelled, walk_up, List.dropLast_concat] at hdirect
          rw [Path.direct_name_of_up hrest]
          exact hdirect
        · rw [Path.direct_name fun rest hrest => hup ⟨rest, hrest⟩, List.map_cons,
            walk_name hname, hentry]
          exact hdirect
      · -- a file is at the end of the walk
        have hcs : cs = [] := List.map_eq_nil_iff.mp hnil
        subst hcs
        exact hwalk

/-- A walk passes the places that its steps tell; only at its end there may be a file. -/
theorem walk_follow {cs ds : List Component} (h : ∀ c ∈ cs, IsWritten c)
    (hend : ds = [] → target.2 = .directory)
    (hwalk : w.walk dir ((cs ++ ds).map spelled) = .ok target) :
    w.walk dir (cs.map spelled) = .ok (follow dir cs, .directory) := by
  induction cs generalizing dir with
  | nil => rfl
  | cons c cs ih =>
    obtain ⟨hc, hcs⟩ := List.forall_mem_cons.mp h
    rw [List.cons_append, List.map_cons] at hwalk
    rw [List.map_cons]
    cases c with
    | root | here => cases hc.component
    | up =>
      have hup : spelled .up = ['.', '.'] := rfl
      rw [hup, walk_up] at hwalk ⊢
      exact ih hcs hwalk
    | name s =>
      have hname := names_of_walk hc hwalk
      obtain ⟨hentry, hrest⟩ | ⟨hnil, bytes, rfl⟩ := walk_name_eq_ok hname hwalk
      · rw [walk_name hname, hentry]
        exact ih hcs hrest
      · -- the file would be at the very end
        have hds : ds = [] := (List.append_eq_nil_iff.mp (List.map_eq_nil_iff.mp hnil)).2
        cases hend hds

end World

end GoStructs
