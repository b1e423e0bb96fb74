import GoStructs.Proofs.World.Visits
/-! # Searches up a path

A search for a file of some name goes up a path as it is written.  It looks into the directories
that the path passes, the last of them first, so it stops at the last one that holds such a file.
Without detours the path passes only directories at or above its end, and the search stops at the
nearest of these that holds one.

## Main statements

* `Path.isLast_of_ancestors`, `Path.IsLast.exists_ancestor`: a search up a path stops at the last
  place with the property that the path passes.
* `Path.exists_isLast_direct_iff`: without detours that is the nearest one at or above the end.
* `World.Leads.resolve_eq_file_iff`: what a search finds in a directory that the path passes. -/

namespace GoStructs

namespace Path

variable {holds : Place → Prop} {p a : Path} {cs P : List Component} {place q : Place}

/-! ## Ancestors in order -/

theorem pairwise_above (fuel : Nat) (p : Path) :
    (p :: above fuel p).Pairwise fun b a => a.components <+: b.components := by
  induction fuel generalizing p with
  | zero => simp [above]
  | succ fuel ih =>
    cases hd : p.parent? with
    | none => simp [above, hd]
    | some d =>
      rw [above, hd]
      refine List.pairwise_cons.mpr ⟨?_, ih d⟩
      have habove : ∀ a ∈ d :: above fuel d, a.components <+: d.components :=
        List.forall_mem_cons.mpr ⟨List.prefix_refl _, fun a ha =>
          List.rel_of_pairwise_cons (ih d) ha⟩
      intro a ha
      exact (habove a ha).trans (components_prefix_of_parent? hd)

/-- Among the ancestors of a path, those further back are above those further in front. -/
theorem pairwise_ancestors (p : Path) :
    p.ancestors.Pairwise fun b a => a.components <+: b.components :=
  pairwise_above _ p

/-- An ancestor with more steps than another one stands in front of it. -/
theorem mem_nearer {nearer farther : List Path} {b : Path} (habs : p.isAbsolute)
    (hsplit : p.ancestors = nearer ++ a :: farther) (hb : b ∈ p.ancestors)
    (hlt : a.steps.length < b.steps.length) : b ∈ nearer := by
  have ha : a ∈ p.ancestors := by simp [hsplit]
  have hpairwise := pairwise_ancestors p
  rw [hsplit] at hpairwise hb
  rcases List.mem_append.mp hb with hb | hb
  · exact hb
  · exfalso
    have hbelow : b.components <+: a.components := by
      rcases List.mem_cons.mp hb with rfl | hb
      · exact List.prefix_refl _
      · exact List.rel_of_pairwise_cons (List.pairwise_append.mp hpairwise).2.1 hb
    have hbabs := (isAbsolute_of_mem_ancestors habs (hsplit ▸ List.mem_append_right _ hb)).1
    rw [components_of_isAbsolute hbabs,
      components_of_isAbsolute (isAbsolute_of_mem_ancestors habs ha).1] at hbelow
    have hle := hbelow.length_le
    simp only [List.length_cons] at hle
    omega

/-! ## Where a search stops -/

/-- The first of the ancestors that leads to a place with the property ends where the path passes
such a place for the last time. -/
theorem isLast_of_ancestors {nearer farther : List Path} (habs : p.isAbsolute)
    (hsplit : p.ancestors = nearer ++ a :: farther) (ha : holds (follow [] a.steps))
    (hnearer : ∀ b ∈ nearer, ¬holds (follow [] b.steps)) : IsLast holds p.steps a.steps := by
  obtain ⟨rest, hrest⟩ := steps_prefix_of_mem_ancestors habs (a := a) (by simp [hsplit])
  refine ⟨rest, hrest.symm, ha, ?_⟩
  rintro front ⟨back, hback⟩ hne
  have hsteps : p.steps = (a.steps ++ front) ++ back := by
    rw [← hrest, ← hback, List.append_assoc]
  -- the path passes the place of a nearer ancestor there
  obtain ⟨before, b, behind, hancestors, hb, -⟩ := exists_ancestor habs hsteps
  have hlt : a.steps.length < b.steps.length := by
    have := List.length_pos_of_ne_nil hne
    rw [hb, List.length_append]
    omega
  rw [← hb]
  exact hnearer b (mem_nearer habs hsplit (by simp [hancestors]) hlt)

/-- The last place with the property that a path passes is found in one of its ancestors, and
nothing is found in those that are nearer. -/
theorem IsLast.exists_ancestor (habs : p.isAbsolute) (hP : IsLast holds p.steps P) :
    ∃ nearer a farther, p.ancestors = nearer ++ a :: farther ∧ a.steps = P
      ∧ holds (follow [] a.steps) ∧ ∀ b ∈ nearer, ¬holds (follow [] b.steps) := by
  obtain ⟨rest, hrest, hholds, hlast⟩ := hP
  obtain ⟨nearer, a, farther, hsplit, rfl, hnearer⟩ := Path.exists_ancestor habs hrest
  refine ⟨nearer, a, farther, hsplit, rfl, hholds, ?_⟩
  intro b hb
  have hbpre := steps_prefix_of_mem_ancestors habs (a := b) (by simp [hsplit, hb])
  -- the nearer ancestor is passed later
  obtain ⟨front, hfront⟩ := List.prefix_of_prefix_length_le ⟨rest, hrest.symm⟩ hbpre
    (hnearer b hb).le
  have hne : front ≠ [] := by
    intro hnil
    have hlt := hnearer b hb
    rw [← hfront, hnil, List.append_nil] at hlt
    omega
  rw [← hfront] at hbpre ⊢
  rw [hrest] at hbpre
  exact hlast front ((List.prefix_append_right_inj _).mp hbpre) hne

/-- A path does not pass a last place twice. -/
theorem IsLast.unique {Q : List Component} (hP : IsLast holds cs P) (hQ : IsLast holds cs Q) :
    P = Q := by
  have hle : ∀ {P Q : List Component}, IsLast holds cs P → IsLast holds cs Q →
      P.length ≤ Q.length → P = Q := by
    rintro P Q ⟨rest, hrest, -, hlast⟩ ⟨rest', hrest', hholds, -⟩ hlength
    obtain ⟨front, rfl⟩ := List.prefix_of_prefix_length_le ⟨rest, hrest.symm⟩
      ⟨rest', hrest'.symm⟩ hlength
    have hpre : front <+: rest := by
      rw [hrest, List.append_assoc] at hrest'
      exact ⟨rest', (List.append_cancel_left hrest').symm⟩
    by_contra hne
    exact hlast front hpre (by simpa using hne) hholds
  rcases Nat.le_total P.length Q.length with h | h
  · exact hle hP hQ h
  · exact (hle hQ hP h).symm

/-- The place has the property and is at or above another one, and none between them has it. -/
structure IsNearestAbove (holds : Place → Prop) (place q : Place) : Prop where
  above : q <+: place
  has : holds q
  nearest : ∀ p, p <+: place → holds p → p <+: q

/-- The last place with the property that a path passes is the nearest one above its end, if it is
above its end. -/
theorem IsLast.isNearestAbove (hP : IsLast holds cs P) (habove : follow [] P <+: follow [] cs) :
    IsNearestAbove holds (follow [] cs) (follow [] P) := by
  refine ⟨habove, hP.choose_spec.2.1, ?_⟩
  intro p hp hholds
  by_cases hpre : p <+: follow [] P
  · exact hpre
  · -- then the path would pass `p` later
    have hlonger := (List.prefix_or_prefix_of_prefix hp habove).resolve_left hpre
    rw [hP.nearest hlonger hp hholds]

/-- Without detours the last place with the property is the nearest one at or above the end. -/
theorem exists_isLast_direct_iff (h : ∀ c ∈ cs, IsWritten c) :
    (∃ P, IsLast holds (direct cs) P ∧ follow [] P = q)
      ↔ IsNearestAbove holds (follow [] cs) q := by
  have hnearest : ∀ {P : List Component}, IsLast holds (direct cs) P →
      IsNearestAbove holds (follow [] cs) (follow [] P) := by
    intro P hP
    have habove : follow [] P <+: follow [] (direct cs) := by
      obtain ⟨rest, hrest, -⟩ := hP
      rw [follow_direct]
      exact prefix_of_direct h ⟨rest, hrest.symm⟩
    have hend := hP.isNearestAbove habove
    rwa [follow_direct] at hend
  constructor
  · rintro ⟨P, hP, rfl⟩
    exact hnearest hP
  · intro hq
    -- the path passes the place, so there is a last one
    obtain ⟨front, back, hsplit, hfront⟩ :=
      exists_passing ((follow_direct [] cs).symm ▸ hq.above) List.prefix_nil.mp
    obtain ⟨P, hP⟩ := exists_isLast hsplit (hfront.symm ▸ hq.has)
    refine ⟨P, hP, ?_⟩
    have hP' := hnearest hP
    exact (hq.nearest _ hP'.above hP'.has).eq_of_length_le
      (hP'.nearest q hq.above hq.has).length_le

end Path

/-! ## Files of one name -/

open GoStructs.Path (Component direct follow spelled isStep)

namespace World

variable {w : World} {name dir dir' a : Path} {s : String} {place : Place}

/-- The path is the name of a file, and short enough to be looked for. -/
structure IsFileName (name : Path) (s : String) : Prop where
  isAbsolute : name.isAbsolute = false
  steps : name.steps = [.name s]
  last : ∀ part ∈ name.parts.getLast?, isStep part
  nul : '\x00' ∉ name.text.toList
  names : Names s.toList s

/-- The path leads to a directory, and can be followed to a file of the given name in it. -/
structure Leads (w : World) (name dir : Path) (place : Place) : Prop where
  absolute : dir.isAbsolute
  walk : w.walk [] (dir.steps.map spelled) = .ok (place, .directory)
  nul : '\x00' ∉ dir.text.toList
  size : (dir.join name).text.utf8ByteSize < pathLimit

theorem leads_of_resolve (habs : dir.isAbsolute)
    (hplace : w.resolve dir = .ok (place, .directory))
    (hsize : (dir.join name).text.utf8ByteSize < pathLimit) : w.Leads name dir place := by
  obtain ⟨-, -, -, hnul, -⟩ := walk_of_resolve hplace
  exact ⟨habs, walk_steps_of_resolve habs hplace, hnul, hsize⟩

/-- Without its detours a path leads to the same directory. -/
theorem Leads.straight (h : w.Leads name dir place) (habs : dir'.isAbsolute)
    (hsteps : dir'.steps = direct dir.steps)
    (hsize : (dir'.join name).text.utf8ByteSize < pathLimit) : w.Leads name dir' place := by
  refine ⟨habs, ?_, ?_, hsize⟩
  · rw [hsteps]
    exact walk_direct (fun c hc => Path.isWritten_of_mem_steps hc) h.walk
  · intro hmem
    rw [Path.mem_text_iff (by decide) (by decide), hsteps] at hmem
    obtain ⟨step, hstep, hmem⟩ := hmem
    apply h.nul
    rw [Path.mem_text_iff (by decide) (by decide)]
    exact ⟨step, (Path.direct_sublist _).subset hstep, hmem⟩

/-- The steps of a path tell to which directory it leads. -/
theorem Leads.place_eq (h : w.Leads name dir place) : follow [] dir.steps = place := by
  have hwalk := h.walk
  rw [← List.append_nil dir.steps] at hwalk
  have hfollow := walk_follow (fun c hc => Path.isWritten_of_mem_steps hc) (fun _ => rfl) hwalk
  rw [h.walk] at hfollow
  cases hfollow
  rfl

/-- The path of a file in a directory above leads there from the place that the path passes. -/
theorem Leads.resolve_join (h : w.Leads name dir place) (hname : IsFileName name s)
    (ha : a ∈ dir.ancestors) :
    w.resolve (a.join name) = w.walk (follow [] a.steps) [s.toList] := by
  obtain ⟨haabs, hpre⟩ := Path.isAbsolute_of_mem_ancestors h.absolute ha
  obtain ⟨rest, hrest⟩ := Path.steps_prefix_of_mem_ancestors h.absolute ha
  have habs := Path.isAbsolute_join haabs hname.isAbsolute
  have hsize : (a.join name).text.utf8ByteSize < pathLimit :=
    Nat.lt_of_le_of_lt (Path.size_join_le_of_prefix hpre hname.isAbsolute) h.size
  have hnul : '\x00' ∉ (a.join name).text.toList := by
    rw [Path.mem_join_iff (by decide) hname.isAbsolute]
    rintro (hmem | hmem)
    · exact h.nul (hpre.subset hmem)
    · exact hname.nul hmem
  have hwalk := h.walk
  rw [← hrest] at hwalk
  have hfollow := walk_follow (fun c hc => Path.isWritten_of_mem_steps hc) (fun _ => rfl) hwalk
  rw [resolve_eq_walk (Path.text_ne_of_isAbsolute habs) hsize hnul, startOf, if_pos habs]
  · show w.walk [] _ = _
    rw [Path.steps_join hname.isAbsolute, hname.steps, List.map_append, walk_append hfollow]
    rfl
  · rw [Path.getLast?_parts_join hname.isAbsolute]
    exact hname.last

/-- What the search finds in a directory that the path passes. -/
theorem Leads.resolve_eq_file_iff (h : w.Leads name dir place) (hname : IsFileName name s)
    (ha : a ∈ dir.ancestors) {target : Place} {bytes : ByteArray} :
    w.resolve (a.join name) = .ok (target, .file bytes)
      ↔ target = follow [] a.steps ++ [s]
        ∧ w.entry? (follow [] a.steps ++ [s]) = some (.file bytes) := by
  rw [h.resolve_join hname ha, walk_name hname.names]
  cases hentry : w.entry? (follow [] a.steps ++ [s]) with
  | none => simp
  | some entry =>
    cases entry with
    | directory => simp [World.walk]
    | file found => simp [eq_comm]

end World

end GoStructs
