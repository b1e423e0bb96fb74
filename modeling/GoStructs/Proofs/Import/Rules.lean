import GoStructs.Import.Resolve
import GoStructs.Proofs.World.Steps
/-! # The order of the rules

An import path is made by the first of five rules that applies, and what a later rule looks at does
not matter then.  Below the project root of the configuration neither files nor workspaces count.
Elsewhere the settings for the project root do not count, and if the directory belongs to a module,
then workspaces do not count either.  Otherwise the first workspace that the directory lies in
decides, before it is asked whether some directory on the way is named `src`; and the name of the
directory is only asked for at the very end.  A workspace of which the directory is the very root
is passed over.

## Main statements

* `byOverride_eq_some_iff`, `exists_byModule`, `byWorkspace_of_first`, `bySource_of_last`: when
  each rule applies, and what it gives.
* `importPath_rulesInOrder`: the rules apply in order and do not look at what others look at. -/

namespace GoStructs

open GoStructs.Path (Component)

namespace Path

/-- A path lies below another one if it goes on with the components that are left. -/
theorem below?_eq_some_iff {p base : Path} {rel : List Component} :
    p.below? base = some rel ↔ p.components = base.components ++ rel := by
  unfold below? stripComponents
  constructor
  · intro h
    split at h
    · next hpre =>
      obtain ⟨rest, hrest⟩ := List.isPrefixOf_iff_prefix.mp hpre
      rw [← hrest, List.drop_left] at h
      rw [← hrest, Option.some.inj h]
    · cases h
  · intro h
    rw [h, if_pos (List.isPrefixOf_iff_prefix.mpr (List.prefix_append _ _)), List.drop_left]

/-- The path lies below the other one and is not that path itself. -/
def IsBelow (p base : Path) : Prop := ∃ rel, rel ≠ [] ∧ p.components = base.components ++ rel

end Path

namespace Import

variable {w : World} {c : Config} {dir : Path} {m : Module} {rel : List Component}

/-! ## Rule 1 -/

/-- The directory is at or below the project root of the configuration, which gives a module path
for it. -/
def Overrides (c : Config) (dir : Path) : Prop :=
  ∃ modulePath root, c.modulePath = some modulePath ∧ c.projectRoot = some root
    ∧ root.components <+: dir.components

theorem not_overrides_of_modulePath (h : c.modulePath = none) : ¬Overrides c dir := by
  intro ⟨modulePath, root, hm, _⟩
  rw [h] at hm
  cases hm

theorem byOverride_eq_some_iff {s : String} :
    byOverride c dir = some s ↔ ∃ modulePath root rel, c.modulePath = some modulePath
      ∧ c.projectRoot = some root ∧ dir.components = root.components ++ rel
      ∧ s = underModule modulePath rel := by
  unfold byOverride
  split
  · next modulePath root hm hr =>
    simp only [Option.map_eq_some_iff, Path.below?_eq_some_iff]
    constructor
    · rintro ⟨rel, hrel, rfl⟩
      exact ⟨modulePath, root, rel, hm, hr, hrel, rfl⟩
    · rintro ⟨modulePath', root', rel, hm', hr', hrel, rfl⟩
      obtain rfl : modulePath = modulePath' := Option.some.inj (hm.symm.trans hm')
      obtain rfl : root = root' := Option.some.inj (hr.symm.trans hr')
      exact ⟨rel, hrel, rfl⟩
  · next hnone =>
    constructor
    · intro h
      cases h
    · rintro ⟨modulePath, root, -, hm, hr, -⟩
      exact absurd hr (hnone modulePath root hm)

theorem byOverride_of_components {modulePath : String} {root : Path}
    (hm : c.modulePath = some modulePath) (hroot : c.projectRoot = some root)
    (h : dir.components = root.components ++ rel) :
    byOverride c dir = some (underModule modulePath rel) :=
  byOverride_eq_some_iff.mpr ⟨modulePath, root, rel, hm, hroot, h, rfl⟩

theorem byOverride_eq_none_iff : byOverride c dir = none ↔ ¬Overrides c dir := by
  rw [← not_iff_not, not_not, ← ne_eq, Option.ne_none_iff_exists']
  simp only [byOverride_eq_some_iff, Overrides]
  constructor
  · rintro ⟨_, modulePath, root, rel, hm, hr, hrel, -⟩
    exact ⟨modulePath, root, hm, hr, hrel ▸ List.prefix_append _ _⟩
  · rintro ⟨modulePath, root, hm, hr, rel, hrel⟩
    exact ⟨_, modulePath, root, rel, hm, hr, hrel.symm, rfl⟩

/-! ## Rule 2 -/

theorem root_mem_of_moduleAmong {dirs : List Path} (h : (moduleAmong w dirs).value = some m) :
    m.root ∈ dirs := by
  induction dirs with
  | nil => cases h
  | cons d dirs ih =>
    unfold moduleAmong at h
    dsimp only at h
    split at h
    · exact List.mem_cons_of_mem _ (ih h)
    · split at h
      · cases h
        exact List.mem_cons_self
      · cases h

/-- Without module files there is no module. -/
theorem value_moduleAmong_eq_none {dirs : List Path}
    (h : ∀ d ∈ dirs, ∀ text, w.readText (d.join moduleFileName) ≠ .ok text) :
    (moduleAmong w dirs).value = none := by
  induction dirs with
  | nil => rfl
  | cons d dirs ih =>
    obtain ⟨hd, hdirs⟩ := List.forall_mem_cons.mp h
    rw [moduleAmong]
    cases hread : w.readText (d.join moduleFileName) with
    | error e => exact ih hdirs
    | ok text => exact absurd hread (hd text)

/-- A directory always lies at or below the root of its module. -/
theorem exists_byModule (h : (moduleOf w dir).value = some m) :
    ∃ rel, dir.components = m.root.components ++ rel
      ∧ byModule (some m) dir = some (underModule m.path rel) := by
  obtain ⟨rel, hrel⟩ := Path.components_prefix_of_mem_ancestors (root_mem_of_moduleAmong h)
  refine ⟨rel, hrel.symm, ?_⟩
  rw [byModule, Option.bind_some, Path.below?_eq_some_iff.mpr hrel.symm, Option.map_some]

/-! ## Rule 3 -/

/-- What a workspace says about a directory: nothing, unless the directory lies below its
packages. -/
def inWorkspace (dir root : Path) : Option String :=
  match dir.below? (root.join ⟨sourceDirectory⟩) with
  | some (r :: rest) => some (Path.slashed (r :: rest))
  | _ => none

theorem byWorkspace_eq : byWorkspace c dir = c.gopathRoots.findSome? (inWorkspace dir) := rfl

theorem inWorkspace_of_below {root : Path}
    (h : dir.components = (root.join ⟨sourceDirectory⟩).components ++ rel) (hne : rel ≠ []) :
    inWorkspace dir root = some (Path.slashed rel) := by
  obtain ⟨r, rest, rfl⟩ := List.exists_cons_of_ne_nil hne
  rw [inWorkspace, Path.below?_eq_some_iff.mpr h]

theorem inWorkspace_eq_none_iff {root : Path} :
    inWorkspace dir root = none ↔ ¬dir.IsBelow (root.join ⟨sourceDirectory⟩) := by
  constructor
  · rintro hnone ⟨rel, hne, hrel⟩
    rw [inWorkspace_of_below hrel hne] at hnone
    cases hnone
  · intro h
    unfold inWorkspace
    split
    · next r rest hrel =>
      exact absurd ⟨r :: rest, List.cons_ne_nil _ _, Path.below?_eq_some_iff.mp hrel⟩ h
    · rfl

/-- The first workspace that the directory lies in decides. -/
theorem byWorkspace_of_first {nearer farther : List Path} {root : Path}
    (hroots : c.gopathRoots = nearer ++ root :: farther)
    (hnearer : ∀ r ∈ nearer, ¬dir.IsBelow (r.join ⟨sourceDirectory⟩))
    (h : dir.components = (root.join ⟨sourceDirectory⟩).components ++ rel) (hne : rel ≠ []) :
    byWorkspace c dir = some (Path.slashed rel) := by
  have hnone : nearer.findSome? (inWorkspace dir) = none :=
    List.findSome?_eq_none_iff.mpr fun r hr => inWorkspace_eq_none_iff.mpr (hnearer r hr)
  rw [byWorkspace_eq, hroots, List.findSome?_append, hnone, Option.none_or, List.findSome?_cons,
    inWorkspace_of_below h hne]

theorem byWorkspace_eq_none (h : ∀ r ∈ c.gopathRoots, ¬dir.IsBelow (r.join ⟨sourceDirectory⟩)) :
    byWorkspace c dir = none :=
  List.findSome?_eq_none_iff.mpr fun r hr => inWorkspace_eq_none_iff.mpr (h r hr)

/-- A search does not miss what it would pass over. -/
theorem findSome?_filter {α β : Type} {p : α → Bool} {f : α → Option β}
    (h : ∀ a, p a = false → f a = none) (as : List α) :
    (as.filter p).findSome? f = as.findSome? f := by
  induction as with
  | nil => rfl
  | cons a as ih =>
    by_cases hp : p a
    · rw [List.filter_cons_of_pos hp, List.findSome?_cons, List.findSome?_cons, ih]
    · rw [List.filter_cons_of_neg hp, List.findSome?_cons, h a (Bool.eq_false_iff.mpr hp), ih]

/-- The workspaces but those whose packages the directory itself holds. -/
def properRoots (c : Config) (dir : Path) : List Path :=
  c.gopathRoots.filter fun root => (root.join ⟨sourceDirectory⟩).components ≠ dir.components

/-- A workspace whose packages the directory itself holds is passed over. -/
theorem byWorkspace_of_properRoots {c' : Config} (h : c'.gopathRoots = properRoots c dir) :
    byWorkspace c' dir = byWorkspace c dir := by
  rw [byWorkspace_eq, byWorkspace_eq, h, properRoots]
  apply findSome?_filter
  intro root hroot
  have hcomponents : (root.join ⟨sourceDirectory⟩).components = dir.components := by
    simpa using hroot
  rw [inWorkspace_eq_none_iff]
  intro ⟨rel, hne, hrel⟩
  rw [hcomponents] at hrel
  exact hne (List.self_eq_append_right.mp hrel)

/-! ## Rules 4 and 5 -/

theorem behindLast_of_not_mem {name : String} {front : List Component}
    (h : .name name ∉ rel) : behindLast name (front ++ .name name :: rel) = some rel := by
  have hall : ∀ c ∈ rel.reverse, (c != Component.name name) = true := by
    intro c hc
    rw [bne_iff_ne]
    rintro rfl
    exact h (List.mem_reverse.mp hc)
  unfold behindLast
  rw [if_pos (by simp), List.reverse_append, List.reverse_cons, List.append_assoc,
    List.takeWhile_append_of_pos hall]
  simp

theorem behindLast_eq_none {name : String} {cs : List Component} (h : .name name ∉ cs) :
    behindLast name cs = none := by
  rw [behindLast, if_neg (by simpa using h)]

/-- A list in which there is a component ends with what stands behind it for the last time. -/
theorem exists_last_of_mem {c : Component} {cs : List Component} (h : c ∈ cs) :
    ∃ front rel, cs = front ++ c :: rel ∧ c ∉ rel := by
  obtain ⟨as, bs, hcs, hnot⟩ := List.eq_append_cons_of_mem (List.mem_reverse.mpr h)
  refine ⟨bs.reverse, as.reverse, ?_, by simpa using hnot⟩
  rw [← List.reverse_reverse cs, hcs]
  simp

/-- The components from a directory named `src` on, if no other is further down. -/
def LastSource (dir : Path) (rel : List Component) : Prop :=
  ∃ front, dir.components = front ++ .name sourceDirectory :: rel ∧ .name sourceDirectory ∉ rel

theorem bySource_of_last (h : LastSource dir rel) (hne : rel ≠ []) :
    bySource dir = some (Path.slashed rel) := by
  obtain ⟨front, hfront, hnot⟩ := h
  obtain ⟨r, rest, rfl⟩ := List.exists_cons_of_ne_nil hne
  rw [bySource, hfront, behindLast_of_not_mem hnot]

/-- Without a directory named `src` on the way, and also if that is the last, rule 4 does not
apply. -/
theorem bySource_eq_none (h : ∀ rel, LastSource dir rel → rel = []) : bySource dir = none := by
  unfold bySource
  by_cases hmem : .name sourceDirectory ∈ dir.components
  · obtain ⟨front, rel, hfront, hnot⟩ := exists_last_of_mem hmem
    obtain rfl : rel = [] := h rel ⟨front, hfront, hnot⟩
    rw [hfront, behindLast_of_not_mem hnot]
  · rw [behindLast_eq_none hmem]

/-! ## All rules -/

theorem importPath_of_byOverride {file : Path} {s : String}
    (h : byOverride c (packageDir w file) = some s) : importPath w c file = .quiet s := by
  rw [importPath, ofDirectory, h]

/-- What rules 2 to 5 give. -/
theorem importPath_of_not_overrides {file : Path} (h : ¬Overrides c (packageDir w file)) :
    importPath w c file = (moduleOf w (packageDir w file)).andThen fun m =>
      .quiet (((byModule m (packageDir w file)).or (byWorkspace c (packageDir w file))).getD
        ((bySource (packageDir w file)).getD (byName (packageDir w file)))) := by
  rw [importPath, ofDirectory, byOverride_eq_none_iff.mpr h]
  refine congrArg (Told.andThen _) (funext fun m => congrArg Told.quiet ?_)
  cases byModule m (packageDir w file) with
  | some s => simp only [Option.some_or, Option.getD_some]
  | none =>
    cases byWorkspace c (packageDir w file) with
    | some s => simp only [Option.none_or, Option.getD_some]
    | none => simp only [Option.none_or, Option.getD_none]

/-- Where rule 1 does not apply, only the workspaces of the configuration count. -/
theorem importPath_congr {c' : Config} {file : Path}
    (h : ¬Overrides c (packageDir w file)) (h' : ¬Overrides c' (packageDir w file))
    (hworkspace : byWorkspace c' (packageDir w file) = byWorkspace c (packageDir w file)) :
    importPath w c' file = importPath w c file := by
  rw [importPath_of_not_overrides h, importPath_of_not_overrides h', hworkspace]

/-- In a module, the workspaces of the configuration do not count. -/
theorem importPath_of_module {file : Path} (h : ¬Overrides c (packageDir w file))
    (hm : (moduleOf w (packageDir w file)).value = some m) :
    ∃ rel, (packageDir w file).components = m.root.components ++ rel
      ∧ importPath w c file
        = ⟨underModule m.path rel, (moduleOf w (packageDir w file)).events⟩ := by
  obtain ⟨rel, hrel, hby⟩ := exists_byModule hm
  refine ⟨rel, hrel, ?_⟩
  rw [importPath_of_not_overrides h, Told.andThen, hm, hby, Option.some_or]
  simp [Told.quiet]

/-- Without a module, rules 3 to 5 decide. -/
theorem value_importPath_of_no_module {file : Path} (h : ¬Overrides c (packageDir w file))
    (hm : (moduleOf w (packageDir w file)).value = none) :
    (importPath w c file).value = (byWorkspace c (packageDir w file)).getD
      ((bySource (packageDir w file)).getD (byName (packageDir w file))) := by
  rw [importPath_of_not_overrides h, Told.andThen_value, hm, Told.quiet_value, byModule,
    Option.bind_none, Option.none_or]

theorem gopathRoots_congr {c' : Config} (h : c'.gopath = c.gopath) :
    c'.gopathRoots = c.gopathRoots := by
  rw [Config.gopathRoots, Config.gopathRoots, h]

/-- The rules apply in order, and none of them looks at what only others look at. -/
structure RulesInOrder (w : World) (c : Config) (file : Path) : Prop where
  /-- At or below the project root the import path is made of the module path of the configuration,
  whatever files there are and whatever workspaces. -/
  override : ∀ modulePath root rel, c.modulePath = some modulePath → c.projectRoot = some root →
    (packageDir w file).components = root.components ++ rel →
    ∀ (w' : World) (gopath : Option Path), w'.current = w.current →
      importPath w' { c with gopath := gopath } file = .quiet (underModule modulePath rel)
  /-- Elsewhere it does not matter whether there is a module path or a project root, or both. -/
  settings : ¬Overrides c (packageDir w file) → ∀ c' : Config, c'.gopath = c.gopath →
    ¬Overrides c' (packageDir w file) → importPath w c' file = importPath w c file
  /-- In a module the import path is made of the module's, whatever workspaces there are. -/
  module : ¬Overrides c (packageDir w file) → ∀ m, (moduleOf w (packageDir w file)).value = some m →
    ∃ rel, (packageDir w file).components = m.root.components ++ rel
      ∧ (importPath w c file).value = underModule m.path rel
      ∧ ∀ gopath : Option Path, importPath w { c with gopath := gopath } file = importPath w c file
  /-- Without a module the first workspace that the directory lies in decides, whatever directories
  on the way are named `src`. -/
  workspace : ¬Overrides c (packageDir w file) → (moduleOf w (packageDir w file)).value = none →
    ∀ nearer root farther rel, c.gopathRoots = nearer ++ root :: farther →
      (∀ r ∈ nearer, ¬(packageDir w file).IsBelow (r.join ⟨sourceDirectory⟩)) →
      (packageDir w file).components = (root.join ⟨sourceDirectory⟩).components ++ rel → rel ≠ [] →
      (importPath w c file).value = Path.slashed rel
  /-- A workspace whose packages the directory itself holds is passed over. -/
  passedOver : ∀ c' : Config, c'.modulePath = c.modulePath → c'.projectRoot = c.projectRoot →
    c'.gopathRoots = properRoots c (packageDir w file) → importPath w c' file = importPath w c file
  /-- Outside of all workspaces the last directory on the way that is named `src` decides. -/
  source : ¬Overrides c (packageDir w file) → (moduleOf w (packageDir w file)).value = none →
    (∀ r ∈ c.gopathRoots, ¬(packageDir w file).IsBelow (r.join ⟨sourceDirectory⟩)) →
    ∀ rel, LastSource (packageDir w file) rel → rel ≠ [] →
      (importPath w c file).value = Path.slashed rel
  /-- If there is none with anything below it, then the import path is the name of the directory. -/
  name : ¬Overrides c (packageDir w file) → (moduleOf w (packageDir w file)).value = none →
    (∀ r ∈ c.gopathRoots, ¬(packageDir w file).IsBelow (r.join ⟨sourceDirectory⟩)) →
    (∀ rel, LastSource (packageDir w file) rel → rel = []) →
      (importPath w c file).value = (packageDir w file).fileName?.getD ""

theorem importPath_rulesInOrder (w : World) (c : Config) (file : Path) : RulesInOrder w c file where
  override modulePath root rel hm hroot hrel w' gopath hcurrent := by
    have hdir : packageDir w' file = packageDir w file := by
      simp only [packageDir, World.absolute, World.currentPath?, hcurrent]
    apply importPath_of_byOverride
    rw [hdir]
    exact byOverride_of_components hm hroot hrel
  settings h c' hgopath h' := by
    apply importPath_congr h h'
    rw [byWorkspace_eq, byWorkspace_eq, gopathRoots_congr hgopath]
  module h m hm := by
    obtain ⟨rel, hrel, hvalue⟩ := importPath_of_module h hm
    refine ⟨rel, hrel, by rw [hvalue], fun gopath => ?_⟩
    obtain ⟨rel', hrel', hvalue'⟩ := importPath_of_module (c := { c with gopath := gopath }) h hm
    obtain rfl : rel' = rel := List.append_cancel_left (hrel'.symm.trans hrel)
    rw [hvalue, hvalue']
  workspace h hm nearer root farther rel hroots hnearer hrel hne := by
    rw [value_importPath_of_no_module h hm, byWorkspace_of_first hroots hnearer hrel hne,
      Option.getD_some]
  passedOver c' hmodule hroot hroots := by
    have hoverride : byOverride c' (packageDir w file) = byOverride c (packageDir w file) := by
      rw [byOverride, byOverride, hmodule, hroot]
    cases hby : byOverride c (packageDir w file) with
    | some s => rw [importPath_of_byOverride hby, importPath_of_byOverride (hoverride.trans hby)]
    | none =>
      exact importPath_congr (byOverride_eq_none_iff.mp hby)
        (byOverride_eq_none_iff.mp (hoverride.trans hby)) (byWorkspace_of_properRoots hroots)
  source h hm hroots rel hlast hne := by
    rw [value_importPath_of_no_module h hm, byWorkspace_eq_none hroots, bySource_of_last hlast hne,
      Option.getD_none, Option.getD_some]
  name h hm hroots hlast := by
    rw [value_importPath_of_no_module h hm, byWorkspace_eq_none hroots, bySource_eq_none hlast,
      Option.getD_none, Option.getD_none, byName]

/-- A world with no files at all. -/
def noFiles : World := ⟨[], some [], []⟩

/-- A directory named `src` inside a workspace: it does not count if the workspace is known, nor
does the workspace if the project root is. -/
theorem importPath_rulesInOrder_inside :
    (importPath noFiles ⟨some ⟨"/none:/go"⟩, none, none⟩ ⟨"/go/src/app/src/x/f.go"⟩).value
        = "app/src/x"
      ∧ (importPath noFiles ⟨none, none, none⟩ ⟨"/go/src/app/src/x/f.go"⟩).value = "x"
      ∧ ∀ (w : World) (gopath : Option Path), w.current = some [] →
        importPath w ⟨gopath, some "m", some ⟨"/go"⟩⟩ ⟨"/go/src/app/src/x/f.go"⟩
          = .quiet "m/src/app/src/x" := by
  have hdir : packageDir noFiles ⟨"/go/src/app/src/x/f.go"⟩ = ⟨"/go/src/app/src/x"⟩ := by
    decide +kernel
  have hnone : (moduleOf noFiles ⟨"/go/src/app/src/x"⟩).value = none := by decide +kernel
  refine ⟨?_, ?_, fun w gopath hcurrent => ?_⟩
  · have hrules := importPath_rulesInOrder noFiles ⟨some ⟨"/none:/go"⟩, none, none⟩
      ⟨"/go/src/app/src/x/f.go"⟩
    refine hrules.workspace ?_ (hdir ▸ hnone) [⟨"/none"⟩] ⟨"/go"⟩ []
      [.name "app", .name "src", .name "x"] (by decide +kernel) ?_ (by decide +kernel) (by simp)
    · rintro ⟨_, _, hm, -⟩
      cases hm
    · rintro r hr ⟨rel, -, hrel⟩
      rw [List.mem_singleton.mp hr, hdir] at hrel
      have hpre := hrel ▸ List.prefix_append _ rel
      exact absurd hpre (by decide +kernel)
  · have hrules := importPath_rulesInOrder noFiles ⟨none, none, none⟩ ⟨"/go/src/app/src/x/f.go"⟩
    refine hrules.source ?_ (hdir ▸ hnone) (by simp [Config.gopathRoots]) [.name "x"]
      ⟨[.root, .name "go", .name "src", .name "app"], by decide +kernel, by decide +kernel⟩
      (by simp)
    rintro ⟨_, _, hm, -⟩
    cases hm
  · exact (importPath_rulesInOrder noFiles ⟨none, some "m", some ⟨"/go"⟩⟩
      ⟨"/go/src/app/src/x/f.go"⟩).override "m" ⟨"/go"⟩
        [.name "src", .name "app", .name "src", .name "x"] rfl rfl (by decide +kernel) w gopath
        hcurrent

end Import

end GoStructs
