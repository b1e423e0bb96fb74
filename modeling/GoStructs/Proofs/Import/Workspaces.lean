import GoStructs.Proofs.Import.Rules
/-! # Workspaces and directories named `src`

Where the configuration has no module path for a package and no module file either, the import path
is what stands behind the `src` of a workspace.  The workspaces are listed in a text, with colons
between.  The first of them that the package lies in decides, so it does not matter which others
there are, nor whether there are empty entries.

Outside of all workspaces the import path is what stands behind the last directory above that is
named `src`, unless the directory of the package has this name itself.  Then the search stops there:
the import path is the name of the directory, whatever stands further up.

## Main statements

* `Config.gopathRoots_listing`: the workspaces that a text lists.
* `importPath_listing`: what such a list does to import paths.
* `importPath_behindSource`: what directories named `src` do. -/

namespace GoStructs

open GoStructs.Path (Component)

/-! ## Lists of workspaces -/

namespace Config

/-- The text in which some workspaces are listed. -/
def listing (roots : List String) : Path := ⟨String.intercalate ":" roots⟩

/-- The workspaces are the entries of the list, but those that are empty. -/
theorem gopathRoots_listing {c : Config} {roots : List String} (h : ∀ r ∈ roots, ':' ∉ r.toList)
    (hc : c.gopath = some (listing roots)) :
    c.gopathRoots = (roots.filter (· ≠ "")).map Path.mk := by
  have hcolon : ":".toList = [':'] := rfl
  have hempty : ((!·.isEmpty) ∘ String.toList) = fun r => decide (r ≠ "") := by
    funext r
    by_cases hr : r = ""
    · rw [hr]
      rfl
    · simp [hr]
  have hparts : ((listing roots).text.toList.splitOn ':').filter (!·.isEmpty)
      = (roots.filter (· ≠ "")).map String.toList := by
    rw [listing, String.toList_intercalate, hcolon]
    by_cases hnil : roots = []
    · rw [hnil]
      rfl
    · have hcolons : ∀ part ∈ roots.map String.toList, ':' ∉ part := by
        intro part hpart
        obtain ⟨r, hr, rfl⟩ := List.mem_map.mp hpart
        exact h r hr
      rw [List.splitOn_intercalate _ hcolons (by simpa using hnil), List.filter_map, hempty]
  rw [gopathRoots, hc]
  show (((listing roots).text.toList.splitOn ':').filter (!·.isEmpty)).map _ = _
  rw [hparts, List.map_map]
  apply List.map_congr_left
  intro r _
  exact congrArg Path.mk String.ofList_toList

end Config

namespace Import

variable {w : World} {c : Config} {dir file : Path} {roots : List String} {rel : List Component}

instance (p base : Path) : Decidable (p.IsBelow base) :=
  decidable_of_iff (∃ rel ∈ p.below? base, rel ≠ []) <| by
    simp only [Path.IsBelow, Option.mem_def, Path.below?_eq_some_iff, and_comm]

/-- The entries of a list of workspaces that the directory lies in. -/
def rootsAbove (dir : Path) (roots : List String) : List String :=
  roots.filter fun r => r ≠ "" ∧ dir.IsBelow ((⟨r⟩ : Path).join ⟨sourceDirectory⟩)

/-- Only the entries that the directory lies in count. -/
theorem byWorkspace_of_listing (h : ∀ r ∈ roots, ':' ∉ r.toList)
    (hc : c.gopath = some (Config.listing roots)) :
    byWorkspace c dir = (rootsAbove dir roots).findSome? (inWorkspace dir ∘ Path.mk) := by
  have hfilter : rootsAbove dir roots = (roots.filter (· ≠ "")).filter
      fun r => dir.IsBelow ((⟨r⟩ : Path).join ⟨sourceDirectory⟩) := by
    rw [List.filter_filter, rootsAbove]
    apply List.filter_congr
    intro r _
    rw [← Bool.decide_and]
    exact decide_eq_decide.mpr and_comm
  rw [byWorkspace_eq, Config.gopathRoots_listing h hc, List.findSome?_map, hfilter]
  symm
  apply findSome?_filter
  intro r hr
  exact inWorkspace_eq_none_iff.mpr (of_decide_eq_false hr)

/-- Configurations that differ in their workspaces only give the same import paths if the first
workspace that the directory lies in is the same, or there is none. -/
theorem importPath_congr_workspace {gopath : Option Path}
    (h : byWorkspace { c with gopath := gopath } (packageDir w file)
      = byWorkspace c (packageDir w file)) :
    importPath w { c with gopath := gopath } file = importPath w c file := by
  cases hby : byOverride c (packageDir w file) with
  | some s =>
    have hby' : byOverride { c with gopath := gopath } (packageDir w file) = some s := hby
    rw [importPath_of_byOverride hby, importPath_of_byOverride hby']
  | none =>
    have hoverrides := byOverride_eq_none_iff.mp hby
    exact importPath_congr hoverrides hoverrides h

/-- What a list of workspaces does to the import path of a package. -/
structure FollowsListing (w : World) (c : Config) (file : Path) (roots : List String) : Prop where
  /-- The workspaces are the entries that are not empty, in order. -/
  gopathRoots : c.gopathRoots = (roots.filter (· ≠ "")).map Path.mk
  /-- Where neither the configuration nor a module file gives a module path, the names of the
  directories below `src` in the first workspace that the package lies in are its import path. -/
  first : ¬Overrides c (packageDir w file) → (moduleOf w (packageDir w file)).value = none →
    ∀ nearer r farther rel, roots = nearer ++ r :: farther → r ≠ "" →
      (∀ q ∈ nearer, q ≠ "" →
        ¬(packageDir w file).IsBelow ((⟨q⟩ : Path).join ⟨sourceDirectory⟩)) →
      (packageDir w file).components = ((⟨r⟩ : Path).join ⟨sourceDirectory⟩).components ++ rel →
      rel ≠ [] → (importPath w c file).value = String.intercalate "/" (Path.names rel)
  /-- If the package lies in none of them, then they might as well not be there. -/
  unused : (∀ r ∈ roots, r ≠ "" →
      ¬(packageDir w file).IsBelow ((⟨r⟩ : Path).join ⟨sourceDirectory⟩)) →
    importPath w { c with gopath := none } file = importPath w c file
  /-- Empty entries and workspaces that the package does not lie in may come, go and change their
  order. -/
  others : ∀ roots' : List String, (∀ r ∈ roots', ':' ∉ r.toList) →
    rootsAbove (packageDir w file) roots' = rootsAbove (packageDir w file) roots →
    importPath w { c with gopath := some (Config.listing roots') } file = importPath w c file

theorem importPath_listing (w : World) (file : Path) (h : ∀ r ∈ roots, ':' ∉ r.toList)
    (hc : c.gopath = some (Config.listing roots)) : FollowsListing w c file roots where
  gopathRoots := Config.gopathRoots_listing h hc
  first hoverrides hm nearer r farther rel hroots hr hnearer hrel hne := by
    have hsplit : c.gopathRoots = (nearer.filter (· ≠ "")).map Path.mk
        ++ ⟨r⟩ :: (farther.filter (· ≠ "")).map Path.mk := by
      rw [Config.gopathRoots_listing h hc, hroots, List.filter_append,
        List.filter_cons_of_pos (by simpa using hr), List.map_append, List.map_cons]
    have hpassed : ∀ q ∈ (nearer.filter (· ≠ "")).map Path.mk,
        ¬(packageDir w file).IsBelow (q.join ⟨sourceDirectory⟩) := by
      intro q hq
      obtain ⟨t, ht, rfl⟩ := List.mem_map.mp hq
      obtain ⟨hmem, hne⟩ := List.mem_filter.mp ht
      exact hnearer t hmem (of_decide_eq_true hne)
    rw [value_importPath_of_no_module hoverrides hm, byWorkspace_of_first hsplit hpassed hrel hne,
      Option.getD_some, Path.slashed]
  unused hbelow := by
    apply importPath_congr_workspace
    have hnil : rootsAbove (packageDir w file) roots = [] := by
      rw [rootsAbove, List.filter_eq_nil_iff]
      intro r hr hcounts
      obtain ⟨hne, hin⟩ := of_decide_eq_true hcounts
      exact hbelow r hr hne hin
    rw [byWorkspace_of_listing h hc, hnil]
    rfl
  others roots' h' hsame := by
    apply importPath_congr_workspace
    rw [byWorkspace_of_listing h' rfl, byWorkspace_of_listing h hc, hsame]

/-- A list of two workspaces, one in the other, with an empty entry and one that is elsewhere.  The
first of the two decides, though a directory in it is named `src`, too. -/
theorem importPath_listing_overlapping :
    (importPath noFiles ⟨some ⟨"/none:/go::/go/src/app"⟩, none, none⟩
        ⟨"/go/src/app/src/x/f.go"⟩).value = "app/src/x"
      ∧ importPath noFiles ⟨some ⟨"/go:/go/src/app:/other"⟩, none, none⟩ ⟨"/go/src/app/src/x/f.go"⟩
        = importPath noFiles ⟨some ⟨"/none:/go::/go/src/app"⟩, none, none⟩
          ⟨"/go/src/app/src/x/f.go"⟩ := by
  have hlisting : Config.listing ["/none", "/go", "", "/go/src/app"]
      = ⟨"/none:/go::/go/src/app"⟩ := by decide +kernel
  have hlisting' : Config.listing ["/go", "/go/src/app", "/other"]
      = ⟨"/go:/go/src/app:/other"⟩ := by decide +kernel
  have hfollows := importPath_listing (c := ⟨some ⟨"/none:/go::/go/src/app"⟩, none, none⟩) noFiles
    ⟨"/go/src/app/src/x/f.go"⟩ (by decide +kernel) (congrArg some hlisting.symm)
  refine ⟨?_, ?_⟩
  · have hfirst := hfollows.first (not_overrides_of_modulePath rfl) (by decide +kernel) ["/none"]
      "/go" ["", "/go/src/app"] [.name "app", .name "src", .name "x"] rfl (by decide)
      (by decide +kernel) (by decide +kernel) (by decide)
    rw [hfirst]
    decide +kernel
  · rw [← hlisting']
    exact hfollows.others ["/go", "/go/src/app", "/other"] (by decide +kernel) (by decide +kernel)

/-! ## Directories named `src` -/

/-- None of the first three rules applies. -/
structure IsUnruled (w : World) (c : Config) (dir : Path) : Prop where
  override : ¬Overrides c dir
  module : (moduleOf w dir).value = none
  workspace : ∀ r ∈ c.gopathRoots, ¬dir.IsBelow (r.join ⟨sourceDirectory⟩)

/-- The components behind the last directory named `src` that is strictly above. -/
structure BehindSource (dir : Path) (rel : List Component) : Prop where
  below : ∃ front, dir.components = front ++ .name sourceDirectory :: rel
  ne_nil : rel ≠ []
  last : .name sourceDirectory ∉ rel.dropLast

theorem exists_behindSource (h : .name sourceDirectory ∈ dir.components.dropLast) :
    ∃ rel, BehindSource dir rel := by
  have hne : dir.components ≠ [] := by
    intro hnil
    rw [hnil] at h
    cases h
  obtain ⟨front, rel, hfront, hnot⟩ := exists_last_of_mem h
  refine ⟨rel ++ [dir.components.getLast hne], ⟨front, ?_⟩, by simp, by simpa using hnot⟩
  rw [← List.cons_append, ← List.append_assoc, ← hfront, List.dropLast_concat_getLast hne]

theorem BehindSource.exists_last (h : BehindSource dir rel) :
    ∃ front inner last, dir.components = (front ++ .name sourceDirectory :: inner) ++ [last]
      ∧ rel = inner ++ [last] ∧ .name sourceDirectory ∉ inner := by
  obtain ⟨⟨front, hfront⟩, hne, hlast⟩ := h
  have hrel := List.dropLast_concat_getLast hne
  refine ⟨front, rel.dropLast, rel.getLast hne, ?_, hrel.symm, hlast⟩
  rw [hfront, List.append_assoc, List.cons_append, hrel]

theorem BehindSource.unique {rel' : List Component} (h : BehindSource dir rel)
    (h' : BehindSource dir rel') : rel = rel' := by
  obtain ⟨front, inner, last, hdir, rfl, hinner⟩ := h.exists_last
  obtain ⟨front', inner', last', hdir', rfl, hinner'⟩ := h'.exists_last
  obtain ⟨hbefore, hend⟩ := List.append_inj' (hdir.symm.trans hdir') rfl
  have hbehind : behindLast sourceDirectory (front ++ .name sourceDirectory :: inner)
      = some inner := behindLast_of_not_mem hinner
  rw [hbefore, behindLast_of_not_mem hinner'] at hbehind
  rw [Option.some.inj hbehind, hend]

/-- In a directory named `src` rule 4 does not apply. -/
theorem bySource_of_sourceDirectory {front : List Component}
    (h : dir.components = front ++ [.name sourceDirectory]) : bySource dir = none := by
  rw [bySource, h, behindLast_of_not_mem List.not_mem_nil]

/-- Names before a last one make the text longer. -/
theorem intercalate_concat_eq_iff {names : List String} {s : String} :
    String.intercalate "/" (names ++ [s]) = s ↔ names = [] := by
  constructor
  · intro h
    by_contra hne
    have hsize := congrArg String.utf8ByteSize h
    have hslash : "/".utf8ByteSize = 1 := rfl
    rw [String.intercalate_append_of_ne_nil hne (List.cons_ne_nil s []),
      String.intercalate_singleton, String.utf8ByteSize_append, String.utf8ByteSize_append] at hsize
    omega
  · intro h
    rw [h, List.nil_append, String.intercalate_singleton]

/-- Where the first three rules do not apply and there is a directory named `src` above, the import
path is made of the names behind the last one, unless the directory of the package is named so
itself.  Then it is that name; and this is what stands behind the last one only if nothing else
does. -/
theorem importPath_behindSource (h : IsUnruled w c (packageDir w file))
    (hsource : .name sourceDirectory ∈ (packageDir w file).components.dropLast) :
    ∃ rel, BehindSource (packageDir w file) rel
      ∧ (importPath w c file).value
        = (if rel.getLast? = some (.name sourceDirectory) then sourceDirectory
          else String.intercalate "/" (Path.names rel))
      ∧ ((importPath w c file).value = String.intercalate "/" (Path.names rel)
        ↔ rel.getLast? ≠ some (.name sourceDirectory) ∨ Path.names rel = [sourceDirectory]) := by
  obtain ⟨rel, hrel⟩ := exists_behindSource hsource
  obtain ⟨front, inner, last, hdir, rfl, hinner⟩ := hrel.exists_last
  refine ⟨_, hrel, ?_⟩
  rw [value_importPath_of_no_module h.override h.module, byWorkspace_eq_none h.workspace,
    Option.getD_none, List.getLast?_concat]
  by_cases hlast : last = .name sourceDirectory
  · have hname : byName (packageDir w file) = sourceDirectory := by
      rw [byName, Path.fileName?, hdir, List.getLast?_concat, hlast]
      rfl
    have hnames : Path.names (inner ++ [last]) = Path.names inner ++ [sourceDirectory] := by
      rw [hlast]
      exact Path.names_append _ _
    rw [bySource_of_sourceDirectory (hlast ▸ hdir), Option.getD_none, hname, if_pos (by rw [hlast]),
      hnames]
    refine ⟨rfl, ?_⟩
    rw [eq_comm, intercalate_concat_eq_iff]
    simp [hlast]
  · have hnot : .name sourceDirectory ∉ inner ++ [last] := by
      intro hmem
      rcases List.mem_append.mp hmem with hmem | hmem
      · exact hinner hmem
      · exact hlast (List.mem_singleton.mp hmem).symm
    have hlastSource : LastSource (packageDir w file) (inner ++ [last]) :=
      ⟨front, by rw [hdir, List.append_assoc, List.cons_append], hnot⟩
    have hneq : some last ≠ some (.name sourceDirectory) := fun heq => hlast (Option.some.inj heq)
    rw [bySource_of_last hlastSource hrel.ne_nil, Option.getD_some, if_neg hneq, Path.slashed]
    exact ⟨rfl, by simp [hlast]⟩

theorem isUnruled_noFiles {dir : Path} (h : (moduleOf noFiles dir).value = none) :
    IsUnruled noFiles Config.unset dir where
  override := not_overrides_of_modulePath rfl
  module := h
  workspace := by simp [Config.gopathRoots, Config.unset]

/-- Directories named `src` above, and the package is in a directory of another name. -/
theorem importPath_behindSource_app :
    (importPath noFiles Config.unset ⟨"/w/src/lib/src/app/models/f.go"⟩).value = "app/models" := by
  have hdir : packageDir noFiles ⟨"/w/src/lib/src/app/models/f.go"⟩
      = ⟨"/w/src/lib/src/app/models"⟩ := by decide +kernel
  have hrel : BehindSource ⟨"/w/src/lib/src/app/models"⟩ [.name "app", .name "models"] :=
    ⟨⟨[.root, .name "w", .name "src", .name "lib"], by decide +kernel⟩, by decide, by decide⟩
  have hnone : (moduleOf noFiles (packageDir noFiles ⟨"/w/src/lib/src/app/models/f.go"⟩)).value
      = none := by decide +kernel
  obtain ⟨rel, hrel', hvalue, -⟩ :=
    importPath_behindSource (isUnruled_noFiles hnone) (by decide +kernel)
  rw [hdir] at hrel'
  rw [hvalue, hrel'.unique hrel]
  decide +kernel

/-- A directory named `src` below another one: the names behind that are not its import path. -/
theorem importPath_of_sourceDirectory :
    BehindSource (packageDir noFiles ⟨"/w/src/app/src/f.go"⟩) [.name "app", .name "src"]
      ∧ IsUnruled noFiles Config.unset (packageDir noFiles ⟨"/w/src/app/src/f.go"⟩)
      ∧ (importPath noFiles Config.unset ⟨"/w/src/app/src/f.go"⟩).value = "src"
      ∧ (importPath noFiles Config.unset ⟨"/w/src/app/src/f.go"⟩).value
        ≠ String.intercalate "/" (Path.names [.name "app", .name "src"]) := by
  have hdir : packageDir noFiles ⟨"/w/src/app/src/f.go"⟩ = ⟨"/w/src/app/src"⟩ := by decide +kernel
  have hvalue : (importPath noFiles Config.unset ⟨"/w/src/app/src/f.go"⟩).value = "src" := by
    decide +kernel
  refine ⟨?_, isUnruled_noFiles (by decide +kernel), hvalue, ?_⟩
  · rw [hdir]
    exact ⟨⟨[.root, .name "w"], by decide +kernel⟩, by decide, by decide⟩
  · rw [hvalue]
    decide +kernel

end Import

end GoStructs
