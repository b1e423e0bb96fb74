import GoStructs.Config.Load
import GoStructs.Proofs.Source.Bytes
import GoStructs.Proofs.World.Steps
import Mathlib.Data.List.Induction
import Mathlib.Data.List.Nodup
/-! # Layers of settings

Laying settings over each other goes entry by entry and into tables, but what comes of a setting
that may only be a text is simple: the value of the highest layer that gives it counts, and whether
that value is a text does not depend on what it hides.  So the configuration for a directory can be
told setting by setting.

## Main statements

* `Setting.given_lookUp_overlayAll`: of two layers the later counts, wherever it gives a value.
* `Environment.exists_settingsOf`: of the variables for a setting the last counts.
* `Config.load_eq_layered`: the configuration for a directory, setting by setting. -/

namespace GoStructs

namespace Setting

variable {es later : List (String × Setting)} {name : String} {v : Setting}

/-- A setting that is a text or is not given; `none` if it is anything else. -/
def given : Option Setting → Option (Option String)
  | none => some none
  | some (.text s) => some (some s)
  | some _ => none

theorem given_eq_some_iff {setting : Option Setting} {t : Option String} :
    given setting = some t ↔ setting = t.map .text := by
  cases setting with
  | none => cases t <;> simp [given]
  | some v => cases v <;> cases t <;> simp [given]

/-- What hides a value decides alone whether there is a text. -/
theorem given_overlay (earlier v : Setting) :
    given (some (overlay earlier v)) = given (some v) := by
  cases v with
  | text s => simp [overlay]
  | other => simp [overlay]
  | table later =>
    cases earlier <;> simp [overlay, given]

theorem isSome_of_given {a b : Option Setting} (h : given a = given b) :
    a.isSome = b.isSome := by
  cases a with
  | none =>
    have hb : b = none.map .text := given_eq_some_iff.mp h.symm
    rw [hb]
    rfl
  | some v =>
    cases b with
    | none => exact absurd (given_eq_some_iff.mp h) (by simp)
    | some v' => rfl

theorem given_or {a a' b b' : Option Setting} (h : given a = given a') (h' : given b = given b') :
    given (a.or b) = given (a'.or b') := by
  have hnone : ∀ x : Option Setting, given x = some none ↔ x = none := fun x => by
    rw [given_eq_some_iff]
    simp
  cases a with
  | none =>
    have ha' : a' = none := (hnone a').mp h.symm
    simpa [ha'] using h'
  | some v =>
    cases a' with
    | none => exact absurd ((hnone _).mp h) (by simp)
    | some v' => simpa using h

/-! ## Entries -/

theorem lookUp_cons (name key : String) (v : Setting) (es : List (String × Setting)) :
    lookUp ((key, v) :: es) name = if key = name then some v else lookUp es name := by
  unfold lookUp
  by_cases h : key = name
  · simp [h]
  · simp [h]

theorem lookUp_append (es fs : List (String × Setting)) (name : String) :
    lookUp (es ++ fs) name = (lookUp es name).or (lookUp fs name) := by
  unfold lookUp
  rw [List.find?_append, Option.map_or]

theorem lookUp_eq_none_iff : lookUp es name = none ↔ name ∉ es.map Prod.fst := by
  induction es with
  | nil => simp [lookUp]
  | cons e es ih =>
    rw [lookUp_cons]
    by_cases h : e.1 = name
    · simp [h]
    · simp [h, ih, Ne.symm h]

/-- One entry laid over others. -/
def overlayOne (es : List (String × Setting)) (name : String) (v : Setting) :
    List (String × Setting) :=
  match lookUp es name with
  | none => es ++ [(name, v)]
  | some earlier => es.map fun e => if e.1 == name then (name, overlay earlier v) else e

theorem overlayAll_cons (es : List (String × Setting)) (name : String) (v : Setting)
    (rest : List (String × Setting)) :
    overlayAll es ((name, v) :: rest) = overlayAll (overlayOne es name v) rest := by
  rw [overlayAll]
  rfl

theorem lookUp_replace (es : List (String × Setting)) (key name : String) (v : Setting) :
    lookUp (es.map fun e => if e.1 == key then (key, v) else e) name
      = if key = name then (lookUp es name).map fun _ => v else lookUp es name := by
  induction es with
  | nil => simp [lookUp]
  | cons e es ih =>
    obtain ⟨k, u⟩ := e
    by_cases hk : k = key
    · subst hk
      by_cases hname : k = name
      · simp [lookUp_cons, hname]
      · simp only [List.map_cons, beq_self_eq_true, if_true, lookUp_cons, if_neg hname, ih]
    · have hbeq : (k == key) = false := by simpa using hk
      simp only [List.map_cons, hbeq, Bool.false_eq_true, if_false, lookUp_cons, ih]
      by_cases hname : k = name
      · have hkey : key ≠ name := fun h => hk (hname.trans h.symm)
        simp [hname, hkey]
      · simp [hname]

theorem given_lookUp_overlayOne (es : List (String × Setting)) (key name : String) (v : Setting) :
    given (lookUp (overlayOne es key v) name)
      = given (if key = name then some v else lookUp es name) := by
  unfold overlayOne
  split
  · next hnone =>
    rw [lookUp_append, lookUp_cons]
    by_cases h : key = name
    · subst h
      simp [hnone]
    · simp [h, lookUp]
  · next earlier hsome =>
    rw [lookUp_replace]
    by_cases h : key = name
    · subst h
      simp only [if_true, hsome, Option.map_some]
      exact given_overlay earlier v
    · simp [h]

/-- Of two layers the later counts, wherever it gives a value. -/
theorem given_lookUp_overlayAll (h : (later.map Prod.fst).Nodup) (es : List (String × Setting))
    (name : String) :
    given (lookUp (overlayAll es later) name)
      = given ((lookUp later name).or (lookUp es name)) := by
  induction later generalizing es with
  | nil =>
    rw [overlayAll]
    rfl
  | cons e rest ih =>
    obtain ⟨key, v⟩ := e
    obtain ⟨hkey, hrest⟩ := List.nodup_cons.mp h
    have hone := given_lookUp_overlayOne es key name v
    rw [overlayAll_cons, ih hrest, given_or rfl hone, lookUp_cons]
    by_cases hname : key = name
    · -- no later entry is of the same name
      have hnone : lookUp rest name = none := by
        rw [lookUp_eq_none_iff, ← hname]
        exact hkey
      simp [hname, hnone]
    · simp [hname]

theorem nodup_overlayOne (h : (es.map Prod.fst).Nodup) (name : String) (v : Setting) :
    ((overlayOne es name v).map Prod.fst).Nodup := by
  unfold overlayOne
  split
  · next hnone =>
    rw [List.map_append, List.map_singleton]
    exact h.append (List.nodup_singleton name)
      (List.disjoint_singleton.mpr (lookUp_eq_none_iff.mp hnone))
  · next earlier _ =>
    have hkeys : (es.map fun e => if e.1 == name then (name, overlay earlier v) else e).map Prod.fst
        = es.map Prod.fst := by
      rw [List.map_map]
      apply List.map_congr_left
      intro e _
      by_cases he : e.1 = name
      · simp [he]
      · simp [he]
    rw [hkeys]
    exact h

theorem nodup_overlayAll (h : (es.map Prod.fst).Nodup) (later : List (String × Setting)) :
    ((overlayAll es later).map Prod.fst).Nodup := by
  induction later generalizing es with
  | nil =>
    rw [overlayAll]
    exact h
  | cons e rest ih =>
    rw [overlayAll_cons]
    exact ih (nodup_overlayOne h e.1 e.2)

end Setting

open Setting (given lookUp overlay overlayAll)

namespace Environment

variable {pathOf : String → Option (List String)} {key : String}

/-- The value that a variable gives a setting, given which setting each variable is for.  It may be
for a setting inside a table. -/
def saysOf? (pathOf : String → Option (List String)) (key : String) (v : String × String) :
    Option Setting :=
  match pathOf v.1 with
  | some (k :: path) => if k = key then some (nested (settingOf v.2) path) else none
  | _ => none

/-- The value that the variables give a setting: that of the last variable for it. -/
def valueOf? (pathOf : String → Option (List String)) (vars : List (String × String))
    (key : String) : Option Setting :=
  vars.reverse.findSome? (saysOf? pathOf key)

theorem valueOf?_append_singleton (vars : List (String × String)) (v : String × String) :
    valueOf? pathOf (vars ++ [v]) key = (saysOf? pathOf key v).or (valueOf? pathOf vars key) := by
  simp [valueOf?, List.findSome?_cons]
  cases saysOf? pathOf key v <;> rfl

theorem settingsOf_append_singleton (vars : List (String × String)) (v : String × String) :
    settingsOf pathOf (vars ++ [v]) = match pathOf v.1 with
      | some path => overlay (settingsOf pathOf vars) (nested (settingOf v.2) path)
      | none => settingsOf pathOf vars := by
  rw [settingsOf, List.foldl_append]
  rfl

/-- Of the variables for a setting the last counts. -/
theorem exists_settingsOf (hpath : ∀ name, pathOf name ≠ some []) (vars : List (String × String)) :
    ∃ es, settingsOf pathOf vars = .table es ∧ (es.map Prod.fst).Nodup
      ∧ ∀ key, given (lookUp es key) = given (valueOf? pathOf vars key) := by
  -- by induction from the last variable on, since that is laid over the others
  induction vars using List.reverseRecOn with
  | nil => exact ⟨[], rfl, List.nodup_nil, fun key => rfl⟩
  | append_singleton vars v ih =>
    obtain ⟨es, hes, hnodup, hvalues⟩ := ih
    rw [settingsOf_append_singleton, hes]
    cases hv : pathOf v.1 with
    | none =>
      refine ⟨es, rfl, hnodup, fun key => ?_⟩
      rw [valueOf?_append_singleton, hvalues]
      simp [saysOf?, hv]
    | some path =>
      cases path with
      | nil => exact absurd hv (hpath v.1)
      | cons k path =>
        refine ⟨Setting.overlayOne es k (nested (settingOf v.2) path), ?_,
          Setting.nodup_overlayOne hnodup _ _, fun key => ?_⟩
        · show overlay (.table es) (.table [(k, nested (settingOf v.2) path)]) = _
          rw [overlay, Setting.overlayAll_cons, overlayAll]
        · rw [Setting.given_lookUp_overlayOne, valueOf?_append_singleton, saysOf?, hv]
          by_cases hkey : k = key
          · simp [hkey]
          · simpa [hkey] using hvalues key

/-- A name of a variable is never empty behind the start that marks it as one of this program. -/
theorem pathOf?_ne_nil (name : String) : pathOf? name ≠ some [] := by
  intro h
  simp only [pathOf?] at h
  split at h
  · split at h
    · cases h
    · exact List.splitOn_ne_nil _ _ (List.map_eq_nil_iff.mp (Option.some.inj h))
  · cases h

/-- The setting that a variable is for, if it is the variable of workspaces. -/
def workspacePathOf? (name : String) : Option (List String) :=
  if small name.toList = small workspaceName.toList then some [workspaceKey] else none

theorem workspacePathOf?_ne_nil (name : String) : workspacePathOf? name ≠ some [] := by
  unfold workspacePathOf?
  split <;> simp

/-- The variable of workspaces gives no other setting. -/
theorem workspaceValue_eq_none (vars : List (String × String)) (h : key ≠ workspaceKey) :
    valueOf? workspacePathOf? vars key = none := by
  rw [valueOf?, List.findSome?_eq_none_iff]
  intro v _
  unfold saysOf? workspacePathOf?
  by_cases hname : small v.1.toList = small workspaceName.toList
  · simp [hname, h.symm]
  · simp [hname]

end Environment

namespace Config

variable {w : World} {dir : Path} {entries : List (String × Setting)}

/-- The value that counts for a setting: that of its variable; else, for the setting of workspaces,
that of the variable of workspaces; else that in the configuration file. -/
def effective? (vars : List (String × String)) (entries : List (String × Setting))
    (key : String) : Option Setting :=
  (Environment.valueOf? Environment.pathOf? vars key).or
    ((Environment.valueOf? Environment.workspacePathOf? vars key).or (lookUp entries key))

/-- The variable of workspaces counts for no other setting. -/
theorem effective?_of_ne {key : String} (vars : List (String × String))
    (entries : List (String × Setting)) (h : key ≠ Environment.workspaceKey) :
    effective? vars entries key
      = (Environment.valueOf? Environment.pathOf? vars key).or (lookUp entries key) := by
  rw [effective?, Environment.workspaceValue_eq_none vars h, Option.none_or]

/-- The file is the configuration file of the nearest directory at or above `dir` that has one. -/
def IsNearest (w : World) (dir : Path) : Option Path → Prop
  | none => ∀ d ∈ dir.ancestors, w.isFile (d.join fileName) = false
  | some file => ∃ nearer d farther, dir.ancestors = nearer ++ d :: farther
      ∧ file = d.join fileName ∧ w.isFile file ∧ ∀ b ∈ nearer, w.isFile (b.join fileName) = false

/-- What the configuration file says.  Where there is none, nothing is said. -/
def Says (w : World) (entries : List (String × Setting)) : Option Path → Prop
  | none => entries = []
  | some file => ∃ text, w.readText file = .ok text ∧ Toml.document? text.toList = some entries

/-- The settings that are asked for. -/
def keys : List String := ["gopath", "module_path", "project_root"]

/-- Each setting that is given is a text. -/
def AllTexts (vars : List (String × String)) (entries : List (String × Setting)) : Prop :=
  ∀ key ∈ keys, ∀ v ∈ effective? vars entries key, ∃ s, v = .text s

/-- The directory that a relative project root starts from: the current one if a variable gives the
root, else that of the configuration file. -/
def baseOf (w : World) (dir : Path) (file : Option Path) : Path :=
  if (Environment.valueOf? Environment.pathOf? w.environment "project_root").isSome then
    w.absolute ⟨"."⟩
  else (file.bind Path.parent?).getD dir

/-- The configuration holds the texts that count, and no others. -/
structure IsLayered (w : World) (dir : Path) (file : Option Path)
    (entries : List (String × Setting)) (c : Config) : Prop where
  gopath : effective? w.environment entries "gopath" = (c.gopath.map Path.text).map .text
  modulePath : effective? w.environment entries "module_path" = c.modulePath.map .text
  projectRoot : ∃ root : Option String,
    effective? w.environment entries "project_root" = root.map .text
    ∧ c.projectRoot = root.map fun r => (baseOf w dir file).join ⟨r⟩

theorem isNearest_iff {file : Option Path} : IsNearest w dir file ↔ fileFor? w dir = file := by
  unfold fileFor?
  cases file with
  | none => simp [IsNearest]
  | some file =>
    rw [List.find?_map, Option.map_eq_some_iff]
    constructor
    · rintro ⟨nearer, d, farther, hsplit, rfl, hfile, hnearer⟩
      refine ⟨d, List.find?_eq_some_iff_append.mpr ⟨hfile, nearer, farther, hsplit, ?_⟩, rfl⟩
      intro b hb
      simpa using hnearer b hb
    · rintro ⟨d, hd, rfl⟩
      obtain ⟨hfile, nearer, farther, hsplit, hnearer⟩ := List.find?_eq_some_iff_append.mp hd
      refine ⟨nearer, d, farther, hsplit, rfl, hfile, ?_⟩
      intro b hb
      simpa using hnearer b hb

theorem textOf?_table (es : List (String × Setting)) (key : String) :
    textOf? (.table es) key = given (lookUp es key) := by
  rw [textOf?]
  cases lookUp es key with
  | none => rfl
  | some v => cases v <;> rfl

/-- What the environment gives, and what comes of it when it is laid over the file. -/
theorem exists_environment (vars : List (String × String)) :
    ∃ es, overlay (Environment.workspaceSettings vars) (Environment.ownSettings vars) = .table es
      ∧ (lookUp es "project_root").isSome
        = (Environment.valueOf? Environment.pathOf? vars "project_root").isSome
      ∧ ∀ entries key, textOf? (overlay (.table entries) (.table es)) key
        = given (effective? vars entries key) := by
  obtain ⟨own, hown, hownkeys, hownvalues⟩ :=
    Environment.exists_settingsOf Environment.pathOf?_ne_nil vars
  obtain ⟨workspace, hworkspace, hworkspacekeys, hworkspacevalues⟩ :=
    Environment.exists_settingsOf Environment.workspacePathOf?_ne_nil vars
  have hvalues : ∀ key, given (lookUp (overlayAll workspace own) key)
      = given ((Environment.valueOf? Environment.pathOf? vars key).or
          (Environment.valueOf? Environment.workspacePathOf? vars key)) := by
    intro key
    rw [Setting.given_lookUp_overlayAll hownkeys]
    exact Setting.given_or (hownvalues key) (hworkspacevalues key)
  refine ⟨overlayAll workspace own, ?_, ?_, ?_⟩
  · show overlay (Environment.settingsOf Environment.workspacePathOf? vars)
      (Environment.settingsOf Environment.pathOf? vars) = _
    rw [hown, hworkspace, overlay]
  · -- the variable of workspaces gives no project root
    have hroot := Setting.isSome_of_given (hvalues "project_root")
    rw [Environment.workspaceValue_eq_none vars (by decide), Option.or_none] at hroot
    exact hroot
  · intro entries key
    have hkeys := Setting.nodup_overlayAll hworkspacekeys own
    rw [overlay, textOf?_table, Setting.given_lookUp_overlayAll hkeys, effective?,
      ← Option.or_assoc]
    exact Setting.given_or (hvalues key) rfl

theorem fileSettings?_eq_some_iff {file : Path} {settings : Setting} :
    fileSettings? w file = some settings
      ↔ ∃ entries, Says w entries (some file) ∧ settings = .table entries := by
  unfold fileSettings?
  constructor
  · intro h
    split at h
    · next text htext =>
      obtain ⟨entries, hentries, rfl⟩ := Option.map_eq_some_iff.mp h
      exact ⟨entries, ⟨text, htext, hentries⟩, rfl⟩
    · cases h
  · rintro ⟨entries, ⟨text, htext, hentries⟩, rfl⟩
    simp [htext, hentries]

/-- The layers can be read just if the file, where there is one, can be. -/
theorem layers?_eq_some_iff {file : Option Path} {layers : Layers} :
    layers? w file = some layers ↔ ∃ entries, Says w entries file
      ∧ layers = ⟨.table entries, overlay (Environment.workspaceSettings w.environment)
          (Environment.ownSettings w.environment)⟩ := by
  cases file with
  | none => simp [layers?, Says, eq_comm]
  | some file =>
    simp only [layers?, Option.map_eq_some_iff, fileSettings?_eq_some_iff]
    constructor
    · rintro ⟨settings, ⟨entries, hentries, rfl⟩, rfl⟩
      exact ⟨entries, hentries, rfl⟩
    · rintro ⟨entries, hentries, rfl⟩
      exact ⟨_, ⟨entries, hentries, rfl⟩, rfl⟩

theorem rootBase_eq {file : Option Path} {es : List (String × Setting)}
    (hgives : (lookUp es "project_root").isSome
      = (Environment.valueOf? Environment.pathOf? w.environment "project_root").isSome)
    (hfile : file = none →
      (Environment.valueOf? Environment.pathOf? w.environment "project_root").isSome) :
    rootBase w dir file ⟨.table entries, .table es⟩ = baseOf w dir file := by
  have hgives : gives (.table es) "project_root"
      = (Environment.valueOf? Environment.pathOf? w.environment "project_root").isSome := hgives
  unfold rootBase baseOf
  rw [hgives]
  split
  · rfl
  · next hnone =>
    cases file with
    | none => exact absurd (hfile rfl) hnone
    | some file => rfl

/-- Without a file, a project root can only be given by a variable. -/
theorem value_of_effective_of_says_none {r : String} (h : Says w entries none)
    (hroot : effective? w.environment entries "project_root" = some (.text r)) :
    (Environment.valueOf? Environment.pathOf? w.environment "project_root").isSome := by
  obtain rfl : entries = [] := h
  have hnone : lookUp [] "project_root" = none := rfl
  rw [effective?_of_ne _ _ (by decide), hnone, Option.or_none] at hroot
  rw [hroot]
  rfl

/-- The layers give a configuration just if it holds the texts that count. -/
theorem ofLayers?_eq_some_iff {file : Option Path} {c : Config} :
    (layers? w file).bind (ofLayers? w dir file) = some c
      ↔ ∃ entries, Says w entries file ∧ IsLayered w dir file entries c := by
  obtain ⟨es, hes, hgives, htexts⟩ := exists_environment w.environment
  have hbase : ∀ entries (root : Option String), Says w entries file →
      effective? w.environment entries "project_root" = root.map .text →
      (root.map fun r => (rootBase w dir file ⟨.table entries, .table es⟩).join ⟨r⟩)
        = root.map fun r => (baseOf w dir file).join ⟨r⟩ := by
    intro entries root hentries hroot
    cases root with
    | none => rfl
    | some r =>
      rw [rootBase_eq hgives]
      rintro rfl
      exact value_of_effective_of_says_none hentries hroot
  rw [Option.bind_eq_some_iff]
  constructor
  · rintro ⟨layers, hlayers, hc⟩
    obtain ⟨entries, hentries, rfl⟩ := layers?_eq_some_iff.mp hlayers
    -- each of the three settings is asked for, and one that is no text ends it all
    simp only [ofLayers?, hes, htexts, Option.bind_eq_bind, Option.bind_eq_some_iff,
      Setting.given_eq_some_iff] at hc
    obtain ⟨gopath, hgopath, modulePath, hmodule, root, hroot, hc⟩ := hc
    cases hc
    refine ⟨entries, hentries, ?_, hmodule, root, hroot, hbase entries root hentries hroot⟩
    simpa [Function.comp_def] using hgopath
  · rintro ⟨entries, hentries, hgopath, hmodule, root, hroot, hprojectRoot⟩
    refine ⟨_, layers?_eq_some_iff.mpr ⟨entries, hentries, rfl⟩, ?_⟩
    simp only [ofLayers?, hes, htexts, Option.bind_eq_bind, Option.bind_eq_some_iff,
      Setting.given_eq_some_iff]
    refine ⟨_, hgopath, _, hmodule, root, hroot, ?_⟩
    rw [hbase entries root hentries hroot, ← hprojectRoot]
    simp [Function.comp_def]

theorem allTexts_iff {vars : List (String × String)} :
    AllTexts vars entries ↔ ∀ key ∈ keys, (given (effective? vars entries key)).isSome := by
  refine forall₂_congr fun key _ => ?_
  cases effective? vars entries key with
  | none => simp [given]
  | some v => cases v <;> simp [given]

instance (vars : List (String × String)) (entries : List (String × Setting)) :
    Decidable (AllTexts vars entries) :=
  decidable_of_iff _ allTexts_iff.symm

/-- There is such a configuration just if each setting that is given is a text. -/
theorem exists_isLayered_iff {file : Option Path} :
    (∃ c, IsLayered w dir file entries c) ↔ AllTexts w.environment entries := by
  simp only [allTexts_iff, keys, List.forall_mem_cons, Option.isSome_iff_exists,
    Setting.given_eq_some_iff]
  constructor
  · rintro ⟨c, hgopath, hmodule, root, hroot, -⟩
    exact ⟨⟨_, hgopath⟩, ⟨_, hmodule⟩, ⟨root, hroot⟩, by simp⟩
  · rintro ⟨⟨gopath, hgopath⟩, ⟨modulePath, hmodule⟩, ⟨root, hroot⟩, -⟩
    refine ⟨⟨gopath.map Path.mk, modulePath, root.map fun r => (baseOf w dir file).join ⟨r⟩⟩,
      ?_, hmodule, root, hroot, rfl⟩
    simpa [Function.comp_def] using hgopath

theorem value_load (w : World) (dir : Path) :
    (load w dir).value = ((layers? w (fileFor? w (w.absolute dir))).bind
      (ofLayers? w (w.absolute dir) (fileFor? w (w.absolute dir)))).getD unset := by
  unfold load
  dsimp only
  split
  · next c hc => rw [hc]; rfl
  · next hnone => rw [hnone]; rfl

/-- The texts that count are loaded. -/
theorem isLayered_load (hentries : Says w entries (fileFor? w (w.absolute dir)))
    (htexts : AllTexts w.environment entries) :
    IsLayered w (w.absolute dir) (fileFor? w (w.absolute dir)) entries (load w dir).value := by
  obtain ⟨c, hc⟩ := exists_isLayered_iff.mpr htexts
  rw [value_load, ofLayers?_eq_some_iff.mpr ⟨entries, hentries, hc⟩]
  exact hc

/-- If a layer cannot be read or a setting is no text, then nothing is loaded. -/
theorem load_eq_unset
    (h : ∀ entries, Says w entries (fileFor? w (w.absolute dir)) →
      ¬AllTexts w.environment entries) : (load w dir).value = unset := by
  rw [value_load]
  cases hload : (layers? w (fileFor? w (w.absolute dir))).bind
    (ofLayers? w (w.absolute dir) (fileFor? w (w.absolute dir))) with
  | none => rfl
  | some c =>
    obtain ⟨entries, hentries, hc⟩ := ofLayers?_eq_some_iff.mp hload
    exact absurd (exists_isLayered_iff.mp ⟨c, hc⟩) (h entries hentries)

/-- Where neither a file nor a variable gives anything, nothing is set. -/
theorem load_of_no_file (henv : w.environment = [])
    (h : IsNearest w (w.absolute dir) none) : (load w dir).value = unset := by
  have hentries : Says w [] (fileFor? w (w.absolute dir)) := by
    rw [isNearest_iff.mp h]
    rfl
  have hnone : ∀ key, effective? w.environment [] key = none := by
    intro key
    rw [henv]
    rfl
  have htexts : AllTexts w.environment [] := by
    intro key _ v hv
    rw [hnone] at hv
    cases hv
  obtain ⟨hgopath, hmodule, r, hroot, hprojectRoot⟩ := isLayered_load hentries htexts
  rw [hnone] at hgopath hmodule hroot
  rw [Option.map_eq_none_iff.mp hroot.symm, Option.map_none] at hprojectRoot
  have hgopath := Option.map_eq_none_iff.mp (Option.map_eq_none_iff.mp hgopath.symm)
  have hmodule := Option.map_eq_none_iff.mp hmodule.symm
  cases hload : (load w dir).value with
  | mk gopath modulePath projectRoot =>
    rw [hload] at hgopath hmodule hprojectRoot
    exact (Config.mk.injEq ..).mpr ⟨hgopath, hmodule, hprojectRoot⟩

end Config

end GoStructs
