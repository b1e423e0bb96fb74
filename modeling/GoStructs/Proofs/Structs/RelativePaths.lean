import GoStructs.Proofs.Import.Spellings
import GoStructs.Proofs.Structs.Relocation
import GoStructs.Proofs.Structs.SourceOrder
import GoStructs.Proofs.World.Dots
/-! # Relative paths

From a relative path the same is extracted as from the path behind that of the current directory,
but for the file that the locations name: the directory whose configuration and import path count
is the same, though it is spelled in two ways.  Only a path that gets too long with the current
directory in front of it leads nowhere there.

## Main statements

* `extractStructs_join_current`: a relative path and the path from the root agree.
* `extractStructs_join_current_of_long`: they do not if the latter is too long. -/

namespace GoStructs

open GoStructs.Path (Same)

variable {w : World} {cwd p : Path} {place : Place} {bytes : ByteArray}

/-- The directory of a file, seen from the current directory and seen from the root. -/
theorem exists_directories (hcwd : w.Stands cwd place) (hrel : p.isAbsolute = false)
    (hread : w.readBytes p = .ok bytes)
    (hconfig : ((cwd.join (p.parent?.getD ⟨"."⟩)).join Config.fileName).text.utf8ByteSize
      < World.pathLimit) :
    ∃ q d, p.parent? = some q ∧ (cwd.join p).parent? = some d
      ∧ w.absolute q = cwd.join q ∧ w.absolute d = d ∧ SameDirectory (cwd.join q) d := by
  have hcwdabs := World.isAbsolute_of_currentPath? hcwd.path
  have habs := Path.isAbsolute_join hcwdabs hrel
  have hne := World.steps_ne_nil_of_readBytes hread
  obtain ⟨q, hq, hqsteps, hqabs, hqprefix⟩ := Path.exists_parent hne
  have hqrel := hqabs.trans hrel
  have hjoined : (cwd.join p).steps ≠ [] := by
    rw [Path.steps_join hrel]
    simp [hne]
  obtain ⟨d, hd, hdsteps, hdabs, -⟩ := Path.exists_parent hjoined
  have hdabs := hdabs.trans habs
  have hsteps : (cwd.join q).steps = (cwd.join p).steps.dropLast := by
    rw [Path.steps_join hqrel, Path.steps_join hrel, hqsteps, List.dropLast_append_of_ne_nil hne]
  have hqdir := Path.isAbsolute_join hcwdabs hqrel
  -- the path of the directory from the root is not the longer one
  have hpre := Path.parent?_prefix habs hd hqdir (Path.join_prefix hqrel hrel hqprefix) hsteps
  rw [hq, Option.getD_some] at hconfig
  refine ⟨q, d, hq, hd, World.absolute_of_currentPath? hcwd.path hqrel,
    World.absolute_of_isAbsolute hdabs, ⟨hqdir, hdabs, hsteps.trans hdsteps.symm⟩, hconfig, ?_⟩
  exact Nat.lt_of_le_of_lt (Path.size_join_le_of_prefix hpre isAbsolute_fileName) hconfig

theorem value_extractStructs (w : World) (p : Path) :
    (extractStructs w p).value
      = (extractStructsWith w (Config.load w (p.parent?.getD ⟨"."⟩)).value p).value := by
  rw [extractStructs, Told.andThen_value]

/-- From a relative path to a file the same is extracted as from the path behind that of the
current directory, or it fails in the same way, if that path and the paths of the configuration
files are not too long. -/
theorem extractStructs_join_current (hcwd : w.Stands cwd place) (hrel : p.isAbsolute = false)
    (hread : w.readBytes p = .ok bytes)
    (hsize : (cwd.join p).text.utf8ByteSize < World.pathLimit)
    (hconfig : ((cwd.join (p.parent?.getD ⟨"."⟩)).join Config.fileName).text.utf8ByteSize
      < World.pathLimit) :
    ∃ r, (extractStructs w p).value = extractedIn p r
      ∧ (extractStructs w (cwd.join p)).value = extractedIn (cwd.join p) r := by
  obtain ⟨q, d, hq, hd, hqdir, hddir, hsame⟩ := exists_directories hcwd hrel hread hconfig
  have hne : p.text ≠ "" := by
    obtain ⟨target, htarget⟩ := World.resolve_of_readBytes hread
    obtain ⟨dir, -, -, -, hne⟩ := World.walk_of_resolve htarget
    exact hne
  have htext : w.readText p = w.readText (cwd.join p) :=
    World.readText_same (World.resolve_join_current hcwd hrel hne hsize).symm
  have hload : (Config.load w q).value.Agrees (Config.load w d).value := by
    apply Config.load_agrees
    rw [hqdir, hddir]
    exact hsame
  have himport : (Import.importPath w (Config.load w q).value p).value
      = (Import.importPath w (Config.load w d).value (cwd.join p)).value := by
    rw [Import.importPath, Import.importPath, Import.packageDir, Import.packageDir, hq, hd,
      Option.getD_some, Option.getD_some, hqdir, hddir]
    exact Import.value_ofDirectory hload hsame
  refine ⟨(extractStructsWith w (Config.load w q).value p).value, ?_, ?_⟩
  · rw [value_extractStructs, hq, Option.getD_some]
    exact value_extractStructsWith_inFile rfl rfl
  · rw [value_extractStructs, hd, Option.getD_some]
    exact value_extractStructsWith_inFile htext himport

/-! ## A path that is too long -/

/-- The text of a file without structs. -/
def emptyPackage : String := "package p\n"

/-- A directory, which is the current one, with a file. -/
def oneDirectory : World where
  entries := [(["directory"], .directory), (["directory", "a.go"], .file emptyPackage.toUTF8)]
  current := some ["directory"]
  environment := []

theorem stands_oneDirectory : oneDirectory.Stands ⟨"/directory"⟩ ["directory"] :=
  ⟨by decide +kernel, rfl, rfl⟩

theorem extractStructs_join_current_oneDirectory :
    (⟨"a.go"⟩ : Path).isAbsolute = false ∧ (∃ bytes, oneDirectory.readBytes ⟨"a.go"⟩ = .ok bytes)
      ∧ ∃ r, (extractStructs oneDirectory ⟨"a.go"⟩).value = extractedIn ⟨"a.go"⟩ r
        ∧ (extractStructs oneDirectory ((⟨"/directory"⟩ : Path).join ⟨"a.go"⟩)).value
          = extractedIn ((⟨"/directory"⟩ : Path).join ⟨"a.go"⟩) r := by
  have hrel : (⟨"a.go"⟩ : Path).isAbsolute = false := by decide +kernel
  refine ⟨hrel, ⟨_, rfl⟩, ?_⟩
  exact extractStructs_join_current stands_oneDirectory hrel rfl (by decide +kernel)
    (by decide +kernel)

section

variable {n : Nat} {p : Path}

/-- A source file can be read through the dots, too. -/
theorem exists_read_behindDots {f : SourceFile} (hf : (SourceFile.read w p).value = .ok f)
    (hp : p.isAbsolute = false) (hne : p.text ≠ "")
    (hlast : ∀ part ∈ p.parts.getLast?, Path.isStep part)
    (h : (behindDots n p).text.utf8ByteSize < World.pathLimit) :
    ∃ f', (SourceFile.read w (behindDots n p)).value = .ok f' := by
  obtain ⟨text, htext, hof⟩ := SourceFile.ofText_of_read hf
  rw [SourceFile.read, readText_behindDots hp hne hlast h, htext]
  simp only [SourceFile.ofTextTold, SourceFile.ofText_inFile p (behindDots n p), hof]
  exact ⟨_, rfl⟩

end

/-- The file `a.go` as seen from the current directory, with some detours to where one is. -/
def dotted (n : Nat) : Path :=
  ⟨String.ofList ((List.replicate n ['.', '/']).flatten ++ "a.go".toList)⟩

theorem isAbsolute_dotted (n : Nat) : (dotted n).isAbsolute = false :=
  isAbsolute_behindDots (p := ⟨"a.go"⟩) (by decide +kernel)

/-- From the current directory the package is extracted. -/
theorem exists_extracted_dotted {n : Nat} (h : (dotted n).text.utf8ByteSize < World.pathLimit) :
    (∃ bytes, oneDirectory.readBytes (dotted n) = .ok bytes)
      ∧ ∃ file, (extractStructs oneDirectory (dotted n)).value = .ok file := by
  have htext : oneDirectory.readText ⟨"a.go"⟩ = .ok emptyPackage := World.readText_of_readBytes rfl
  obtain ⟨f, hf, -⟩ := SourceFile.exists_read htext (by decide +kernel)
  obtain ⟨f', hf'⟩ := exists_read_behindDots (n := n) hf (by decide +kernel) (by decide +kernel)
    (by decide +kernel) h
  obtain ⟨text, htext, -⟩ := SourceFile.ofText_of_read hf'
  refine ⟨⟨_, World.readBytes_of_readText htext⟩, ?_⟩
  rw [value_extractStructs]
  exact ⟨_, value_extractStructsWith hf'⟩

/-- From a path that is too long nothing is extracted. -/
theorem exists_error_of_long (hlong : World.pathLimit ≤ p.text.utf8ByteSize) :
    ∃ e, (extractStructs w p).value = .error e := by
  obtain ⟨e, he⟩ := World.resolve_of_long (w := w) hlong
  rw [value_extractStructs]
  unfold extractStructsWith SourceFile.read World.readText World.readBytes
  rw [he]
  exact ⟨_, rfl⟩

/-- In front of a path that is short enough by itself, the path of the current directory may be too
much. -/
theorem extractStructs_join_current_of_long :
    oneDirectory.Stands ⟨"/directory"⟩ ["directory"] ∧ (dotted 2043).isAbsolute = false
      ∧ (∃ bytes, oneDirectory.readBytes (dotted 2043) = .ok bytes)
      ∧ ¬∃ r, (extractStructs oneDirectory (dotted 2043)).value = extractedIn (dotted 2043) r
        ∧ (extractStructs oneDirectory ((⟨"/directory"⟩ : Path).join (dotted 2043))).value
          = extractedIn ((⟨"/directory"⟩ : Path).join (dotted 2043)) r := by
  have hlimit : World.pathLimit = 4096 := rfl
  have hsize : (dotted 2043).text.utf8ByteSize = 2 * 2043 + 4 := size_behindDots 2043 ⟨"a.go"⟩
  have hcwd : (⟨"/directory"⟩ : Path).text.utf8ByteSize = 10 := by decide +kernel
  have hjoin := (Path.size_join (p := ⟨"/directory"⟩) (isAbsolute_dotted 2043)).1
  obtain ⟨hread, file, hfile⟩ := exists_extracted_dotted (n := 2043) (by omega)
  obtain ⟨e, he⟩ := exists_error_of_long (w := oneDirectory)
    (p := (⟨"/directory"⟩ : Path).join (dotted 2043)) (by omega)
  refine ⟨stands_oneDirectory, isAbsolute_dotted 2043, hread, ?_⟩
  rintro ⟨r, hleft, hright⟩
  rw [hfile] at hleft
  rw [he] at hright
  cases r with
  | ok file => cases hright
  | error e => cases hleft

end GoStructs
