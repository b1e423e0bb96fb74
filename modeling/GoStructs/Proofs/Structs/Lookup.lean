import GoStructs.Proofs.Structs.SourceOrder
/-! # Looking up structs by name

The declarations that are collected from a file by name are the first of each name, and each later
one of the name is told of.  What is extracted from the file finds the same declarations, since it
lists the structs in source order.

## Main statements

* `DeclTable.get?_ofList`, `DeclTable.events_ofList`: what is collected, and what is told.
* `collected_agree_with_extracted`: what is collected and what is extracted agree. -/

namespace GoStructs

namespace DeclTable

/-- The declaration that is held under a name. -/
def get? (t : DeclTable) (name : String) : Option StructDecl :=
  (t.find? (·.1 == name)).map Prod.snd

theorem get?_append_singleton (t : DeclTable) (d : StructDecl) (name : String) :
    get? (t ++ [(d.name, d)]) name
      = (get? t name).or (if d.name == name then some d else none) := by
  unfold get?
  rw [List.find?_append, List.find?_singleton]
  cases t.find? (·.1 == name) with
  | some e => rfl
  | none => cases d.name == name <;> simp

theorem isSome_get?_iff (t : DeclTable) (name : String) :
    (get? t name).isSome = t.any (·.1 == name) := by
  rw [get?, Option.isSome_map, List.isSome_find?]

end DeclTable

/-- The declarations in front of which another of the same name stands. -/
def repeatedDecls (ds : List StructDecl) : List StructDecl :=
  (ds.zipIdx.filter fun x => (ds.take x.2).any (·.name == x.1.name)).map Prod.fst

theorem repeatedDecls_append_singleton (ds : List StructDecl) (d : StructDecl) :
    repeatedDecls (ds ++ [d])
      = repeatedDecls ds ++ if ds.any (·.name == d.name) then [d] else [] := by
  unfold repeatedDecls
  rw [List.zipIdx_append, List.filter_append, List.map_append]
  congr 1
  · -- what stands in front of the others does not change
    congr 1
    apply List.filter_congr
    intro x hx
    have hlt : x.2 < ds.length := by
      have := List.snd_lt_add_of_mem_zipIdx hx
      omega
    rw [List.take_append_of_le_length (Nat.le_of_lt hlt)]
  · -- in front of the last stand all the others
    simp only [Nat.zero_add, List.zipIdx_singleton]
    by_cases hany : ds.any (·.name == d.name)
    · simp [hany]
    · simp [hany]

namespace DeclTable

theorem ofList_append_singleton (ds : List StructDecl) (d : StructDecl) :
    ofList (ds ++ [d]) = (ofList ds).andThen fun t => t.add d := by
  simp [ofList]

/-- What is collected under a name is the first declaration of it. -/
theorem get?_ofList (ds : List StructDecl) (name : String) :
    (ofList ds).value.get? name = ds.find? (·.name == name) := by
  induction ds using List.reverseRecOn with
  | nil => rfl
  | append_singleton ds d ih =>
    rw [ofList_append_singleton, Told.andThen_value, add, List.find?_append, List.find?_singleton,
      ← ih]
    split
    · next hany =>
      -- the name is there already, so nothing changes
      show (ofList ds).value.get? name = _
      by_cases hname : d.name = name
      · subst hname
        rw [← isSome_get?_iff] at hany
        obtain ⟨d', hd'⟩ := Option.isSome_iff_exists.mp hany
        rw [hd']
        rfl
      · have hbeq : (d.name == name) = false := by simpa using hname
        simp [hbeq]
    · rw [Told.quiet_value, get?_append_singleton]

theorem any_ofList (ds : List StructDecl) (name : String) :
    (ofList ds).value.any (·.1 == name) = ds.any (·.name == name) := by
  rw [← isSome_get?_iff, get?_ofList, List.isSome_find?]

/-- Nothing is collected twice under one name. -/
theorem nodup_ofList (ds : List StructDecl) : ((ofList ds).value.map Prod.fst).Nodup := by
  induction ds using List.reverseRecOn with
  | nil => exact List.nodup_nil
  | append_singleton ds d ih =>
    rw [ofList_append_singleton, Told.andThen_value, add]
    split
    · exact ih
    · next hany =>
      rw [Told.quiet_value, List.map_append, List.nodup_append]
      refine ⟨ih, by simp, ?_⟩
      intro name hmem name' hmem' heq
      apply hany
      obtain ⟨e, he, rfl⟩ := List.mem_map.mp hmem
      have hname' : name' = d.name := List.mem_singleton.mp hmem'
      exact List.any_eq_true.mpr ⟨e, he, by simp [heq, hname']⟩

/-- Each declaration that is not the first of its name is told of, in order. -/
theorem events_ofList (ds : List StructDecl) :
    (ofList ds).events
      = (repeatedDecls ds).map fun d => Event.duplicateStruct d.name d.location := by
  induction ds using List.reverseRecOn with
  | nil => rfl
  | append_singleton ds d ih =>
    rw [ofList_append_singleton, Told.andThen_events, ih, add, repeatedDecls_append_singleton,
      List.map_append, any_ofList]
    split <;> rfl

end DeclTable

variable {w : World} {c : Config} {path : Path} {f : SourceFile}

/-! ## What is collected and what is extracted -/

theorem find?_map_decl (ss : List ParsedStruct) (name : String) :
    (ss.map ParsedStruct.decl).find? (·.name == name)
      = (ss.find? (·.decl.name == name)).map ParsedStruct.decl := by
  rw [List.find?_map]
  rfl

/-- Reading a file gives no warning. -/
theorem filter_warn_events_read :
    (SourceFile.read w path).events.filter (·.level == .warn) = [] := by
  unfold SourceFile.read SourceFile.ofTextTold
  split
  · rfl
  · split
    · rfl
    · next fault _ =>
      cases fault.location? <;> rfl

theorem filter_warn_unsupported (ls : List Location) :
    (ls.map Event.unsupportedMember).filter (·.level == .warn) = [] := by
  rw [List.filter_eq_nil_iff]
  intro e he
  obtain ⟨l, -, rfl⟩ := List.mem_map.mp he
  simp [Event.level]

theorem filter_warn_duplicates (ds : List StructDecl) :
    (ds.map fun d => Event.duplicateStruct d.name d.location).filter (·.level == .warn)
      = ds.map fun d => Event.duplicateStruct d.name d.location := by
  rw [List.filter_eq_self]
  intro e he
  obtain ⟨d, -, rfl⟩ := List.mem_map.mp he
  rfl

/-- What is collected by name agrees with what is extracted. -/
structure Agrees (collected : Told (Except Failure DeclTable)) (table : DeclTable)
    (file : ParsedFile) : Prop where
  /-- Each name is held once. -/
  nodup : (table.map Prod.fst).Nodup
  /-- A name leads to the same declaration in both, or to none in both. -/
  lookup : ∀ name, table.get? name = (file.get? name).map ParsedStruct.decl
  /-- There is one warning for each extracted struct that is not the first of its name. -/
  warnings : collected.events.filter (·.level == .warn)
    = (repeatedDecls (file.structs.structs.map ParsedStruct.decl)).map fun d =>
        .duplicateStruct d.name d.location

theorem value_collectStructs (hf : (SourceFile.read w path).value = .ok f) :
    (collectStructs w path).value
      = .ok (DeclTable.ofList ((rawStructs f).map RawStruct.decl)).value := by
  rw [collectStructs, Told.andThen_value, hf]

theorem filter_warn_collectStructs (hf : (SourceFile.read w path).value = .ok f) :
    (collectStructs w path).events.filter (·.level == .warn)
      = (repeatedDecls ((rawStructs f).map RawStruct.decl)).map fun d =>
          .duplicateStruct d.name d.location := by
  rw [collectStructs, Told.andThen_events, hf, List.filter_append, filter_warn_events_read]
  simp only [List.filter_append, filter_warn_unsupported, DeclTable.events_ofList,
    filter_warn_duplicates, List.nil_append]

/-- Whatever the path leads to, if that is no file of 2³² - 1 bytes or more: collecting and
extracting both fail for one reason, or both succeed and agree. -/
theorem collected_agree_with_extracted
    (hsize : ∀ bytes, w.readBytes path = .ok bytes → bytes.size < 2 ^ 32 - 1) :
    (∃ e, (collectStructs w path).value = .error e ∧ (extractStructsWith w c path).value = .error e)
      ∨ ∃ table file, (collectStructs w path).value = .ok table
        ∧ (extractStructsWith w c path).value = .ok file
        ∧ Agrees (collectStructs w path) table file := by
  -- both begin with reading the file, and fail only there
  cases hread : (SourceFile.read w path).value with
  | error e =>
    refine Or.inl ⟨e, ?_, ?_⟩
    · rw [collectStructs, Told.andThen_value, hread]
      rfl
    · rw [extractStructsWith, Told.andThen_value, hread]
      rfl
  | ok f =>
    obtain ⟨text, htext, hof⟩ := SourceFile.ofText_of_read hread
    have hbytes := World.readBytes_of_readText htext
    have hsize := SourceFile.byteSize_of_read hbytes hread ▸ hsize _ hbytes
    -- what is extracted are the declarations that are collected from, in the same order
    have hstructs : (resolveFields (rawStructs f)).structs.map ParsedStruct.decl
        = (rawStructs f).map RawStruct.decl := by
      rw [resolveFields_eq_map hof hsize, StructTable.structs, List.map_map, List.map_map]
      rfl
    refine Or.inr ⟨_, _, value_collectStructs hread, value_extractStructsWith hread,
      DeclTable.nodup_ofList _, ?_, ?_⟩
    · intro name
      rw [DeclTable.get?_ofList, ← hstructs, find?_map_decl]
      rfl
    · rw [filter_warn_collectStructs hread, ← hstructs]

/-- Two structs of one name and one of another, in three places. -/
def doubles : String :=
  "package p\n\ntype ( A struct \x7b X int \x7d; B struct \x7b\x7d )\ntype A struct \x7b\x7d\n"

theorem collected_agree_with_extracted_of_doubles :
    ∃ table file, (collectStructs (.ofFile doubles) ⟨"a.go"⟩).value = .ok table
      ∧ (extractStructsWith (.ofFile doubles) default ⟨"a.go"⟩).value = .ok file
      ∧ Agrees (collectStructs (.ofFile doubles) ⟨"a.go"⟩) table file := by
  have hsize : ∀ bytes, (World.ofFile doubles).readBytes ⟨"a.go"⟩ = .ok bytes →
      bytes.size < 2 ^ 32 - 1 := by
    intro bytes hbytes
    rw [World.readBytes_ofFile] at hbytes
    rw [← Except.ok.inj hbytes]
    decide +kernel
  obtain ⟨f, hf, -⟩ := SourceFile.exists_read_ofFile doubles (by decide +kernel)
  -- the file can be read, so neither fails
  rcases collected_agree_with_extracted (c := default) hsize with ⟨e, -, he⟩ | h
  · rw [value_extractStructsWith hf] at he
    cases he
  · exact h

end GoStructs
