import GoStructs.Proofs.Structs.Fields
/-! # What is told of embedded members

No embedded member is passed over in silence.  Either its type is of a kind that no struct of the
file can be, or it names a type that the file does not declare as a struct, or a struct of the file
is found for it.  Of the members of the first two kinds the one who extracts the structs is told,
each kind in source order, and at the end how many structs there are.

## Main statements

* `SourceFile.exists_resolution`, `SourceFile.Resolves.unique`: each embedded member is of one kind.
* `SourceFile.laid_embeddedMembersOfStructs`: the embedded members stand one behind the other.
* `embedded_members_are_told`: what is told of them. -/

namespace GoStructs

open Syntax (SyntaxTree Laid)
open SourceFile

/-- The declarations of fields of all structs, in source order. -/
def Syntax.SyntaxTree.fieldDeclarationsOfStructs (tree : SyntaxTree) : List SyntaxTree :=
  tree.structSpecs.flatMap SyntaxTree.fieldDeclarations

/-- The embedded members of all structs, in source order. -/
def Syntax.SyntaxTree.embeddedMembersOfStructs (tree : SyntaxTree) : List SyntaxTree :=
  tree.structSpecs.flatMap SyntaxTree.embeddedMembers

/-- What an embedded member at a location is to its file. -/
inductive Resolution where
  /-- Its type is neither an identifier nor a generic instance of one. -/
  | unsupported (location : Location)
  /-- It names no struct of the file. -/
  | undeclared (typeName : String) (location : Location)
  /-- It names a struct of the file. -/
  | declared (typeName : String) (location : Location)
  deriving DecidableEq, Repr

namespace Resolution

/-- What is told of the member when the members are collected. -/
def collecting? : Resolution → Option Event
  | unsupported l => some (.unsupportedMember l)
  | _ => none

/-- What is told of the member when the fields are resolved. -/
def resolving? : Resolution → Option Event
  | undeclared name l => some (.undeclaredMember name l)
  | _ => none

end Resolution

namespace SourceFile

/-- What the embedded member is to the file, as the tree tells. -/
inductive Resolves (f : SourceFile) (e : SyntaxTree) : Resolution → Prop where
  | unsupported (h : ∀ name, ¬f.Embeds e name) : Resolves f e (.unsupported (f.locationOf e))
  | undeclared {name : String} (h : f.Embeds e name)
      (hnone : ∀ s ∈ f.tree.structSpecs, f.specName? s ≠ some name) :
      Resolves f e (.undeclared name (f.locationOf e))
  | declared {name : String} (h : f.Embeds e name)
      (hsome : ∃ s ∈ f.tree.structSpecs, f.specName? s = some name) :
      Resolves f e (.declared name (f.locationOf e))

variable {path : Path} {text : List Char} {f : SourceFile} {d e : SyntaxTree}

/-! ## One resolution for each member -/

/-- The name that a member is written with is the one that is read off its type. -/
theorem Embeds.embeddedName?_eq {name : String} (h : f.Embeds e name) :
    (e.labelled? .type).bind (embeddedName? f) = some name := by
  cases h with
  | @plain type htype hkind =>
    obtain ⟨i, ts⟩ := type
    have hi : i.kind = .node .typeIdentifier := hkind
    simp [SyntaxTree.labelled?_of_labelled htype, embeddedName?, hi]
  | @generic type inner htype hkind hinner hinnerkind =>
    obtain ⟨i, ts⟩ := type
    have hi : i.kind = .node .genericType := hkind
    simp [SyntaxTree.labelled?_of_labelled htype, embeddedName?, hi,
      SyntaxTree.labelled?_of_labelled hinner, hinnerkind]

/-- No name is read off a type that no struct of the file can be. -/
theorem IsForeign.embeddedName?_eq_none (h : IsForeign e) :
    (e.labelled? .type).bind (embeddedName? f) = none := by
  cases h with
  | @plain type htype hkind =>
    obtain ⟨i, ts⟩ := type
    have hi : i.kind = .node .qualifiedType := hkind
    simp [SyntaxTree.labelled?_of_labelled htype, embeddedName?, hi]
  | @generic type base htype hkind hbase hbasekind =>
    obtain ⟨i, ts⟩ := type
    have hi : i.kind = .node .genericType := hkind
    rcases hbasekind with hbasekind | hbasekind
    all_goals
      simp [SyntaxTree.labelled?_of_labelled htype, embeddedName?, hi,
        SyntaxTree.labelled?_of_labelled hbase, hbasekind]

/-- A member is written with one name at most. -/
theorem Embeds.unique {name name' : String} (h : f.Embeds e name) (h' : f.Embeds e name') :
    name = name' :=
  Option.some.inj (h.embeddedName?_eq.symm.trans h'.embeddedName?_eq)

/-- A type that no struct of the file can be is no name. -/
theorem IsForeign.not_embeds (h : IsForeign e) (name : String) : ¬f.Embeds e name := by
  intro hembeds
  cases hembeds.embeddedName?_eq.symm.trans h.embeddedName?_eq_none

theorem Resolves.unique {r r' : Resolution} (h : f.Resolves e r) (h' : f.Resolves e r') :
    r = r' := by
  cases h with
  | unsupported hnot =>
    cases h' with
    | unsupported => rfl
    | undeclared hembeds | declared hembeds => exact absurd hembeds (hnot _)
  | undeclared hembeds hnone =>
    cases h' with
    | unsupported hnot => exact absurd hembeds (hnot _)
    | undeclared hembeds' => rw [hembeds.unique hembeds']
    | declared hembeds' hsome =>
      obtain ⟨s, hs, hname⟩ := hsome
      exact absurd (hembeds'.unique hembeds ▸ hname) (hnone s hs)
  | declared hembeds hsome =>
    cases h' with
    | unsupported hnot => exact absurd hembeds (hnot _)
    | undeclared hembeds' hnone =>
      obtain ⟨s, hs, hname⟩ := hsome
      exact absurd (hembeds.unique hembeds' ▸ hname) (hnone s hs)
    | declared hembeds' => rw [hembeds.unique hembeds']

/-- The embedded members stand in the text one behind the other. -/
theorem laid_embeddedMembersOfStructs (h : ofText path text = .ok f) :
    ∃ hi, Laid f.text 0 f.tree.embeddedMembersOfStructs hi := by
  obtain ⟨hi, hspecs⟩ := laid_structSpecs h
  -- they are some of the declarations in the bodies of the types that define structs
  have htypes := hspecs.flatMap fun t => (t.labelled_sublist .type)
  have hbodies := htypes.flatMap fun t => t.childrenOf_sublist .fieldDeclarationList
  have hdeclarations := hbodies.flatMap fun t => t.childrenOf_sublist .fieldDeclaration
  rw [List.flatMap_assoc, List.flatMap_assoc] at hdeclarations
  refine ⟨hi, ?_⟩
  unfold SyntaxTree.embeddedMembersOfStructs SyntaxTree.embeddedMembers
  rw [← List.filter_flatMap]
  exact hdeclarations.sublist List.filter_sublist

end SourceFile

/-! ## What is told of the members that are collected -/

/-- What is told of a member when it is collected. -/
def Member.collecting? : Member → Option Event
  | .unsupported l => some (.unsupportedMember l)
  | _ => none

/-- What is told of a member when the fields of the structs are resolved. -/
def Member.resolving? (raws : List RawStruct) : Member → Option Event
  | .embedded typeName l =>
    if (structNamed? raws typeName).isNone then some (.undeclaredMember typeName l) else none
  | _ => none

theorem map_unsupportedMembers (raws : List RawStruct) :
    (unsupportedMembers raws).map Event.unsupportedMember
      = (raws.flatMap RawStruct.members).filterMap Member.collecting? := by
  rw [unsupportedMembers, List.map_flatMap, List.filterMap_flatMap]
  refine List.flatMap_congr fun r _ => ?_
  rw [List.map_filterMap]
  refine List.filterMap_congr fun m _ => ?_
  cases m <;> rfl

theorem map_undeclaredMembers (raws : List RawStruct) :
    (undeclaredMembers raws).map (fun m => Event.undeclaredMember m.1 m.2)
      = (raws.flatMap RawStruct.members).filterMap (Member.resolving? raws) := by
  rw [undeclaredMembers, List.map_flatMap, List.filterMap_flatMap]
  refine List.flatMap_congr fun r _ => ?_
  rw [List.map_filterMap]
  refine List.filterMap_congr fun m _ => ?_
  cases m with
  | named | unsupported => rfl
  | embedded typeName l => simp only [Member.resolving?]; split <;> rfl

variable {w : World} {c : Config} {path : Path} {text : List Char} {f : SourceFile}
  {d : SyntaxTree}

/-- The members that are collected are those of the declarations in the tree, in source order. -/
theorem flatMap_members (htree : f.tree.IsFormed) :
    (rawStructs f).flatMap RawStruct.members
      = f.tree.fieldDeclarationsOfStructs.flatMap (membersOf f) := by
  have hmembers : (rawStructs f).map RawStruct.members
      = f.tree.structSpecs.map fun spec => spec.fieldDeclarations.flatMap (membersOf f) := by
    symm
    rw [← List.forall₂_eq_eq_eq, List.forall₂_map_left_iff, List.forall₂_map_right_iff]
    exact (forall₂_rawStructs htree).imp fun _ _ hraw => hraw.members.symm
  rw [SyntaxTree.fieldDeclarationsOfStructs, List.flatMap_assoc, List.flatMap_def, hmembers,
    ← List.flatMap_def]

/-- Nothing is told of a declaration with names. -/
theorem filterMap_membersOf_of_names (raws : List RawStruct) (h : d.labelled .name ≠ []) :
    (membersOf f d).filterMap Member.collecting? = []
      ∧ (membersOf f d).filterMap (Member.resolving? raws) = [] := by
  have hnamed : ∀ m ∈ membersOf f d, ∃ field, m = .named field := by
    intro m hm
    unfold membersOf at hm
    split at hm
    · next hnone => exact absurd hnone h
    · obtain ⟨n, -, rfl⟩ := List.mem_map.mp hm
      exact ⟨_, rfl⟩
  constructor
  · rw [List.filterMap_eq_nil_iff]
    intro m hm
    obtain ⟨field, rfl⟩ := hnamed m hm
    rfl
  · rw [List.filterMap_eq_nil_iff]
    intro m hm
    obtain ⟨field, rfl⟩ := hnamed m hm
    rfl

/-- An embedded member has a resolution, and what is told of it is what that asks for. -/
theorem exists_resolution (htree : f.tree.IsFormed) (h : d.IsFormed)
    (hkind : d.kind = .node .fieldDeclaration) (hnone : d.labelled .name = []) :
    ∃ r, f.Resolves d r
      ∧ (membersOf f d).filterMap Member.collecting? = r.collecting?.toList
      ∧ (membersOf f d).filterMap (Member.resolving? (rawStructs f)) = r.resolving?.toList := by
  have hraws := forall₂_rawStructs htree
  rcases membersOf_of_no_names h hkind hnone with ⟨name, hmembers, hname⟩ | ⟨hmembers, hforeign⟩
  · rw [hmembers]
    cases hfind : structNamed? (rawStructs f) name with
    | none =>
      refine ⟨_, .undeclared hname (specName_ne_of_structNamed_eq_none hraws hfind), rfl, ?_⟩
      simp [Member.resolving?, hfind, Resolution.resolving?]
    | some target =>
      obtain ⟨before, spec, after, hspecs, -, hspec, -⟩ := first_of_structNamed_eq_some hraws hfind
      refine ⟨_, .declared hname ⟨spec, by simp [hspecs], hspec⟩, rfl, ?_⟩
      simp [Member.resolving?, hfind, Resolution.resolving?]
  · rw [hmembers]
    exact ⟨_, .unsupported hforeign.not_embeds, rfl, rfl⟩

/-- The embedded members among some declarations have resolutions, and what is told of the members
of these declarations is what the resolutions ask for. -/
theorem forall₂_resolutions (htree : f.tree.IsFormed) {ds : List SyntaxTree}
    (h : ∀ d ∈ ds, d.IsFormed ∧ d.kind = .node .fieldDeclaration) :
    ∃ rs, List.Forall₂ f.Resolves (ds.filter fun d => (d.labelled .name).isEmpty) rs
      ∧ (ds.flatMap (membersOf f)).filterMap Member.collecting?
        = rs.filterMap Resolution.collecting?
      ∧ (ds.flatMap (membersOf f)).filterMap (Member.resolving? (rawStructs f))
        = rs.filterMap Resolution.resolving? := by
  induction ds with
  | nil => exact ⟨[], .nil, rfl, rfl⟩
  | cons d ds ih =>
    obtain ⟨hd, hds⟩ := List.forall_mem_cons.mp h
    obtain ⟨rs, hrs, hcollecting, hresolving⟩ := ih hds
    rw [List.flatMap_cons, List.filterMap_append, List.filterMap_append, hcollecting, hresolving]
    by_cases hnone : d.labelled .name = []
    · obtain ⟨r, hr, hcollect, hresolve⟩ := exists_resolution htree hd.1 hd.2 hnone
      rw [List.filter_cons_of_pos (by simp [hnone]), hcollect, hresolve]
      refine ⟨r :: rs, .cons hr hrs, ?_, ?_⟩
      · rw [List.filterMap_cons]
        cases r.collecting? <;> rfl
      · rw [List.filterMap_cons]
        cases r.resolving? <;> rfl
    · -- a declaration with names has no part in it
      obtain ⟨hcollect, hresolve⟩ := filterMap_membersOf_of_names (f := f) (rawStructs f) hnone
      rw [List.filter_cons_of_neg (by simpa using hnone), hcollect, hresolve]
      exact ⟨rs, hrs, rfl, rfl⟩

/-! ## All that is told -/

/-- The search for a module warns, at most. -/
theorem level_of_mem_events_moduleAmong {dirs : List Path} :
    ∀ e ∈ (Import.moduleAmong w dirs).events, e.level = .warn := by
  induction dirs with
  | nil => exact nofun
  | cons dir dirs ih =>
    unfold Import.moduleAmong
    dsimp only
    split
    · exact ih
    · split
      · exact nofun
      · intro e he
        rw [List.mem_singleton.mp he]
        rfl

theorem level_of_mem_events_importPath : ∀ e ∈ (Import.importPath w c path).events,
    e.level = .warn := by
  unfold Import.importPath Import.ofDirectory
  split
  · exact nofun
  · rw [Told.andThen_events, Told.quiet_events, List.append_nil]
    exact level_of_mem_events_moduleAmong

/-- Nothing is told of a file that is read. -/
theorem SourceFile.events_read_of_ok (hf : (read w path).value = .ok f) :
    (read w path).events = [] := by
  unfold read ofTextTold at hf ⊢
  split at hf
  · cases hf
  · split at hf
    · rfl
    · cases hf

/-- What is told in full detail when the structs of a file are extracted. -/
theorem filter_debug_extractStructsWith (hf : (SourceFile.read w path).value = .ok f) :
    (extractStructsWith w c path).events.filter (·.level == .debug)
      = (unsupportedMembers (rawStructs f)).map Event.unsupportedMember
        ++ (undeclaredMembers (rawStructs f)).map (fun m => Event.undeclaredMember m.1 m.2)
        ++ [.extracted (resolveFields (rawStructs f)).length path
          (Import.importPath w c path).value] := by
  have hwarnings : (Import.importPath w c path).events.filter (·.level == .debug) = [] := by
    rw [List.filter_eq_nil_iff]
    intro e he
    rw [level_of_mem_events_importPath e he]
    decide
  rw [extractStructsWith, Told.andThen_events, SourceFile.events_read_of_ok hf, hf]
  simp only [Told.andThen_events, List.nil_append]
  rw [List.filter_append, hwarnings, List.nil_append]
  -- all that is told of the structs themselves is of this level
  refine List.filter_eq_self.mpr ?_
  intro e he
  rcases List.mem_append.mp he with he | he
  · rcases List.mem_append.mp he with he | he
    · obtain ⟨l, -, rfl⟩ := List.mem_map.mp he
      rfl
    · obtain ⟨m, -, rfl⟩ := List.mem_map.mp he
      rfl
  · rw [List.mem_singleton.mp he]
    rfl

/-- As many structs are extracted as there are identities of definitions. -/
theorem length_resolveFields (htree : f.tree.IsFormed) :
    (resolveFields (rawStructs f)).length = (f.tree.structSpecs.map f.specId?).dedup.length := by
  have hsome : (rawStructs f).map (fun r => some r.decl.id)
      = ((rawStructs f).map (·.decl.id)).map some := by
    rw [List.map_map]
    rfl
  rw [map_specId htree, hsome, List.dedup_map_of_injective fun _ _ => Option.some.inj,
    List.length_map, resolveFields, StructTable.length_ofList, List.map_map]
  rfl

/-- What is told of the embedded members of a file, and of its structs. -/
structure TellsOfMembers (f : SourceFile) (path : Path) (importPath : String)
    (events : List Event) : Prop where
  /-- The embedded members stand in the text one behind the other. -/
  laid : f.tree.embeddedMembersOfStructs.Pairwise fun d e => d.stop.offset ≤ e.start.offset
  /-- Each of them is of one kind. -/
  resolution : ∀ e ∈ f.tree.embeddedMembersOfStructs, ∃! r, f.Resolves e r
  /-- First those are told of that are not supported, and then those that are not declared, both in
  source order.  At last it is told how many structs there are: in a file in which offsets are
  32-bit numbers as many as there are definitions, and in any file as many as these have
  identities. -/
  events : ∃ rs count, List.Forall₂ f.Resolves f.tree.embeddedMembersOfStructs rs
    ∧ events.filter (·.level == .debug)
      = rs.filterMap Resolution.collecting? ++ rs.filterMap Resolution.resolving?
        ++ [.extracted count path importPath]
    ∧ (byteSize f.text < 2 ^ 32 → count = f.tree.structSpecs.length)
    ∧ count = (f.tree.structSpecs.map f.specId?).dedup.length

/-- When the structs of a source file are extracted, under any configuration, each embedded member
of a struct is either resolved or told of. -/
theorem embedded_members_are_told (hf : (SourceFile.read w path).value = .ok f) :
    TellsOfMembers f path (Import.importPath w c path).value
      (extractStructsWith w c path).events := by
  obtain ⟨text, -, hof⟩ := SourceFile.ofText_of_read hf
  have htree := isFormed_tree hof
  obtain ⟨hi, hlaid⟩ := laid_embeddedMembersOfStructs hof
  have hmembers : f.tree.embeddedMembersOfStructs
      = f.tree.fieldDeclarationsOfStructs.filter fun d => (d.labelled .name).isEmpty :=
    List.filter_flatMap.symm
  have hdeclarations : ∀ d ∈ f.tree.fieldDeclarationsOfStructs,
      d.IsFormed ∧ d.kind = .node .fieldDeclaration := by
    intro d hd
    obtain ⟨spec, hspec, hd⟩ := List.mem_flatMap.mp hd
    have hformed := SyntaxTree.isFormed_of_mem_structSpecs htree hspec
    exact SyntaxTree.isFormed_of_mem_fieldDeclarations hformed hd
  obtain ⟨rs, hrs, hcollecting, hresolving⟩ := forall₂_resolutions htree hdeclarations
  rw [← hmembers] at hrs
  refine ⟨hlaid.pairwise, ?_, rs, _, hrs, ?_, ?_, length_resolveFields htree⟩
  · intro e he
    obtain ⟨r, -, hr⟩ := exists_left_of_mem hrs.flip he
    exact ⟨r, hr, fun r' hr' => hr'.unique hr⟩
  · rw [filter_debug_extractStructsWith hf, map_unsupportedMembers, map_undeclaredMembers,
      flatMap_members htree, hcollecting, hresolving]
  · intro hsize
    rw [length_resolveFields htree, (nodup_specId hof hsize).dedup, List.length_map]

/-- Two structs of one name that embed themselves, each other, types of another package and types
that the file does not declare as structs. -/
def kindred : String :=
  "package p\n\ntype A struct \x7b *B; q.C; N \x7d\n"
    ++ "type A struct \x7b A; *q.D[int]; M[B] \x7d\ntype B struct \x7b X, Y int \x7d\ntype N int\n"

theorem embedded_members_are_told_of_kindred :
    ∃ f, (SourceFile.read (.ofFile kindred) ⟨"a.go"⟩).value = .ok f
      ∧ f.tree.structSpecs.length = 3 ∧ f.tree.embeddedMembersOfStructs.length = 6
      ∧ TellsOfMembers f ⟨"a.go"⟩ (Import.importPath (.ofFile kindred) default ⟨"a.go"⟩).value
        (extractStructsWith (.ofFile kindred) default ⟨"a.go"⟩).events := by
  obtain ⟨f, hf, htree⟩ := exists_read_ofFile kindred (by decide +kernel)
  have hcount : (Syntax.parse kindred.toList).structSpecs.length = 3
      ∧ (Syntax.parse kindred.toList).embeddedMembersOfStructs.length = 6 := by decide +kernel
  rw [← htree] at hcount
  exact ⟨f, hf, hcount.1, hcount.2, embedded_members_are_told hf⟩

/-- Of each member it is told where it stands. -/
example : (ofText ⟨"a.go"⟩ kindred.toList).toOption.map (fun f =>
      ((unsupportedMembers (rawStructs f)).map Location.display,
        (undeclaredMembers (rawStructs f)).map fun m => (m.1, m.2.display)))
    = some (["a.go:3:21", "a.go:4:20"], [("N", "a.go:3:26"), ("M", "a.go:4:31")]) := by
  decide +kernel

/-- Arguments behind a negated type do not make a name of it. -/
example : (ofText ⟨"a.go"⟩
      "package p\ntype S struct \x7b ~N[int]; *~[]N[S]; N \x7d\n".toList).toOption.map (fun f =>
      ((unsupportedMembers (rawStructs f)).map Location.display,
        (undeclaredMembers (rawStructs f)).map fun m => (m.1, m.2.display)))
    = some (["a.go:2:17", "a.go:2:26"], [("N", "a.go:2:36")]) := by
  decide +kernel

end GoStructs
