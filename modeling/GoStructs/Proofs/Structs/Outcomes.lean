import GoStructs.Proofs.Structs.Lookup
import GoStructs.Proofs.Syntax.Flags
/-! # What comes of reading a file

A file may lack four things, one after the other: it may not be there as a text, the text may not
fit the grammar, it may not name its package, and it may be all right.  Whatever is read from a file
comes to the same of these four, and which one it is can be told from the bytes of the file and the
tree of its text.  Only what the tree shows counts: a missing line end does not.

## Main statements

* `Outcome.IsDue`: which files cannot be read, which are malformed in which way, and which are
  fine.
* `outcomes_of_reading`: reading a file, collecting from it and extracting from it are classified
  so, and the package is that of the first package clause. -/

namespace GoStructs

open Syntax (SyntaxTree Kind NodeKind parse)

/-! ## What a tree shows -/

namespace Syntax.SyntaxTree

variable {t : SyntaxTree}

/-- No node that is shown is an error or missing. -/
def IsSound (t : SyntaxTree) : Prop := ∀ u ∈ t.preorder, u.isFault = false

theorem childrenOf_eq_nil_iff {k : NodeKind} :
    t.childrenOf k = [] ↔ ∀ u ∈ t.children, u.kind ≠ .node k := by
  simp [childrenOf]

theorem isSound_iff_find? : t.IsSound ↔ t.preorder.find? isFault = none := by
  rw [List.find?_eq_none]
  simp [IsSound]

mutual
/-- All nodes of a tree in document order, shown or not. -/
def nodes : SyntaxTree → List SyntaxTree
  | node i ts => node i ts :: nodesAll ts

/-- All nodes of a list of trees, in document order. -/
def nodesAll : List SyntaxTree → List SyntaxTree
  | [] => []
  | t :: ts => nodes t ++ nodesAll ts
end

mutual

theorem preorder_sublist_nodes : ∀ t : SyntaxTree, t.preorder.Sublist t.nodes
  | .node i ts => by
    rw [preorder, nodes]
    exact (preorderAll_sublist_nodesAll ts).cons_cons _

theorem preorderAll_sublist_nodesAll : ∀ ts : List SyntaxTree,
    (preorderAll ts).Sublist (nodesAll ts)
  | [] => List.Sublist.refl _
  | t :: ts => by
    rw [preorderAll, nodesAll]
    split
    · exact (preorder_sublist_nodes t).append (preorderAll_sublist_nodesAll ts)
    · exact (preorderAll_sublist_nodesAll ts).trans (List.sublist_append_right _ _)

end

/-- Wherever the text fails to fit the grammar, nothing but a line end is missing. -/
def LacksLineEndsOnly (t : SyntaxTree) : Prop :=
  ∀ u ∈ t.nodes, u.isFault → u.kind = .lineEnd

/-- A missing line end is not shown. -/
theorem LacksLineEndsOnly.isSound (h : t.LacksLineEndsOnly) (hkind : t.kind.isShown) :
    t.IsSound := by
  intro u hu
  have hshown : u.kind.isShown := by
    rcases isShown_of_mem_preorder hu with heq | hshown
    · rw [heq]
      exact hkind
    · exact hshown
  by_contra hfault
  have hline := h u ((preorder_sublist_nodes t).mem hu) (by simpa using hfault)
  rw [hline] at hshown
  cases hshown

/-- The first of the package clauses of a file gives it this name. -/
def NamesPackage (tree : SyntaxTree) (text : List Char) (name : String) : Prop :=
  ∃ before clause after ident, tree.children = before ++ clause :: after
    ∧ (∀ t ∈ before, t.kind ≠ .node .packageClause) ∧ clause.kind = .node .packageClause
    ∧ clause.childrenOf .packageIdentifier = [ident] ∧ name = String.ofList (ident.text text)

end Syntax.SyntaxTree

/-! ## What comes of a text -/

namespace SourceFile

variable {path : Path} {text : List Char} {f : SourceFile}

/-- A text without a package clause has no package, and the first package clause of a text that
shows no fault has an identifier. -/
theorem packageNode?_eq_none_iff (h : (parse text).firstFault? = none) :
    packageNode? (parse text) = none
      ↔ ∀ t ∈ (parse text).children, t.kind ≠ .node .packageClause := by
  rw [← SyntaxTree.childrenOf_eq_nil_iff]
  unfold packageNode?
  rw [SyntaxTree.child?_eq_head?]
  cases hclauses : (parse text).childrenOf .packageClause with
  | nil => simp
  | cons clause clauses =>
    have hclause : clause ∈ (parse text).childrenOf .packageClause := by
      rw [hclauses]
      exact List.mem_cons_self
    have hformed : (parse text).IsFormed := Syntax.isFormed_of_firstFault_eq_none h
    obtain ⟨ident, hident⟩ :=
      (hformed.of_mem_children (SyntaxTree.mem_children_of_mem_childrenOf hclause)).packageClause
        (SyntaxTree.kind_of_mem_childrenOf hclause)
    simp [SyntaxTree.child?_eq_head?, hident]

/-- The package of a source file is the one that its first package clause names. -/
theorem namesPackage_of_ofText (h : ofText path text = .ok f) :
    (parse text).NamesPackage text f.packageName := by
  obtain ⟨-, -, htree, hfault⟩ := of_ofText h
  rw [htree] at hfault
  have hname : ∃ t, packageNode? (parse text) = some t
      ∧ f.packageName = String.ofList (t.text text) := by
    unfold ofText ofTree at h
    rw [hfault] at h
    simp only at h
    split at h
    · cases h
    · next t ht =>
      cases h
      exact ⟨t, ht, rfl⟩
  obtain ⟨t, ht, hname⟩ := hname
  obtain ⟨clause, hclause, ht⟩ := Option.bind_eq_some_iff.mp ht
  obtain ⟨hkind, before, after, hsplit, hbefore⟩ := List.find?_eq_some_iff_append.mp hclause
  have hkind : clause.kind = .node .packageClause := eq_of_beq hkind
  have hmem : clause ∈ (parse text).children := List.mem_of_find?_eq_some hclause
  have hformed : (parse text).IsFormed := Syntax.isFormed_of_firstFault_eq_none hfault
  obtain ⟨ident, hident⟩ := (hformed.of_mem_children hmem).packageClause hkind
  rw [SyntaxTree.child?_eq_head?, hident] at ht
  have heq : ident = t := Option.some.inj ht
  refine ⟨before, clause, after, ident, hsplit, ?_, hkind, hident, ?_⟩
  · intro u hu
    simpa using hbefore u hu
  · rw [hname, heq]

end SourceFile

/-! ## What comes of a file -/

variable {α β : Type} {w : World} {c : Config} {path : Path}

/-- The file has these bytes, and they are those of the text in UTF-8. -/
def World.HasText (w : World) (path : Path) (text : String) : Prop :=
  w.readBytes path = .ok text.toByteArray

theorem World.HasText.unique {text text' : String} (h : w.HasText path text)
    (h' : w.HasText path text') : text = text' := by
  have heq := (World.readText_of_readBytes h).symm.trans (World.readText_of_readBytes h')
  exact Except.ok.inj heq

/-- What may come of a file. -/
inductive Outcome where
  | unreadable
  | faulty
  | unnamed
  | fine
  deriving DecidableEq, Repr

namespace Outcome

/-- The outcome that a file must have, told from its bytes and the tree of its text: is it a text,
does the tree show a fault, and is a package clause among the constructs of the file? -/
def IsDue (w : World) (path : Path) : Outcome → Prop
  | unreadable => ¬∃ text, w.HasText path text
  | faulty => ∃ text, w.HasText path text ∧ ∃ t ∈ (parse text.toList).preorder, t.isFault
  | unnamed => ∃ text, w.HasText path text ∧ (parse text.toList).IsSound
      ∧ ∀ t ∈ (parse text.toList).children, t.kind ≠ .node .packageClause
  | fine => ∃ text, w.HasText path text ∧ (parse text.toList).IsSound
      ∧ ∃ t ∈ (parse text.toList).children, t.kind = .node .packageClause

/-- The outcome that a result shows: it is an error that tells of reading, an error at a place, an
error at no place that tells of the package, or no error. -/
def IsShownBy (path : Path) (result : Except Failure α) : Outcome → Prop
  | unreadable => ∃ cause, result = .error (.unreadable path cause)
  | faulty => ∃ fault, fault.location?.isSome ∧ result = .error (.malformed path fault)
  | unnamed => ∃ fault, fault.location? = none ∧ fault.message = "missing package clause"
      ∧ result = .error (.malformed path fault)
  | fine => ∃ a, result = .ok a

/-- A file is due one outcome. -/
theorem IsDue.unique {o o' : Outcome} (h : o.IsDue w path) (h' : o'.IsDue w path) : o = o' := by
  have htext : ∀ {text text'}, w.HasText path text → w.HasText path text' → text = text' :=
    fun h h' => h.unique h'
  cases o
  all_goals cases o' <;> grind [IsDue, SyntaxTree.IsSound]

/-- A result shows one outcome. -/
theorem IsShownBy.unique {result : Except Failure α} {o o' : Outcome}
    (h : o.IsShownBy path result) (h' : o'.IsShownBy path result) : o = o' := by
  cases o
  all_goals cases o' <;> grind [IsShownBy]

/-- What is made of a file that is fine shows the same outcome. -/
theorem IsShownBy.map {result : Except Failure α} {o : Outcome} (h : o.IsShownBy path result)
    (g : α → β) : o.IsShownBy path (result.map g) := by
  cases o with
  | unreadable =>
    obtain ⟨cause, rfl⟩ := h
    exact ⟨cause, rfl⟩
  | faulty =>
    obtain ⟨fault, hplace, rfl⟩ := h
    exact ⟨fault, hplace, rfl⟩
  | unnamed =>
    obtain ⟨fault, hplace, hmessage, rfl⟩ := h
    exact ⟨fault, hplace, hmessage, rfl⟩
  | fine =>
    obtain ⟨a, rfl⟩ := h
    exact ⟨g a, rfl⟩

end Outcome

/-- A file that cannot be read as a text has no text. -/
theorem World.not_hasText_of_readText {cause : ReadError} (h : w.readText path = .error cause) :
    ¬∃ text, w.HasText path text := by
  intro hsome
  obtain ⟨text, htext⟩ := hsome
  rw [World.readText_of_readBytes htext] at h
  cases h

theorem SourceFile.location?_malformationAt (path : Path) (t : SyntaxTree) :
    (malformationAt path t).location? = some (t.location path.text) := by
  unfold malformationAt
  split
  · rfl
  · rfl

/-- What is read from a file with a text is made of the tree of the text. -/
theorem SourceFile.value_read_of_hasText {text : String} (h : w.HasText path text) :
    (read w path).value
      = (ofTree path text.toList (parse text.toList)).mapError (Failure.malformed path) := by
  rw [read, World.readText_of_readBytes h]
  simp only [ofTextTold, ofText]
  cases ofTree path text.toList (parse text.toList) with
  | error fault => rfl
  | ok f => rfl

/-- The fault that is shown first is what reading fails for. -/
theorem SourceFile.value_read_of_find? {text : String} (h : w.HasText path text) {t : SyntaxTree}
    (hfirst : (parse text.toList).preorder.find? SyntaxTree.isFault = some t) :
    (read w path).value = .error (.malformed path (malformationAt path t)) := by
  rw [value_read_of_hasText h, ofTree, Syntax.firstFault?_parse, hfirst]
  rfl

/-- Reading a file comes to the outcome that is due. -/
theorem exists_outcome_read (w : World) (path : Path) :
    ∃ o : Outcome, o.IsDue w path ∧ o.IsShownBy path (SourceFile.read w path).value := by
  cases hread : w.readText path with
  | error cause =>
    refine ⟨.unreadable, World.not_hasText_of_readText hread, cause, ?_⟩
    rw [SourceFile.read, hread]
    rfl
  | ok text =>
    have htext : w.HasText path text := World.readBytes_of_readText hread
    cases hfirst : (parse text.toList).preorder.find? SyntaxTree.isFault with
    | some t =>
      refine ⟨.faulty, ⟨text, htext, t, List.mem_of_find?_eq_some hfirst, List.find?_some hfirst⟩,
        _, ?_, SourceFile.value_read_of_find? htext hfirst⟩
      rw [SourceFile.location?_malformationAt]
      rfl
    | none =>
      -- no fault is shown, so the package decides
      have hsound := SyntaxTree.isSound_iff_find?.mpr hfirst
      have hfault := (Syntax.firstFault?_parse text.toList).trans hfirst
      have hvalue := SourceFile.value_read_of_hasText htext
      rw [SourceFile.ofTree, hfault] at hvalue
      have hnone := SourceFile.packageNode?_eq_none_iff hfault
      cases hpackage : SourceFile.packageNode? (parse text.toList) with
      | none =>
        rw [hpackage] at hvalue
        exact ⟨.unnamed, ⟨text, htext, hsound, hnone.mp hpackage⟩, .noPackage, rfl, rfl, hvalue⟩
      | some t =>
        rw [hpackage] at hvalue
        refine ⟨.fine, ⟨text, htext, hsound, ?_⟩, _, hvalue⟩
        by_contra hclauses
        rw [hnone.mpr fun u hu hkind => hclauses ⟨u, hu, hkind⟩] at hpackage
        cases hpackage

theorem value_collectStructs_eq_map (w : World) (path : Path) :
    (collectStructs w path).value = (SourceFile.read w path).value.map fun f =>
      (DeclTable.ofList ((rawStructs f).map RawStruct.decl)).value := by
  rw [collectStructs, Told.andThen_value]
  cases (SourceFile.read w path).value with
  | error e => rfl
  | ok f => rfl

theorem value_extractStructsWith_eq_map (w : World) (c : Config) (path : Path) :
    (extractStructsWith w c path).value = (SourceFile.read w path).value.map fun f =>
      parsedFile f (Import.importPath w c path).value := by
  rw [extractStructsWith, Told.andThen_value]
  cases (SourceFile.read w path).value with
  | error e => rfl
  | ok f => rfl

/-- The result shows the outcome that the file is due, and if the file is faulty, the place of the
fault that its tree shows first. -/
structure IsClassified (w : World) (path : Path) (result : Except Failure α) : Prop where
  shown_iff : ∀ o : Outcome, o.IsShownBy path result ↔ o.IsDue w path
  place : ∀ text, w.HasText path text → ∀ t,
    (parse text.toList).preorder.find? SyntaxTree.isFault = some t →
      ∃ fault, fault.location? = some (t.location path.text)
        ∧ result = .error (.malformed path fault)

/-- Whatever is made of what is read from a file is classified. -/
theorem isClassified_map_read (w : World) (path : Path) (g : SourceFile → β) :
    IsClassified w path ((SourceFile.read w path).value.map g) := by
  obtain ⟨due, hdue, hread⟩ := exists_outcome_read w path
  have hshown := hread.map g
  constructor
  · intro o
    constructor
    · intro h
      rw [h.unique hshown]
      exact hdue
    · intro h
      rw [h.unique hdue]
      exact hshown
  · intro text htext t hfirst
    refine ⟨_, SourceFile.location?_malformationAt path t, ?_⟩
    rw [SourceFile.value_read_of_find? htext hfirst]
    rfl

/-- From any file, whatever its path and its bytes: reading it, collecting from it and extracting
from it all come to the outcome that it is due; the package is the one that its first package clause
names; and if line ends are all that its text lacks, a package clause is enough. -/
theorem outcomes_of_reading (w : World) (c : Config) (path : Path) :
    IsClassified w path (SourceFile.read w path).value
      ∧ IsClassified w path (collectStructs w path).value
      ∧ IsClassified w path (extractStructsWith w c path).value
      ∧ (∀ f, (SourceFile.read w path).value = .ok f →
          ∃ text, w.HasText path text
            ∧ (parse text.toList).NamesPackage text.toList f.packageName)
      ∧ (∀ file, (extractStructsWith w c path).value = .ok file →
          ∃ text, w.HasText path text
            ∧ (parse text.toList).NamesPackage text.toList file.package.name)
      ∧ ∀ text, w.HasText path text → (parse text.toList).LacksLineEndsOnly →
          (∃ t ∈ (parse text.toList).children, t.kind = .node .packageClause) →
            Outcome.fine.IsShownBy path (SourceFile.read w path).value
              ∧ Outcome.fine.IsShownBy path (collectStructs w path).value
              ∧ Outcome.fine.IsShownBy path (extractStructsWith w c path).value := by
  have hread : IsClassified w path (SourceFile.read w path).value := by
    have hmap := isClassified_map_read w path id
    rwa [Except.map_id] at hmap
  have hcollect : IsClassified w path (collectStructs w path).value := by
    rw [value_collectStructs_eq_map]
    exact isClassified_map_read w path _
  have hextract : IsClassified w path (extractStructsWith w c path).value := by
    rw [value_extractStructsWith_eq_map]
    exact isClassified_map_read w path _
  have hpackage : ∀ f, (SourceFile.read w path).value = .ok f → ∃ text, w.HasText path text
      ∧ (parse text.toList).NamesPackage text.toList f.packageName := by
    intro f hf
    obtain ⟨text, htext, hof⟩ := SourceFile.ofText_of_read hf
    exact ⟨text, World.readBytes_of_readText htext, SourceFile.namesPackage_of_ofText hof⟩
  refine ⟨hread, hcollect, hextract, hpackage, ?_, ?_⟩
  · intro file hfile
    rw [value_extractStructsWith_eq_map] at hfile
    cases hf : (SourceFile.read w path).value with
    | error e =>
      rw [hf] at hfile
      cases hfile
    | ok f =>
      rw [hf] at hfile
      cases hfile
      exact hpackage f hf
  · intro text htext hlines hclause
    have hdue : Outcome.fine.IsDue w path := ⟨text, htext, hlines.isSound rfl, hclause⟩
    exact ⟨(hread.shown_iff _).mpr hdue, (hcollect.shown_iff _).mpr hdue,
      (hextract.shown_iff _).mpr hdue⟩

/-- Two structs on one line, and two package clauses behind them. -/
def lateClause : String :=
  "type A struct \x7b\x7d type B struct \x7b\x7d\npackage p\npackage q\n"

/-- The text lacks a line end, which the flag of its tree tells, but it is read and belongs to the
first of its packages. -/
theorem outcomes_of_reading_lateClause :
    (parse lateClause.toList).isFlagged
      ∧ Outcome.fine.IsShownBy ⟨"a.go"⟩ (collectStructs (.ofFile lateClause) ⟨"a.go"⟩).value
      ∧ ∃ file, (extractStructsWith (.ofFile lateClause) default ⟨"a.go"⟩).value = .ok file
        ∧ file.package.name = "p" := by
  have hflag : (parse lateClause.toList).isFlagged := by decide +kernel
  have hlines : (parse lateClause.toList).LacksLineEndsOnly := by
    unfold SyntaxTree.LacksLineEndsOnly
    decide +kernel
  have hclause : ∃ t ∈ (parse lateClause.toList).children, t.kind = .node .packageClause := by
    decide +kernel
  obtain ⟨f, hf, -, hname⟩ := SourceFile.exists_read_of_map SourceFile.packageName lateClause "p"
    (by decide +kernel)
  obtain ⟨-, -, -, -, -, hfine⟩ := outcomes_of_reading (.ofFile lateClause) default ⟨"a.go"⟩
  obtain ⟨-, hcollect, -⟩ := hfine lateClause (World.readBytes_ofFile _) hlines hclause
  exact ⟨hflag, hcollect, _, value_extractStructsWith hf, hname⟩

end GoStructs
