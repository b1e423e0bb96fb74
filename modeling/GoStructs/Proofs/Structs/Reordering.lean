import GoStructs.Proofs.Structs.Table
import GoStructs.Structs.Resolve
/-! # The order of declarations

Where in a file a struct is declared does not matter to the structs that embed it, be it in front of
them or behind them, nor does it matter if two structs embed each other.  Only structs of one name
have to stay in order, since a name means the first of them.  So if the structs change places, each
under the identity that it had, then their table stays the same.

## Main statements

* `fieldsOf_congr`: the fields of a struct depend on what the names of the file mean.
* `resolveFields_of_reorders`: the table of structs that have changed places. -/

namespace GoStructs

/-- The structs of the first list are in the second in another order, in which the structs of each
name follow one another as before. -/
structure Reorders (raws raws' : List RawStruct) : Prop where
  perm : raws.Perm raws'
  ofName : ∀ name, raws.filter (·.decl.name == name) = raws'.filter (·.decl.name == name)

variable {raws raws' : List RawStruct}

/-- A name means the same struct as before. -/
theorem Reorders.structNamed?_eq (h : Reorders raws raws') :
    structNamed? raws = structNamed? raws' := by
  funext name
  rw [structNamed?, structNamed?, ← List.head?_filter, ← List.head?_filter, h.ofName]

/-- Which fields a struct has depends on the rest of the file by what the names mean. -/
theorem fieldsOf_congr (h : structNamed? raws = structNamed? raws') (r : RawStruct) :
    fieldsOf raws r = fieldsOf raws' r := by
  have hpromoted : promotedFields raws = promotedFields raws' := by
    funext m
    cases m with
    | named | unsupported => rfl
    | embedded typeName location => rw [promotedFields, promotedFields, h]
  rw [fieldsOf, fieldsOf, hpromoted]

/-- Structs with identities of their own may change places, as long as those of one name stay in
order: the table holds the same declarations with the same fields under the same identities. -/
theorem resolveFields_of_reorders (hids : (raws.map (·.decl.id)).Nodup)
    (h : Reorders raws raws') : resolveFields raws = resolveFields raws' := by
  have hfields : fieldsOf raws = fieldsOf raws' := funext (fieldsOf_congr h.structNamed?_eq)
  rw [resolveFields, resolveFields, hfields]
  apply StructTable.ofList_eq_of_perm
  · rw [List.map_map]
    exact hids
  · exact h.perm.map _

/-- A struct with the given members, declared at the beginning of a line. -/
def declaredAt (line : UInt32) (name : String) (members : List Member) : RawStruct :=
  ⟨⟨⟨line, 6, name⟩, name, [], none, .point "a.go" line 6⟩, members⟩

/-- A field of a struct that is declared at the beginning of a line. -/
def fieldAt (line : UInt32) (name : String) : Member :=
  .named ⟨name, "int", none, none, .point "a.go" line 16⟩

/-- Two structs that embed each other, and another one with the name of the second, which it
embeds. -/
def entangled : List RawStruct :=
  [declaredAt 3 "A" [.embedded "B" (.point "a.go" 3 20), fieldAt 3 "X"],
    declaredAt 4 "B" [fieldAt 4 "Y", .embedded "A" (.point "a.go" 4 20)],
    declaredAt 5 "B" [fieldAt 5 "Z", .embedded "B" (.point "a.go" 5 20)]]

/-- The first of them may as well come last. -/
theorem resolveFields_of_reorders_entangled :
    resolveFields entangled = resolveFields (entangled.drop 1 ++ entangled.take 1)
      ∧ (resolveFields entangled).map (fun e => (e.1.display, e.2.fieldNames))
        = [("A@3:6", ["X", "Y"]), ("B@4:6", ["Y", "X"]), ("B@5:6", ["Z", "Y"])] := by
  have hperm : entangled.Perm (entangled.drop 1 ++ entangled.take 1) :=
    (List.take_append_drop 1 entangled).symm ▸ List.perm_append_comm
  have hofName : ∀ name, entangled.filter (·.decl.name == name)
      = (entangled.drop 1 ++ entangled.take 1).filter (·.decl.name == name) := by
    intro name
    by_cases hname : name = "A"
    · rw [hname]
      decide +kernel
    · have hother : ("A" == name) = false := beq_false_of_ne (Ne.symm hname)
      simp [entangled, declaredAt, List.filter_cons, hother]
  exact ⟨resolveFields_of_reorders (by decide +kernel) ⟨hperm, hofName⟩, by decide +kernel⟩

end GoStructs
