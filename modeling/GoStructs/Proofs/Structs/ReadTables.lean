import GoStructs.Proofs.Source.ByteOrder
import GoStructs.Proofs.Structs.RoundTrip
/-! # Tables that are read

The structs of a file may be given in any order, with identities that occur several times, and with
names other than those in their identities.  The table that is read from them is the same as if they
had been put in order, with the last of those of one identity alone; and the struct that is found
under a name is that with the least identity.

## Main statements

* `StructId.order_eq_lt_iff`: identities are ordered by line, column and the bytes of the name.
* `StructTable.isTableOf_ofList`: what is in the table of a list, and in which order.
* `ParsedFile.get?_eq_some_iff`: which struct is found under a name.
* `ParsedFile.ofJson_eq_ok_iff`: which values a file is read from, and which file that is.
* `read_tables_are_normal`: all this, of a file that is read. -/

namespace GoStructs

open Decoded (bind_eq_ok_iff pure_eq_ok_iff)

/-! ## The order of identities -/

namespace StructId

variable {a b : StructId}

/-- One identity comes before another if its line does, or on one line its column, or at one place
its name, the names being compared byte by byte. -/
def IsBefore (a b : StructId) : Prop :=
  a.line < b.line ∨ (a.line = b.line
    ∧ (a.column < b.column ∨ (a.column = b.column ∧ textBytes a.name < textBytes b.name)))

theorem order_eq_lt_iff : order a b = .lt ↔ a.IsBefore b := by
  have hname : compare a.name b.name = .lt ↔ a.name < b.name := compareOfLessAndEq_eq_lt
  simp only [order, Ordering.then_eq_lt, Std.compare_eq_lt, Std.compare_eq_iff_eq, hname, IsBefore,
    textBytes_lt_iff]

theorem IsBefore.asymm (h : a.IsBefore b) : ¬b.IsBefore a := by
  intro h'
  exact order_ne_lt a (order_trans (order_eq_lt_iff.mpr h) (order_eq_lt_iff.mpr h'))

end StructId

/-! ## The table of a list -/

/-- What is first in an ascending list comes before all the rest that passes the test. -/
theorem find?_eq_some_iff_of_pairwise {α : Type} {r : α → α → Prop} {as : List α} {p : α → Bool}
    {a : α} (h : as.Pairwise r) (hasymm : ∀ a b, r a b → ¬r b a) :
    as.find? p = some a ↔ a ∈ as ∧ p a ∧ ∀ b ∈ as, p b → a = b ∨ r a b := by
  have hleast : ∀ {a}, as.find? p = some a → ∀ b ∈ as, p b → a = b ∨ r a b := by
    intro a hfind b hb hpb
    obtain ⟨-, before, after, rfl, hbefore⟩ := List.find?_eq_some_iff_append.mp hfind
    rcases List.mem_append.mp hb with hb | hb
    · exact absurd hpb (by simpa using hbefore b hb)
    · rcases List.mem_cons.mp hb with rfl | hb
      · exact .inl rfl
      · exact .inr (List.rel_of_pairwise_cons (List.pairwise_append.mp h).2.1 hb)
  constructor
  · intro hfind
    exact ⟨List.mem_of_find?_eq_some hfind, List.find?_some hfind, hleast hfind⟩
  · rintro ⟨ha, hpa, hall⟩
    obtain ⟨b, hfind⟩ := Option.isSome_iff_exists.mp (List.find?_isSome.mpr ⟨a, ha, hpa⟩)
    -- neither of the two comes before the other
    rcases hall b (List.mem_of_find?_eq_some hfind) (List.find?_some hfind) with rfl | hab
    · exact hfind
    · rcases hleast hfind a ha hpa with rfl | hba
      · exact hfind
      · exact absurd hba (hasymm a b hab)

/-- The struct has the identity, and none behind it in the list does. -/
def IsLastWith (ss : List ParsedStruct) (id : StructId) (s : ParsedStruct) : Prop :=
  ∃ earlier later, ss = earlier ++ s :: later ∧ s.decl.id = id ∧ ∀ r ∈ later, r.decl.id ≠ id

namespace StructTable

variable {t : StructTable} {ss : List ParsedStruct} {id : StructId} {s : ParsedStruct}

/-- The table holds, in ascending order and under its own identity, the last struct of each
identity in the list, and nothing else. -/
structure IsTableOf (t : StructTable) (ss : List ParsedStruct) : Prop where
  ascending : t.Pairwise fun a b => a.1.IsBefore b.1
  keys : ∀ e ∈ t, e.1 = e.2.decl.id
  identities : ∀ id, (∃ s, (id, s) ∈ t) ↔ ∃ s ∈ ss, s.decl.id = id
  entries : ∀ id s, (id, s) ∈ t ↔ IsLastWith ss id s

theorem mem_ofList_iff_isLastWith : (id, s) ∈ ofList ss ↔ IsLastWith ss id s := by
  rw [mem_ofList_iff, List.find?_eq_some_iff_append]
  constructor
  · rintro ⟨hid, later, earlier, hsplit, hlater⟩
    refine ⟨earlier.reverse, later.reverse, ?_, eq_of_beq hid, ?_⟩
    · rw [← List.reverse_reverse ss, hsplit]
      simp
    · intro r hr
      simpa using hlater r (List.mem_reverse.mp hr)
  · rintro ⟨earlier, later, rfl, hid, hlater⟩
    refine ⟨beq_iff_eq.mpr hid, later.reverse, earlier.reverse, by simp, ?_⟩
    intro r hr
    simpa using hlater r (List.mem_reverse.mp hr)

theorem IsSorted.pairwise_isBefore (h : t.IsSorted) : t.Pairwise fun a b => a.1.IsBefore b.1 :=
  h.imp StructId.order_eq_lt_iff.mp

theorem isTableOf_ofList (ss : List ParsedStruct) : (ofList ss).IsTableOf ss where
  ascending := (isSorted_ofList ss).pairwise_isBefore
  keys := (isKeyed_ofList ss).keys
  identities id := by
    have hkeys : id ∈ (ofList ss).map Prod.fst ↔ id ∈ ss.map (·.decl.id) := mem_keys_ofList_iff
    simpa using hkeys
  entries _ _ := mem_ofList_iff_isLastWith

end StructTable

namespace ParsedFile

variable {f : ParsedFile} {name : String} {s : ParsedStruct}

/-- Of the structs of a name in the table, this one has the least identity. -/
def IsLeastNamed (t : StructTable) (name : String) (s : ParsedStruct) : Prop :=
  ∃ id, (id, s) ∈ t ∧ s.decl.name = name
    ∧ ∀ e ∈ t, e.2.decl.name = name → id = e.1 ∨ id.IsBefore e.1

theorem get?_eq_map (f : ParsedFile) (name : String) :
    f.get? name = (f.structs.find? fun e => e.2.decl.name == name).map Prod.snd :=
  List.find?_map ..

/-- Under a name the struct of the least identity is found. -/
theorem get?_eq_some_iff (h : f.structs.IsSorted) :
    f.get? name = some s ↔ IsLeastNamed f.structs name s := by
  have hfind : ∀ {e}, f.structs.find? (fun e => e.2.decl.name == name) = some e
      ↔ e ∈ f.structs ∧ e.2.decl.name = name
        ∧ ∀ d ∈ f.structs, d.2.decl.name = name → e = d ∨ e.1.IsBefore d.1 := by
    intro e
    have hiff := find?_eq_some_iff_of_pairwise (p := fun e => e.2.decl.name == name) (a := e)
      h.pairwise_isBefore fun _ _ => StructId.IsBefore.asymm
    simpa only [beq_iff_eq] using hiff
  rw [get?_eq_map, Option.map_eq_some_iff]
  constructor
  · rintro ⟨⟨id, s⟩, he, rfl⟩
    obtain ⟨hmem, hname, hleast⟩ := hfind.mp he
    exact ⟨id, hmem, hname, fun d hd hdname => (hleast d hd hdname).imp_left (congrArg Prod.fst)⟩
  · rintro ⟨id, hmem, hname, hleast⟩
    refine ⟨(id, s), hfind.mpr ⟨hmem, hname, fun d hd hdname => ?_⟩, rfl⟩
    -- what has the same identity is the same entry
    exact (hleast d hd hdname).imp_left (List.inj_on_of_nodup_map h.nodup_keys hmem hd)

theorem get?_eq_none_iff : f.get? name = none ↔ ∀ e ∈ f.structs, e.2.decl.name ≠ name := by
  rw [get?_eq_map, Option.map_eq_none_iff, List.find?_eq_none]
  simp

end ParsedFile

/-! ## Files that are read -/

/-- A file with the package and with some structs, as it is written. -/
def Json.ofFile (p : Package) (ss : List ParsedStruct) : Json :=
  .record [("package", p.toJson), ("structs", .array (ss.map ParsedStruct.toJson))]

/-- The value holds a file with the package and with the structs in this order, whatever else is in
it, and however the package and each struct are written. -/
inductive HoldsFile (p : Package) (ss : List ParsedStruct) : Json → Prop
  /-- The two fields stand under their names. -/
  | object {fields : List (String × Json)} {v : Json} {items : List Json}
      (hpackage : (Json.object fields).field? "package" = some v) (hp : Package.ofJson v = .ok p)
      (hstructs : (Json.object fields).field? "structs" = some (.array items))
      (hss : List.Forall₂ (fun item s => ParsedStruct.ofJson item = .ok s) items ss) :
      HoldsFile p ss (.object fields)
  /-- The two fields stand one after the other. -/
  | array {v : Json} {items : List Json} (hp : Package.ofJson v = .ok p)
      (hss : List.Forall₂ (fun item s => ParsedStruct.ofJson item = .ok s) items ss) :
      HoldsFile p ss (.array [v, .array items])

variable {p : Package} {ss : List ParsedStruct} {j : Json}

/-- A file that is written holds what it is written from. -/
theorem holdsFile_ofFile (p : Package) (ss : List ParsedStruct) :
    HoldsFile p ss (Json.ofFile p ss) := by
  have hpackage : (Json.ofFile p ss).field? "package" = some p.toJson := by
    simp [Json.ofFile, Json.field?_record, Json.field?_cons]
  have hstructs :
      (Json.ofFile p ss).field? "structs" = some (.array (ss.map ParsedStruct.toJson)) := by
    simp [Json.ofFile, Json.field?_record, Json.field?_cons]
  refine .object hpackage p.ofJson_toJson hstructs ?_
  rw [List.forall₂_map_left_iff, List.forall₂_same]
  exact fun s _ => s.ofJson_toJson

/-- A table is read from a list of structs. -/
theorem StructTable.ofJson_eq_ok_iff {t : StructTable} :
    ofJson j = .ok t
      ↔ ∃ ss, (∃ items, j = .array items
        ∧ List.Forall₂ (fun item s => ParsedStruct.ofJson item = .ok s) items ss)
          ∧ ofList ss = t := by
  simp only [ofJson, bind_eq_ok_iff, pure_eq_ok_iff, Json.listOf_eq_ok_iff]

/-- A file is read from what holds a list of structs, and from nothing else; it has the table of
these. -/
theorem ParsedFile.ofJson_eq_ok_iff {f : ParsedFile} :
    ofJson j = .ok f ↔ ∃ ss, HoldsFile f.package ss j ∧ f.structs = .ofList ss := by
  rw [ofJson_iff]
  constructor
  · rintro ⟨r, hr, hfinish, ⟨v, hv, hp⟩, ⟨w, hw, hstructs⟩⟩
    obtain ⟨ss, ⟨items, rfl, hss⟩, hf⟩ := StructTable.ofJson_eq_ok_iff.mp hstructs
    refine ⟨ss, ?_, hf.symm⟩
    cases j with
    | object fields =>
      cases hr
      exact .object hv hp hw hss
    | array parts =>
      cases hr
      -- there are two parts: with fewer a field is missing, and with more the array is too long
      match parts with
      | [] => cases hv
      | [_] => cases hw
      | [_, _] =>
        cases hv
        cases hw
        exact .array hp hss
      | _ :: _ :: _ :: _ => simp [Record.finish] at hfinish
    | _ => cases hr
  · rintro ⟨ss, h, hf⟩
    cases h with
    | object hpackage hp hstructs hss =>
      have htable := StructTable.ofJson_eq_ok_iff.mpr ⟨ss, ⟨_, rfl, hss⟩, hf.symm⟩
      exact ⟨_, rfl, rfl, .of_field? hpackage hp, .of_field? hstructs htable⟩
    | array hp hss =>
      have htable := StructTable.ofJson_eq_ok_iff.mpr ⟨ss, ⟨_, rfl, hss⟩, hf.symm⟩
      exact ⟨_, rfl, rfl, ⟨_, rfl, hp⟩, ⟨_, rfl, htable⟩⟩

/-- For any structs, in any order and with any identities and names: there is a value that holds
them, and from each value that does a file is read.  In it stands, in ascending order, the last
struct of each identity; and under a name it has the struct of the least identity, if there is
one. -/
theorem read_tables_are_normal (p : Package) (ss : List ParsedStruct) :
    HoldsFile p ss (Json.ofFile p ss)
      ∧ ∀ j, HoldsFile p ss j → ∃ f, ParsedFile.ofJson j = .ok f ∧ f.package = p
        ∧ f.structs.IsTableOf ss
        ∧ ∀ name, (∀ s, f.get? name = some s ↔ ParsedFile.IsLeastNamed f.structs name s)
          ∧ (f.get? name = none ↔ ∀ e ∈ f.structs, e.2.decl.name ≠ name) := by
  refine ⟨holdsFile_ofFile p ss, fun j hj => ?_⟩
  have hread : ParsedFile.ofJson j = .ok ⟨p, .ofList ss⟩ :=
    ParsedFile.ofJson_eq_ok_iff.mpr ⟨ss, hj, rfl⟩
  refine ⟨⟨p, .ofList ss⟩, hread, rfl, StructTable.isTableOf_ofList ss, ?_⟩
  intro name
  exact ⟨fun s => ParsedFile.get?_eq_some_iff (StructTable.isSorted_ofList ss),
    ParsedFile.get?_eq_none_iff⟩

/-- A struct without fields, with an identity and a name of its own. -/
def structWith (id : StructId) (name : String) (doc : List String) : ParsedStruct :=
  ⟨⟨id, name, doc, none, ⟨"a.go", id.line, id.column, id.line, id.column⟩⟩, []⟩

/-- Structs in no order.  Of those at line 3 two have one identity, and the third has a name that is
greater in UTF-8, though not in UTF-16. -/
def shuffled : List ParsedStruct :=
  [structWith ⟨3, 6, "😀"⟩ "A" [], structWith ⟨3, 6, "～"⟩ "B" ["old"], structWith ⟨5, 1, "A"⟩ "A" [],
   structWith ⟨3, 6, "～"⟩ "A" ["new"], structWith ⟨1, 6, "A"⟩ "C" []]

theorem read_tables_are_normal_shuffled :
    ∃ f, ParsedFile.ofJson (Json.ofFile ⟨"p", "m/p"⟩ shuffled) = .ok f
      ∧ f.structs.IsTableOf shuffled
      ∧ f.get? "A" = some (structWith ⟨3, 6, "～"⟩ "A" ["new"]) := by
  obtain ⟨hholds, hread⟩ := read_tables_are_normal ⟨"p", "m/p"⟩ shuffled
  obtain ⟨f, hf, -, htable, hget⟩ := hread _ hholds
  refine ⟨f, hf, htable, ((hget "A").1 _).mpr ⟨⟨3, 6, "～"⟩, ?_, rfl, ?_⟩⟩
  · -- the new one is the last of its identity
    exact (htable.entries _ _).mpr ⟨shuffled.take 3, shuffled.drop 4, rfl, rfl, by decide +kernel⟩
  · -- of all the structs of the name, none has a lesser identity
    have hleast : ∀ s ∈ shuffled, s.decl.name = "A" →
        ⟨3, 6, "～"⟩ = s.decl.id ∨ StructId.order ⟨3, 6, "～"⟩ s.decl.id = .lt := by
      decide +kernel
    intro e he hname
    obtain ⟨earlier, later, hsplit, -, -⟩ := (htable.entries _ _).mp he
    have hmem : e.2 ∈ shuffled := hsplit ▸ List.mem_append_right _ List.mem_cons_self
    rw [htable.keys e he]
    exact (hleast e.2 hmem hname).imp_right StructId.order_eq_lt_iff.mp

end GoStructs
