import GoStructs.Json.Record
import Mathlib.Data.List.Forall2
/-! # Records in JSON values

What is read from a record is told field by field: a field that has to be there is read from the
value that stands under its name, and one that may be missing has its default if there is no such
value.  In a record that is written, the value of a field is the last that was given under its name,
wherever the order of the names puts it.

## Main statements

* `Record.required_slot_iff`, `Record.optional_slot_iff`: what is read from one field.
* `Record.refuse_iff`: nothing is refused if no field is at fault.
* `Json.field?_record`: the fields of a record that is written. -/

namespace GoStructs

variable {α β : Type}

/-- A step of reading succeeds if its parts do. -/
theorem Decoded.bind_eq_ok_iff {d : Decoded α} {f : α → Decoded β} {b : β} :
    d >>= f = .ok b ↔ ∃ a, d = .ok a ∧ f a = .ok b := by
  cases d with
  | error e =>
    have hbind : (Except.error e : Decoded α) >>= f = .error e := rfl
    simp [hbind]
  | ok a =>
    have hbind : (Except.ok a : Decoded α) >>= f = f a := rfl
    simp [hbind]

theorem Decoded.pure_eq_ok_iff {a b : α} : (pure a : Decoded α) = .ok b ↔ a = b :=
  ⟨fun h => Except.ok.inj h, fun h => congrArg Except.ok h⟩

/-- The fields of an object but for those of one name. -/
def Json.without (name : String) (fields : List (String × Json)) : List (String × Json) :=
  fields.filter fun f => f.1 != name

theorem Json.field?_without_self (name : String) (fields : List (String × Json)) :
    (object (without name fields)).field? name = none := by
  simp [field?, without, List.find?_filter]

theorem Json.field?_without {name key : String} (h : key ≠ name) (fields : List (String × Json)) :
    (object (without name fields)).field? key = (object fields).field? key := by
  simp only [field?, without, List.find?_filter]
  congr 2
  funext f
  by_cases hf : f.1 = key
  · simp [hf, h]
  · simp [hf]

namespace Record

variable {r : Record} {name : String} {read : Json → Decoded α} {a default : α}

/-- The value that stands under a name. -/
def field? (r : Record) (name : String) : Option Json :=
  (r.found.find? fun f => f.1 == name).map Prod.snd

/-- A value stands under the name and can be read. -/
def Gives (r : Record) (name : String) (read : Json → Decoded α) (a : α) : Prop :=
  ∃ v, r.field? name = some v ∧ read v = .ok a

/-- A value stands under the name and can be read, or there is none and the default counts. -/
def GivesOr (r : Record) (name : String) (read : Json → Decoded α) (default a : α) : Prop :=
  r.Gives name read a ∨ r.field? name = none ∧ a = default

/-- What becomes of a field depends on the value under its name alone. -/
theorem slot_cases (r : Record) (name : String) (read : Json → Decoded α) :
    r.field? name = none ∧ r.slot name read = .absent name
      ∨ (∃ v a, r.field? name = some v ∧ read v = .ok a ∧ r.slot name read = .good a)
      ∨ ∃ v place e, r.field? name = some v ∧ read v = .error e
        ∧ r.slot name read = .bad place e := by
  unfold field? slot
  cases r.found.find? fun f => f.1 == name with
  | none => exact .inl ⟨rfl, rfl⟩
  | some f =>
    cases hread : read f.2 with
    | ok a => exact .inr (.inl ⟨f.2, a, rfl, hread, by simp only [hread]⟩)
    | error e => exact .inr (.inr ⟨f.2, _, e, rfl, hread, by simp only [hread]; rfl⟩)

/-- A field that has to be there is read from the value under its name. -/
theorem required_slot_iff : r.required (r.slot name read) = .ok a ↔ r.Gives name read a := by
  unfold Gives
  obtain ⟨hnone, hslot⟩ | ⟨v, b, hv, hread, hslot⟩ | ⟨v, place, e, hv, hread, hslot⟩ :=
    slot_cases r name read
  · simp [hslot, hnone, required]
  · simp [hslot, hv, hread, required]
  · simp [hslot, hv, hread, required]

/-- A field that may be missing has its default then. -/
theorem optional_slot_iff :
    optional (r.slot name read) default = .ok a ↔ r.GivesOr name read default a := by
  unfold GivesOr Gives
  obtain ⟨hnone, hslot⟩ | ⟨v, b, hv, hread, hslot⟩ | ⟨v, place, e, hv, hread, hslot⟩ :=
    slot_cases r name read
  · simp [hslot, hnone, optional, eq_comm]
  · simp [hslot, hv, hread, optional]
  · simp [hslot, hv, hread, optional]

theorem fault?_of_gives (h : r.Gives name read a) : fault? (r.slot name read) = none := by
  obtain ⟨v, hv, hread⟩ := h
  obtain ⟨hnone, hslot⟩ | ⟨-, b, -, -, hslot⟩ | ⟨v', place, e, hv', hread', hslot⟩ :=
    slot_cases r name read
  · rw [hslot]
    rfl
  · rw [hslot]
    rfl
  · obtain rfl : v = v' := Option.some.inj (hv.symm.trans hv')
    rw [hread] at hread'
    cases hread'

theorem fault?_of_givesOr (h : r.GivesOr name read default a) :
    fault? (r.slot name read) = none := by
  rcases h with hgives | ⟨hnone, -⟩
  · exact fault?_of_gives hgives
  · obtain ⟨-, hslot⟩ | ⟨v, -, hv, -⟩ | ⟨v, -, -, hv, -⟩ := slot_cases r name read
    · rw [hslot]
      rfl
    · rw [hnone] at hv
      cases hv
    · rw [hnone] at hv
      cases hv

/-- What is found at each item is found at the end. -/
theorem foldl_ne_none {step : Option β → α → Option β} (h : ∀ b a, step b a ≠ none) (a : α)
    (as : List α) (b : Option β) : (a :: as).foldl step b ≠ none := by
  induction as generalizing a b with
  | nil => exact h b a
  | cons a' as ih => exact ih a' (step b a)

/-- Nothing is refused if no field is at fault. -/
theorem refuse_iff {faults : List (Option (Nat × DecodeError))} :
    refuse faults = .ok () ↔ ∀ f ∈ faults, f = none := by
  have hfirst : firstFault? faults = none ↔ faults.filterMap id = [] := by
    rw [firstFault?, Option.map_eq_none_iff]
    cases faults.filterMap id with
    | nil => simp
    | cons f fs =>
      refine iff_of_false (foldl_ne_none (fun b f => ?_) f fs none) (List.cons_ne_nil f fs)
      cases b with
      | none => exact Option.some_ne_none f
      | some b =>
        dsimp only
        split
        · exact Option.some_ne_none f
        · exact Option.some_ne_none b
  have hall : faults.filterMap id = [] ↔ ∀ f ∈ faults, f = none := by
    simp [List.filterMap_eq_nil_iff]
  rw [← hall, ← hfirst, refuse]
  cases firstFault? faults <;> simp

/-! ## Objects -/

section

variable {key : String} {declared : List String} {fields : List (String × Json)}
  {record : String}

/-- In an object, a field is read from what stands under its name. -/
theorem Gives.of_field? {v : Json} (h : (Json.object fields).field? name = some v)
    (hread : read v = .ok a) : Gives ⟨record, declared, fields, none⟩ name read a :=
  ⟨v, h, hread⟩

theorem Gives.field?_ne_none (h : Gives ⟨record, declared, fields, none⟩ name read a) :
    (Json.object fields).field? name ≠ none := by
  obtain ⟨v, hv, -⟩ := h
  exact fun hnone => by cases hnone.symm.trans hv

/-- A field that is left out if it has its default is read back. -/
theorem givesOr_of_ite {p : Prop} [Decidable p] {v : Json}
    (h : (Json.object fields).field? name = if p then none else some v) (hnone : p → a = default)
    (hsome : ¬p → read v = .ok a) :
    GivesOr ⟨record, declared, fields, none⟩ name read default a := by
  by_cases hp : p
  · rw [if_pos hp] at h
    exact .inr ⟨h, hnone hp⟩
  · rw [if_neg hp] at h
    exact .inl (.of_field? h (hsome hp))

/-- A text that is left out if there is none is read back. -/
theorem givesOr_of_map {s : Option String}
    (h : (Json.object fields).field? name = s.map .string) :
    GivesOr ⟨record, declared, fields, none⟩ name (Json.orNull Json.text) none s := by
  cases s with
  | none => exact .inr ⟨h, rfl⟩
  | some s => exact .inl (.of_field? h rfl)

/-- The other fields are read as before. -/
theorem Gives.without (h : Gives ⟨record, declared, fields, none⟩ key read a) (hne : key ≠ name) :
    Gives ⟨record, declared, Json.without name fields, none⟩ key read a := by
  obtain ⟨v, hv, hread⟩ := h
  exact ⟨v, (Json.field?_without hne fields).trans hv, hread⟩

theorem GivesOr.without (h : GivesOr ⟨record, declared, fields, none⟩ key read default a)
    (hne : key ≠ name) :
    GivesOr ⟨record, declared, Json.without name fields, none⟩ key read default a := by
  rcases h with hgives | ⟨hnone, ha⟩
  · exact .inl (hgives.without hne)
  · exact .inr ⟨(Json.field?_without hne fields).trans hnone, ha⟩

/-- The field that is taken away has its default. -/
theorem givesOr_without :
    GivesOr ⟨record, declared, Json.without name fields, none⟩ name read default default :=
  .inr ⟨Json.field?_without_self name fields, rfl⟩

end

end Record

namespace Json

/-! ## Values -/

theorem word_ofWord (n : UInt32) : word (.integer n.toNat) = .ok n := by
  have hlt : (n.toNat : Int) < 0x100000000 := by
    have := n.toNat_lt
    omega
  rw [word, if_pos ⟨by omega, hlt⟩, Int.toNat_natCast, Nat.toUInt32_eq, UInt32.ofNat_toNat]

/-- A list is read from an array, item by item. -/
theorem listOf_eq_ok_iff {read : Json → Decoded α} {j : Json} {as : List α} :
    listOf read j = .ok as
      ↔ ∃ items, j = .array items ∧ List.Forall₂ (fun item a => read item = .ok a) items as := by
  have hitems : ∀ items, items.mapM read = .ok as
      ↔ List.Forall₂ (fun item a => read item = .ok a) items as := by
    intro items
    induction items generalizing as with
    | nil => rw [List.mapM_nil, Decoded.pure_eq_ok_iff, List.forall₂_nil_left_iff, eq_comm]
    | cons item items ih =>
      simp only [List.mapM_cons, Decoded.bind_eq_ok_iff, Decoded.pure_eq_ok_iff, ih,
        List.forall₂_cons_left_iff]
      constructor
      · rintro ⟨a, ha, as, has, rfl⟩
        exact ⟨a, as, ha, has, rfl⟩
      · rintro ⟨a, as, ha, has, rfl⟩
        exact ⟨a, ha, as, has, rfl⟩
  cases j with
  | array items => simp only [listOf, hitems, array.injEq, exists_eq_left']
  | _ => simp [listOf]

/-- A list is read back if each of its items is. -/
theorem listOf_array {write : α → Json} {read : Json → Decoded α} {as : List α}
    (h : ∀ a ∈ as, read (write a) = .ok a) : listOf read (.array (as.map write)) = .ok as := by
  refine listOf_eq_ok_iff.mpr ⟨_, rfl, ?_⟩
  rwa [List.forall₂_map_left_iff, List.forall₂_same]

/-! ## Fields -/

variable {name key : String} {v : Json} {fields : List (String × Json)}

theorem field?_nil (name : String) : (object []).field? name = none := rfl

theorem field?_cons (key : String) (v : Json) (fields : List (String × Json)) (name : String) :
    (object ((key, v) :: fields)).field? name
      = if key = name then some v else (object fields).field? name := by
  unfold field?
  by_cases h : key = name
  · simp [h]
  · simp [h]

theorem field?_append (fields more : List (String × Json)) (name : String) :
    (object (fields ++ more)).field? name
      = ((object fields).field? name).or ((object more).field? name) := by
  simp only [field?, List.find?_append, Option.map_or]

theorem field?_insertField (key : String) (v : Json) (fields : List (String × Json))
    (name : String) :
    (object (insertField key v fields)).field? name
      = if key = name then some v else (object fields).field? name := by
  induction fields with
  | nil => rw [insertField, field?_cons]
  | cons f fields ih =>
    obtain ⟨k, u⟩ := f
    unfold insertField
    split
    · rw [field?_cons]
    · split
      · next heq =>
        subst heq
        rw [field?_cons, field?_cons]
        split <;> rfl
      · next hne =>
        rw [field?_cons, ih, field?_cons]
        by_cases hk : k = name
        · rw [if_pos hk, if_pos hk, if_neg fun h => hne (h.trans hk.symm)]
        · rw [if_neg hk, if_neg hk]

/-- Of several values under one name, the last is written. -/
theorem field?_record (fields : List (String × Json)) (name : String) :
    (record fields).field? name = (object fields.reverse).field? name := by
  have hfoldl : ∀ done,
      (object (fields.foldl (fun fs f => insertField f.1 f.2 fs) done)).field? name
      = ((object fields.reverse).field? name).or ((object done).field? name) := by
    induction fields with
    | nil => intro done; rfl
    | cons f fields ih =>
      intro done
      rw [List.foldl_cons, ih, field?_insertField, List.reverse_cons, field?_append,
        Option.or_assoc, field?_cons]
      split <;> rfl
  rw [record, hfoldl]
  exact Option.or_none

/-! ## Fields that are left out -/

section

variable (write : α → Json) (read : Json → Decoded α)

/-- A field is left out exactly if it has its default, and where it is not there it has its
default; `reset` gives it that. -/
structure LeavesOut (name : String) (reset : α → α) : Prop where
  written : ∀ a, (write a).field? name = none ↔ reset a = a
  restored : ∀ fields a, read (.object fields) = .ok a →
    read (.object (without name fields)) = .ok (reset a)

/-- Some fields are always written, and have to be there for an object to be read. -/
structure AlwaysHas (names : List String) : Prop where
  written : ∀ a, ∀ name ∈ names, (write a).field? name ≠ none
  needed : ∀ fields a, read (.object fields) = .ok a →
    ∀ name ∈ names, (object fields).field? name ≠ none

end

end Json

end GoStructs
