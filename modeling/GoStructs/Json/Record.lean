import GoStructs.Json.Printer
import GoStructs.Text.Quoted
/-! # Reading records from JSON values

A record is written as an object, or as an array of its fields in the order of their declaration.
Reading one goes through the fields that are there, those of an object in ascending order of their
names, and stops at the first that cannot be read.  Only after that is a field found to be missing,
and only at the very end that an array is too long.  Fields that the record does not have are
passed over. -/

namespace GoStructs

/-- Why a JSON value is none of those asked for. -/
inductive DecodeError where
  /-- The value is of another type. -/
  | wrongType (found : Json) (expected : String)
  /-- The value is of the right type and out of its range. -/
  | outOfRange (n : Int) (expected : String)
  /-- A field is not there. -/
  | missingField (name : String)
  /-- An array ends before the field at an index. -/
  | tooShort (index : Nat) (record : String) (size : Nat)
  /-- An array has more items than the record has fields. -/
  | tooLong (length : Nat)
  deriving Repr, Inhabited

/-- A value as it is called in an error. -/
def Json.described : Json → String
  | .null => "null"
  | .boolean b => "boolean `" ++ (if b then "true" else "false") ++ "`"
  | .integer n => "integer `" ++ toString n ++ "`"
  | .float x => "floating point `" ++ Json.floatText x ++ "`"
  | .string s => "string " ++ Text.quote .double s
  | .array _ => "sequence"
  | .object _ => "map"

/-- The error in words. -/
def DecodeError.message : DecodeError → String
  | wrongType found expected => "invalid type: " ++ found.described ++ ", expected " ++ expected
  | outOfRange n expected =>
    "invalid value: " ++ (Json.integer n).described ++ ", expected " ++ expected
  | missingField name => "missing field `" ++ name ++ "`"
  | tooShort index record size =>
    "invalid length " ++ toString index ++ ", expected struct " ++ record ++ " with "
      ++ toString size ++ " elements"
  | tooLong length =>
    "invalid length " ++ toString length ++ ", expected fewer elements in array"

/-- What comes of reading a value. -/
abbrev Decoded (α : Type) := Except DecodeError α

namespace Json

/-! ## Plain values -/

/-- A text. -/
def text (j : Json) : Decoded String :=
  match j with
  | .string s => .ok s
  | j => .error (.wrongType j "a string")

/-- The text of a path. -/
def pathText (j : Json) : Decoded String :=
  match j with
  | .string s => .ok s
  | j => .error (.wrongType j "path string")

/-- A number of 32 bits. -/
def word (j : Json) : Decoded UInt32 :=
  match j with
  | .integer n =>
    if 0 ≤ n ∧ n < 0x100000000 then .ok n.toNat.toUInt32 else .error (.outOfRange n "u32")
  | j => .error (.wrongType j "u32")

/-- A value that may be null instead. -/
def orNull {α : Type} (read : Json → Decoded α) (j : Json) : Decoded (Option α) :=
  match j with
  | .null => .ok none
  | j => (read j).map some

/-- Values in order. -/
def listOf {α : Type} (read : Json → Decoded α) (j : Json) : Decoded (List α) :=
  match j with
  | .array items => items.mapM read
  | j => .error (.wrongType j "a sequence")

end Json

/-! ## Records -/

/-- A record as it is found in a JSON value. -/
structure Record where
  /-- What the record is called. -/
  name : String
  /-- The names of its fields, as they are declared. -/
  declared : List String
  /-- The fields that are there, in the order in which they are visited. -/
  found : List (String × Json)
  /-- The number of items, if the record is written as an array. -/
  length? : Option Nat

/-- What has become of one field of a record. -/
inductive Slot (α : Type) where
  | absent (name : String)
  | bad (place : Nat) (error : DecodeError)
  | good (value : α)

namespace Record

/-- The record in a JSON value. -/
def ofJson (name : String) (declared : List String) (j : Json) : Decoded Record :=
  match j with
  | .object fields => .ok ⟨name, declared, fields, none⟩
  | .array items => .ok ⟨name, declared, declared.zip items, some items.length⟩
  | j => .error (.wrongType j ("struct " ++ name))

/-- One field, read. -/
def slot {α : Type} (r : Record) (name : String) (read : Json → Decoded α) : Slot α :=
  match r.found.find? fun f => f.1 == name with
  | none => .absent name
  | some (_, v) =>
    match read v with
    | .ok a => .good a
    | .error e => .bad (r.found.findIdx fun f => f.1 == name) e

/-- The fault of a field that cannot be read, and where in the record it is. -/
def fault? {α : Type} : Slot α → Option (Nat × DecodeError)
  | .bad place e => some (place, e)
  | _ => none

/-- Of some faults the one that is met first. -/
def firstFault? (faults : List (Option (Nat × DecodeError))) : Option DecodeError :=
  ((faults.filterMap id).foldl
    (fun best f => match best with
      | none => some f
      | some b => if f.1 < b.1 then some f else some b)
    none).map Prod.snd

/-- Fails with the first of some faults, if there are any. -/
def refuse (faults : List (Option (Nat × DecodeError))) : Decoded Unit :=
  match firstFault? faults with
  | some e => .error e
  | none => .ok ()

/-- The error for a field that is not there. -/
def missing (r : Record) (name : String) : DecodeError :=
  match r.length? with
  | none => .missingField name
  | some _ => .tooShort (r.declared.findIdx (· == name)) r.name r.declared.length

/-- A field that has to be there. -/
def required {α : Type} (r : Record) (s : Slot α) : Decoded α :=
  match s with
  | .good a => .ok a
  | .absent name => .error (r.missing name)
  | .bad _ e => .error e

/-- A field that may be missing. -/
def optional {α : Type} (s : Slot α) (default : α) : Decoded α :=
  match s with
  | .good a => .ok a
  | .absent _ => .ok default
  | .bad _ e => .error e

/-- Fails if the record is written as an array and has more items than fields. -/
def finish (r : Record) : Decoded Unit :=
  match r.length? with
  | some n => if r.declared.length < n then .error (.tooLong n) else .ok ()
  | none => .ok ()

end Record

end GoStructs
