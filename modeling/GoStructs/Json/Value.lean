import GoStructs.Decimal.Binary
/-! # JSON values

A JSON value.  Whole numbers that fit into 64 bits are kept apart from all other numbers, and the
fields of an object are kept in ascending order of their names, one of each name. -/

namespace GoStructs

/-- A JSON value. -/
inductive Json where
  | null
  | boolean (b : Bool)
  | integer (n : Int)
  | float (x : Binary64)
  | string (s : String)
  | array (items : List Json)
  | object (fields : List (String × Json))
  deriving Repr, Inhabited

namespace Json

/-- Puts a field in its place; one of the same name is replaced. -/
def insertField (name : String) (v : Json) : List (String × Json) → List (String × Json)
  | [] => [(name, v)]
  | (k, u) :: rest =>
    if name < k then (name, v) :: (k, u) :: rest
    else if name = k then (name, v) :: rest
    else (k, u) :: insertField name v rest

/-- The object with the given fields; of several with one name the last counts. -/
def record (fields : List (String × Json)) : Json :=
  .object (fields.foldl (fun fs f => insertField f.1 f.2 fs) [])

/-- The field of an object; anything that is no object has none. -/
def field? (j : Json) (name : String) : Option Json :=
  match j with
  | .object fields => (fields.find? fun f => f.1 == name).map Prod.snd
  | _ => none

/-- The text, or null if there is none. -/
def ofText? (s : Option String) : Json :=
  match s with
  | some s => .string s
  | none => .null

/-- Some texts as an array. -/
def ofTexts (ss : List String) : Json := .array (ss.map .string)

end Json

end GoStructs
