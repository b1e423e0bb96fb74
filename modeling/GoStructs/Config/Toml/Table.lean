import GoStructs.Config.Setting
/-! # Tables of a TOML document

The tables of a document are built up line by line.  A table is opened by a header of its own, by
the header of a table inside it, or by a key with dots; what may be added to a table later depends
on which of these it was. -/

namespace GoStructs.Toml

/-- How a table was opened. -/
inductive Origin where
  /-- By its own header. -/
  | header
  /-- By the header of a table inside it. -/
  | inner
  /-- By a key with dots. -/
  | dots
  deriving DecidableEq, Repr

/-- What a name stands for while a document is read. -/
inductive Node where
  /-- A value, to which nothing can be added. -/
  | value (v : Setting)
  /-- A table that is still open. -/
  | table (origin : Origin) (entries : List (String × Node))
  /-- A series of tables under one name, of which the last is still open. -/
  | series (last : List (String × Node))

/-- The entries of a table that is still open. -/
abbrev Entries := List (String × Node)

mutual
/-- The setting that a node comes to. -/
def Node.setting : Node → Setting
  | .value v => v
  | .table _ es => .table (entrySettings es)
  | .series _ => .other

/-- The settings that entries come to. -/
def entrySettings : List (String × Node) → List (String × Setting)
  | [] => []
  | (name, n) :: rest => (name, n.setting) :: entrySettings rest
end

namespace Entries

/-- The node of a name. -/
def lookUp (es : Entries) (name : String) : Option Node :=
  (es.find? fun e => e.1 == name).map Prod.snd

/-- Gives a name that is there another node. -/
def replace (es : Entries) (name : String) (n : Node) : Entries :=
  es.map fun e => if e.1 == name then (name, n) else e

/-- Changes the table at the end of a path, opening those on the way that are not there.  A key with
dots must not lead into a table that has a header. -/
def change (dotted : Bool) (f : Origin → Entries → Option Entries) :
    List String → Origin → Entries → Option Entries
  | [], origin, es => f origin es
  | name :: path, _, es =>
    match es.lookUp name with
    | none =>
      let origin := if dotted then .dots else .inner
      (change dotted f path origin []).map fun inside => es ++ [(name, .table origin inside)]
    | some (.value _) => none
    | some (.series last) =>
      (change dotted f path .header last).map fun inside => es.replace name (.series inside)
    | some (.table origin inside) =>
      if dotted ∧ origin = .header then none
      else
        (change dotted f path origin inside).map fun inside =>
          es.replace name (.table origin inside)

/-- Gives a key its value in a table whose origin is `.header`.  Every name gets one value, and a
key with dots adds only to tables that were opened by such keys. -/
def assign (key : List String) (v : Setting) (es : Entries) : Option Entries :=
  match key.getLast? with
  | none => none
  | some name =>
    change true
      (fun origin inside =>
        if (1 < key.length ∧ origin ≠ .dots) ∨ (inside.lookUp name).isSome then none
        else some (inside ++ [(name, .value v)]))
      key.dropLast .header es

/-- Gives a key its value in the table at the end of a path. -/
def assignAt (path key : List String) (v : Setting) (es : Entries) : Option Entries :=
  change false (fun _ inside => inside.assign key v) path .header es

/-- Opens the table at the end of a path by its header. -/
def openTable (path : List String) (es : Entries) : Option Entries :=
  match path.getLast? with
  | none => none
  | some name =>
    change false
      (fun _ inside =>
        match inside.lookUp name with
        | none => some (inside ++ [(name, .table .header [])])
        | some (.table .inner old) => some (inside.replace name (.table .header old))
        | some _ => none)
      path.dropLast .header es

/-- Opens a further table of the series at the end of a path. -/
def openNext (path : List String) (es : Entries) : Option Entries :=
  match path.getLast? with
  | none => none
  | some name =>
    change false
      (fun _ inside =>
        match inside.lookUp name with
        | none => some (inside ++ [(name, .series [])])
        | some (.series _) => some (inside.replace name (.series []))
        | some _ => none)
      path.dropLast .header es

end Entries

end GoStructs.Toml
