/-! # Settings

What a configuration file or a variable of the environment says, before it is known what is asked
for.  Only texts can be of use, and tables group settings under a name; of any other value just the
fact that there is one is kept. -/

namespace GoStructs

/-- The value that is given to a name. -/
inductive Setting where
  | text (s : String)
  | table (entries : List (String × Setting))
  | other
  deriving Repr, Inhabited

namespace Setting

/-- The value of a name. -/
def lookUp (entries : List (String × Setting)) (name : String) : Option Setting :=
  (entries.find? fun e => e.1 == name).map Prod.snd

mutual
/-- A value with a later one laid over it.  Tables are laid over each other entry by entry; any
other value hides the earlier one. -/
def overlay (earlier : Setting) : Setting → Setting
  | .table later =>
    match earlier with
    | .table es => .table (overlayAll es later)
    | _ => .table later
  | later => later

/-- Entries with later ones laid over them. -/
def overlayAll (es : List (String × Setting)) :
    List (String × Setting) → List (String × Setting)
  | [] => es
  | (name, later) :: rest =>
    overlayAll
      (match lookUp es name with
        | none => es ++ [(name, later)]
        | some earlier =>
          es.map fun e => if e.1 == name then (name, overlay earlier later) else e)
      rest
end

end Setting

end GoStructs
