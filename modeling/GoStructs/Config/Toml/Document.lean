import GoStructs.Config.Toml.Scalar
import GoStructs.Config.Toml.Table
import GoStructs.Config.Toml.Text
/-! # TOML documents

A document is a list of lines that give values to keys, and of headers that say in which table the
lines behind them are.  A text with a single fault is no document at all. -/

namespace GoStructs.Toml

/-! ## Values -/

mutual
/-- A value that lies inside so many others. -/
def value : Nat → Nat → List Char → Option (Setting × List Char)
  | 0, _, _ => none
  | fuel + 1, depth, s =>
    match s with
    | [] => none
    | c :: rest =>
      if c = '"' ∨ c = '\'' then (string? (c :: rest)).map fun (t, rest) => (.text t, rest)
      else if c = '[' then
        if depth + 1 < depthLimit then items fuel (depth + 1) rest else none
      else if c = '\x7b' then
        if depth + 1 < depthLimit then
          match rest.dropWhile isSpace with
          | '\x7d' :: rest => some (.table [], rest)
          | rest => pairs fuel (depth + 1) [] rest
        else none
      else (scalar? (c :: rest)).map fun rest => (.other, rest)

/-- The items of an array from one of them on, up to the bracket that closes it.  A comma may stand
behind the last item. -/
def items : Nat → Nat → List Char → Option (Setting × List Char)
  | 0, _, _ => none
  | fuel + 1, depth, s =>
    match skipLines s.length s with
    | none => none
    | some (']' :: rest) => some (.other, rest)
    | some s =>
      match value fuel depth s with
      | none => none
      | some (_, s) =>
        match skipLines s.length s with
        | some (']' :: rest) => some (.other, rest)
        | some (',' :: rest) => items fuel depth rest
        | _ => none

/-- The entries of a table on one line from one of them on, up to the brace that closes it. -/
def pairs : Nat → Nat → Entries → List Char → Option (Setting × List Char)
  | 0, _, _, _ => none
  | fuel + 1, depth, es, s =>
    match key? s with
    | some (key, '=' :: rest) =>
      match value fuel depth (rest.dropWhile isSpace) with
      | none => none
      | some (v, s) =>
        match es.assign key v with
        | none => none
        | some es =>
          match s.dropWhile isSpace with
          | ',' :: rest => pairs fuel depth es rest
          | '\x7d' :: rest => some (.table (entrySettings es), rest)
          | _ => none
    | _ => none
end

/-- A key with its value, and the text behind the end of the line. -/
def entry? (s : List Char) : Option (List String × Setting × List Char) :=
  match key? s with
  | some (key, '=' :: rest) =>
    match value (2 * s.length) 0 (rest.dropWhile isSpace) with
    | some (v, rest) => (lineEnd? rest).map fun rest => (key, v, rest)
    | none => none
  | _ => none

/-- The path of a header behind its opening brackets, and the text behind the end of the line. -/
def header? (closing s : List Char) : Option (List String × List Char) :=
  match key? s with
  | some (path, rest) =>
    ((Text.dropStart? closing rest).bind lineEnd?).map fun rest => (path, rest)
  | none => none

/-! ## Documents -/

/-- Reads the lines of a document; `path` is that of the last header. -/
def lines : Nat → List String → Entries → List Char → Option Entries
  | 0, _, _, _ => none
  | fuel + 1, path, es, s =>
    match s.dropWhile isSpace with
    | [] => some es
    | '#' :: rest => (lineEnd? ('#' :: rest)).bind (lines fuel path es)
    | '[' :: '[' :: rest =>
      match header? [']', ']'] rest with
      | some (path, rest) => (es.openNext path).bind fun es => lines fuel path es rest
      | none => none
    | '[' :: rest =>
      match header? [']'] rest with
      | some (path, rest) => (es.openTable path).bind fun es => lines fuel path es rest
      | none => none
    | c :: rest =>
      if c = '\n' ∨ c = '\r' then (newline? (c :: rest)).bind (lines fuel path es)
      else
        match entry? (c :: rest) with
        | some (key, v, rest) => (es.assignAt path key v).bind fun es => lines fuel path es rest
        | none => none

/-- The text without the byte order mark that it may begin with. -/
def withoutMark (s : List Char) : List Char :=
  match s with
  | '\ufeff' :: rest => rest
  | _ => s

/-- The settings of a document. -/
def document? (text : List Char) : Option (List (String × Setting)) :=
  (lines (text.length + 1) [] [] (withoutMark text)).map entrySettings

end GoStructs.Toml
