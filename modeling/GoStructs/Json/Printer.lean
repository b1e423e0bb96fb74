import GoStructs.Decimal.Shortest
import GoStructs.Json.Value
/-! # Writing JSON texts

A JSON value is written on one line and without white space.  Floating-point numbers are written by
their shortest decimal text. -/

namespace GoStructs.Json

/-- Numbers from `0.00001` on and below `10 ^ 16` are written without an exponent. -/
def numberStyle : Decimal.Style := ⟨-5, 16⟩

/-- The text of a floating-point number. -/
def floatText (x : Binary64) : String := numberStyle.text x

/-- A hexadecimal digit. -/
def hexDigit (n : Nat) : Char := if n < 10 then Char.ofNat (48 + n) else Char.ofNat (87 + n)

/-- A character as it stands in a string. -/
def escaped (c : Char) : List Char :=
  if c = '"' then ['\\', '"']
  else if c = '\\' then ['\\', '\\']
  else if c < ' ' then ['\\', 'u', '0', '0', hexDigit (c.toNat / 16), hexDigit (c.toNat % 16)]
  else [c]

/-- A string between quotation marks. -/
def stringText (s : String) : String := String.ofList ('"' :: s.toList.flatMap escaped ++ ['"'])

mutual
/-- The text of a value. -/
def render : Json → String
  | .null => "null"
  | .boolean b => if b then "true" else "false"
  | .integer n => toString n
  | .float x => floatText x
  | .string s => stringText s
  | .array [] => "[]"
  | .array (v :: vs) => "[" ++ render v ++ renderItems vs ++ "]"
  | .object [] => "\x7b\x7d"
  | .object ((k, v) :: fs) => "\x7b" ++ stringText k ++ ":" ++ render v ++ renderFields fs ++ "\x7d"

/-- The items of an array behind the first. -/
def renderItems : List Json → String
  | [] => ""
  | v :: vs => "," ++ render v ++ renderItems vs

/-- The fields of an object behind the first. -/
def renderFields : List (String × Json) → String
  | [] => ""
  | (k, v) :: fs => "," ++ stringText k ++ ":" ++ render v ++ renderFields fs
end

end GoStructs.Json
