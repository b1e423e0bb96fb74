import GoStructs.Source.Position
/-! # Locations

A location names a piece of a file for a reader: the file's path as it was given, and where the
piece begins and ends.  Lines and columns count from one, columns in bytes, and the end is the
place behind the last character.  All four are 32-bit numbers. -/

namespace GoStructs

/-- A piece of a file. -/
structure Location where
  file : String
  line : UInt32
  column : UInt32
  endLine : UInt32
  endColumn : UInt32
  deriving DecidableEq, Repr, Inhabited

namespace Location

/-- The empty piece at a line and column. -/
def point (file : String) (line column : UInt32) : Location :=
  ⟨file, line, column, line, column⟩

/-- The piece between two positions of a file. -/
def between (file : String) (start stop : Position) : Location :=
  ⟨file, (start.row + 1).toUInt32, (start.column + 1).toUInt32,
   (stop.row + 1).toUInt32, (stop.column + 1).toUInt32⟩

/-- The location as a reader finds it: file, line and column of its beginning. -/
def display (l : Location) : String :=
  l.file ++ ":" ++ toString l.line.toNat ++ ":" ++ toString l.column.toNat

end Location

end GoStructs
