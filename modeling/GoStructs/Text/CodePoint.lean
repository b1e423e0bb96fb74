/-! # Code points

A Unicode property is carried as a list of closed ranges of code points, ascending and apart.  The
small property `White_Space` stands here, with the removal of white space from the ends of a text;
the larger ones have modules of their own. -/

namespace GoStructs.Text

/-! ## Sets of code points -/

/-- A set of code points: closed ranges, ascending and apart. -/
abbrev Ranges := List (Nat × Nat)

/-- Does the set hold the code point `n`? -/
def Ranges.contains (rs : Ranges) (n : Nat) : Bool :=
  rs.any fun r => decide (r.1 ≤ n) && decide (n ≤ r.2)

/-! ## White space -/

/-- The code points with the property `White_Space`. -/
def blankRanges : Ranges :=
  [(0x09, 0x0D), (0x20, 0x20), (0x85, 0x85), (0xA0, 0xA0), (0x1680, 0x1680), (0x2000, 0x200A),
   (0x2028, 0x2029), (0x202F, 0x202F), (0x205F, 0x205F), (0x3000, 0x3000)]

/-- White space, by the Unicode property. -/
def isBlank (c : Char) : Bool := blankRanges.contains c.toNat

/-- The text without the white space it begins with. -/
def trimStart (s : List Char) : List Char := s.dropWhile isBlank

/-- The text without the white space it ends with. -/
def trimEnd (s : List Char) : List Char := (s.reverse.dropWhile isBlank).reverse

/-- The text without the white space at either end. -/
def trim (s : List Char) : List Char := trimEnd (trimStart s)

end GoStructs.Text
