/-! # Positions in a text

A position is a place between two characters of a text.  It counts bytes of the UTF-8 form: from
the start of the text (`offset`) and from the start of its row (`column`).  Rows are ended by the
line feed alone, so a carriage return is an ordinary character of its row. -/

namespace GoStructs

/-- A place in a text, counted from zero in bytes of UTF-8. -/
structure Position where
  offset : Nat
  row : Nat
  column : Nat
  deriving DecidableEq, Repr, Inhabited

namespace Position

/-- The place before the first character. -/
def origin : Position := ⟨0, 0, 0⟩

/-- The place behind one more character. -/
def next (p : Position) (c : Char) : Position :=
  if c = '\n' then ⟨p.offset + c.utf8Size, p.row + 1, 0⟩
  else ⟨p.offset + c.utf8Size, p.row, p.column + c.utf8Size⟩

/-- The place behind a run of characters. -/
def skip (p : Position) (s : List Char) : Position := s.foldl next p

@[simp] theorem skip_nil (p : Position) : p.skip [] = p := rfl

@[simp] theorem skip_cons (p : Position) (c : Char) (s : List Char) :
    p.skip (c :: s) = (p.next c).skip s := rfl

theorem skip_append (p : Position) (s t : List Char) : p.skip (s ++ t) = (p.skip s).skip t := by
  simp [skip]

@[simp] theorem offset_next (p : Position) (c : Char) :
    (p.next c).offset = p.offset + c.utf8Size := by
  unfold next; split <;> rfl

end Position

/-- The number of bytes of a text in UTF-8. -/
def byteSize : List Char → Nat
  | [] => 0
  | c :: s => c.utf8Size + byteSize s

/-- A run of characters moves the offset by its size in bytes. -/
theorem Position.offset_skip (p : Position) (s : List Char) :
    (p.skip s).offset = p.offset + byteSize s := by
  induction s generalizing p with
  | nil => simp [byteSize]
  | cons c s ih => simp [ih, byteSize, Nat.add_assoc]

/-- The characters of `s` from byte `start` on, up to byte `stop`. -/
def sliceBytes (s : List Char) (start stop : Nat) : List Char :=
  match s with
  | [] => []
  | c :: r =>
    if stop = 0 then []
    else if start = 0 then c :: sliceBytes r 0 (stop - c.utf8Size)
    else sliceBytes r (start - c.utf8Size) (stop - c.utf8Size)

end GoStructs
