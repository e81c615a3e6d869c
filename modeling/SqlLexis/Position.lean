import SqlLexis.Character

/-!
# Lines and columns

`Position.of text offset` counts the lines and columns of a text up to an offset, both from one.
A newline is the last character of its line, so the offset just past it is column one of the next.
Past the end of the text the line and the column stay those of the end.
-/

namespace SqlLexis

/-- A place in a text, as people count it and as an offset. -/
structure Position where
  line : Nat
  column : Nat
  offset : Nat
  deriving DecidableEq

namespace Position

/-- The place before the first character. -/
def start : Position := ⟨1, 1, 0⟩

/-- The place one character further on. -/
def advance (p : Position) (c : Char) : Position :=
  if c = '\n' then ⟨p.line + 1, 1, p.offset + 1⟩ else ⟨p.line, p.column + 1, p.offset + 1⟩

/-- The line and the column of an offset in a text. -/
def of (text : Text) (offset : Nat) : Position :=
  { (text.take offset).foldl advance start with offset := offset }

/-- The line and the column, as reports write them. -/
def toString (p : Position) : String := s!"{p.line}:{p.column}"

instance : ToString Position := ⟨toString⟩

end Position

end SqlLexis
