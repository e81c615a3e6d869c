import SqlLexis.Character
import SqlLexis.Character.Glyphless

/-!
# Characters as reports show them

A report names a character between single quotes, so that every character is told apart from its
neighbours: `shownChar` writes the usual escapes for the blanks, the backslash and the quote
itself, the number of the code point for a character without a glyph, and any other character as
itself. `shownChar?` adds what stands for the end of a text.
-/

namespace SqlLexis

/-- The code point in lower-case hexadecimal, in the braces of an escape. -/
def shownNumber (c : Char) : Text :=
  ['\\', 'u', '{'] ++ Nat.toDigits 16 c.toNat ++ ['}']

/-- A character between single quotes, escaped where it would not show. -/
def shownChar (c : Char) : Text :=
  '\'' :: body ++ ['\'']
where
  /-- The character without the quotes around it. -/
  body : Text :=
    match c with
    | '\x00' => ['\\', '0']
    | '\t' => ['\\', 't']
    | '\r' => ['\\', 'r']
    | '\n' => ['\\', 'n']
    | '\\' => ['\\', '\\']
    | '\'' => ['\\', '\'']
    | _ => if isGlyphless c then shownNumber c else [c]

/-- A character that may be missing: `None` past the end of a text. -/
def shownChar? : Option Char → String
  | none => "None"
  | some c => String.ofList ("Some(".toList ++ shownChar c ++ [')'])

end SqlLexis
