/-!
# Character classes of SQL text

A text is a list of code points, so an offset counts characters. The classes that decide where a
token begins and ends:

* `isBlank`: the control characters up to the space, and U+007F up to the no-break space;
* `isOperatorChar`: the 25 characters that operators and delimiters are made of;
* `isWordStart`, `isWordChar`, `isVariableChar`: how a word begins and what it may contain;
* `isHexDigit`, `isExponentMark`, `isFloatSuffix`: the parts of numbers.

Letters and digits are those of ASCII, which is what `Char.isAlpha` and `Char.isDigit` say; no
class contains another character beyond U+00A0. `upper` and `lower` fold the case of ASCII letters
only.
-/

namespace SqlLexis

/-- The characters of an SQL statement, in order. -/
abbrev Text := List Char

/-- A character that separates tokens and belongs to none. -/
def isBlank (c : Char) : Bool :=
  c ≤ ' ' || ('\x7f' ≤ c && c ≤ '\u00a0')

/-- The characters of operators and delimiters. -/
def operatorChars : List Char := [
  '(', ')', '[', ']', '{', '}', '+', '-', '*', '/', '%', '^', '=', '>', '<', '~', '!', '?', '&',
  '|', '.', ':', '#', ',', ';']

/-- A character that operators and delimiters are made of. -/
def isOperatorChar (c : Char) : Bool := operatorChars.contains c

/-- The character that quotes an identifier. -/
def backquote : Char := '\x60'

/-- A character that opens a word: a letter, `_`, `$` or the quote of an identifier. -/
def isWordStart (c : Char) : Bool :=
  c.isAlpha || c == backquote || c == '_' || c == '$'

/-- A character of an unquoted word: a letter, a digit, `_`, `$` or `#`. -/
def isWordChar (c : Char) : Bool :=
  c.isAlpha || c.isDigit || c == '_' || c == '$' || c == '#'

/-- A character of a variable after its marker: that of a word, or a dot. -/
def isVariableChar (c : Char) : Bool := isWordChar c || c == '.'

/-- A hexadecimal digit, of either case. -/
def isHexDigit (c : Char) : Bool :=
  c.isDigit || ('a' ≤ c && c ≤ 'f') || ('A' ≤ c && c ≤ 'F')

/-- The value of a hexadecimal digit. -/
def hexValue (c : Char) : Nat :=
  if c.isDigit then c.toNat - '0'.toNat
  else if 'a' ≤ c && c ≤ 'f' then c.toNat - 'a'.toNat + 10
  else c.toNat - 'A'.toNat + 10

/-- The number that digits give in a base of at most sixteen. -/
def baseValue (base : Nat) (digits : Text) : Nat :=
  digits.foldl (fun n c => base * n + hexValue c) 0

/-- The digits of a number in hexadecimal, at least four of them. -/
def fourHexDigits (n : Nat) : Text :=
  let digits := Nat.toDigits 16 n
  List.replicate (4 - digits.length) '0' ++ digits

/-- The mark before an exponent. -/
def isExponentMark (c : Char) : Bool := c == 'e' || c == 'E'

/-- The sign of a number. -/
def isSign (c : Char) : Bool := c == '+' || c == '-'

/-- The letter that makes a number a binary float or a double. -/
def isFloatSuffix (c : Char) : Bool := c == 'f' || c == 'F' || c == 'd' || c == 'D'

/-- A quote of a character string. -/
def isStringQuote (c : Char) : Bool := c == '\'' || c == '"'

/-- The text with its ASCII letters in upper case. -/
def upper (s : Text) : Text := s.map Char.toUpper

/-- The text with its ASCII letters in lower case. -/
def lower (s : Text) : Text := s.map Char.toLower

/-- Two texts that differ at most in the case of ASCII letters. -/
def sameWord (s t : Text) : Bool := upper s == upper t

theorem isBlank_space : isBlank ' ' = true := by decide

theorem isBlank_newline : isBlank '\n' = true := by decide

/-- Folding the case keeps the length. -/
@[simp] theorem length_upper (s : Text) : (upper s).length = s.length := by simp [upper]

end SqlLexis
