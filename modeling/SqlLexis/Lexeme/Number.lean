import SqlLexis.Character
import SqlLexis.Token

/-!
# Numbers

A number is an optional minus sign, digits, an optional fraction, an optional exponent and an
optional suffix, where any digits may be missing. It is whole if it has none of the last three
parts. A hexadecimal number is `0x`, an optional minus sign and hexadecimal digits.

Each function below measures one part at the start of a text; `number` and `hexNumber` put the
parts together.
-/

namespace SqlLexis.Lexeme

/-- How many digits are in front. -/
def digits (s : Text) : Nat := (s.takeWhile Char.isDigit).length

/-- One for a minus sign in front. -/
def minus (s : Text) : Nat := if s.head? = some '-' then 1 else 0

/-- The sign and the digits in front. -/
def whole (s : Text) : Nat := minus s + digits (s.drop (minus s))

/-- The point and the digits in front. -/
def fraction : Text → Nat
  | '.' :: rest => 1 + digits rest
  | _ => 0

/-- The mark, the sign and the digits of an exponent in front. -/
def exponent : Text → Nat
  | c :: rest =>
    if isExponentMark c then
      let sign := if rest.head?.any isSign then 1 else 0
      1 + sign + digits (rest.drop sign)
    else 0
  | [] => 0

/-- One for a suffix in front. -/
def suffix (s : Text) : Nat := if s.head?.any isFloatSuffix then 1 else 0

/-- The length of a number in front. -/
def numberLength (s : Text) : Nat :=
  let w := whole s
  let f := fraction (s.drop w)
  let e := exponent (s.drop (w + f))
  w + f + e + suffix (s.drop (w + f + e))

/-- The number in front: whole if nothing follows the digits. -/
def number (s : Text) : Token :=
  let n := numberLength s
  .leading (.literal (if n = whole s then .int else .float)) s n

/-- The hexadecimal number in front, whose marker is not looked at. -/
def hexNumber (s : Text) : Token :=
  let body := s.drop 2
  let sign := minus body
  .leading (.literal .hex) s (2 + sign + ((body.drop sign).takeWhile isHexDigit).length)

end SqlLexis.Lexeme
