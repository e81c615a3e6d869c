import SqlLexis.Dialect

/-!
# How a token begins

What a token is going to be shows in its first one or two characters, in the dialect, and for a
number that begins with a dot in the character before it. `Opening.of` decides; the cases are tried
in the order of the constructors, and the first that fits counts.
-/

namespace SqlLexis

/-- What the start of a token announces. -/
inductive Opening where
  | var
  | nationalString
  | word
  | hexNumber
  | number
  | operator
  | string
  | endOfInput
  /-- A character with which no token begins. -/
  | unexpected (c : Char)
  deriving DecidableEq

namespace Opening

/-- Whether a number begins with `c`, before `next?` and after `previous?`. A dot after the start
of a name goes on with that name. -/
def isNumberStart (previous? : Option Char) (c : Char) (next? : Option Char) : Bool :=
  c.isDigit
    || (c == '.' && next?.any Char.isDigit && !previous?.any isWordStart)
    || (c == '-' && next?.any fun n => n == '.' || n.isDigit)

/-- What a text announces, after the character `previous?`. -/
def of (d : Dialect) (previous? : Option Char) : Text → Opening
  | [] => .endOfInput
  | c :: rest =>
    if d.hasVariables && c == '@' then .var
    else if d.nationalStrings && c == 'N' && rest.head? == some '\'' then .nationalString
    else if isWordStart c then .word
    else if c == '0' && rest.head? == some 'x' then .hexNumber
    else if isNumberStart previous? c rest.head? then .number
    else if isOperatorChar c then .operator
    else if isStringQuote c then .string
    else .unexpected c

end Opening

end SqlLexis
