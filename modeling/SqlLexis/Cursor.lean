import SqlLexis.Gap
import SqlLexis.Lexeme.Number
import SqlLexis.Lexeme.Opening
import SqlLexis.Lexeme.Operator
import SqlLexis.Lexeme.Word
import SqlLexis.Position

/-!
# Reading at a place in a text

A `Cursor` is a text and an offset into it, which may lie past the end. What stands at the cursor
is read from the rest of the text, and the offsets of the answer are moved to where the rest
begins. So an answer depends on the rest alone, and a lexeme that would reach past the end is cut
there, while its end offset is not.

The operations come in two kinds: `skipBlanks`, `skipComment` and `skipHint` answer with the
offset behind what they skip; `var`, `word`, `hexNumber`, `number`, `quoted` and `operator` answer
with a token. They take the caller's word for what stands at the cursor: `Opening.of` finds out.
-/

namespace SqlLexis

/-- A place in a text. -/
structure Cursor where
  input : Text
  offset : Nat
  deriving DecidableEq

namespace Cursor

/-- The text from the cursor on. -/
def rest (c : Cursor) : Text := c.input.drop c.offset

/-- The character before the cursor. -/
def previous? (c : Cursor) : Option Char :=
  if c.offset = 0 then none else c.input[c.offset - 1]?

/-- An offset in the rest of the text, as an offset in the text. -/
def moveOffset (c : Cursor) (r : Except LexError Nat) : Except LexError Nat :=
  match r with
  | .ok n => .ok (c.offset + n)
  | .error e => .error (e.shift c.offset)

/-- A token in the rest of the text, as a token in the text. -/
def moveToken (c : Cursor) (r : Except LexError Token) : Except LexError Token :=
  match r with
  | .ok t => .ok (t.shift c.offset)
  | .error e => .error (e.shift c.offset)

/-- The offset of the first character that is not blank. -/
def skipBlanks (c : Cursor) : Nat := c.offset + Gap.blanks c.rest

/-- The offset behind the comment at the cursor; that of the cursor if there is none. -/
def skipComment (c : Cursor) : Except LexError Nat := c.moveOffset (Gap.comment c.rest)

/-- The offset behind the hint at the cursor. -/
def skipHint (c : Cursor) : Except LexError Nat := c.moveOffset (Gap.hint c.rest)

/-- The variable at the cursor. -/
def var (c : Cursor) : Token := (Lexeme.var c.rest).shift c.offset

/-- The word at the cursor, a keyword if the dictionary says so. -/
def word (d : Dictionary) (c : Cursor) : Except LexError Token :=
  c.moveToken (Lexeme.word d c.rest)

/-- The hexadecimal number at the cursor. -/
def hexNumber (c : Cursor) : Token := (Lexeme.hexNumber c.rest).shift c.offset

/-- The number at the cursor. -/
def number (c : Cursor) : Token := (Lexeme.number c.rest).shift c.offset

/-- The character string at the cursor, in the quote that stands there. -/
def quoted (c : Cursor) : Except LexError Token := c.moveToken (Lexeme.quoted c.rest)

/-- The symbol at the cursor, of those that the dictionary knows. -/
def operator (d : Dictionary) (c : Cursor) : Except LexError Token :=
  c.moveToken (Lexeme.operator d c.rest)

/-- What the text at the cursor announces. -/
def opening (d : Dialect) (c : Cursor) : Opening := .of d c.previous? c.rest

/-- The token at the cursor, in a dialect. -/
def token (dialect : Dialect) (d : Dictionary) (c : Cursor) : Except LexError Token :=
  match c.opening dialect with
  | .var => .ok c.var
  | .nationalString => quoted { c with offset := c.offset + 1 }
  | .word => c.word d
  | .hexNumber => .ok c.hexNumber
  | .number => .ok c.number
  | .operator => c.operator d
  | .string => c.quoted
  | .endOfInput => .ok (.atEnd c.offset)
  | .unexpected found =>
    let place := Position.of c.input c.offset
    .error (.unexpectedChar found place.line place.column)

end Cursor

end SqlLexis
