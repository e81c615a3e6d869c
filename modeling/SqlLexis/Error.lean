import SqlLexis.Character.Shown

/-!
# What goes wrong, and how it is reported

* `LexError`: the reasons for which the lexer stops at a place in the input;
* `Error`: these together with the faults of a configuration and of files.

Each is a cause; its wording is in `message` alone. `LexError.shift` moves the offsets that an
error carries, for an error found in the rest of a text.
-/

namespace SqlLexis

/-- Why the lexer stops. -/
inductive LexError where
  /-- A block comment or hint without its end, which is written `closer`. -/
  | unterminatedBlock (closer : String)
  /-- A string or a quoted identifier without its closing quote. -/
  | unterminatedLiteral (quote : Char)
  /-- A quoted text was to begin past the end of the input. -/
  | unexpectedEnd (offset : Nat)
  /-- A character with which no token begins. -/
  | unexpectedChar (found : Char) (line column : Nat)
  /-- The dictionary has no symbol for any start of a run of operator characters. A dictionary
  without single-character symbols is a fault of the program, not of the input. -/
  | unknownSymbol (found : Option Char) (offset : Nat)
  deriving DecidableEq

namespace LexError

/-- The wording of an error. -/
def message : LexError → String
  | unterminatedBlock closer =>
    s!"Illegal expression: unterminated block, expected '{closer}'"
  | unterminatedLiteral quote => s!"Illegal input, unterminated '{quote}'"
  | unexpectedEnd offset => s!"Unexpected end of input at offset {offset}"
  | unexpectedChar found line column =>
    s!"SQL syntax error: unexpected char '{found}' at {line}:{column}"
  | unknownSymbol found offset =>
    let shown := shownChar? found
    s!"symbol dictionary has no entry for {shown} at offset {offset}"

/-- An error that the input is not to blame for. -/
def isFatal : LexError → Bool
  | unknownSymbol .. => true
  | _ => false

/-- The same error, `k` characters further on. Lines and columns are not offsets and stay. -/
def shift (k : Nat) : LexError → LexError
  | unexpectedEnd offset => unexpectedEnd (k + offset)
  | unknownSymbol found offset => unknownSymbol found (k + offset)
  | e => e

end LexError

/-- Why a command fails. -/
inductive Error where
  /-- The statement is not lexically valid. -/
  | lexical (e : LexError)
  /-- The configuration is not usable. -/
  | configuration (detail : String)
  /-- A file could not be read or written. -/
  | io (cause : String)
  /-- A value could not be written as JSON or read from it. -/
  | serialization (cause : String)
  deriving DecidableEq

namespace Error

/-- The wording of an error. -/
def message : Error → String
  | lexical e => e.message
  | configuration detail => s!"Configuration error: {detail}"
  | io cause => s!"I/O error: {cause}"
  | serialization cause => s!"Serialization error: {cause}"

/-- Whether the input is to blame, and not the surroundings. -/
def isSyntax : Error → Bool
  | lexical e => !e.isFatal
  | _ => false

/-- The cause given for the content of a file that is no text. -/
def notUtf8 : String := "stream did not contain valid UTF-8"

end Error

end SqlLexis
