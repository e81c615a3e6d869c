import SqlLexis.Dialect
import SqlLexis.Token

/-!
# Log records

What the lexer tells a log about its work: each token, each failure with the offset at which the
lexer then stands, and each statement that was read to its end.
-/

namespace SqlLexis

/-- An entry of the log. -/
inductive LogRecord where
  /-- A token was read. -/
  | token (dialect : Dialect) (t : Token)
  /-- The lexer stopped at an offset. -/
  | failure (dialect : Dialect) (offset : Nat) (e : LexError)
  /-- A statement was read to its end. -/
  | statement (dialect : Dialect) (chars tokens : Nat)
  deriving DecidableEq

namespace LogRecord

/-- How much detail a log has to ask for to get the record. -/
def level : LogRecord → String
  | token .. => "TRACE"
  | failure .. => "DEBUG"
  | statement .. => "DEBUG"

/-- The wording of the record. -/
def message : LogRecord → String
  | token dialect t => s!"{dialect} token {t}"
  | failure dialect offset e =>
    let reason := e.message
    s!"{dialect} lexing failed at {offset}: {reason}"
  | statement dialect chars tokens =>
    s!"{dialect} statement of {chars} chars split into {tokens} tokens"

end LogRecord

end SqlLexis
