import SqlLexis.Cursor
import SqlLexis.Lexer.Log

/-!
# The lexer

A `Lexer` stands somewhere in a statement and remembers where its last token began and what it
was. `Lexer.next` skips the gap and reads the token behind it. Three things can come of a call:

* a token, also the end of the input, which is read again and again;
* an error while skipping: the lexer then stands at the block that does not end;
* an error while reading: the lexer then stands at the token, and its start is remembered.

An error leaves the last token alone, and the next call meets it again. A `Call` holds the result,
the log records and the lexer afterwards.
-/

namespace SqlLexis

/-- A statement that is being read. -/
structure Lexer where
  dialect : Dialect
  dictionary : Dictionary
  input : Text
  /-- Where the next call begins. -/
  offset : Nat
  /-- Where the last token began, or would have begun. -/
  tokenStart : Nat
  /-- The last token. -/
  current? : Option Token

/-- The outcome of a call: its result, what it sent to the log, and the lexer it leaves. -/
structure Call (α : Type) where
  result : Except LexError α
  log : List LogRecord
  lexer : Lexer

namespace Lexer

/-- A lexer before the first token of a statement, with a dictionary of its own. -/
def withDictionary (sql : String) (dialect : Dialect) (dictionary : Dictionary) : Lexer :=
  ⟨dialect, dictionary, sql.toList, 0, 0, none⟩

/-- A lexer before the first token of a statement, with the dictionary of the dialect. -/
def new (sql : String) (dialect : Dialect) : Lexer :=
  withDictionary sql dialect dialect.dictionary

/-- The place of the lexer in its statement. -/
def cursor (l : Lexer) : Cursor := ⟨l.input, l.offset⟩

/-- The lexer behind the gap in front of it. -/
def afterGap (l : Lexer) (length : Nat) : Lexer := { l with offset := l.offset + length }

/-- The lexer about to read the token in front of it. -/
def atToken (l : Lexer) : Lexer := { l with tokenStart := l.offset }

/-- The lexer behind a token. -/
def afterToken (l : Lexer) (t : Token) : Lexer :=
  { l with offset := t.endOffset, current? := some t }

/-- The records of a failure. A fault of the program is not reported to the log. -/
def failureLog (l : Lexer) (e : LexError) : List LogRecord :=
  if e.isFatal then [] else [.failure l.dialect l.offset e]

/-- The outcome of a call that fails. -/
def fail {α : Type} (l : Lexer) (e : LexError) : Call α := ⟨.error e, l.failureLog e, l⟩

/-- Reads the token in front of the lexer. -/
def read (l : Lexer) : Call Token :=
  match l.cursor.token l.dialect l.dictionary with
  | .ok t => ⟨.ok t, [.token l.dialect t], l.afterToken t⟩
  | .error e => l.fail e

/-- Skips the gap in front of the lexer and reads the token behind it. -/
def next (l : Lexer) : Call Token :=
  let gap := Gap.skip l.dialect l.cursor.rest
  let l' := l.afterGap gap.length
  match gap.error? with
  | some e => l'.fail e
  | none => l'.atToken.read

end Lexer

end SqlLexis
