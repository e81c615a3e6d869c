import SqlLexis.Lexer.Progress

/-!
# Reading a statement to its end

Three ways to call `Lexer.next` again and again, each up to the end of the input or the first
error:

* `Lexer.drain`: all the calls, one by one;
* `Lexer.spans`: the tokens with their starts;
* `Lexer.tokenize`: the tokens alone, in one call with a log of its own.

The end of the input is no member of the last two.
-/

namespace SqlLexis

/-- A token and where it begins. -/
structure Span where
  start : Nat
  token : Token
  deriving DecidableEq

namespace Lexer

/-- The calls up to the end of the input or the first error. -/
def drain (l : Lexer) : List (Call Token) :=
  match _h : l.next.result with
  | .error _ => [l.next]
  | .ok t => if _ht : t.type.isEnd then [l.next] else l.next :: drain l.next.lexer
termination_by l.left
decreasing_by exact left_lt_of_next _h (by simpa using _ht)

/-- The tokens up to the end of the input, with their starts. -/
def spans (l : Lexer) : Except LexError (List Span) := do
  let all ← l.drain.mapM fun call => return ⟨call.lexer.tokenStart, ← call.result⟩
  return all.dropLast

/-- The tokens up to the end of the input, read in one go. -/
def readAll (l : Lexer) : Call (List Token) :=
  match _h : l.next.result with
  | .error e => ⟨.error e, l.next.log, l.next.lexer⟩
  | .ok t =>
    if _ht : t.type.isEnd then ⟨.ok [], l.next.log, l.next.lexer⟩
    else
      let others := readAll l.next.lexer
      ⟨others.result.map (t :: ·), l.next.log ++ others.log, others.lexer⟩
termination_by l.left
decreasing_by exact left_lt_of_next _h (by simpa using _ht)

/-- The tokens up to the end of the input. A statement that was read to its end is logged with its
length and the number of its tokens. -/
def tokenize (l : Lexer) : Call (List Token) :=
  let all := l.readAll
  match all.result with
  | .error _ => all
  | .ok tokens =>
    { all with log := all.log ++ [.statement l.dialect l.input.length tokens.length] }

end Lexer

end SqlLexis
