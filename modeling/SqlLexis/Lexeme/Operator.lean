import SqlLexis.Dictionary
import SqlLexis.Error

/-!
# Operators and delimiters in a text

Of a run of operator characters the longest start that the dictionary knows is one symbol, so
`<=` is not taken apart and `;;` gives `;` twice. `longestKnown` finds it by going through the run
once, and `operator` answers with its token.
-/

namespace SqlLexis.Lexeme

/-- The longest known start of a run, where `start` with its `n` characters comes before the run
and `best` is the longest one that was known so far. -/
def longestKnown (d : Dictionary) (start : String) (n : Nat) (best : Option Token) :
    Text → Option Token
  | [] => best
  | c :: run =>
    let start := start.push c
    let best := match d.symbol? start with
      | some s => some ⟨.symbol s, start, n + 1⟩
      | none => best
    longestKnown d start (n + 1) best run

/-- The symbol in front. -/
def operator (d : Dictionary) (s : Text) : Except LexError Token :=
  match longestKnown d "" 0 none (s.takeWhile isOperatorChar) with
  | some t => .ok t
  | none => .error (.unknownSymbol s.head? 0)

end SqlLexis.Lexeme
