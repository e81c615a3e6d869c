import SqlLexis.Character

/-!
# Operators and delimiters

The symbols of SQL, each with its spelling:

* `Symbol.text`: the spelling, which consists of operator characters;
* `Symbol.name`: the name that reports use;
* `Symbol.ofText?`: the symbol of a spelling, with `ofText?_text` for the two together.
-/

namespace SqlLexis

/-- An operator or a delimiter. -/
inductive Symbol where
  | leftParen | rightParen | leftBrace | rightBrace | leftBracket | rightBracket | semi | comma
  | dot | doubleDot | plus | sub | star | slash | question | eq | gt | lt | bang | tilde | caret
  | percent | colon | doubleColon | colonEq | ltEq | gtEq | ltEqGt | ltGt | bangEq | bangGt
  | bangLt | amp | bar | doubleAmp | doubleBar | doubleLt | doubleGt | pound
  deriving DecidableEq

namespace Symbol

/-- The spelling of a symbol. -/
def text : Symbol → String
  | leftParen => "("
  | rightParen => ")"
  | leftBrace => "\x7b"
  | rightBrace => "\x7d"
  | leftBracket => "["
  | rightBracket => "]"
  | semi => ";"
  | comma => ","
  | dot => "."
  | doubleDot => ".."
  | plus => "+"
  | sub => "-"
  | star => "*"
  | slash => "/"
  | question => "?"
  | eq => "="
  | gt => ">"
  | lt => "<"
  | bang => "!"
  | tilde => "~"
  | caret => "^"
  | percent => "%"
  | colon => ":"
  | doubleColon => "::"
  | colonEq => ":="
  | ltEq => "<="
  | gtEq => ">="
  | ltEqGt => "<=>"
  | ltGt => "<>"
  | bangEq => "!="
  | bangGt => "!>"
  | bangLt => "!<"
  | amp => "&"
  | bar => "|"
  | doubleAmp => "&&"
  | doubleBar => "||"
  | doubleLt => "<<"
  | doubleGt => ">>"
  | pound => "#"

/-- The name of a symbol. -/
def name : Symbol → String
  | leftParen => "LeftParen"
  | rightParen => "RightParen"
  | leftBrace => "LeftBrace"
  | rightBrace => "RightBrace"
  | leftBracket => "LeftBracket"
  | rightBracket => "RightBracket"
  | semi => "Semi"
  | comma => "Comma"
  | dot => "Dot"
  | doubleDot => "DoubleDot"
  | plus => "Plus"
  | sub => "Sub"
  | star => "Star"
  | slash => "Slash"
  | question => "Question"
  | eq => "Eq"
  | gt => "Gt"
  | lt => "Lt"
  | bang => "Bang"
  | tilde => "Tilde"
  | caret => "Caret"
  | percent => "Percent"
  | colon => "Colon"
  | doubleColon => "DoubleColon"
  | colonEq => "ColonEq"
  | ltEq => "LtEq"
  | gtEq => "GtEq"
  | ltEqGt => "LtEqGt"
  | ltGt => "LtGt"
  | bangEq => "BangEq"
  | bangGt => "BangGt"
  | bangLt => "BangLt"
  | amp => "Amp"
  | bar => "Bar"
  | doubleAmp => "DoubleAmp"
  | doubleBar => "DoubleBar"
  | doubleLt => "DoubleLt"
  | doubleGt => "DoubleGt"
  | pound => "Pound"

/-- Every symbol. -/
def all : List Symbol := [
  .leftParen, .rightParen, .leftBrace, .rightBrace, .leftBracket, .rightBracket, .semi, .comma,
  .dot, .doubleDot, .plus, .sub, .star, .slash, .question, .eq, .gt, .lt, .bang, .tilde, .caret,
  .percent, .colon, .doubleColon, .colonEq, .ltEq, .gtEq, .ltEqGt, .ltGt, .bangEq, .bangGt,
  .bangLt, .amp, .bar, .doubleAmp, .doubleBar, .doubleLt, .doubleGt, .pound]

/-- The symbol of a spelling. -/
def ofText? (t : String) : Option Symbol := all.find? (·.text == t)

/-- The symbol of a name. -/
def ofName? (n : String) : Option Symbol := all.find? (·.name == n)

instance : ToString Symbol := ⟨text⟩

/-- A spelling leads back to its symbol, so no two symbols share one. -/
theorem ofText?_text (s : Symbol) : ofText? s.text = some s := by
  cases s <;> decide +kernel

/-- A symbol has one spelling. -/
theorem ofText?_eq_some_iff {t : String} {s : Symbol} : ofText? t = some s ↔ s.text = t := by
  constructor
  · intro h
    simpa using List.find?_some h
  · rintro rfl
    exact ofText?_text s

/-- A spelling consists of operator characters. -/
theorem isOperatorChar_of_mem_text {s : Symbol} {c : Char} (hc : c ∈ s.text.toList) :
    isOperatorChar c = true := by
  have key : s.text.toList.all isOperatorChar = true := by cases s <;> decide
  exact List.all_eq_true.1 key c hc

/-- Every operator character is a symbol by itself. -/
theorem ofText?_char {c : Char} (h : isOperatorChar c = true) :
    (ofText? (String.ofList [c])).isSome = true := by
  have key : operatorChars.all (fun c => (ofText? (String.ofList [c])).isSome) = true := by
    decide +kernel
  exact List.all_eq_true.1 key c (List.contains_iff_mem.1 h)

end Symbol

end SqlLexis
