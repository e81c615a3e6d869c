import SqlLexis.Keyword
import SqlLexis.Symbol

/-!
# Tokens

A token says what it is, gives its text, and says where the text after it begins. The value of a
character string is what stands between its quotes; every other token's value is its source text.
-/

namespace SqlLexis

/-- The kinds of token whose text the statement chooses. -/
inductive Literal where
  /-- A whole number. -/
  | int
  /-- A number with a point, an exponent or a suffix. -/
  | float
  /-- A number after `0x`. -/
  | hex
  /-- A character string. -/
  | chars
  /-- A name, quoted or not. -/
  | identifier
  /-- A variable of the session or of the server. -/
  | var
  deriving DecidableEq

namespace Literal

/-- Every kind of literal. -/
def all : List Literal := [.int, .float, .hex, .chars, .identifier, .var]

/-- The name of a kind of literal. -/
def name : Literal → String
  | int => "Int"
  | float => "Float"
  | hex => "Hex"
  | chars => "Chars"
  | identifier => "Identifier"
  | var => "Variable"

/-- The kind of literal of a name. -/
def ofName? (n : String) : Option Literal := all.find? (·.name == n)

end Literal

/-- What a token is. -/
inductive TokenType where
  | keyword (k : Keyword)
  | literal (l : Literal)
  | symbol (s : Symbol)
  /-- The end of the input. -/
  | endOfInput
  deriving DecidableEq

namespace TokenType

/-- The name of the group that a type belongs to. -/
def groupName : TokenType → String
  | keyword _ => "Keyword"
  | literal _ => "Literals"
  | symbol _ => "Symbol"
  | endOfInput => "Assist"

/-- The name of a type within its group. -/
def name : TokenType → String
  | keyword k => k.name
  | literal l => l.name
  | symbol s => s.name
  | endOfInput => "End"

/-- The type of a name within a group. -/
def ofNames? (group n : String) : Option TokenType :=
  match group with
  | "Keyword" => (Keyword.ofName? n).map .keyword
  | "Literals" => (Literal.ofName? n).map .literal
  | "Symbol" => (Symbol.ofName? n).map .symbol
  | "Assist" => if n = "End" then some .endOfInput else none
  | _ => none

/-- Keywords and symbols are shown by their spelling, the rest by name. -/
def toString : TokenType → String
  | keyword k => k.text
  | literal l => l.name
  | symbol s => s.text
  | endOfInput => "End"

instance : ToString TokenType := ⟨toString⟩

/-- Whether a type is that of a keyword. -/
def isKeyword : TokenType → Bool
  | keyword _ => true
  | _ => false

/-- Whether a type is that of a literal. -/
def isLiteral : TokenType → Bool
  | literal _ => true
  | _ => false

/-- Whether a type is that of an operator or a delimiter. -/
def isSymbol : TokenType → Bool
  | symbol _ => true
  | _ => false

/-- Whether a type is the end of the input. -/
def isEnd : TokenType → Bool
  | endOfInput => true
  | _ => false

end TokenType

/-- A lexeme of a statement. -/
structure Token where
  type : TokenType
  value : String
  /-- The offset just past the token. -/
  endOffset : Nat
  deriving DecidableEq

namespace Token

/-- The same token, `k` characters further on. -/
def shift (k : Nat) (t : Token) : Token := { t with endOffset := k + t.endOffset }

/-- The token as log records show it. -/
def toString (t : Token) : String := s!"{t.type}('{t.value}') until {t.endOffset}"

instance : ToString Token := ⟨toString⟩

/-- The token of the first `n` characters of a text. -/
def leading (type : TokenType) (text : Text) (n : Nat) : Token :=
  ⟨type, String.ofList (text.take n), n⟩

/-- The end of the input, at an offset. -/
def atEnd (offset : Nat) : Token := ⟨.endOfInput, "", offset⟩

end Token

end SqlLexis
