import SqlLexis.Character

/-!
# JSON on several lines

`Value.pretty` writes a value with one item or member a line, each level two blanks further in.
An empty array or object stays on its line. Strings keep every character but the quote, the
backslash and the control characters below the space, which are escaped.
-/

namespace SqlLexis.Json

/-- A JSON value, as far as it is written here. -/
inductive Value where
  | string (s : String)
  | number (n : Nat)
  | array (items : List Value)
  | object (members : List (String × Value))

/-- A character as it stands in a string. -/
def escaped (c : Char) : Text :=
  match c with
  | '"' => ['\\', '"']
  | '\\' => ['\\', '\\']
  | '\x08' => ['\\', 'b']
  | '\x0c' => ['\\', 'f']
  | '\n' => ['\\', 'n']
  | '\r' => ['\\', 'r']
  | '\t' => ['\\', 't']
  | _ => if c < ' ' then ['\\', 'u'] ++ fourHexDigits c.toNat else [c]

/-- A string between its quotes. -/
def quoted (s : String) : String :=
  String.ofList (['"'] ++ s.toList.flatMap escaped ++ ['"'])

/-- The start of a line at a level. -/
def newLine (level : Nat) : String :=
  String.ofList ('\n' :: List.replicate (2 * level) ' ')

namespace Value

mutual

/-- A value at a level. -/
def prettyAt (level : Nat) : Value → String
  | string s => quoted s
  | number n => toString n
  | array vs =>
    if vs.isEmpty then "[]"
    else "[" ++ ",".intercalate (itemLines (level + 1) vs) ++ newLine level ++ "]"
  | object ms =>
    if ms.isEmpty then "\x7b\x7d"
    else "\x7b" ++ ",".intercalate (memberLines (level + 1) ms) ++ newLine level ++ "\x7d"

/-- The items of an array, each on its line. -/
def itemLines (level : Nat) : List Value → List String
  | [] => []
  | v :: vs => (newLine level ++ prettyAt level v) :: itemLines level vs

/-- The members of an object, each on its line. -/
def memberLines (level : Nat) : List (String × Value) → List String
  | [] => []
  | (key, v) :: ms =>
    (newLine level ++ quoted key ++ ": " ++ prettyAt level v) :: memberLines level ms

end

/-- A value on lines of its own. -/
def pretty (v : Value) : String := prettyAt 0 v

end Value

end SqlLexis.Json
