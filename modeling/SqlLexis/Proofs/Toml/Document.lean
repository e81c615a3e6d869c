import SqlLexis.Character

/-!
# Documents of strings

The plainest documents of TOML: strings at the top, then tables of strings, each below its header. A
key stands without quotes, and a string on one line between double quotes, without escapes. Lines on
which nothing stands may come anywhere.

* `BareKey`, `PlainString`: keys and strings that are written as they are;
* `Document`: a document, in which no name is given twice;
* `Document.Spells`: the texts that a document may be written as.
-/

namespace SqlLexis.Toml

/-! ## Keys and strings -/

/-- A letter, a digit, an underscore or a hyphen. -/
def isBareChar (c : Char) : Bool := c.isAlphanum || c == '_' || c == '-'

/-- A key that is written without quotes. -/
structure BareKey where
  name : String
  ne_nil : name.toList ≠ []
  all_isBareChar : name.toList.all isBareChar = true
  deriving DecidableEq

/-- Any character but control characters, the double quote and the backslash. -/
def isUnescaped (c : Char) : Bool := ' ' ≤ c && c ≠ '\x7f' && c ≠ '"' && c ≠ '\\'

/-- There is nothing to escape in a string. -/
def IsPlain (s : String) : Prop := s.toList.all isUnescaped = true

instance (s : String) : Decidable (IsPlain s) := inferInstanceAs (Decidable (_ = true))

/-- A string that stands between double quotes as it is. -/
structure PlainString where
  text : String
  isPlain : IsPlain text
  deriving DecidableEq

/-! ## Lines -/

/-- A line of a document. -/
inductive Line where
  | blank
  | header (key : BareKey)
  | assign (key : BareKey) (value : PlainString)
  deriving DecidableEq

/-- A line as it is written. -/
def Line.text : Line → Text
  | blank => ['\n']
  | header key => '[' :: key.name.toList ++ "]\n".toList
  | assign key value => key.name.toList ++ " = \"".toList ++ value.text.toList ++ "\"\n".toList

/-! ## Documents -/

/-- The strings of a table, under their keys. -/
abbrev Strings := List (BareKey × PlainString)

/-- A document of strings. -/
structure Document where
  strings : Strings
  tables : List (BareKey × Strings)
  nodup_names : (strings.map Prod.fst ++ tables.map Prod.fst).Nodup
  nodup_keys : ∀ table ∈ tables, (table.2.map Prod.fst).Nodup

/-- The lines that give the strings of a table. -/
def Strings.lines (strings : Strings) : List Line :=
  strings.map fun (key, value) => .assign key value

namespace Document

/-- The lines of a document on which something stands. -/
def lines (d : Document) : List Line :=
  d.strings.lines ++ d.tables.flatMap fun (key, strings) => .header key :: strings.lines

/-- A document is written line by line, and blank lines make no difference. -/
def Spells (d : Document) (s : String) : Prop :=
  ∃ lines : List Line, lines.filter (· ≠ .blank) = d.lines ∧ s.toList = lines.flatMap Line.text

end Document

end SqlLexis.Toml
