import SqlLexis.Dictionary
import SqlLexis.Lexeme.Quoted

/-!
# Words and variables

A word is a run of word characters; the dictionary tells whether it is a keyword. `ORDER` and
`GROUP` are left to be names unless `BY` follows: only then is the dictionary asked. What follows
is looked at, past blanks alone, and not taken.

* `isBeforeBy`: whether `BY` begins a text, after blanks;
* `wordType`: the type of an unquoted word, given the text after it;
* `word`: the word in front, quoted or not;
* `var`: the variable in front, which begins with one or two `@`.
-/

namespace SqlLexis.Lexeme

/-- A word that is a keyword only before `BY`. -/
def awaitsBy (w : Text) : Bool :=
  sameWord w Keyword.ORDER.text.toList || sameWord w Keyword.GROUP.text.toList

/-- Whether the first two characters after blanks are those of `BY`. -/
def isBeforeBy (s : Text) : Bool :=
  match s.dropWhile isBlank with
  | a :: b :: _ => sameWord [a, b] Keyword.BY.text.toList
  | _ => false

/-- The type of an unquoted word before a given text. -/
def wordType (d : Dictionary) (w rest : Text) : TokenType :=
  if awaitsBy w && !isBeforeBy rest then .literal .identifier
  else d.typeOf (String.ofList w) (.literal .identifier)

/-- The unquoted word in front. -/
def plainWord (d : Dictionary) (s : Text) : Token :=
  let w := s.takeWhile isWordChar
  .leading (wordType d w (s.drop w.length)) s w.length

/-- The word in front, quoted or not. -/
def word (d : Dictionary) (s : Text) : Except LexError Token :=
  if s.head? = some backquote then quotedName s else .ok (plainWord d s)

/-- The variable in front. Its first character is not looked at; a second `@` belongs to the
marker. -/
def var (s : Text) : Token :=
  let marker := if (s.drop 1).head? = some '@' then 2 else 1
  .leading (.literal .var) s (marker + ((s.drop marker).takeWhile isVariableChar).length)

end SqlLexis.Lexeme
