import SqlLexis.Character
import SqlLexis.Dialect
import SqlLexis.Token

/-!
# Dictionaries

The lexer knows no table of words: a `Dictionary` tells it which words are keywords and which runs
of operator characters are symbols. Any two lookups make one. `KeywordTable` is the usual one: the
standard keywords with those of a list, found in any case, and every symbol found by its spelling.

* `KeywordTable.find?`: a word's keyword, with the case of ASCII letters ignored;
* `KeywordTable.size`: the number of distinct keywords;
* `Dialect.dictionary`: the table of a dialect's keywords, as a dictionary.
-/

namespace SqlLexis

/-- What tells keywords from other words, and symbols from other runs of characters. -/
structure Dictionary where
  /-- The keyword of a word. -/
  keyword? : String → Option Keyword
  /-- The symbol of a run of operator characters. -/
  symbol? : String → Option Symbol

namespace Dictionary

/-- The type of a word: its keyword, or else the given type. -/
def typeOf (d : Dictionary) (word : String) (otherwise : TokenType) : TokenType :=
  match d.keyword? word with
  | some k => .keyword k
  | none => otherwise

end Dictionary

/-- A set of keywords: each stands in the list once. -/
structure KeywordTable where
  keywords : List Keyword
  nodup : keywords.Nodup

namespace KeywordTable

/-- The keyword in front of those of a list, unless it is there. -/
def insertNew (k : Keyword) (ks : List Keyword) : List Keyword :=
  if k ∈ ks then ks else k :: ks

theorem nodup_insertNew {k : Keyword} {ks : List Keyword} (h : ks.Nodup) :
    (insertNew k ks).Nodup := by
  unfold insertNew
  split
  · exact h
  · exact List.nodup_cons.2 ⟨‹_›, h⟩

@[simp] theorem mem_insertNew {k j : Keyword} {ks : List Keyword} :
    j ∈ insertNew k ks ↔ j = k ∨ j ∈ ks := by
  unfold insertNew
  split <;> simp_all

theorem nodup_foldr_insertNew (ks : List Keyword) : (ks.foldr insertNew []).Nodup := by
  induction ks with
  | nil => exact List.nodup_nil
  | cons k ks ih => exact nodup_insertNew ih

/-- The standard keywords and those of a list. -/
def ofList (ks : List Keyword) : KeywordTable :=
  ⟨(Keyword.standard ++ ks).foldr insertNew [], nodup_foldr_insertNew _⟩

/-- The number of keywords. -/
def size (t : KeywordTable) : Nat := t.keywords.length

/-- Whether there is no keyword. -/
def isEmpty (t : KeywordTable) : Bool := t.keywords.isEmpty

/-- The keyword whose spelling a word is, in any case. -/
def find? (t : KeywordTable) (word : String) : Option Keyword :=
  let spelling := String.ofList (upper word.toList)
  t.keywords.find? (·.text == spelling)

/-- The keywords of the table, with every symbol by its spelling. -/
def toDictionary (t : KeywordTable) : Dictionary := ⟨t.find?, Symbol.ofText?⟩

/-- A table holds the standard keywords and those it was made from. -/
@[simp] theorem mem_keywords_ofList {k : Keyword} {ks : List Keyword} :
    k ∈ (ofList ks).keywords ↔ k ∈ Keyword.standard ∨ k ∈ ks := by
  have key : ∀ l : List Keyword, k ∈ l.foldr insertNew [] ↔ k ∈ l := by
    intro l
    induction l with
    | nil => simp
    | cons a l ih => simp [ih]
  rw [ofList, key, List.mem_append]

/-- A word with a keyword is its spelling, in some case. -/
theorem text_of_find? {t : KeywordTable} {word : String} {k : Keyword} (h : t.find? word = some k) :
    k.text.toList = upper word.toList := by
  have ht : k.text = String.ofList (upper word.toList) := by simpa using List.find?_some h
  rw [ht, String.toList_ofList]

end KeywordTable

namespace Dialect

/-- The keywords that a dialect recognises. -/
def keywordTable (d : Dialect) : KeywordTable := .ofList d.keywords

/-- The dictionary of a dialect. -/
def dictionary (d : Dialect) : Dictionary := d.keywordTable.toDictionary

end Dialect

end SqlLexis
