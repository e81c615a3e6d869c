import SqlLexis.Proofs.SideBySide

/-!
# Keywords move no token

What is a keyword shows only in the types of words. Two dictionaries with the same symbols read a
statement alike token by token, but for words that one of them takes for a keyword and the other
does not, or not for the same one (`answers_rekeyed`). So neither where a token ends, nor whether
there is one, nor the look ahead for `BY` hangs on the keywords.
-/

namespace SqlLexis

/-- The type with every keyword taken for a name. -/
def TokenType.asName : TokenType → TokenType
  | .keyword _ => .literal .identifier
  | type => type

/-- An unquoted word: a letter, `_` or `$`, and characters of words behind it. -/
def IsUnquotedWord (w : Text) : Prop :=
  (∃ c ∈ w.head?, isWordStart c = true) ∧ ∀ c ∈ w, isWordChar c = true

/-- Two spans of the text `s` are the same but for the keyword, and that differs only for a word
about which the dictionaries differ. -/
structure SameBoundary (d d' : Dictionary) (s : Text) (a a' : Span) : Prop where
  start : a.start = a'.start
  value : a.token.value = a'.token.value
  endOffset : a.token.endOffset = a'.token.endOffset
  type : a.token.type.asName = a'.token.type.asName
  word : a.token.type ≠ a'.token.type → IsUnquotedWord (a.source s) ∧
    d.keyword? (String.ofList (a.source s)) ≠ d'.keyword? (String.ofList (a.source s))

variable {dialect : Dialect} {d d' : Dictionary}

theorem TokenType.isEnd_asName (type : TokenType) : type.asName.isEnd = type.isEnd := by
  cases type <;> rfl

theorem SameBoundary.refl (s : Text) (a : Span) : SameBoundary d d' s a a :=
  ⟨rfl, rfl, rfl, rfl, fun h => absurd rfl h⟩

namespace Lexeme

/-! ## Words -/

/-- The dictionary chooses between a keyword and a name, and nothing else about a word. -/
theorem asName_wordType (w rest : Text) :
    (wordType d w rest).asName = .literal .identifier := by
  unfold wordType
  split
  · rfl
  · unfold Dictionary.typeOf
    split <;> rfl

theorem wordType_congr {w : Text}
    (h : d.keyword? (String.ofList w) = d'.keyword? (String.ofList w)) (rest : Text) :
    wordType d w rest = wordType d' w rest := by
  rw [wordType, wordType, Dictionary.typeOf, Dictionary.typeOf, h]

/-- What is read as an unquoted word is one. -/
theorem isUnquotedWord_take {c : Char} {s : Text} (hc : isWordStart c = true) (hq : c ≠ backquote) :
    IsUnquotedWord ((c :: s).take (wordLength (c :: s))) := by
  rw [take_wordLength]
  refine ⟨⟨c, ?_, hc⟩, fun x hx => List.mem_takeWhile_imp hx⟩
  rw [List.takeWhile_cons_of_pos (isWordChar_of_isWordStart hc hq)]
  rfl

theorem sameBoundary_plainWord {s rest : Text} {k : Nat} {c : Char} (hs : s.drop k = c :: rest)
    (hc : isWordStart c = true) (hq : c ≠ backquote) :
    SameBoundary d d' s ⟨k, (plainWord d (c :: rest)).shift k⟩
      ⟨k, (plainWord d' (c :: rest)).shift k⟩ := by
  rw [plainWord_eq, plainWord_eq]
  refine ⟨rfl, rfl, rfl, ?_, fun hne => ?_⟩
  · exact (asName_wordType _ _).trans (asName_wordType _ _).symm
  · rw [Span.source_shift, hs]
    exact ⟨isUnquotedWord_take hc hq, fun h => hne (wordType_congr h _)⟩

/-! ## Operators -/

/-- Of a dictionary the symbols count for an operator. -/
theorem longestKnown_congr (h : ∀ t, d.symbol? t = d'.symbol? t) (start : String) (n : Nat)
    (best : Option Token) (run : Text) :
    longestKnown d start n best run = longestKnown d' start n best run := by
  induction run generalizing start n best with
  | nil => rfl
  | cons c run ih => rw [longestKnown, longestKnown, h, ih]

theorem operator_congr (h : ∀ t, d.symbol? t = d'.symbol? t) (s : Text) :
    operator d s = operator d' s := by
  rw [operator, operator, longestKnown_congr h]

/-! ## The token in front -/

theorem front_rekeyed (h : ∀ t, d.symbol? t = d'.symbol? t) (p : Option Char) (s : Text) (k : Nat) :
    Alike (fun t t' => SameBoundary d d' s ⟨k, t.shift k⟩ ⟨k, t'.shift k⟩)
      (front dialect d p (s.drop k)) (front dialect d' p (s.drop k)) := by
  have same : ∀ r : Except LexError Token,
      Alike (fun t t' => SameBoundary d d' s ⟨k, t.shift k⟩ ⟨k, t'.shift k⟩) r r := fun r =>
    match r with
    | .error e => .error e
    | .ok _ => .ok (.refl _ _)
  cases hs : s.drop k with
  | nil => exact same _
  | cons c rest =>
    have hf := Opening.fits_of dialect p c rest
    rw [front, front]
    cases ho : Opening.of dialect p (c :: rest) <;> rw [ho] at hf
    case word =>
      simp only [word, List.head?_cons, Option.some.injEq]
      by_cases hq : c = backquote
      · simp only [if_pos hq]
        exact same _
      · simp only [if_neg hq]
        exact .ok (sameBoundary_plainWord hs hf hq)
    case operator =>
      simp only [operator_congr h]
      exact same _
    all_goals exact same _

end Lexeme

/-! ## All answers -/

theorem inStep_rekeyed (h : ∀ t, d.symbol? t = d'.symbol? t) (s : Text) :
    InStep dialect dialect d d' s s (SameBoundary d d' s) where
  skip _ := rfl
  place _ := rfl
  front k := Lexeme.front_rekeyed h _ s k
  ends a a' hS := by
    refine ⟨hS.endOffset, ?_⟩
    rw [← a.token.type.isEnd_asName, hS.type, TokenType.isEnd_asName]

/-- Two dictionaries with the same symbols lead to the same tokens, but for the keywords on which
they differ, or to the same error. -/
theorem answers_rekeyed (sql : String) (dialect : Dialect)
    (h : ∀ t, d.symbol? t = d'.symbol? t) :
    List.Forall₂ (Alike (SameBoundary d d' sql.toList))
      (Lexer.withDictionary sql dialect d).answers
      (Lexer.withDictionary sql dialect d').answers := by
  rw [Lexer.answers_withDictionary, Lexer.answers_withDictionary]
  exact (inStep_rekeyed h sql.toList).answers 0

/-- `LIMIT` is a keyword of one dialect and no keyword of the other. -/
theorem answers_rekeyed_limit :
    let sql := "select a limit 5"
    (∀ t, Dialect.mySql.dictionary.symbol? t = Dialect.oracle.dictionary.symbol? t) ∧
      List.Forall₂
        (Alike (SameBoundary Dialect.mySql.dictionary Dialect.oracle.dictionary sql.toList))
        (Lexer.withDictionary sql .mySql Dialect.mySql.dictionary).answers
        (Lexer.withDictionary sql .mySql Dialect.oracle.dictionary).answers := by
  intro sql
  have h : ∀ t, Dialect.mySql.dictionary.symbol? t = Dialect.oracle.dictionary.symbol? t :=
    fun _ => rfl
  exact ⟨h, answers_rekeyed sql .mySql h⟩

end SqlLexis
