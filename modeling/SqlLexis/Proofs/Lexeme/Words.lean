import SqlLexis.Proofs.Gap.Extent
import SqlLexis.Proofs.Lexeme.Cut
import SqlLexis.Proofs.Lexeme.Regular

/-!
# Keywords and names

An unquoted word is the run of word characters at a cursor, and its type is decided by the
dictionary, and for `ORDER` and `GROUP` by what follows the run.

* `isBeforeBy_drop_iff`: looking ahead in offsets of the text: the place where it looks, and the two
  characters that it wants there;
* `wordType_eq_keyword_iff`, `wordType_eq_identifier_iff`: the type of a word;
* `word_of_front`, `keyword_of_word`, `last_of_word`: what a token with the type of a word is, and
  how it ends;
* `word_reads_run`: the word at a cursor.
-/

namespace SqlLexis

/-- At the first place of a text from the offset `k` on that has no blank stand the two characters
of `BY`, in any case. -/
def ByFollows (s : Text) (k : Nat) : Prop :=
  ∃ j, IsLeast {i | k ≤ i ∧ ∀ x ∈ s[i]?, isBlank x = false} j ∧
    ∃ a b, s[j]? = some a ∧ s[j + 1]? = some b ∧ sameWord [a, b] Keyword.BY.text.toList = true

/-- The word `w` before the offset `e` of a text is the keyword `k`: the dictionary knows it, and
`BY` follows if it is `ORDER` or `GROUP` in any case. -/
structure IsKeyword (d : Dictionary) (s w : Text) (e : Nat) (k : Keyword) : Prop where
  known : d.keyword? (String.ofList w) = some k
  byFollows : sameWord w Keyword.ORDER.text.toList = true ∨
    sameWord w Keyword.GROUP.text.toList = true → ByFollows s e

/-- The token of a word at a cursor: its value is the word, it ends where the word does, and it is a
keyword or a name. -/
structure Cursor.ReadsWord (d : Dictionary) (c : Cursor) (w : Text) (t : Token) : Prop where
  value : t.value = String.ofList w
  endOffset : t.endOffset = c.offset + w.length
  keyword (k : Keyword) : t.type = .keyword k ↔ IsKeyword d c.input w (c.offset + w.length) k
  identifier : t.type = .literal .identifier ↔
    ∀ k, ¬ IsKeyword d c.input w (c.offset + w.length) k

namespace Lexeme

variable {d : Dictionary} {s w rest : Text} {k : Nat}

/-! ## Looking ahead -/

theorem dropWhile_isBlank (s : Text) : s.dropWhile isBlank = s.drop (Gap.blanks s) := by
  have h := congrArg (List.drop (Gap.blanks s)) (s.takeWhile_append_dropWhile (p := isBlank))
  rwa [Gap.blanks, List.drop_left] at h

/-- What is looked at are the two characters behind the blanks. -/
theorem isBeforeBy_iff : isBeforeBy s = true ↔ ∃ a b, s[Gap.blanks s]? = some a ∧
    s[Gap.blanks s + 1]? = some b ∧ sameWord [a, b] Keyword.BY.text.toList = true := by
  have hget : ∀ i, s[Gap.blanks s + i]? = (s.dropWhile isBlank)[i]? := fun i => by
    rw [dropWhile_isBlank, List.getElem?_drop]
  have h0 := hget 0
  rw [Nat.add_zero] at h0
  rw [h0, hget 1, isBeforeBy]
  match s.dropWhile isBlank with
  | [] => simp
  | [a] => simp
  | a :: b :: t => simp

theorem isBeforeBy_drop_iff : isBeforeBy (s.drop k) = true ↔ ByFollows s k := by
  have hleast : IsLeast {i | k ≤ i ∧ ∀ x ∈ s[i]?, isBlank x = false} (k + Gap.blanks (s.drop k)) :=
    Cursor.isLeast_skipBlanks ⟨s, k⟩
  rw [isBeforeBy_iff, List.getElem?_drop, List.getElem?_drop]
  constructor
  · intro h
    exact ⟨_, hleast, h⟩
  · rintro ⟨j, hj, h⟩
    rwa [hj.unique hleast] at h

/-! ## The type of a word -/

theorem awaitsBy_iff : awaitsBy w = true ↔ sameWord w Keyword.ORDER.text.toList = true ∨
    sameWord w Keyword.GROUP.text.toList = true := by
  rw [awaitsBy, Bool.or_eq_true]

theorem wordType_eq_keyword_iff {j : Keyword} : wordType d w rest = .keyword j ↔
    d.keyword? (String.ofList w) = some j ∧ (awaitsBy w = true → isBeforeBy rest = true) := by
  unfold wordType Dictionary.typeOf
  cases awaitsBy w <;> cases isBeforeBy rest <;> cases d.keyword? (String.ofList w) <;> simp

/-- A word that is no keyword is a name. -/
theorem wordType_eq_identifier_iff : wordType d w rest = .literal .identifier ↔
    ∀ j, wordType d w rest ≠ .keyword j := by
  have hw := isWord_wordType (d := d) w rest
  generalize wordType d w rest = type at hw
  constructor
  · rintro rfl j ⟨⟩
  · intro h
    cases type with
    | keyword j => exact absurd rfl (h j)
    | literal l => cases l <;> first | rfl | cases hw
    | symbol x => cases hw
    | endOfInput => cases hw

theorem wordType_drop_eq_keyword_iff {j : Keyword} :
    wordType d w (s.drop k) = .keyword j ↔ IsKeyword d s w k j := by
  rw [wordType_eq_keyword_iff, awaitsBy_iff, isBeforeBy_drop_iff]
  exact ⟨fun h => ⟨h.1, h.2⟩, fun h => ⟨h.known, h.byFollows⟩⟩

/-! ## Words among the tokens -/

variable {dialect : Dialect} {p : Option Char} {c : Char} {t : Token}

/-- Only what is read as a word has the type of one. -/
theorem word_of_front (h : front dialect d p s = .ok t) (ht : t.type.isWord = true) :
    ∃ c v, s = c :: v ∧ isWordStart c = true ∧ word d s = .ok t := by
  have other : t.type.isWord ≠ false := by rw [ht]; exact Bool.noConfusion
  cases s with
  | nil => cases h; cases ht
  | cons c s =>
    have hf := Opening.fits_of dialect p c s
    unfold front at h
    cases ho : Opening.of dialect p (c :: s) <;> simp only [ho] at h <;> rw [ho] at hf
    case var => cases h; cases ht
    case nationalString =>
      obtain ⟨q, hq, rfl⟩ := ok_of_map h
      exact absurd (isWord_of_quoted hq) other
    case word => exact ⟨c, s, rfl, hf, h⟩
    case hexNumber => cases h; cases ht
    case number =>
      cases h
      simp only [number, Token.leading] at ht
      split at ht <;> cases ht
    case operator => exact absurd (isWord_of_operator h) other
    case string => exact absurd (isWord_of_quoted h) other
    case endOfInput => exact hf.elim
    case unexpected => cases h

/-- The dictionary knows every word that is a keyword. -/
theorem keyword_of_word {j : Keyword} (h : word d s = .ok t) (ht : t.type = .keyword j) :
    d.keyword? t.value = some j := by
  unfold word at h
  split at h
  · next hq =>
    obtain ⟨body, after, -, -, -, rfl⟩ := (quotedName_eq_ok_iff hq).1 h
    cases ht
  · cases h
    rw [plainWord_eq] at ht ⊢
    exact (wordType_eq_keyword_iff.1 ht).1

/-- A word ends with a character of words, or with the quote that closes it. -/
theorem last_of_word (hc : isWordStart c = true) (h : word d (c :: s) = .ok t) :
    ∃ x ∈ t.value.toList.getLast?, isWordChar x = true ∨ x = backquote := by
  unfold word at h
  split at h
  · next hq =>
    obtain ⟨body, after, heq, -, -, rfl⟩ := (quotedName_eq_ok_iff hq).1 h
    have hs : c :: s = backquote :: (body ++ [backquote]) ++ after := by simp [heq]
    have hv : (c :: s).take (body.length + 2) = backquote :: (body ++ [backquote]) := by
      rw [hs, List.take_left' (by simp)]
    refine ⟨backquote, ?_, .inr rfl⟩
    rw [Token.leading, String.toList_ofList, hv, ← List.cons_append, List.getLast?_append]
    rfl
  · next hq =>
    cases h
    rw [plainWord_eq, String.toList_ofList, take_wordLength]
    have hne : (c :: s).takeWhile isWordChar ≠ [] := by
      rw [List.takeWhile_cons_of_pos (isWordChar_of_isWordStart hc (by simpa using hq))]
      exact List.cons_ne_nil _ _
    refine ⟨_, List.getLast?_eq_some_getLast hne, .inl ?_⟩
    exact List.mem_takeWhile_imp (List.getLast_mem hne)

theorem not_isAlpha_of_isDigit (h : c.isDigit = true) : c.isAlpha = false := by
  have hall : (Pattern.between '0' '9').all (fun x => !x.isAlpha) = true := by decide
  exact Bool.not_eq_true' _ ▸ List.all_eq_true.1 hall c (mem_digits.1 h)

/-- Of the characters with which a word may end, digits and `#` do not begin one. -/
theorem isWordStart_eq_false_iff (h : isWordChar c = true ∨ c = backquote) :
    isWordStart c = false ↔ c.isDigit = true ∨ c = '#' := by
  rcases h with h | rfl
  · simp only [isWordChar, Bool.or_eq_true, beq_iff_eq] at h
    simp only [isWordStart, Bool.or_eq_false_iff, beq_eq_false_iff_ne]
    rcases h with (((h | h) | rfl) | rfl) | rfl
    · have hn : c.isDigit ≠ true := fun hd => by
        rw [not_isAlpha_of_isDigit hd] at h
        cases h
      have hs : c ≠ '#' := by rintro rfl; cases h
      simp [h, hn, hs]
    · have hb : c ≠ backquote ∧ c ≠ '_' ∧ c ≠ '$' := by
        refine ⟨?_, ?_, ?_⟩ <;> rintro rfl <;> cases h
      simp [h, not_isAlpha_of_isDigit h, hb]
    all_goals decide
  · decide

end Lexeme

/-- At a cursor before anything but a back quote a word is read, whatever the dictionary: it is the
run of word characters there, which may be empty, and what follows is not taken. It is the keyword
that the dictionary knows, unless it is `ORDER` or `GROUP` and no `BY` follows, and a name if it is
no keyword. -/
theorem word_reads_run (d : Dictionary) {c : Cursor} (hc : c.input[c.offset]? ≠ some backquote) :
    ∃ t, c.word d = .ok t ∧ c.ReadsWord d (c.rest.takeWhile isWordChar) t := by
  let w := c.rest.takeWhile isWordChar
  have hw : c.rest.take w.length = w :=
    (List.prefix_iff_eq_take.1 (List.takeWhile_prefix isWordChar)).symm
  have htype : ∀ k, Lexeme.wordType d w (c.rest.drop w.length) = .keyword k ↔
      IsKeyword d c.input w (c.offset + w.length) k := fun k => by
    rw [Cursor.rest, List.drop_drop]
    exact Lexeme.wordType_drop_eq_keyword_iff
  have hhead : c.rest.head? ≠ some backquote := by rwa [Cursor.rest, List.head?_drop]
  refine ⟨(Lexeme.plainWord d c.rest).shift c.offset, ?_, ?_, rfl, htype, ?_⟩
  · rw [Cursor.word, Lexeme.word, if_neg hhead]
    rfl
  · exact congrArg String.ofList hw
  · have hid : Lexeme.wordType d w (c.rest.drop w.length) = .literal .identifier ↔
        ∀ k, Lexeme.wordType d w (c.rest.drop w.length) ≠ .keyword k :=
      Lexeme.wordType_eq_identifier_iff
    simp only [ne_eq, htype] at hid
    exact hid

/-- Past two blanks `GROUP` is before a word that begins with `BY`. -/
theorem word_reads_run_group :
    let c : Cursor := ⟨"xGROUP\u00a0\nbyte".toList, 1⟩
    let d := Dialect.oracle.dictionary
    let t : Token := ⟨.keyword .GROUP, "GROUP", 6⟩
    c.input[c.offset]? ≠ some backquote ∧ c.word d = .ok t ∧
      c.ReadsWord d (c.rest.takeWhile isWordChar) t := by
  intro c d t
  have hc : c.input[c.offset]? ≠ some backquote := by decide
  have ht : c.word d = .ok t := by decide +kernel
  obtain ⟨t', ht', hreads⟩ := word_reads_run d hc
  rw [Except.ok.inj (ht'.symm.trans ht)] at hreads
  exact ⟨hc, ht, hreads⟩

end SqlLexis
