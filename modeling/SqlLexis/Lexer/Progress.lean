import SqlLexis.Lexer.Basic

/-!
# Every token takes the lexer on

A token other than the end of the input takes at least one character, so that reading token after
token comes to an end. The main statements:

* `Cursor.lt_endOffset_of_token`: what is read at a cursor ends behind it, and there was
  something to read, unless it is the end of the input;
* `Lexer.left_lt_of_next`: such a token leaves less to read.
-/

namespace SqlLexis

namespace Lexeme

theorem endOffset_var_pos (s : Text) : 0 < (var s).endOffset := by
  simp only [var, Token.leading]
  split <;> omega

theorem endOffset_hexNumber_pos (s : Text) : 0 < (hexNumber s).endOffset := by
  simp only [hexNumber, Token.leading]
  omega

/-- A character that opens a word and is no quote belongs to the word. -/
theorem isWordChar_of_isWordStart {c : Char} (h : isWordStart c = true) (hq : c ≠ backquote) :
    isWordChar c = true := by
  simp only [isWordStart, Bool.or_eq_true, beq_iff_eq] at h
  simp only [isWordChar, Bool.or_eq_true, beq_iff_eq]
  rcases h with ((h | h) | h) | h <;> simp_all

theorem endOffset_word_pos {d : Dictionary} {c : Char} {rest : Text} {t : Token}
    (hc : isWordStart c = true) (h : word d (c :: rest) = .ok t) : 0 < t.endOffset := by
  unfold word at h
  split at h
  · exact endOffset_quotedName h
  · next hq =>
    have hw := isWordChar_of_isWordStart hc (by simpa using hq)
    cases h
    simp [plainWord, Token.leading, hw]

theorem whole_pos_of_digit {c : Char} (rest : Text) (h : c.isDigit = true) :
    0 < whole (c :: rest) := by
  have hm : c ≠ '-' := by rintro rfl; exact absurd h (by decide)
  have : minus (c :: rest) = 0 := by simp [minus, hm]
  simp only [whole, this, List.drop_zero, digits, List.takeWhile_cons, h, if_true,
    List.length_cons]
  omega

theorem whole_pos_of_minus (rest : Text) : 0 < whole ('-' :: rest) := by
  have : minus ('-' :: rest) = 1 := rfl
  simp only [whole, this]
  omega

theorem whole_dot (rest : Text) : whole ('.' :: rest) = 0 := rfl

/-- A number is not empty where `isNumberStart` sees one. -/
theorem numberLength_pos {previous? : Option Char} {c : Char} {rest : Text}
    (h : Opening.isNumberStart previous? c rest.head? = true) :
    0 < numberLength (c :: rest) := by
  simp only [Opening.isNumberStart, Bool.or_eq_true, Bool.and_eq_true, beq_iff_eq] at h
  rcases h with (h | ⟨⟨rfl, _⟩, _⟩) | ⟨rfl, _⟩
  · have := whole_pos_of_digit rest h
    simp only [numberLength]
    omega
  · simp only [numberLength, whole_dot, List.drop_zero, fraction]
    omega
  · have := whole_pos_of_minus rest
    simp only [numberLength]
    omega

theorem endOffset_longestKnown_pos {d : Dictionary} {run : Text} {start : String} {n : Nat}
    {best : Option Token} {t : Token} (hb : ∀ t ∈ best, 0 < t.endOffset)
    (h : longestKnown d start n best run = some t) : 0 < t.endOffset := by
  induction run generalizing start n best with
  | nil => exact hb t h
  | cons c run ih =>
    unfold longestKnown at h
    refine ih ?_ h
    intro t ht
    split at ht
    · cases ht; simp
    · exact hb t ht

theorem endOffset_operator_pos {d : Dictionary} {s : Text} {t : Token}
    (h : operator d s = .ok t) : 0 < t.endOffset := by
  unfold operator at h
  split at h
  · next ht => cases h; exact endOffset_longestKnown_pos (by simp) ht
  · cases h

end Lexeme

namespace Cursor

theorem ok_of_moveToken {c : Cursor} {r : Except LexError Token} {t : Token}
    (h : c.moveToken r = .ok t) : ∃ t', r = .ok t' ∧ t = t'.shift c.offset := by
  unfold moveToken at h
  split at h
  · next t' => cases h; exact ⟨t', rfl, rfl⟩
  · cases h

theorem error_of_moveToken {c : Cursor} {r : Except LexError Token} {e : LexError}
    (h : c.moveToken r = .error e) : ∃ e', r = .error e' ∧ e = e'.shift c.offset := by
  unfold moveToken at h
  split at h
  · cases h
  · next e' => cases h; exact ⟨e', rfl, rfl⟩

/-- What is read at a cursor is the end of the input or ends behind the cursor. -/
theorem lt_endOffset_of_token {dialect : Dialect} {d : Dictionary} {c : Cursor} {t : Token}
    (h : c.token dialect d = .ok t) (ht : t.type.isEnd = false) :
    c.rest ≠ [] ∧ c.offset < t.endOffset := by
  have hrest : c.rest ≠ [] := by
    intro hr
    simp only [token, opening, hr, Opening.of] at h
    cases h
    simp [Token.atEnd, TokenType.isEnd] at ht
  refine ⟨hrest, ?_⟩
  obtain ⟨x, xs, hx⟩ := List.exists_cons_of_ne_nil hrest
  unfold token at h
  split at h
  · cases h
    have := Lexeme.endOffset_var_pos c.rest
    simp only [var, Token.shift]
    omega
  · obtain ⟨t', h', rfl⟩ := ok_of_moveToken h
    simp only [Token.shift]
    omega
  · next ho =>
    obtain ⟨t', h', rfl⟩ := ok_of_moveToken h
    have hw : isWordStart x = true := by
      simp only [opening, hx, Opening.of] at ho
      repeat' split at ho
      all_goals first | assumption | cases ho
    have := Lexeme.endOffset_word_pos hw (hx ▸ h')
    simp only [Token.shift]
    omega
  · cases h
    have := Lexeme.endOffset_hexNumber_pos c.rest
    simp only [hexNumber, Token.shift]
    omega
  · next ho =>
    cases h
    have hn : Opening.isNumberStart c.previous? x xs.head? = true := by
      simp only [opening, hx, Opening.of] at ho
      repeat' split at ho
      all_goals first | assumption | cases ho
    have := Lexeme.numberLength_pos hn
    simp only [number, Lexeme.number, Token.leading, Token.shift, hx]
    omega
  · obtain ⟨t', h', rfl⟩ := ok_of_moveToken h
    have := Lexeme.endOffset_operator_pos h'
    simp only [Token.shift]
    omega
  · obtain ⟨t', h', rfl⟩ := ok_of_moveToken h
    have := Lexeme.endOffset_quoted h'
    simp only [Token.shift]
    omega
  · cases h
    simp [Token.atEnd, TokenType.isEnd] at ht
  · cases h

end Cursor

namespace Lexer

/-- How many characters are left to read. -/
def left (l : Lexer) : Nat := l.input.length - l.offset

/-- A token other than the end of the input leaves less to read. -/
theorem left_lt_of_next {l : Lexer} {t : Token} (h : l.next.result = .ok t)
    (ht : t.type.isEnd = false) : l.next.lexer.left < l.left := by
  unfold next at h ⊢
  simp only at h ⊢
  split at h
  · cases h
  · unfold read at h ⊢
    split at h
    · next t' ht' =>
      cases h
      simp only
      obtain ⟨hne, hlt⟩ := Cursor.lt_endOffset_of_token ht' ht
      have := List.length_pos_iff.2 hne
      simp only [Cursor.rest, cursor, atToken, afterGap, List.length_drop] at this hlt
      simp only [left, afterToken, atToken, afterGap]
      omega
    · cases h

end Lexer

end SqlLexis
