import SqlLexis.Cursor
import SqlLexis.Proofs.Reading

/-!
# Where a quoted lexeme ends

A quoted lexeme in a text goes from a quote to the first quote that is not doubled. `Encloses` says
so in offsets: one quote opens it, between the two there is a body, and no third quote follows.

* `Encloses.unique`: no quoted lexeme has two ends;
* `quoted_encloses`: character strings and quoted identifiers are read exactly up to their end, and
  are reported as unterminated exactly where there is none.
-/

namespace SqlLexis

open Lexeme (QuotedBody Closed)

/-- The quote `q` at an offset and the one before the offset `e` enclose a body, and the second is
not doubled. -/
structure Encloses (q : Char) (s : Text) (offset e : Nat) : Prop where
  opened : s[offset]? = some q
  body : QuotedBody q (s.extract (offset + 1) (e - 1))
  closed : offset + 1 < e ∧ s[e - 1]? = some q
  single : s[e]? ≠ some q

variable {q : Char} {s rest : Text} {offset e : Nat}

theorem drop_of_getElem? {i : Nat} {c : Char} (h : s[i]? = some c) :
    s.drop i = c :: s.drop (i + 1) := by
  obtain ⟨hi, rfl⟩ := List.getElem?_eq_some_iff.1 h
  exact List.drop_eq_getElem_cons hi

theorem extract_of_drop {u v : Text} {i : Nat} (h : s.drop i = u ++ v) :
    s.extract i (i + u.length) = u := by
  rw [List.extract_eq_take_drop, Nat.add_sub_cancel_left, h, List.take_left]

/-- What is enclosed, as parts of the text from the opening quote on. -/
theorem encloses_iff : Encloses q s offset e ↔ ∃ body after,
    s.drop offset = q :: body ++ q :: after ∧ QuotedBody q body ∧ after.head? ≠ some q ∧
      e = offset + (body.length + 2) := by
  constructor
  · intro h
    obtain ⟨hlt, hc⟩ := h.closed
    have hle : e - 1 < s.length := (List.getElem?_eq_some_iff.1 hc).1
    have hsplit : s.extract (offset + 1) (e - 1) ++ s.drop (e - 1) = s.drop (offset + 1) :=
      extract_append_drop (by omega)
    have hclose : s.drop (e - 1) = q :: s.drop e := by
      rw [drop_of_getElem? hc, Nat.sub_add_cancel (by omega)]
    have hlen : (s.extract (offset + 1) (e - 1)).length = e - 1 - (offset + 1) := by
      rw [List.extract_eq_take_drop, List.length_take, List.length_drop]
      omega
    refine ⟨s.extract (offset + 1) (e - 1), s.drop e, ?_, h.body, ?_, by omega⟩
    · rw [drop_of_getElem? h.opened, ← hsplit, hclose]
      rfl
    · rw [List.head?_drop]
      exact h.single
  · rintro ⟨body, after, hs, hb, ha, rfl⟩
    have hbody : s.drop (offset + 1) = body ++ q :: after := by
      rw [← List.drop_drop, hs]
      rfl
    have hclose : s.drop (offset + 1 + body.length) = q :: after := by
      rw [← List.drop_drop, hbody, List.drop_left]
    have hafter : s.drop (offset + 1 + body.length + 1) = after := by
      rw [← List.drop_drop, hclose]
      rfl
    have hextract := extract_of_drop hbody
    have he : offset + (body.length + 2) = offset + 1 + body.length + 1 := by omega
    rw [he]
    constructor
    · rw [← List.head?_drop, hs]
      rfl
    · rw [Nat.add_sub_cancel, hextract]
      exact hb
    · rw [Nat.add_sub_cancel, ← List.head?_drop, hclose]
      exact ⟨by omega, rfl⟩
    · rw [← List.head?_drop, hafter]
      exact ha

/-- No quoted lexeme has two ends. -/
theorem Encloses.unique {e' : Nat} (h : Encloses q s offset e) (h' : Encloses q s offset e') :
    e = e' := by
  obtain ⟨body, after, hs, hb, ha, rfl⟩ := encloses_iff.1 h
  obtain ⟨body', after', hs', hb', ha', rfl⟩ := encloses_iff.1 h'
  have heq : body ++ q :: after = body' ++ q :: after' := by simpa [hs] using hs'
  have hlen := Lexeme.beforeQuote_append hb ha 0
  rw [heq, Lexeme.beforeQuote_append hb' ha' 0, Nat.zero_add, Nat.zero_add,
    Option.some.injEq] at hlen
  rw [hlen]

/-- Behind an opening quote the quote is closed where a lexeme ends. -/
theorem closed_iff_encloses (hs : s.drop offset = q :: rest) :
    Closed q rest ↔ ∃ e, Encloses q s offset e := by
  constructor
  · rintro ⟨body, after, rfl, hb, ha⟩
    exact ⟨_, encloses_iff.2 ⟨body, after, hs, hb, ha, rfl⟩⟩
  · rintro ⟨e, h⟩
    obtain ⟨body, after, hs', hb, ha, -⟩ := encloses_iff.1 h
    exact ⟨body, after, by simpa [hs] using hs', hb, ha⟩

/-- What is read where the quote `q` stands at an offset: the token of what it encloses, by its end,
or the error that it encloses nothing. -/
structure ReadsEnclosed (q : Char) (s : Text) (offset : Nat) (token : Nat → Token)
    (r : Except LexError Token) : Prop where
  ok (t : Token) : r = .ok t ↔ ∃ e, Encloses q s offset e ∧ t = token e
  error (error : LexError) :
    r = .error error ↔ error = .unterminatedLiteral q ∧ ¬ ∃ e, Encloses q s offset e

theorem readsEnclosed {token : Nat → Token} {r : Except LexError Token}
    (hok : ∀ e, Encloses q s offset e → r = .ok (token e))
    (herror : (¬ ∃ e, Encloses q s offset e) → r = .error (.unterminatedLiteral q)) :
    ReadsEnclosed q s offset token r := by
  by_cases h : ∃ e, Encloses q s offset e
  · obtain ⟨e, he⟩ := h
    rw [hok e he]
    constructor
    · intro t
      constructor
      · rintro ⟨⟩
        exact ⟨e, he, rfl⟩
      · rintro ⟨e', he', rfl⟩
        rw [he.unique he']
    · intro error
      constructor
      · rintro ⟨⟩
      · rintro ⟨-, hn⟩
        exact absurd ⟨e, he⟩ hn
  · rw [herror h]
    constructor
    · intro t
      constructor
      · rintro ⟨⟩
      · rintro ⟨e, he, -⟩
        exact absurd ⟨e, he⟩ h
    · intro error
      constructor
      · rintro ⟨⟩
        exact ⟨rfl, h⟩
      · rintro ⟨rfl, -⟩
        rfl

theorem quoted_readsEnclosed (hs : s.drop offset = q :: rest) :
    ReadsEnclosed q s offset
      (fun e => ⟨.literal .chars, String.ofList (s.extract (offset + 1) (e - 1)), e⟩)
      (Cursor.mk s offset).quoted := by
  have hrest : (Cursor.mk s offset).rest = q :: rest := hs
  apply readsEnclosed
  · intro e he
    obtain ⟨body, after, hs', hb, ha, rfl⟩ := encloses_iff.1 he
    have hread := Lexeme.quoted_eq_ok_iff.2 ⟨q, body, after, rfl, hb, ha, rfl⟩
    have hbody : s.drop (offset + 1) = body ++ q :: after := by
      rw [← List.drop_drop, hs']
      rfl
    have hn : offset + (body.length + 2) - 1 = offset + 1 + body.length := by omega
    rw [hn, extract_of_drop hbody, Cursor.quoted, Cursor.rest, hs', hread]
    rfl
  · intro hn
    have hread := Lexeme.quoted_eq_error_iff.2 ⟨rfl, mt (closed_iff_encloses hs).1 hn⟩
    rw [Cursor.quoted, hrest, hread]
    rfl

theorem word_readsEnclosed (hs : s.drop offset = backquote :: rest) (d : Dictionary) :
    ReadsEnclosed backquote s offset
      (fun e => ⟨.literal .identifier, String.ofList (s.extract offset e), e⟩)
      ((Cursor.mk s offset).word d) := by
  have hrest : (Cursor.mk s offset).rest = backquote :: rest := hs
  have hword : (Cursor.mk s offset).word d =
      (Cursor.mk s offset).moveToken (Lexeme.quotedName (backquote :: rest)) := by
    rw [Cursor.word, hrest, Lexeme.word, List.head?_cons, if_pos rfl]
  rw [hword]
  apply readsEnclosed
  · intro e he
    obtain ⟨body, after, hs', hb, ha, rfl⟩ := encloses_iff.1 he
    have hread := (Lexeme.quotedName_eq_ok_iff rfl).2 ⟨body, after, hs ▸ hs', hb, ha, rfl⟩
    rw [hread, List.extract_eq_take_drop, Nat.add_sub_cancel_left, hs]
    rfl
  · intro hn
    have hread := Lexeme.quotedName_eq_error_iff.2 ⟨rfl, mt (closed_iff_encloses hs).1 hn⟩
    rw [hread]
    rfl

/-- At a quote a character string is read exactly if the quote encloses a body, and up to the one
place where it does; its value is that body. An identifier in back quotes is read in the same way,
whatever the dictionary, and keeps its quotes. Past the end of the text there is nothing to read. -/
theorem quoted_encloses (s : Text) (offset : Nat) :
    (∀ q, s[offset]? = some q →
      (∀ e e', Encloses q s offset e → Encloses q s offset e' → e = e') ∧
      ReadsEnclosed q s offset
        (fun e => ⟨.literal .chars, String.ofList (s.extract (offset + 1) (e - 1)), e⟩)
        (Cursor.mk s offset).quoted ∧
      (q = backquote → ∀ d, ReadsEnclosed q s offset
        (fun e => ⟨.literal .identifier, String.ofList (s.extract offset e), e⟩)
        ((Cursor.mk s offset).word d))) ∧
    (s.length ≤ offset → (Cursor.mk s offset).quoted = .error (.unexpectedEnd offset)) := by
  constructor
  · intro q hq
    have hs := drop_of_getElem? hq
    refine ⟨fun e e' he he' => he.unique he', quoted_readsEnclosed hs, ?_⟩
    rintro rfl d
    exact word_readsEnclosed hs d
  · intro hle
    have hrest : (Cursor.mk s offset).rest = [] := List.drop_eq_nil_of_le hle
    rw [Cursor.quoted, hrest]
    rfl

end SqlLexis
