import SqlLexis.Proofs.Lexeme.Cut

/-!
# How tokens are written

`Token.Written` lists the texts that stand for a token in a statement, and by `begins_of_front`
the token in front of a text is written there as one of them.
-/

namespace SqlLexis

namespace Token

/-- The texts that stand for a token in a statement: its value, and around that of a character
string a quote, which in one dialect may have an `N` before it. -/
inductive Written (dialect : Dialect) (t : Token) : Text → Prop where
  | plain (ht : t.type ≠ .literal .chars) (he : t.type.isEnd = false) :
    Written dialect t t.value.toList
  | chars {q : Char} (ht : t.type = .literal .chars) (hq : q = '\'' ∨ q = '"') :
    Written dialect t (q :: t.value.toList ++ [q])
  | national (ht : t.type = .literal .chars) (hd : dialect = .sqlServer) :
    Written dialect t ('N' :: '\'' :: t.value.toList ++ ['\''])

/-- A text begins with a token as it is written, which ends there. -/
def Begins (dialect : Dialect) (s : Text) (t : Token) : Prop :=
  ∃ text after, s = text ++ after ∧ text ≠ [] ∧ t.endOffset = text.length ∧ t.Written dialect text

variable {t : Token}

/-- The end of the input is not written. -/
theorem Written.isEnd {dialect : Dialect} {text : Text} (h : t.Written dialect text) :
    t.type.isEnd = false := by
  cases h with
  | plain _ he => exact he
  | chars ht => rw [ht]; rfl
  | national ht => rw [ht]; rfl

/-- A token other than a character string is written as its value. -/
theorem Written.eq_value {dialect : Dialect} {text : Text} (h : t.Written dialect text)
    (hc : t.type ≠ .literal .chars) : text = t.value.toList := by
  cases h with
  | plain => rfl
  | chars ht => exact absurd ht hc
  | national ht => exact absurd ht hc

theorem Written.shift {dialect : Dialect} {text : Text} (h : t.Written dialect text) (k : Nat) :
    (t.shift k).Written dialect text := by
  cases h with
  | plain ht he => exact .plain ht he
  | chars ht hq => exact .chars ht hq
  | national ht hd => exact .national ht hd

end Token

namespace Lexeme

variable {dialect : Dialect} {d : Dictionary} {p : Option Char} {t : Token}

theorem begins_leading {type : TokenType} {s : Text} {n : Nat} (hc : type ≠ .literal .chars)
    (he : type.isEnd = false) (h0 : 0 < n) (hn : n ≤ s.length) :
    (Token.leading type s n).Begins dialect s := by
  have hl : (s.take n).length = n := List.length_take_of_le hn
  refine ⟨s.take n, s.drop n, (List.take_append_drop n s).symm, ?_, hl.symm, ?_⟩
  · intro h
    rw [h, List.length_nil] at hl
    omega
  · have hv : (Token.leading type s n).value.toList = s.take n := String.toList_ofList
    rw [← hv]
    exact .plain hc he

theorem begins_plainWord {s : Text} (h0 : 0 < (plainWord d s).endOffset) :
    (plainWord d s).Begins dialect s := by
  have hw : ∀ w rest, wordType d w rest ≠ .literal .chars ∧ (wordType d w rest).isEnd = false :=
    fun w rest => by
      have h := isWord_wordType (d := d) w rest
      cases ht : wordType d w rest with
      | keyword k => exact ⟨TokenType.noConfusion, rfl⟩
      | literal l =>
        rw [ht] at h
        refine ⟨fun e => ?_, rfl⟩
        cases e
        cases h
      | symbol x => rw [ht] at h; cases h
      | endOfInput => rw [ht] at h; cases h
  exact begins_leading (hw _ _).1 (hw _ _).2 h0 (scan_wordLength.le_length s)

theorem begins_operator {s : Text} (h : operator d s = .ok t) : t.Begins dialect s := by
  rcases of_longestKnown (l := []) (operator_eq_ok_iff.1 h) with h | ⟨k, x, h0, hk, -, rfl⟩
  · cases h
  · have hp : s.takeWhile isOperatorChar <+: s := List.takeWhile_prefix isOperatorChar
    rw [List.nil_append, take_run hk, Nat.zero_add]
    exact begins_leading (fun h => by cases h) rfl h0 (Nat.le_trans hk hp.length_le)

theorem begins_word {c : Char} {s : Text} (hc : isWordStart c = true)
    (h : word d (c :: s) = .ok t) : t.Begins dialect (c :: s) := by
  have hpos : 0 < t.endOffset := endOffset_word_pos hc h
  unfold word at h
  split at h
  · next hq =>
    obtain ⟨body, after, heq, -, -, rfl⟩ := (quotedName_eq_ok_iff hq).1 h
    refine begins_leading (fun h => by cases h) rfl hpos ?_
    rw [heq]
    simp
  · cases h
    exact begins_plainWord hpos

theorem begins_var (c : Char) (s : Text) : (var (c :: s)).Begins dialect (c :: s) := by
  rw [var_eq]
  refine begins_leading (fun h => by cases h) rfl (by omega) ?_
  have := scan_varLength.le_length s
  rw [List.drop_succ_cons, List.drop_zero, List.length_cons]
  omega

theorem begins_hexNumber (c x : Char) (s : Text) :
    (hexNumber (c :: x :: s)).Begins dialect (c :: x :: s) := by
  rw [hexNumber_eq]
  refine begins_leading (fun h => by cases h) rfl (by omega) ?_
  have := scan_hexLength.le_length s
  simp only [List.drop_succ_cons, List.drop_zero, List.length_cons]
  omega

theorem begins_quoted {q : Char} {s : Text} (h : quoted (q :: s) = .ok t)
    (hq : q = '\'' ∨ q = '"') : t.Begins dialect (q :: s) := by
  obtain ⟨q', body, after, heq, -, -, rfl⟩ := quoted_eq_ok_iff.1 h
  obtain ⟨rfl, rfl⟩ := List.cons.inj heq
  refine ⟨q :: body ++ [q], after, by simp, by simp, by simp, ?_⟩
  have hw : Token.Written dialect ⟨.literal .chars, String.ofList body, body.length + 2⟩
      (q :: (String.ofList body).toList ++ [q]) := .chars rfl hq
  rwa [String.toList_ofList] at hw

theorem begins_nationalString {s : Text} (h : quoted ('\'' :: s) = .ok t)
    (hd : dialect = .sqlServer) : (t.shift 1).Begins dialect ('N' :: '\'' :: s) := by
  obtain ⟨q, body, after, heq, -, -, rfl⟩ := quoted_eq_ok_iff.1 h
  obtain ⟨rfl, rfl⟩ := List.cons.inj heq
  refine ⟨'N' :: '\'' :: body ++ ['\''], after, by simp, by simp, ?_, ?_⟩
  · simp only [Token.shift, List.length_append, List.length_cons, List.length_nil]
    omega
  · have hw := Token.Written.national (t := ⟨.literal .chars, String.ofList body,
      1 + (body.length + 2)⟩) rfl hd
    rwa [String.toList_ofList] at hw

/-- The token in front is written as the start of the text up to its end. -/
theorem begins_of_front {s : Text} (h : front dialect d p s = .ok t) (hs : s ≠ []) :
    t.Begins dialect s := by
  obtain ⟨c, s, rfl⟩ := List.exists_cons_of_ne_nil hs
  have hf := Opening.fits_of dialect p c s
  unfold front at h
  cases ho : Opening.of dialect p (c :: s) <;> simp only [ho] at h <;> rw [ho] at hf
  case var =>
    cases h
    exact begins_var c s
  case nationalString =>
    obtain ⟨body, hb⟩ := Opening.drop_of_nationalString ho
    obtain ⟨hn, rfl, -⟩ := hf
    have hd : dialect = .sqlServer := by cases dialect <;> first | rfl | cases hn
    obtain rfl : s = '\'' :: body := hb
    obtain ⟨r, hr, rfl⟩ := ok_of_map h
    exact begins_nationalString hr hd
  case word => exact begins_word hf h
  case hexNumber =>
    cases h
    obtain ⟨-, hx⟩ := hf
    cases s with
    | nil => cases hx
    | cons x s => exact begins_hexNumber c x s
  case number =>
    cases h
    exact begins_leading (by split <;> exact fun h => by cases h) (by split <;> rfl)
      (numberLength_pos hf) (scan_numberLength.le_length _)
  case operator => exact begins_operator h
  case string =>
    have hq : isStringQuote c = true := hf
    exact begins_quoted h (by simpa [isStringQuote] using hq)
  case endOfInput => exact hf.elim
  case unexpected => cases h

end Lexeme

end SqlLexis
