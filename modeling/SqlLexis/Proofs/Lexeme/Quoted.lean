import SqlLexis.Lexeme.Quoted
import SqlLexis.Lexeme.Operator

/-!
# Quotes and operators

The two lexemes whose end is searched for: a quoted one ends at the first quote that is not
doubled, and an operator with the longest start of its run that is known.

* `quoted_eq_ok_iff`, `quotedName_eq_ok_iff`: what is read between quotes is a `QuotedBody`;
* `quoted_eq_error_iff`, `quotedName_eq_error_iff`: nothing is read where the text is not `Closed`;
* `quotedBody_doubled`: every text is one once its quotes are doubled;
* `of_longestKnown`, `longestKnown_of_append`: what the search in a run finds, and that it finds
  the same in every part of the run that holds the find;
* `of_longestKnown_none`: when it finds nothing.
-/

namespace SqlLexis.Lexeme

/-- What may stand between two quotes: characters other than the quote, and doubled quotes. -/
inductive QuotedBody (q : Char) : Text → Prop where
  | nil : QuotedBody q []
  | char {c : Char} {s : Text} (hc : c ≠ q) (hs : QuotedBody q s) : QuotedBody q (c :: s)
  | pair {s : Text} (hs : QuotedBody q s) : QuotedBody q (q :: q :: s)

/-- A text with every quote doubled. -/
def doubled (q : Char) (s : Text) : Text := s.flatMap fun c => if c = q then [q, q] else [c]

theorem quotedBody_doubled (q : Char) (s : Text) : QuotedBody q (doubled q s) := by
  induction s with
  | nil => exact .nil
  | cons c s ih =>
    rw [doubled, List.flatMap_cons]
    by_cases hc : c = q
    · rw [if_pos hc]; exact .pair ih
    · rw [if_neg hc]; exact .char hc ih

theorem beforeQuote_of_ne {q c : Char} (hc : c ≠ q) (n : Nat) (s : Text) :
    beforeQuote q n (c :: s) = beforeQuote q (n + 1) s := by
  rw [beforeQuote.eq_def]
  exact if_neg hc

theorem beforeQuote_pair (q : Char) (n : Nat) (s : Text) :
    beforeQuote q n (q :: q :: s) = beforeQuote q (n + 2) s := by
  rw [beforeQuote.eq_def]
  simp only [if_true]

theorem beforeQuote_quote {q : Char} {s : Text} (hs : s.head? ≠ some q) (n : Nat) :
    beforeQuote q n (q :: s) = some n := by
  rw [beforeQuote.eq_def]
  cases s with
  | nil => simp only [if_true]
  | cons c s =>
    have hc : c ≠ q := by simpa using hs
    simp only [if_true, if_neg hc]

theorem beforeQuote_append {q : Char} {body after : Text} (hb : QuotedBody q body)
    (ha : after.head? ≠ some q) (n : Nat) :
    beforeQuote q n (body ++ q :: after) = some (n + body.length) := by
  induction hb generalizing n with
  | nil => exact beforeQuote_quote ha n
  | char hc _ ih =>
    rw [List.cons_append, beforeQuote_of_ne hc, ih, List.length_cons, Nat.add_right_comm,
      Nat.add_assoc]
  | pair _ ih =>
    rw [List.cons_append, List.cons_append, beforeQuote_pair, ih, List.length_cons,
      List.length_cons]
    congr 1; omega

theorem of_beforeQuote {q : Char} {n m : Nat} {s : Text} (h : beforeQuote q n s = some m) :
    ∃ body after, s = body ++ q :: after ∧ QuotedBody q body ∧ after.head? ≠ some q ∧
      m = n + body.length := by
  fun_induction beforeQuote q n s with
  | case1 => cases h
  | case2 n => cases h; exact ⟨[], [], rfl, .nil, by simp, rfl⟩
  | case3 n rest ih =>
    obtain ⟨body, after, rfl, hb, ha, rfl⟩ := ih h
    exact ⟨q :: q :: body, after, rfl, .pair hb, ha, by simp only [List.length_cons]; omega⟩
  | case4 n c rest hc => cases h; exact ⟨[], c :: rest, rfl, .nil, by simpa using hc, rfl⟩
  | case5 n c rest hc ih =>
    obtain ⟨body, after, rfl, hb, ha, rfl⟩ := ih h
    exact ⟨c :: body, after, rfl, .char hc hb, ha, by simp only [List.length_cons]; omega⟩

/-- A text behind an opening quote in which the quote is closed: a body, and a quote that is not
doubled. -/
def Closed (q : Char) (s : Text) : Prop :=
  ∃ body after, s = body ++ q :: after ∧ QuotedBody q body ∧ after.head? ≠ some q

theorem beforeQuote_eq_none_iff {q : Char} {n : Nat} {s : Text} :
    beforeQuote q n s = none ↔ ¬ Closed q s := by
  constructor
  · rintro h ⟨body, after, rfl, hb, ha⟩
    rw [beforeQuote_append hb ha] at h
    cases h
  · intro h
    cases hm : beforeQuote q n s with
    | none => rfl
    | some m =>
      obtain ⟨body, after, rfl, hb, ha, -⟩ := of_beforeQuote hm
      exact absurd ⟨body, after, rfl, hb, ha⟩ h

/-- Behind an opening quote there is no character string if the quote is not closed. -/
theorem quoted_eq_error_iff {q : Char} {s : Text} {e : LexError} :
    quoted (q :: s) = .error e ↔ e = .unterminatedLiteral q ∧ ¬ Closed q s := by
  rw [← beforeQuote_eq_none_iff (n := 0), quoted]
  cases beforeQuote q 0 s with
  | none => simp [eq_comm]
  | some n => simp

/-- Nor is there a quoted identifier. -/
theorem quotedName_eq_error_iff {s : Text} {e : LexError} :
    quotedName (backquote :: s) = .error e ↔
      e = .unterminatedLiteral backquote ∧ ¬ Closed backquote s := by
  rw [← beforeQuote_eq_none_iff (n := 0), quotedName, List.drop_succ_cons, List.drop_zero]
  cases beforeQuote backquote 0 s with
  | none => simp [eq_comm]
  | some n => simp

/-- A character string is a quote, a body and the quote once more, and no third one after it. -/
theorem quoted_eq_ok_iff {s : Text} {t : Token} :
    quoted s = .ok t ↔ ∃ q body after, s = q :: body ++ q :: after ∧ QuotedBody q body ∧
      after.head? ≠ some q ∧ t = ⟨.literal .chars, String.ofList body, body.length + 2⟩ := by
  constructor
  · intro h
    cases s with
    | nil => cases h
    | cons q s =>
      simp only [quoted] at h
      split at h
      · next n hn =>
        obtain ⟨body, after, rfl, hb, ha, rfl⟩ := of_beforeQuote hn
        cases h
        refine ⟨q, body, after, rfl, hb, ha, ?_⟩
        rw [Nat.zero_add, List.take_left]
      · cases h
  · rintro ⟨q, body, after, rfl, hb, ha, rfl⟩
    simp only [quoted, List.cons_append, beforeQuote_append hb ha, Nat.zero_add, List.take_left]

/-- So is a quoted identifier, which keeps its quotes. -/
theorem quotedName_eq_ok_iff {s : Text} {t : Token} (hs : s.head? = some backquote) :
    quotedName s = .ok t ↔ ∃ body after, s = backquote :: body ++ backquote :: after ∧
      QuotedBody backquote body ∧ after.head? ≠ some backquote ∧
      t = .leading (.literal .identifier) s (body.length + 2) := by
  obtain ⟨c, s, rfl⟩ := List.exists_cons_of_ne_nil (l := s) (by rintro rfl; cases hs)
  obtain rfl : c = backquote := by simpa using hs
  constructor
  · intro h
    simp only [quotedName, List.drop_succ_cons, List.drop_zero] at h
    split at h
    · next n hn =>
      obtain ⟨body, after, rfl, hb, ha, rfl⟩ := of_beforeQuote hn
      cases h
      exact ⟨body, after, rfl, hb, ha, by rw [Nat.zero_add]; rfl⟩
    · cases h
  · rintro ⟨body, after, hs, hb, ha, rfl⟩
    obtain rfl : s = body ++ backquote :: after := by simpa using hs
    simp only [quotedName, List.drop_succ_cons, List.drop_zero, beforeQuote_append hb ha,
      Nat.zero_add]
    rfl

/-! ## The longest known start of a run -/

/-- A start of the run in front is a start of the text. -/
theorem take_run {s : Text} {k : Nat} (hk : k ≤ (s.takeWhile isOperatorChar).length) :
    (s.takeWhile isOperatorChar).take k = s.take k := by
  have hp : s.takeWhile isOperatorChar <+: s := List.takeWhile_prefix isOperatorChar
  rw [List.prefix_iff_eq_take.1 hp, List.take_take, Nat.min_eq_left hk]

/-- What is found is what was found before, or a known start of the run. -/
theorem of_longestKnown {d : Dictionary} {l run : Text} {n : Nat} {best : Option Token}
    {t : Token} (h : longestKnown d (String.ofList l) n best run = some t) :
    best = some t ∨ ∃ k s, 0 < k ∧ k ≤ run.length ∧
      d.symbol? (String.ofList (l ++ run.take k)) = some s ∧
      t = ⟨.symbol s, String.ofList (l ++ run.take k), n + k⟩ := by
  induction run generalizing l n best with
  | nil => exact .inl h
  | cons c run ih =>
    have hp : (String.ofList l).push c = String.ofList (l ++ [c]) := by
      rw [String.ofList_append]; rfl
    rw [longestKnown, hp] at h
    rcases ih h with hb | ⟨k, s, hk, hk', hs, rfl⟩
    · split at hb
      · next s hs =>
        cases hb
        exact .inr ⟨1, s, by omega, by simp, by simpa using hs, by simp⟩
      · exact .inl hb
    · refine .inr ⟨k + 1, s, by omega, by simpa using hk', ?_, ?_⟩
      · simpa using hs
      · simp; omega

/-- Nothing is found if no start of the run is known. -/
theorem of_longestKnown_none {d : Dictionary} {l run : Text} {n : Nat} {best : Option Token}
    (h : longestKnown d (String.ofList l) n best run = none) :
    best = none ∧
      ∀ k, 0 < k → k ≤ run.length → d.symbol? (String.ofList (l ++ run.take k)) = none := by
  induction run generalizing l n best with
  | nil => exact ⟨h, fun k hk hk' => absurd (Nat.le_trans hk hk') (Nat.lt_irrefl 0)⟩
  | cons c run ih =>
    have hp : (String.ofList l).push c = String.ofList (l ++ [c]) := by
      rw [String.ofList_append]; rfl
    rw [longestKnown, hp] at h
    obtain ⟨hb, hk⟩ := ih h
    split at hb
    · cases hb
    · next hs =>
      refine ⟨hb, fun k h0 hle => ?_⟩
      obtain ⟨k, rfl⟩ := Nat.exists_eq_succ_of_ne_zero (Nat.ne_of_gt h0)
      cases k with
      | zero => simpa using hs
      | succ k =>
        have := hk (k + 1) (Nat.succ_pos k) (by simpa using hle)
        simpa using this

/-- A find within the first part of a run is the find of that part alone. -/
theorem longestKnown_of_append {d : Dictionary} {l v w : Text} {n : Nat} {best : Option Token}
    {t : Token} (h : longestKnown d (String.ofList l) n best (v ++ w) = some t)
    (ht : t.endOffset ≤ n + v.length) : longestKnown d (String.ofList l) n best v = some t := by
  induction v generalizing l n best with
  | nil =>
    rcases of_longestKnown h with hb | ⟨k, s, hk, -, -, rfl⟩
    · exact hb
    · simp only [List.length_nil] at ht; omega
  | cons c v ih =>
    have hp : (String.ofList l).push c = String.ofList (l ++ [c]) := by
      rw [String.ofList_append]; rfl
    rw [List.cons_append, longestKnown, hp] at h
    rw [longestKnown, hp]
    exact ih h (by rw [List.length_cons] at ht; omega)

end SqlLexis.Lexeme
