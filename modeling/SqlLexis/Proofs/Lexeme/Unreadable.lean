import SqlLexis.Proofs.Lexeme.Front

/-!
# Where no token can be read

`Unreadable` says in terms of the text alone where there is no token in front, and why: a quoted
lexeme is not closed, no token begins with the first character, or the dictionary knows no start of
the operator characters.

* `unreadable_of_front`: an error is one of these;
* `front_of_leftOpen`, `front_of_foreign`: what is not closed and what begins no token are errors in
  every dictionary;
* `opening_eq_unexpected_iff`: no token begins with a `Foreign` character, and with every other.
-/

namespace SqlLexis.Lexeme

variable {dialect : Dialect} {d : Dictionary} {p : Option Char}

/-- A quoted lexeme in front that is not closed, with its quote. -/
inductive LeftOpen (dialect : Dialect) : Char → Text → Prop where
  | quoted {q : Char} {body : Text} (hq : q ∈ ['\'', '"', backquote]) (hb : ¬ Closed q body) :
    LeftOpen dialect q (q :: body)
  | national {body : Text} (hd : dialect = .sqlServer) (hb : ¬ Closed '\'' body) :
    LeftOpen dialect '\'' ('N' :: '\'' :: body)

/-- A character with which no token begins: no letter, digit or quote, none that opens a word and
none of operators, nor the marker of a variable where there are variables. -/
def Foreign (dialect : Dialect) (c : Char) : Prop :=
  c.isAlpha = false ∧ c.isDigit = false ∧ c ∉ ['_', '$', backquote, '\'', '"'] ∧
    c ∉ operatorChars ∧ (c = '@' → dialect ≠ .mySql ∧ dialect ≠ .sqlServer)

/-- The dictionary has no symbol for any start of the operator characters in front. -/
def Unknown (d : Dictionary) (s : Text) : Prop :=
  ∀ k, 0 < k → k ≤ (s.takeWhile isOperatorChar).length →
    d.symbol? (String.ofList (s.take k)) = none

/-- Why there is no token in front of a text. -/
inductive Unreadable (dialect : Dialect) (d : Dictionary) : Text → LexError → Prop where
  | literal {q : Char} {s : Text} (h : LeftOpen dialect q s) :
    Unreadable dialect d s (.unterminatedLiteral q)
  | char {c : Char} {s : Text} (h : Foreign dialect c) :
    Unreadable dialect d (c :: s) (.unexpectedChar c 1 1)
  | symbol {c : Char} {s : Text} (hc : c ∈ operatorChars) (h : Unknown d (c :: s)) :
    Unreadable dialect d (c :: s) (.unknownSymbol (some c) 0)

theorem foreign_iff {c : Char} : Foreign dialect c ↔ isWordStart c = false ∧ c.isDigit = false ∧
    isStringQuote c = false ∧ isOperatorChar c = false ∧
    (dialect.hasVariables && c == '@') = false := by
  have hv : (c = '@' → dialect ≠ .mySql ∧ dialect ≠ .sqlServer) ↔
      (dialect.hasVariables && c == '@') = false := by
    cases dialect <;> simp [Dialect.hasVariables]
  have ho : c ∉ operatorChars ↔ isOperatorChar c = false := by
    rw [isOperatorChar, ← Bool.not_eq_true, List.contains_iff_mem]
  rw [Foreign, hv, ho]
  simp only [isWordStart, isStringQuote, List.mem_cons, List.not_mem_nil, or_false, not_or,
    Bool.or_eq_false_iff, beq_eq_false_iff_ne, ne_eq]
  grind

/-- No token begins with a foreign character, and one does with every other. -/
theorem opening_eq_unexpected_iff {c c' : Char} {s : Text} :
    Opening.of dialect p (c :: s) = .unexpected c' ↔ c' = c ∧ Foreign dialect c := by
  have hw : c = 'N' → isWordStart c = true := by rintro rfl; decide
  have hx : c = '0' → c.isDigit = true := by rintro rfl; decide
  -- A dot and a minus sign are operator characters, so whatever stands behind them they begin a
  -- token.
  have hn : Opening.isNumberStart p c s.head? = true →
      c.isDigit = true ∨ isOperatorChar c = true := by
    simp only [Opening.isNumberStart, Bool.or_eq_true, Bool.and_eq_true, beq_iff_eq]
    rintro ((h | ⟨⟨rfl, -⟩, -⟩) | ⟨rfl, -⟩)
    · exact .inl h
    · exact .inr rfl
    · exact .inr rfl
  have hd : c.isDigit = true → Opening.isNumberStart p c s.head? = true := fun h => by
    simp [Opening.isNumberStart, h]
  rw [foreign_iff, Opening.of]
  grind

theorem front_of_foreign {c : Char} {s : Text} (hc : s.head? = some c) (h : Foreign dialect c) :
    front dialect d p s = .error (.unexpectedChar c 1 1) := by
  obtain ⟨s, rfl⟩ := List.head?_eq_some_iff.1 hc
  rw [front, opening_eq_unexpected_iff.2 ⟨rfl, h⟩]

theorem front_of_leftOpen {q : Char} {s : Text} (h : LeftOpen dialect q s) :
    front dialect d p s = .error (.unterminatedLiteral q) := by
  cases h with
  | @quoted _ body hq hb =>
    simp only [List.mem_cons, List.not_mem_nil, or_false, ← or_assoc] at hq
    rcases hq with hq | rfl
    · rw [front, opening_of_quote hq]
      exact quoted_eq_error_iff.2 ⟨rfl, hb⟩
    · have ho : Opening.of dialect p (backquote :: body) = .word := by
        cases dialect <;> rfl
      rw [front, ho]
      exact quotedName_eq_error_iff.2 ⟨rfl, hb⟩
  | @national body hd hb =>
    subst hd
    have ho : Opening.of .sqlServer p ('N' :: '\'' :: body) = .nationalString := rfl
    have hq := quoted_eq_error_iff.2 ⟨rfl, hb⟩
    rw [front, ho]
    simp only [List.drop_succ_cons, List.drop_zero, hq]
    rfl

/-- An error in front has one of the three reasons. -/
theorem unreadable_of_front {s : Text} {e : LexError} (h : front dialect d p s = .error e) :
    Unreadable dialect d s e := by
  cases s with
  | nil => cases h
  | cons c s =>
    have hf := Opening.fits_of dialect p c s
    unfold front at h
    cases ho : Opening.of dialect p (c :: s) <;> simp only [ho] at h <;> rw [ho] at hf
    case nationalString =>
      obtain ⟨hn, rfl, hq⟩ := hf
      obtain ⟨body, rfl⟩ : ∃ body, s = '\'' :: body := Opening.drop_of_nationalString ho
      obtain ⟨rfl, hb⟩ := quoted_eq_error_iff.1 (error_of_map h)
      have hd : dialect = .sqlServer := by cases dialect <;> first | rfl | cases hn
      exact .literal (.national hd hb)
    case word =>
      unfold word at h
      split at h
      · next hq =>
        obtain rfl : c = backquote := by simpa using hq
        obtain ⟨rfl, hb⟩ := quotedName_eq_error_iff.1 h
        exact .literal (.quoted (by simp) hb)
      · cases h
    case operator =>
      unfold operator at h
      split at h
      · cases h
      · next hnone =>
        cases h
        refine .symbol (List.contains_iff_mem.1 hf) fun k h0 hk => ?_
        have hk' := (of_longestKnown_none (l := []) hnone).2 k h0 hk
        rwa [List.nil_append, take_run hk] at hk'
    case string =>
      obtain ⟨rfl, hb⟩ := quoted_eq_error_iff.1 h
      have hq : c = '\'' ∨ c = '"' := by simpa [Opening.Fits, isStringQuote] using hf
      exact .literal (.quoted (by rcases hq with rfl | rfl <;> simp) hb)
    case unexpected c' =>
      obtain ⟨rfl, hc⟩ := opening_eq_unexpected_iff.1 ho
      cases h
      exact .char hc
    all_goals cases h

/-! ## One reason at a time -/

/-- A quoted lexeme that is not closed begins with a character with which tokens begin. -/
theorem LeftOpen.not_foreign {q c : Char} {s : Text} (h : LeftOpen dialect q s)
    (hc : s.head? = some c) : ¬ Foreign dialect c := by
  intro hf
  have he := front_of_leftOpen (d := ⟨fun _ => none, fun _ => none⟩) (p := none) h
  rw [front_of_foreign hc hf] at he
  cases he

/-- A lexeme is left open in one quote only. -/
theorem LeftOpen.unique {q q' : Char} {s : Text} (h : LeftOpen dialect q s)
    (h' : LeftOpen dialect q' s) : q = q' := by
  have hf := front_of_leftOpen (d := ⟨fun _ => none, fun _ => none⟩) (p := none) h
  rw [front_of_leftOpen h'] at hf
  cases hf
  rfl

theorem not_leftOpen_nil {q : Char} : ¬ LeftOpen dialect q [] := nofun

/-- A dictionary that knows a character as a symbol knows every run that begins with it. -/
theorem Unknown.head {c : Char} {s : Text} (h : Unknown d (c :: s)) (hc : c ∈ operatorChars) :
    d.symbol? (String.ofList [c]) = none := by
  refine h 1 Nat.one_pos ?_
  have hc : isOperatorChar c = true := List.contains_iff_mem.2 hc
  rw [List.takeWhile_cons_of_pos hc]
  exact Nat.succ_pos _

end SqlLexis.Lexeme
