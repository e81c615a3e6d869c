import Mathlib.Data.List.Chain
import SqlLexis.Proofs.Lexeme.Cut

/-!
# What the texts of tokens look like

`Shape` lists the texts that a token may take, part by part, and `shape_of_front` says that the
token in front takes one of them. What is left of the characters of comments within a text that is
not quoted shows in its shape:

* `Shape.isVisible`: every character shows;
* `Shape.slash_not_mem`: there is no slash behind the first character;
* `Shape.signs`: a minus sign behind the first character belongs to an exponent, or is that behind
  `0x`;
* `Shape.isName`: a `#` behind the first character belongs to a name or a variable.
-/

namespace SqlLexis

/-- A character string, or an identifier in its quotes. -/
def Token.IsQuoted (t : Token) : Prop :=
  t.type = .literal .chars ∨
    t.type = .literal .identifier ∧ t.value.toList.head? = some backquote

/-- The two kinds of token that may end with a minus sign behind other characters: a number that
breaks off in its exponent, and the start of a hexadecimal number. -/
def Token.EndsInSign (t : Token) (u : Text) : Prop :=
  t.type = .literal .float ∧ (∃ w, u = w ++ ['e', '-'] ∨ u = w ++ ['E', '-']) ∨
    t.type = .literal .hex ∧ u = ['0', 'x', '-']

namespace Lexeme

variable {d : Dictionary} {t : Token} {u s : Text}

/-! ## Shapes -/

/-- The texts that tokens may take. -/
inductive Shape (d : Dictionary) : Token → Text → Prop where
  /-- Between quotes there may be anything. -/
  | quoted {t : Token} {u : Text} (h : t.IsQuoted) : Shape d t u
  | var (s : Text) : Shape d (var ('@' :: s)) ('@' :: s.take (varLength s))
  | word {c : Char} (s : Text) (hc : isWordStart c = true) (hq : c ≠ backquote) :
    Shape d (plainWord d (c :: s)) ((c :: s).take (wordLength (c :: s)))
  | hexNumber (s : Text) :
    Shape d (hexNumber ('0' :: 'x' :: s)) ('0' :: 'x' :: s.take (hexLength s))
  | number (s : Text) : Shape d (number s) (s.take (numberLength s))
  | operator {x : Symbol} {u : Text} (hu : ∀ c ∈ u, isOperatorChar c = true)
    (hx : d.symbol? (String.ofList u) = some x) :
    Shape d ⟨.symbol x, String.ofList u, u.length⟩ u

theorem isQuoted_of_quoted (h : quoted s = .ok t) : t.IsQuoted := by
  obtain ⟨q, body, after, -, -, -, rfl⟩ := quoted_eq_ok_iff.1 h
  exact .inl rfl

theorem shape_of_operator (h : operator d s = .ok t) : Shape d t (s.take t.endOffset) := by
  rcases of_longestKnown (l := []) (operator_eq_ok_iff.1 h) with h | ⟨k, x, -, hk, hx, rfl⟩
  · cases h
  · have hr : (s.takeWhile isOperatorChar).take k = s.take k := take_run hk
    have hl : (s.take k).length = k :=
      List.length_take_of_le (Nat.le_trans hk (List.takeWhile_sublist _).length_le)
    rw [List.nil_append, hr] at hx
    have hs := Shape.operator (d := d) (u := s.take k) (fun c hc => by
      rw [← hr] at hc
      exact List.mem_takeWhile_imp (List.mem_of_mem_take hc)) hx
    rw [hl] at hs
    simpa only [List.nil_append, hr, Nat.zero_add] using hs

theorem shape_of_word {c : Char} (hc : isWordStart c = true) (h : word d (c :: s) = .ok t) :
    Shape d t ((c :: s).take t.endOffset) := by
  unfold word at h
  split at h
  · next hq =>
    obtain ⟨body, after, heq, -, -, rfl⟩ := (quotedName_eq_ok_iff hq).1 h
    refine .quoted (.inr ⟨rfl, ?_⟩)
    rw [Token.leading, String.toList_ofList, List.take_succ_cons]
    exact hq
  · next hq =>
    cases h
    rw [plainWord_eq]
    have hs := Shape.word (d := d) s hc (by simpa using hq)
    rwa [plainWord_eq] at hs

/-- The token in front takes a text of a shape. -/
theorem shape_of_front {dialect : Dialect} {p : Option Char} (h : front dialect d p s = .ok t)
    (hs : s ≠ []) : Shape d t (s.take t.endOffset) := by
  obtain ⟨c, s, rfl⟩ := List.exists_cons_of_ne_nil hs
  have hf := Opening.fits_of dialect p c s
  unfold front at h
  cases ho : Opening.of dialect p (c :: s) <;> simp only [ho] at h <;> rw [ho] at hf
  case var =>
    obtain ⟨-, rfl⟩ := hf
    cases h
    have hv := Shape.var (d := d) s
    rw [var_eq] at hv ⊢
    simpa only [Token.leading, List.drop_succ_cons, List.drop_zero, Nat.add_comm 1,
      List.take_succ_cons] using hv
  case nationalString =>
    obtain ⟨r, hr, rfl⟩ := ok_of_map h
    have hq : r.IsQuoted := isQuoted_of_quoted hr
    exact .quoted hq
  case word => exact shape_of_word hf h
  case hexNumber =>
    obtain ⟨rfl, hx⟩ := hf
    obtain ⟨s, rfl⟩ := List.head?_eq_some_iff.1 hx
    cases h
    have hh := Shape.hexNumber (d := d) s
    rw [hexNumber_eq] at hh ⊢
    simpa only [Token.leading, List.drop_succ_cons, List.drop_zero, Nat.add_comm 2,
      List.take_succ_cons] using hh
  case number =>
    cases h
    exact .number _
  case operator => exact shape_of_operator h
  case string => exact .quoted (isQuoted_of_quoted h)
  case endOfInput => exact hf.elim
  case unexpected => cases h

/-! ## Every character shows -/

theorem Shape.isVisible (h : Shape d t u) (hq : ¬ t.IsQuoted) : ∀ c ∈ u, isVisible c = true := by
  cases h with
  | quoted h => exact absurd h hq
  | var s =>
    exact List.forall_mem_cons.2 ⟨by decide, scan_varLength.isVisible visible_varClasses s⟩
  | word s _ _ => exact scan_wordLength.isVisible (by simpa using visible_isWordChar) _
  | hexNumber s =>
    exact List.forall_mem_cons.2 ⟨by decide, List.forall_mem_cons.2 ⟨by decide,
      scan_hexLength.isVisible visible_hexClasses s⟩⟩
  | number s => exact scan_numberLength.isVisible visible_numberClasses s
  | operator hu _ => exact fun c hc => visible_isOperatorChar c (hu c hc)

/-! ## Behind the first character -/

variable {table : KeywordTable}

/-- No symbol has a character of comments behind its first character. -/
theorem not_mem_tail_symbol {c : Char} (hc : c ∈ ['/', '-', '#']) {x : Symbol}
    (hx : table.toDictionary.symbol? (String.ofList u) = some x) : c ∉ u.tail := by
  have hall : Symbol.all.all (fun x =>
      ['/', '-', '#'].all fun c => !x.text.toList.tail.contains c) = true := by
    decide +kernel
  have hx : Symbol.ofText? (String.ofList u) = some x := hx
  have ht : x.text = String.ofList u := Symbol.ofText?_eq_some_iff.1 hx
  have hm := List.all_eq_true.1 (List.all_eq_true.1 hall x (List.mem_of_find?_eq_some hx)) c hc
  rw [ht, String.toList_ofList] at hm
  simpa using hm

theorem Shape.slash_not_mem (h : Shape table.toDictionary t u) (hq : ¬ t.IsQuoted) :
    '/' ∉ u.tail := by
  cases h with
  | quoted h => exact absurd h hq
  | var s => exact scan_varLength.not_mem_take (by decide) s
  | word s _ _ => exact scan_wordLength.not_mem_tail (by decide) _
  | hexNumber s =>
    rw [List.tail_cons, List.mem_cons, not_or]
    exact ⟨by decide, scan_hexLength.not_mem_take (by decide) s⟩
  | number s => exact scan_numberLength.not_mem_tail (by decide) s
  | operator _ hx => exact not_mem_tail_symbol (by simp) hx

/-! ## Names -/

/-- A keyword has no `#`. -/
theorem hash_not_mem_keyword (k : Keyword) : '#' ∉ k.text.toList := by
  cases k <;> decide +kernel

theorem wordType_of_hash {w : Text} (h : '#' ∈ w) (rest : Text) :
    wordType table.toDictionary w rest = .literal .identifier := by
  have hn : table.toDictionary.keyword? (String.ofList w) = none := by
    cases hk : table.toDictionary.keyword? (String.ofList w) with
    | none => rfl
    | some k =>
      have hu : '#' ∈ upper w := List.mem_map.2 ⟨'#', h, rfl⟩
      have := hash_not_mem_keyword k
      rw [KeywordTable.text_of_find? hk, String.toList_ofList] at this
      exact absurd hu this
  have ht : table.toDictionary.typeOf (String.ofList w) (.literal .identifier) =
      .literal .identifier := by
    rw [Dictionary.typeOf, hn]
  rw [wordType, ht, ite_self]

theorem Shape.isName (h : Shape table.toDictionary t u) (hq : ¬ t.IsQuoted) (hu : '#' ∈ u.tail) :
    t.type = .literal .identifier ∨ t.type = .literal .var := by
  cases h with
  | quoted h => exact absurd h hq
  | var s => exact .inr rfl
  | @word c s _ _ =>
    rw [plainWord_eq]
    exact .inl (wordType_of_hash (List.mem_of_mem_tail hu) _)
  | hexNumber s =>
    rw [List.tail_cons, List.mem_cons] at hu
    exact absurd hu (not_or.2 ⟨by decide, scan_hexLength.not_mem_take (by decide) s⟩)
  | number s => exact absurd hu (scan_numberLength.not_mem_tail (by decide) s)
  | operator _ hx => exact absurd hu (not_mem_tail_symbol (by simp) hx)

/-! ## Signs -/

/-- Every minus sign but one in front stands behind a character of a class. -/
def SignsAfter (q : Char → Bool) (u : Text) : Prop := u.IsChain fun c c' => c' = '-' → q c = true

namespace SignsAfter

variable {q : Char → Bool} {v : Text}

theorem append (h : SignsAfter q u) (hv : '-' ∉ v) : SignsAfter q (u ++ v) := by
  have hne : ∀ c ∈ v, c ≠ '-' := fun c hc e => hv (e ▸ hc)
  have hchain : v.IsChain fun c c' => c' = '-' → q c = true :=
    List.isChain_iff_forall_rel_of_append_cons_cons.2 fun _ c l₁ l₂ hl e =>
      absurd e (hne c (by rw [hl]; simp))
  exact List.isChain_append.2
    ⟨h, hchain, fun _ _ c hc e => absurd e (hne c (List.mem_of_mem_head? hc))⟩

/-- Behind a character of the class a sign may follow. -/
theorem append_sign (h : SignsAfter q u) {c : Char} (hc : c ≠ '-') (hq : q c = true)
    (hv : v.length ≤ 1) : SignsAfter q (u ++ c :: v) := by
  refine List.isChain_append.2 ⟨h, ?_, fun _ _ x hx e => absurd e (by cases hx; exact hc)⟩
  match v, hv with
  | [], _ => exact List.isChain_singleton c
  | [x], _ => exact List.isChain_cons_cons.2 ⟨fun _ => hq, List.isChain_singleton x⟩

theorem nil : SignsAfter q [] := List.isChain_nil

theorem of_tail (h : '-' ∉ u.tail) : SignsAfter q u := by
  cases u with
  | nil => exact nil
  | cons c v => exact append (u := [c]) (List.isChain_singleton c) h

theorem of_length_le_one (h : u.length ≤ 1) : SignsAfter q u :=
  of_tail (by
    have : u.tail = [] := List.length_eq_zero_iff.1 (by rw [List.length_tail]; omega)
    rw [this]
    exact List.not_mem_nil)

end SignsAfter

theorem minus_le_one (s : Text) : minus s ≤ 1 := by
  unfold minus
  split <;> omega

theorem sign_not_mem_digits (s : Text) : '-' ∉ s.take (digits s) :=
  (scan_digits (List.mem_singleton_self _)).not_mem_take (by decide) s

theorem signsAfter_whole {q : Char → Bool} (s : Text) : SignsAfter q (s.take (whole s)) := by
  rw [whole, List.take_add]
  refine SignsAfter.append (.of_length_le_one ?_) (sign_not_mem_digits _)
  have := minus_le_one s
  rw [List.length_take]
  omega

theorem SignsAfter.append_exponent (h : SignsAfter isExponentMark u) (s : Text) :
    SignsAfter isExponentMark (u ++ s.take (exponent s)) := by
  cases s with
  | nil => simpa [exponent] using h
  | cons c s =>
    rw [exponent]
    split
    · next hc =>
      have hne : c ≠ '-' := by rintro rfl; exact absurd hc (by decide)
      have hk : (if s.head?.any isSign = true then 1 else 0) ≤ 1 := by split <;> omega
      generalize (if s.head?.any isSign = true then 1 else 0) = k at hk
      have ht : (c :: s).take (1 + k + digits (s.drop k)) =
          c :: s.take k ++ (s.drop k).take (digits (s.drop k)) := by
        rw [Nat.add_assoc, Nat.add_comm 1, List.take_succ_cons, List.take_add, List.cons_append]
      rw [ht, ← List.append_assoc]
      refine (h.append_sign hne hc ?_).append (sign_not_mem_digits _)
      rw [List.length_take]
      omega
    · simpa using h

/-- In a number a minus sign is in front or follows the mark of the exponent. -/
theorem signsAfter_number (s : Text) : SignsAfter isExponentMark (s.take (numberLength s)) := by
  have hf (r : Text) : '-' ∉ r.take (fraction r) := by
    have h : Scan [(· == '.'), Char.isDigit] fraction := scan_fraction (by simp) (by simp)
    exact h.not_mem_take (by decide) r
  have hx (r : Text) : '-' ∉ r.take (suffix r) :=
    (scan_suffix (List.mem_singleton_self _)).not_mem_take (by decide) r
  rw [numberLength]
  simp only [List.take_add]
  exact (((signsAfter_whole s).append (hf _)).append_exponent _).append (hx _)

/-- A number with the mark of an exponent is a float. -/
theorem type_number_of_mark {c : Char} (hc : isExponentMark c = true)
    (hm : c ∈ s.take (numberLength s)) : (number s).type = .literal .float := by
  have hn : numberLength s ≠ whole s := fun hn => by
    rw [hn] at hm
    have h : Scan [(· == '-'), Char.isDigit] whole := scan_whole (by simp) (by simp)
    refine h.not_mem_take ?_ s hm
    rcases (by simpa [isExponentMark] using hc : c = 'e' ∨ c = 'E') with rfl | rfl <;> decide
  simp only [number, if_neg hn, Token.leading]

/-- In a hexadecimal number a minus sign follows the marker. -/
theorem signsAfter_hexNumber (s : Text) :
    SignsAfter (· == 'x') ('0' :: 'x' :: s.take (hexLength s)) := by
  have hl : (s.take (minus s)).length ≤ 1 := by
    have := minus_le_one s
    rw [List.length_take]
    omega
  have hd (r : Text) : '-' ∉ r.takeWhile isHexDigit := fun hm =>
    absurd (List.mem_takeWhile_imp hm) (by decide)
  have ht : s.take (hexLength s) =
      s.take (minus s) ++ (s.drop (minus s)).takeWhile isHexDigit := by
    rw [hexLength, List.take_add]
    congr 1
    exact (List.prefix_iff_eq_take.1 (List.takeWhile_prefix _)).symm
  rw [ht]
  exact ((SignsAfter.of_length_le_one (u := ['0']) (Nat.le_refl 1)).append_sign
    (by decide) rfl hl).append (hd _)

/-- Where minus signs stand in the text of a token, and where it may end with one. -/
theorem Shape.signs (h : Shape table.toDictionary t u) (hq : ¬ t.IsQuoted) :
    ∃ q : Char → Bool, q '-' = false ∧ SignsAfter q u ∧
      ∀ w c, u = w ++ [c, '-'] → q c = true → t.EndsInSign u := by
  have none_of (hm : '-' ∉ u.tail) : ∃ q : Char → Bool, q '-' = false ∧ SignsAfter q u ∧
      ∀ w c, u = w ++ [c, '-'] → q c = true → t.EndsInSign u :=
    ⟨fun _ => false, rfl, .of_tail hm, fun _ _ _ h => by cases h⟩
  cases h with
  | quoted h => exact absurd h hq
  | var s => exact none_of (scan_varLength.not_mem_take (by decide) s)
  | word s _ _ => exact none_of (scan_wordLength.not_mem_tail (by decide) _)
  | hexNumber s =>
    refine ⟨(· == 'x'), rfl, signsAfter_hexNumber s, fun w c hw hc => .inr ⟨rfl, ?_⟩⟩
    rw [beq_iff_eq.1 hc] at hw
    have hx : 'x' ∉ s.take (hexLength s) := scan_hexLength.not_mem_take (by decide) s
    -- The only `x` is that of the marker.
    match w, hw with
    | [], hw => simp at hw
    | [a], hw =>
      have hs : s.take (hexLength s) = ['-'] := by simpa using (List.cons.inj hw).2
      rw [hs]
    | a :: b :: w, hw =>
      simp only [List.cons_append, List.cons.injEq] at hw
      exact absurd (by rw [hw.2.2]; simp) hx
  | number s =>
    refine ⟨isExponentMark, rfl, signsAfter_number s, fun w c hw hc => .inl ⟨?_, w, ?_⟩⟩
    · exact type_number_of_mark hc (by rw [hw]; simp)
    · rcases (by simpa [isExponentMark] using hc : c = 'e' ∨ c = 'E') with rfl | rfl
      · exact .inl hw
      · exact .inr hw
  | operator _ hx => exact none_of (not_mem_tail_symbol (by simp) hx)

end Lexeme

end SqlLexis
