import SqlLexis.Proofs.Lexeme.Front

/-!
# Where a token does not hang on what is behind it

A token that ends inside a text `u` is the same in front of `u ++ x` and of `u ++ y`, if `y` breaks
off with a blank or is empty. Only the type of an `ORDER` or a `GROUP` may differ, as `BY` comes to
stand behind it or does so no longer (`Token.retyped`). The lemmas named `_cut` say so of each
lexeme in turn. The main statements:

* `front_cut`: what may change behind the token in front;
* `retyped_of_front`: a token has the type that the text behind it asks for;
* `front_of_not_isWordStart`: what may change before it.
-/

namespace SqlLexis

/-- Whether a type is that of a word: a keyword or a name. -/
def TokenType.isWord : TokenType → Bool
  | .keyword _ => true
  | .literal .identifier => true
  | _ => false

namespace Token

/-- An unquoted `ORDER` or `GROUP`, whose type hangs on what follows. A quoted name is none, since
its value keeps the quotes. -/
def awaitsBy (t : Token) : Bool := t.type.isWord && Lexeme.awaitsBy t.value.toList

/-- The token with the type that it has before `BY`, or before anything else. -/
def retyped (d : Dictionary) (beforeBy : Bool) (t : Token) : Token :=
  if t.awaitsBy then
    { t with type := if beforeBy then d.typeOf t.value (.literal .identifier)
                     else .literal .identifier }
  else t

variable {d : Dictionary} {t : Token}

theorem retyped_of_not_awaitsBy (h : t.awaitsBy = false) (b : Bool) : t.retyped d b = t := by
  rw [retyped, if_neg (by rw [h]; exact Bool.false_ne_true)]

theorem awaitsBy_of_not_isWord (h : t.type.isWord = false) : t.awaitsBy = false := by
  rw [awaitsBy, h, Bool.false_and]

theorem leading_append {type : TokenType} {u : Text} {n : Nat} (h : n ≤ u.length) (x y : Text) :
    leading type (u ++ x) n = leading type (u ++ y) n := by
  rw [leading, leading, List.take_append_of_le_length h, List.take_append_of_le_length h]

end Token

namespace Lexeme

variable {d : Dictionary} {u x y : Text} {t : Token}

/-! ## Each lexeme -/

theorem var_cut (hu : (var (u ++ x)).endOffset ≤ u.length) (hy : Breaks y) :
    var (u ++ y) = var (u ++ x) := by
  rw [var_eq] at hu ⊢
  rw [var_eq, settled_varLength.cut_drop hu hy]
  exact Token.leading_append hu _ _

theorem hexNumber_cut (hu : (hexNumber (u ++ x)).endOffset ≤ u.length) (hy : Breaks y) :
    hexNumber (u ++ y) = hexNumber (u ++ x) := by
  rw [hexNumber_eq] at hu ⊢
  rw [hexNumber_eq, settled_hexLength.cut_drop hu hy]
  exact Token.leading_append hu _ _

theorem number_cut (hu : (number (u ++ x)).endOffset ≤ u.length) (hy : Breaks y) :
    number (u ++ y) = number (u ++ x) := by
  have hn : numberLength (u ++ x) ≤ u.length := hu
  have hw : whole (u ++ x) ≤ numberLength (u ++ x) := by simp only [numberLength]; omega
  have en : numberLength (u ++ y) = numberLength (u ++ x) := settled_numberLength.cut hn hy
  have ew : whole (u ++ y) = whole (u ++ x) := settled_whole.cut (Nat.le_trans hw hn) hy
  simp only [number, en, ew]
  exact Token.leading_append hn _ _

theorem append_of_eq {a b : Text} (h : a ++ b = u ++ x) (hl : a.length ≤ u.length) :
    ∃ v, u = a ++ v ∧ b = v ++ x := by
  refine ⟨u.drop a.length, ?_, ?_⟩
  · have := congrArg (List.take a.length) h
    rw [List.take_left, List.take_append_of_le_length hl] at this
    calc u = u.take a.length ++ u.drop a.length := (List.take_append_drop _ _).symm
      _ = a ++ u.drop a.length := by rw [← this]
  · have := congrArg (List.drop a.length) h
    rwa [List.drop_left, List.drop_append_of_le_length hl] at this

theorem quoted_cut (h : quoted (u ++ x) = .ok t) (hu : t.endOffset ≤ u.length)
    (hq : ∀ q ∈ u.head?, isBlank q = false) (hy : Breaks y) : quoted (u ++ y) = .ok t := by
  obtain ⟨q, body, after, heq, hb, ha, rfl⟩ := quoted_eq_ok_iff.1 h
  have hl : (q :: body ++ [q]).length ≤ u.length := by
    rw [List.length_append, List.length_cons]
    exact hu
  obtain ⟨v, rfl, rfl⟩ := append_of_eq (by rw [heq, List.append_assoc]; rfl) hl
  refine quoted_eq_ok_iff.2 ⟨q, body, v ++ y, by simp, hb, ?_, rfl⟩
  cases v with
  | nil =>
    intro hy'
    exact absurd (hy q hy') (by rw [hq q rfl]; exact Bool.false_ne_true)
  | cons c v => simpa using ha

theorem quotedName_cut (h : quotedName (u ++ x) = .ok t) (hu : t.endOffset ≤ u.length)
    (hq : u.head? = some backquote) (hy : Breaks y) : quotedName (u ++ y) = .ok t := by
  have hux : (u ++ x).head? = some backquote := by rw [List.head?_append, hq]; rfl
  have huy : (u ++ y).head? = some backquote := by rw [List.head?_append, hq]; rfl
  obtain ⟨body, after, heq, hb, ha, rfl⟩ := (quotedName_eq_ok_iff hux).1 h
  have hl : (backquote :: body ++ [backquote]).length ≤ u.length := by
    rw [List.length_append, List.length_cons]
    exact hu
  obtain ⟨v, rfl, rfl⟩ := append_of_eq (by rw [heq, List.append_assoc]; rfl) hl
  refine (quotedName_eq_ok_iff huy).2 ⟨body, v ++ y, by simp, hb, ?_, ?_⟩
  · cases v with
    | nil =>
      intro hy'
      exact absurd (hy backquote hy') (by decide)
    | cons c v => simpa using ha
  · exact Token.leading_append (by simp [Token.leading] at hu ⊢) _ _

theorem operator_cut (h : operator d (u ++ x) = .ok t) (hu : t.endOffset ≤ u.length)
    (hy : Breaks y) : operator d (u ++ y) = .ok t := by
  have hy' : y.takeWhile isOperatorChar = [] := by
    cases y with
    | nil => rfl
    | cons c y => simp [visible_isOperatorChar.of_isBlank (hy c rfl)]
  rw [operator_eq_ok_iff, List.takeWhile_append] at h ⊢
  by_cases hl : (u.takeWhile isOperatorChar).length = u.length
  · rw [if_pos hl] at h ⊢
    rw [hy', List.append_nil]
    exact longestKnown_of_append (l := []) h (by simpa using hu)
  · rwa [if_neg hl] at h ⊢

/-! ## Words -/

theorem isWord_wordType (w rest : Text) : (wordType d w rest).isWord = true := by
  unfold wordType
  split
  · rfl
  · unfold Dictionary.typeOf
    split <;> rfl

/-- The type of a word hangs on the text behind it only in the way that `retyped` says. -/
theorem retyped_wordType (w rest rest' : Text) (n : Nat) :
    (⟨wordType d w rest, String.ofList w, n⟩ : Token).retyped d (isBeforeBy rest') =
      ⟨wordType d w rest', String.ofList w, n⟩ := by
  simp only [Token.retyped, Token.awaitsBy, isWord_wordType, Bool.true_and, String.toList_ofList]
  cases hw : awaitsBy w with
  | false => simp [wordType, hw]
  | true => cases hb : isBeforeBy rest' <;> simp [wordType, hw, hb]

theorem plainWord_eq (s : Text) : plainWord d s = ⟨wordType d (s.take (wordLength s))
    (s.drop (wordLength s)), String.ofList (s.take (wordLength s)), wordLength s⟩ := by
  have hn : (s.takeWhile isWordChar).length = wordLength s := rfl
  rw [plainWord, Token.leading]
  simp only [hn]
  rw [take_wordLength]

theorem awaitsBy_backquote (s : Text) : awaitsBy (backquote :: s) = false := by
  simp [awaitsBy, sameWord, upper, Keyword.text, backquote]

theorem word_cut (h : word d (u ++ x) = .ok t) (hne : u ≠ []) (hu : t.endOffset ≤ u.length)
    (hy : Breaks y) :
    word d (u ++ y) = .ok (t.retyped d (isBeforeBy (u.drop t.endOffset ++ y))) := by
  obtain ⟨c, v, rfl⟩ := List.exists_cons_of_ne_nil hne
  unfold word at h ⊢
  rw [List.cons_append, List.head?_cons] at h ⊢
  by_cases hc : c = backquote
  · rw [if_pos (by rw [hc])] at h ⊢
    have ht := quotedName_cut (u := c :: v) h hu (by rw [hc]; rfl) hy
    obtain ⟨body, after, -, -, -, rfl⟩ := (quotedName_eq_ok_iff (by rw [hc]; rfl)).1 h
    have hn : Token.awaitsBy (.leading (.literal .identifier) (c :: (v ++ x)) (body.length + 2)) =
        false := by
      simp [Token.awaitsBy, Token.leading, List.take_succ_cons, hc, awaitsBy_backquote]
    rw [Token.retyped_of_not_awaitsBy hn]
    exact ht
  · rw [if_neg (by simpa using hc)] at h ⊢
    rw [plainWord_eq] at h
    cases h
    have hn : wordLength (c :: v ++ y) = wordLength (c :: v ++ x) := settled_wordLength.cut hu hy
    rw [← List.cons_append, plainWord_eq, hn]
    simp only [← List.cons_append] at hu ⊢
    rw [List.take_append_of_le_length hu, List.take_append_of_le_length hu,
      List.drop_append_of_le_length hu, retyped_wordType]

/-! ## The token in front -/

variable {dialect : Dialect} {p : Option Char}

/-- A number has two characters unless it begins with a digit. -/
theorem two_le_numberLength {p : Option Char} {c : Char} {s : Text}
    (h : Opening.isNumberStart p c s.head? = true) (hc : c.isDigit = false) :
    2 ≤ numberLength (c :: s) := by
  simp only [Opening.isNumberStart, hc, Bool.false_or, Bool.or_eq_true, Bool.and_eq_true,
    beq_iff_eq] at h
  cases s with
  | nil => simp at h
  | cons c' s =>
    rcases h with ⟨⟨rfl, h⟩, -⟩ | ⟨rfl, h⟩
    · have hd : c'.isDigit = true := by simpa using h
      simp only [numberLength, whole_dot, List.drop_zero, fraction, digits, List.takeWhile_cons, hd,
        if_true, List.length_cons]
      omega
    · rcases (by simpa using h : c' = '.' ∨ c'.isDigit = true) with rfl | hd
      · have hw : whole ('-' :: '.' :: s) = 1 := rfl
        simp only [numberLength, hw, List.drop_succ_cons, List.drop_zero, fraction]
        omega
      · have hw : whole ('-' :: c' :: s) = 1 + (1 + digits s) := by
          simp only [whole, minus, List.head?_cons, if_true, List.drop_succ_cons, List.drop_zero,
            digits, List.takeWhile_cons, hd, List.length_cons]
          omega
        simp only [numberLength, hw]
        omega

/-- Another text that begins in the same way announces the same. -/
theorem opening_cut {dialect : Dialect} {p : Option Char}
    (h : front dialect d p (u ++ x) = .ok t) (hne : u ≠ []) (hu : t.endOffset ≤ u.length)
    (hy : Breaks y) : Opening.of dialect p (u ++ y) = Opening.of dialect p (u ++ x) := by
  obtain ⟨c, v, rfl⟩ := List.exists_cons_of_ne_nil hne
  cases v with
  | cons c' v => exact Opening.of_congr rfl
  | nil =>
    have hf := Opening.fits_of dialect p c x
    change Opening.of dialect p (c :: y) = Opening.of dialect p (c :: x)
    rw [Opening.of_breaks hy]
    change front dialect d p (c :: x) = .ok t at h
    rw [List.length_singleton] at hu
    unfold front at h
    -- The openings that two characters announce have tokens of two characters at least.
    refine Opening.of_alone rfl (fun ho => ?_) (fun ho => ?_) (fun ho => ?_)
    · rw [ho] at h
      obtain ⟨q, hq, rfl⟩ := ok_of_map h
      have := endOffset_quoted hq
      simp only [Token.shift] at hu
      omega
    · rw [ho] at h
      cases h
      rw [hexNumber_eq] at hu
      simp only [Token.leading] at hu
      omega
    · rw [ho] at h hf
      cases h
      cases hc : c.isDigit with
      | true => rfl
      | false =>
        have := two_le_numberLength hf hc
        simp only [number, Token.leading] at hu
        omega

theorem isWord_of_operator {s : Text} (h : operator d s = .ok t) : t.type.isWord = false := by
  rcases of_longestKnown (l := []) (operator_eq_ok_iff.1 h) with h | ⟨k, x, -, -, -, rfl⟩
  · cases h
  · rfl

theorem isWord_of_quoted {s : Text} (h : quoted s = .ok t) : t.type.isWord = false := by
  obtain ⟨q, body, after, -, -, -, rfl⟩ := quoted_eq_ok_iff.1 h
  rfl

theorem not_isBlank_of_isStringQuote {c : Char} (h : isStringQuote c = true) :
    isBlank c = false := by
  simp only [isStringQuote, Bool.or_eq_true, beq_iff_eq] at h
  rcases h with rfl | rfl <;> decide

/-- What is behind the token in front may change from its end on, if it breaks off with a blank:
the token stays, but for the type of `ORDER` and `GROUP`. -/
theorem front_cut (h : front dialect d p (u ++ x) = .ok t) (hne : u ≠ [])
    (hu : t.endOffset ≤ u.length) (hy : Breaks y) : front dialect d p (u ++ y) =
      .ok (t.retyped d (isBeforeBy (u.drop t.endOffset ++ y))) := by
  have ho := opening_cut h hne hu hy
  have fixed : t.type.isWord = false → front dialect d p (u ++ y) = .ok t →
      front dialect d p (u ++ y) = .ok (t.retyped d (isBeforeBy (u.drop t.endOffset ++ y))) :=
    fun hw hf => by rw [Token.retyped_of_not_awaitsBy (Token.awaitsBy_of_not_isWord hw), hf]
  obtain ⟨c, v, rfl⟩ := List.exists_cons_of_ne_nil hne
  have hf := Opening.fits_of dialect p c (v ++ x)
  rw [← List.cons_append] at hf
  unfold front at h fixed ⊢
  rw [ho] at fixed ⊢
  cases hox : Opening.of dialect p (c :: v ++ x) <;> simp only [hox] at h fixed ⊢ <;> rw [hox] at hf
  case var =>
    cases h
    exact fixed rfl (by rw [var_cut hu hy])
  case nationalString =>
    simp only [List.cons_append, List.drop_succ_cons, List.drop_zero] at h fixed ⊢
    obtain ⟨q, hq, rfl⟩ := ok_of_map h
    simp only [Token.shift, List.length_cons] at hu
    have hv : ∀ b ∈ v.head?, isBlank b = false := fun b hb => by
      have hs : (v ++ x).head? = some '\'' := hf.2.2
      rw [List.head?_append, Option.mem_def.1 hb] at hs
      cases hs
      decide
    have hw : q.type.isWord = false := isWord_of_quoted hq
    exact fixed hw (by rw [quoted_cut hq (by omega) hv hy]; rfl)
  case word => exact word_cut h hne hu hy
  case hexNumber =>
    cases h
    exact fixed rfl (by rw [hexNumber_cut hu hy])
  case number =>
    cases h
    refine fixed ?_ (by rw [number_cut hu hy])
    simp only [number, Token.leading]
    split <;> rfl
  case operator => exact fixed (isWord_of_operator h) (operator_cut h hu hy)
  case string =>
    have hv : ∀ b ∈ (c :: v).head?, isBlank b = false := fun b hb => by
      cases hb
      exact not_isBlank_of_isStringQuote hf
    exact fixed (isWord_of_quoted h) (quoted_cut h hu hv hy)
  case endOfInput => exact hf.elim
  case unexpected => cases h

/-- A token has the type that the text behind it asks for. -/
theorem retyped_of_front {s : Text} (h : front dialect d p s = .ok t) (hs : s ≠ [])
    (ht : t.endOffset ≤ s.length) : t.retyped d (isBeforeBy (s.drop t.endOffset)) = t := by
  have := front_cut (x := []) (y := []) (by rwa [List.append_nil]) hs ht (by intro c hc; cases hc)
  rw [List.append_nil, List.append_nil, h] at this
  exact (Except.ok.inj this).symm

theorem not_isOperatorChar_of_isDigit {c : Char} (h : c.isDigit = true) :
    isOperatorChar c = false := by
  have hall : operatorChars.all (fun c => !c.isDigit) = true := by decide
  have hc : c ∉ operatorChars := fun hm => by
    have hd := List.all_eq_true.1 hall c hm
    rw [h] at hd
    cases hd
  simpa [isOperatorChar] using hc

/-- A dot before a digit is a symbol by itself, where it does not begin a number. -/
theorem endOffset_dot {c : Char} {s : Text} (h : operator d ('.' :: c :: s) = .ok t)
    (hc : c.isDigit = true) : t.endOffset ≤ 1 := by
  have hr : ('.' :: c :: s).takeWhile isOperatorChar = ['.'] := by
    rw [List.takeWhile_cons_of_pos (by decide), List.takeWhile_cons_of_neg]
    rw [not_isOperatorChar_of_isDigit hc]
    exact Bool.false_ne_true
  rcases of_longestKnown (l := []) (operator_eq_ok_iff.1 h) with h | ⟨k, x, -, hk, -, rfl⟩
  · cases h
  · rw [hr] at hk
    show 0 + k ≤ 1
    rwa [Nat.zero_add]

/-- A token stays where nothing else than the start of a word is before it, if it breaks off with a
blank. For a dot is a token of its own when it does. -/
theorem front_of_not_isWordStart {p' : Option Char} (h : front dialect d p (u ++ y) = .ok t)
    (hne : u ≠ []) (hu : t.endOffset = u.length) (hy : Breaks y)
    (hp' : p'.any isWordStart = false) : front dialect d p' (u ++ y) = .ok t := by
  cases hp : p.any isWordStart with
  | false => rwa [front_congr (hp'.trans hp.symm)]
  | true =>
    suffices ho : Opening.of dialect p' (u ++ y) = Opening.of dialect p (u ++ y) by
      rw [front, ho]; exact h
    obtain ⟨c, v, rfl⟩ := List.exists_cons_of_ne_nil hne
    cases v with
    | nil =>
      rw [List.singleton_append, Opening.of_breaks hy, Opening.of_breaks hy]
      simp [Opening.of, Opening.isNumberStart]
    | cons c' v =>
      simp only [List.cons_append] at h ⊢
      by_cases hd : c = '.' ∧ c'.isDigit = true
      · -- Read as a symbol, the dot would be the whole token, which has two characters.
        obtain ⟨rfl, hd⟩ := hd
        have hw : isWordStart '.' = false := by decide
        have hs : isOperatorChar '.' = true := by decide
        have ho : Opening.of dialect p ('.' :: c' :: (v ++ y)) = .operator := by
          simp [Opening.of, Opening.isNumberStart, hp, hw, hs]
        rw [front, ho] at h
        have hn := endOffset_dot h hd
        rw [hu, List.length_cons, List.length_cons] at hn
        omega
      · have hn : Opening.isNumberStart p' c (some c') = Opening.isNumberStart p c (some c') :=
          Opening.isNumberStart_congr hd
        rw [Opening.of, Opening.of, List.head?_cons, hn]

end Lexeme

end SqlLexis
