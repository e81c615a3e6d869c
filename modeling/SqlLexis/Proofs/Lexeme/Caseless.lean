import Mathlib
import SqlLexis.Proofs.Lexeme.Cut

/-!
# Lexemes in another case

No class of characters tells the cases of a letter apart (`Caseless`), so a lexeme is as long in
upper case as it is (`Scan.apply_upper`), and so are quoted texts and runs of operators, where
letters do not count at all. The case counts in two places only, where one spelling announces a
token and the other does not: behind the `0` of `0x`, and before the quote of `N'`.

* `Recased`: a text in which the case of other letters may differ;
* `Opening.of_recased`: it announces the same;
* `Dictionary.IgnoresCase`: a dictionary that finds a keyword in any case, which is so for every
  table of keywords (`KeywordTable.ignoresCase`).
-/

namespace SqlLexis

/-! ## Characters -/

/-- A class of characters that holds both cases of a letter or neither. -/
def Caseless (p : Char → Bool) : Prop := ∀ c : Char, p c.toUpper = p c

/-- A character is its own upper case, or one of the 26 small letters. -/
theorem toUpper_eq_or (c : Char) : c.toUpper = c ∨ ∃ n < 26, c = Char.ofNat (97 + n) := by
  by_cases hc : c.isLower
  · have hb : 97 ≤ c.toNat ∧ c.toNat ≤ 122 := by
      simpa [Char.isLower, UInt32.le_iff_toNat_le] using hc
    refine .inr ⟨c.toNat - 97, by omega, ?_⟩
    rw [Nat.add_sub_cancel' hb.1, Char.ofNat_toNat]
  · exact .inl (Char.toUpper_eq_of_not_isLower hc)

theorem Caseless.congr {p : Char → Bool} (hp : Caseless p) {c c' : Char}
    (h : c.toUpper = c'.toUpper) : p c = p c' := by
  rw [← hp c, h, hp c']

theorem caseless_of_letters {p : Char → Bool}
    (h : ∀ n < 26, p (Char.ofNat (97 + n)).toUpper = p (Char.ofNat (97 + n))) : Caseless p := by
  intro c
  rcases toUpper_eq_or c with hc | ⟨n, hn, rfl⟩
  · rw [hc]
  · exact h n hn

theorem caseless_isAlpha : Caseless Char.isAlpha := Char.isAlpha_toUpper_eq_isAlpha

theorem caseless_isDigit : Caseless Char.isDigit := caseless_of_letters (by decide)

theorem caseless_isBlank : Caseless isBlank := caseless_of_letters (by decide)

theorem caseless_isOperatorChar : Caseless isOperatorChar :=
  caseless_of_letters (by decide)

theorem caseless_isWordStart : Caseless isWordStart := caseless_of_letters (by decide)

theorem caseless_isWordChar : Caseless isWordChar := caseless_of_letters (by decide)

theorem caseless_isStringQuote : Caseless isStringQuote := caseless_of_letters (by decide)

theorem toUpper_of_not_isAlpha {c : Char} (h : c.isAlpha = false) : c.toUpper = c := by
  refine Char.toUpper_eq_of_not_isLower fun hl => ?_
  simp [Char.isAlpha, hl] at h

/-- Of a character that is no letter there is one spelling. -/
theorem eq_of_toUpper_eq {c c' : Char} (h : c.toUpper = c'.toUpper) (hc : c.isAlpha = false) :
    c = c' := by
  have hc' : c'.isAlpha = false := by
    rw [← caseless_isAlpha c', ← h, caseless_isAlpha c, hc]
  rwa [toUpper_of_not_isAlpha hc, toUpper_of_not_isAlpha hc'] at h

theorem caseless_beq {x : Char} (hx : x.isAlpha = false) : Caseless (· == x) := by
  intro c
  have h : c.toUpper = x ↔ c = x := by
    constructor
    · intro h
      exact (eq_of_toUpper_eq (by rw [toUpper_of_not_isAlpha hx, h]) hx).symm
    · rintro rfl
      exact toUpper_of_not_isAlpha hx
  exact Bool.eq_iff_iff.2 (by simpa using h)

theorem not_isAlpha_of_isOperatorChar {c : Char} (h : isOperatorChar c = true) :
    c.isAlpha = false := by
  have hall : operatorChars.all (fun c => !c.isAlpha) = true := by decide
  simpa using List.all_eq_true.1 hall c (List.contains_iff_mem.1 h)

theorem not_isAlpha_of_isStringQuote {c : Char} (h : isStringQuote c = true) :
    c.isAlpha = false := by
  simp only [isStringQuote, Bool.or_eq_true, beq_iff_eq] at h
  rcases h with rfl | rfl <;> rfl

/-! ## Texts -/

theorem upper_take (s : Text) (n : Nat) : (upper s).take n = upper (s.take n) := List.map_take.symm

theorem upper_drop (s : Text) (n : Nat) : (upper s).drop n = upper (s.drop n) := List.map_drop.symm

theorem upper_takeWhile {p : Char → Bool} (hp : Caseless p) (s : Text) :
    (upper s).takeWhile p = upper (s.takeWhile p) := by
  have h : p ∘ Char.toUpper = p := funext hp
  rw [upper, List.takeWhile_map, h, upper]

theorem upper_dropWhile {p : Char → Bool} (hp : Caseless p) (s : Text) :
    (upper s).dropWhile p = upper (s.dropWhile p) := by
  have h : p ∘ Char.toUpper = p := funext hp
  rw [upper, List.dropWhile_map, h, upper]

theorem upper_eq_self {s : Text} (h : ∀ c ∈ s, c.isAlpha = false) : upper s = s :=
  (List.map_congr_left fun c hc => toUpper_of_not_isAlpha (h c hc)).trans s.map_id'

/-- Of a text without letters there is one spelling. -/
theorem eq_of_upper_eq {s t : Text} (h : upper s = t) (ht : ∀ c ∈ t, c.isAlpha = false) :
    s = t := by
  induction s generalizing t with
  | nil => exact h
  | cons c s ih =>
    subst h
    obtain ⟨hc, hs⟩ := List.forall_mem_cons.1 ht
    have e := eq_of_toUpper_eq (Char.toUpper_toUpper_eq_toUpper c) hc
    calc c :: s
      _ = c.toUpper :: upper s := by rw [e, ← ih rfl hs]
      _ = upper (c :: s) := rfl

theorem prefix_upper_iff {m : Text} (hm : ∀ c ∈ m, c.isAlpha = false) (s : Text) :
    m <+: upper s ↔ m <+: s := by
  rw [List.prefix_iff_eq_take, List.prefix_iff_eq_take, upper_take]
  constructor
  · intro h
    exact (eq_of_upper_eq h.symm hm).symm
  · intro h
    rw [← h, upper_eq_self hm]

section SameText

variable {s s' : Text}

theorem any_head?_of_upper_eq {p : Char → Bool} (hp : Caseless p) (h : upper s = upper s') :
    s.head?.any p = s'.head?.any p := by
  have key : ∀ t : Text, (upper t).head?.any p = t.head?.any p := fun t => by
    cases t with
    | nil => rfl
    | cons c t => exact hp c
  rw [← key, h, key]

theorem head?_eq_some_iff_of_upper_eq {x : Char} (hx : x.isAlpha = false) (h : upper s = upper s') :
    s.head? = some x ↔ s'.head? = some x := by
  have key : ∀ o : Option Char, o.any (· == x) = true ↔ o = some x := fun o => by
    cases o <;> simp
  rw [← key, ← key, any_head?_of_upper_eq (caseless_beq hx) h]

/-- A start without letters is the same in every case. -/
theorem takeWhile_of_upper_eq {p : Char → Bool} (hp : ∀ c, p c = true → c.isAlpha = false)
    (hc : Caseless p) (h : upper s = upper s') : s.takeWhile p = s'.takeWhile p := by
  have key : ∀ t : Text, upper (t.takeWhile p) = t.takeWhile p := fun t =>
    upper_eq_self fun c hc => hp c (List.mem_takeWhile_imp hc)
  rw [← key s, ← upper_takeWhile hc, h, upper_takeWhile hc, key]

end SameText

/-- A text with some letters in another case, but not where the case tells a hexadecimal number or a
national string from a number or a word. -/
structure Recased (dialect : Dialect) (s s' : Text) : Prop where
  same : upper s = upper s'
  hex (i : Nat) : s[i]? = some '0' → s[i + 1]? = some 'x' ∨ s[i + 1]? = some 'X' →
    s'[i + 1]? = s[i + 1]?
  national (i : Nat) : dialect = .sqlServer → s[i]? = some 'n' ∨ s[i]? = some 'N' →
    s[i + 1]? = some '\'' → s'[i]? = s[i]?

variable {dialect : Dialect} {s s' : Text}

/-- Only places within the text need to be looked at. -/
theorem recased_iff : Recased dialect s s' ↔ upper s = upper s' ∧
    (∀ i < s.length, s[i]? = some '0' → s[i + 1]? = some 'x' ∨ s[i + 1]? = some 'X' →
      s'[i + 1]? = s[i + 1]?) ∧
    ∀ i < s.length, dialect = .sqlServer → s[i]? = some 'n' ∨ s[i]? = some 'N' →
      s[i + 1]? = some '\'' → s'[i]? = s[i]? := by
  have lt {i : Nat} {c : Char} (h : s[i]? = some c) : i < s.length :=
    (List.getElem?_eq_some_iff.1 h).1
  constructor
  · intro h
    exact ⟨h.same, fun i _ => h.hex i, fun i _ => h.national i⟩
  · rintro ⟨hs, hx, hn⟩
    exact ⟨hs, fun i h0 => hx i (lt h0) h0, fun i hd h => hn i (h.elim lt lt) hd h⟩

theorem Recased.drop (h : Recased dialect s s') (k : Nat) :
    Recased dialect (s.drop k) (s'.drop k) where
  same := by rw [← upper_drop, ← upper_drop, h.same]
  hex i := by simpa only [List.getElem?_drop, Nat.add_assoc] using h.hex (k + i)
  national i := by simpa only [List.getElem?_drop, Nat.add_assoc] using h.national (k + i)

/-! ## Openings -/

theorem Recased.eq_or {c c' : Char} {s s' : Text} (h : Recased dialect (c :: s) (c' :: s')) :
    c.toUpper = c'.toUpper ∧ upper s = upper s' := by
  simpa [upper] using h.same

/-- Whether a national string is announced. -/
theorem Recased.national_iff {c c' : Char} (h : Recased dialect (c :: s) (c' :: s')) :
    (dialect.nationalStrings && c == 'N' && s.head? == some '\'') =
      (dialect.nationalStrings && c' == 'N' && s'.head? == some '\'') := by
  obtain ⟨hc, hs⟩ := h.eq_or
  have hn : (c == 'n' || c == 'N') = (c' == 'n' || c' == 'N') :=
    Caseless.congr (p := fun c => c == 'n' || c == 'N') (caseless_of_letters (by decide)) hc
  have hq : s.head?.any (· == '\'') = s'.head?.any (· == '\'') :=
    any_head?_of_upper_eq (caseless_beq rfl) hs
  have h0 := h.national 0
  cases dialect <;> simp [Dialect.nationalStrings] at h0 ⊢
  cases s <;> cases s' <;> grind

/-- Whether a hexadecimal number is announced. -/
theorem Recased.hex_iff {c c' : Char} (h : Recased dialect (c :: s) (c' :: s')) :
    (c == '0' && s.head? == some 'x') = (c' == '0' && s'.head? == some 'x') := by
  obtain ⟨hc, hs⟩ := h.eq_or
  have h0 : (c == '0') = (c' == '0') := (caseless_beq rfl).congr hc
  have hx : s.head?.any (fun c => c == 'x' || c == 'X') =
      s'.head?.any fun c => c == 'x' || c == 'X' :=
    any_head?_of_upper_eq (caseless_of_letters (by decide)) hs
  have hh := h.hex 0
  cases s <;> cases s' <;> grind

/-- What a text announces does not hang on the case of other letters. -/
theorem Opening.of_recased (h : Recased dialect s s') (p : Option Char) :
    of dialect p s = of dialect p s' := by
  cases s with
  | nil =>
    obtain rfl : s' = [] := by simpa [upper, eq_comm] using h.same
    rfl
  | cons c s =>
    cases s' with
    | nil => simpa [upper] using h.same
    | cons c' s' =>
      obtain ⟨hc, hs⟩ := h.eq_or
      have same {q : Char → Bool} (hq : Caseless q) : q c = q c' := hq.congr hc
      have hv : (c == '@') = (c' == '@') := same (caseless_beq rfl)
      have hnum : isNumberStart p c s.head? = isNumberStart p c' s'.head? := by
        have h1 := same caseless_isDigit
        have h2 : (c == '.') = (c' == '.') := same (caseless_beq rfl)
        have h3 : (c == '-') = (c' == '-') := same (caseless_beq rfl)
        have h4 := any_head?_of_upper_eq caseless_isDigit hs
        have h5 := any_head?_of_upper_eq (p := fun n => n == '.' || n.isDigit)
          (caseless_of_letters (by decide)) hs
        simp only [isNumberStart, h1, h2, h3, h4, h5]
      simp only [of, hv, h.national_iff, h.hex_iff, hnum, same caseless_isWordStart,
        same caseless_isOperatorChar, same caseless_isStringQuote]
      by_cases hw : isWordStart c' = true
      · simp only [hw, if_true]
      · -- A character that announces nothing is no letter.
        have ha : c.isAlpha = false := by
          rw [← same caseless_isWordStart] at hw
          simp only [isWordStart, Bool.or_eq_true, not_or, Bool.not_eq_true] at hw
          exact hw.1.1.1
        rw [eq_of_toUpper_eq hc ha]

/-! ## Lexemes -/

/-- Two tokens of the same type and length, with values that differ at most in the case of
letters. -/
structure Token.SameButCase (t t' : Token) : Prop where
  type : t.type = t'.type
  endOffset : t.endOffset = t'.endOffset
  value : sameWord t.value.toList t'.value.toList = true

/-- A dictionary finds the keyword of a word in any case. -/
def Dictionary.IgnoresCase (d : Dictionary) : Prop :=
  ∀ w w' : Text, upper w = upper w' →
    d.keyword? (String.ofList w) = d.keyword? (String.ofList w')

theorem KeywordTable.ignoresCase (t : KeywordTable) : t.toDictionary.IgnoresCase := fun w w' h => by
  simp only [toDictionary, find?, String.toList_ofList, h]

theorem Token.SameButCase.refl (t : Token) : t.SameButCase t :=
  ⟨rfl, rfl, beq_self_eq_true _⟩

theorem Token.SameButCase.shift {t t' : Token} (h : t.SameButCase t') (k : Nat) :
    (t.shift k).SameButCase (t'.shift k) :=
  ⟨h.type, congrArg (k + ·) h.endOffset, h.value⟩

theorem sameButCase_ofList (h : upper s = upper s') (type : TokenType) (n k : Nat) :
    Token.SameButCase ⟨type, String.ofList (s.take n), k⟩ ⟨type, String.ofList (s'.take n), k⟩ := by
  refine ⟨rfl, rfl, ?_⟩
  rw [String.toList_ofList, String.toList_ofList, sameWord, ← upper_take, ← upper_take, h]
  exact beq_self_eq_true _

namespace Lexeme

variable {classes : List (Char → Bool)} {f : Text → Nat} {d : Dictionary}

/-- A count is the same in upper case, if no class tells the cases apart. -/
theorem Scan.apply_upper (h : Scan classes f) (hp : ∀ p ∈ classes, Caseless p) (s : Text) :
    f (upper s) = f s := by
  induction h generalizing s with
  | zero => rfl
  | lead hm _ hnil hcons ih =>
    cases s with
    | nil => rfl
    | cons c s =>
      have := ih s
      simp only [upper, List.map_cons, hcons, hp _ hm c] at this ⊢
      rw [this]
  | seq _ _ ihf ihg => simp only [ihf, upper_drop, ihg]
  | takeWhile hm => simp only [upper_takeWhile (hp _ hm), length_upper]

theorem Scan.congr (h : Scan classes f) (hp : ∀ p ∈ classes, Caseless p)
    (hs : upper s = upper s') : f s = f s' := by
  rw [← h.apply_upper hp, hs, h.apply_upper hp]

theorem caseless_numberClasses : ∀ p ∈ numberClasses, Caseless p := by
  intro p hp
  simp only [numberClasses, List.mem_cons, List.not_mem_nil, or_false] at hp
  rcases hp with rfl | rfl | rfl | rfl | rfl | rfl <;>
    exact caseless_of_letters (by decide)

theorem caseless_hexClasses : ∀ p ∈ hexClasses, Caseless p := by
  intro p hp
  simp only [hexClasses, List.mem_cons, List.not_mem_nil, or_false] at hp
  rcases hp with rfl | rfl <;> exact caseless_of_letters (by decide)

theorem caseless_varClasses : ∀ p ∈ varClasses, Caseless p := by
  intro p hp
  simp only [varClasses, List.mem_cons, List.not_mem_nil, or_false] at hp
  rcases hp with rfl | rfl <;> exact caseless_of_letters (by decide)

theorem number_recased (h : upper s = upper s') : (number s).SameButCase (number s') := by
  have hn : numberLength s = numberLength s' := scan_numberLength.congr caseless_numberClasses h
  have hw : whole s = whole s' :=
    (scan_whole (by simp [numberClasses]) (by simp [numberClasses])).congr caseless_numberClasses h
  rw [number, number, hn, hw]
  exact sameButCase_ofList h _ _ _

theorem hexNumber_recased (h : upper s = upper s') :
    (hexNumber s).SameButCase (hexNumber s') := by
  have hn : hexLength (s.drop 2) = hexLength (s'.drop 2) :=
    scan_hexLength.congr caseless_hexClasses (by rw [← upper_drop, h, upper_drop])
  rw [hexNumber_eq, hexNumber_eq, hn]
  exact sameButCase_ofList h _ _ _

theorem var_recased (h : upper s = upper s') : (var s).SameButCase (var s') := by
  have hn : varLength (s.drop 1) = varLength (s'.drop 1) :=
    scan_varLength.congr caseless_varClasses (by rw [← upper_drop, h, upper_drop])
  rw [var_eq, var_eq, hn]
  exact sameButCase_ofList h _ _ _

theorem isBeforeBy_upper (s : Text) : isBeforeBy (upper s) = isBeforeBy s := by
  rw [isBeforeBy, isBeforeBy, upper_dropWhile caseless_isBlank]
  match s.dropWhile isBlank with
  | [] => rfl
  | [_] => rfl
  | a :: b :: _ => simp [sameWord, upper]

/-- A dictionary that finds a keyword in any case gives a word its type in any case. -/
theorem wordType_recased (hd : d.IgnoresCase) {w w' rest rest' : Text} (hw : upper w = upper w')
    (hr : upper rest = upper rest') : wordType d w rest = wordType d w' rest' := by
  have ha : awaitsBy w = awaitsBy w' := by simp only [awaitsBy, sameWord, hw]
  have hb : isBeforeBy rest = isBeforeBy rest' := by
    rw [← isBeforeBy_upper, hr, isBeforeBy_upper]
  rw [wordType, wordType, ha, hb, Dictionary.typeOf, Dictionary.typeOf, hd w w' hw]

theorem plainWord_recased (hd : d.IgnoresCase) (h : upper s = upper s') :
    (plainWord d s).SameButCase (plainWord d s') := by
  have hn : wordLength s = wordLength s' :=
    scan_wordLength.congr (by simpa using caseless_isWordChar) h
  have ht : wordType d (s.take (wordLength s')) (s.drop (wordLength s')) =
      wordType d (s'.take (wordLength s')) (s'.drop (wordLength s')) :=
    wordType_recased hd (by rw [← upper_take, h, upper_take]) (by rw [← upper_drop, h, upper_drop])
  rw [plainWord_eq, plainWord_eq, hn, ht]
  exact sameButCase_ofList h _ _ _

/-- A quote is no letter, so the case of the letters between quotes does not count. -/
theorem beforeQuote_upper {q : Char} (hq : q.isAlpha = false) (n : Nat) (s : Text) :
    beforeQuote q n (upper s) = beforeQuote q n s := by
  have hu : q.toUpper = q := toUpper_of_not_isAlpha hq
  have ne {c : Char} (hc : c ≠ q) : c.toUpper ≠ q := fun h =>
    hc (eq_of_toUpper_eq (by rw [h, hu]) hq).symm
  fun_induction beforeQuote q n s with
  | case1 => rfl
  | case2 n => simp [upper, hu, beforeQuote]
  | case3 n rest ih => rw [← ih, upper, List.map_cons, List.map_cons, hu, beforeQuote_pair, upper]
  | case4 n c rest hc =>
    rw [upper, List.map_cons, hu, beforeQuote_quote]
    simpa using ne hc
  | case5 n c rest hc ih => rw [← ih, upper, List.map_cons, beforeQuote_of_ne (ne hc), upper]

theorem beforeQuote_recased {q : Char} (hq : q.isAlpha = false) (h : upper s = upper s') (n : Nat) :
    beforeQuote q n s = beforeQuote q n s' := by
  rw [← beforeQuote_upper hq, h, beforeQuote_upper hq]

/-- A run of operator characters has no letters. -/
theorem operator_recased (h : upper s = upper s') (hh : s.head? = s'.head?) :
    operator d s = operator d s' := by
  have hr : s.takeWhile isOperatorChar = s'.takeWhile isOperatorChar :=
    takeWhile_of_upper_eq (fun _ => not_isAlpha_of_isOperatorChar) caseless_isOperatorChar h
  rw [operator, operator, hr, hh]

end Lexeme

end SqlLexis
