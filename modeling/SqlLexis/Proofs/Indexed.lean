import SqlLexis.Cursor
import SqlLexis.Proofs.Lexeme.Enclosed
import SqlLexis.Proofs.Lexeme.Operators
import SqlLexis.Proofs.Lexeme.Words

/-!
# Scanning by index

What a cursor reads, it reads from the rest of its text. Here the text is held in memory instead:
a character is read at its index in the whole text, loops count indices up, and an index is a number
that fits a machine word. Nothing comes of a scan that needs a larger one.

* `runEnd?`, `blockEnd?`, `quoteEnd?`: the loops, and `longestSymbol?`, which tries the starts of a
  run from the longest down;
* `runEnd?_eq`, `blockEnd?_eq`, `quoteEnd?_eq`: a loop that starts at an index comes to what is
  counted in the text from there on, as long as the indices fit;
* `longestSymbol?_run`: the symbol that is found so is the one at the cursor.
-/

namespace SqlLexis.Indexed

/-! ## Reading -/

/-- How many indices there are. -/
def wordSize : Nat := 2 ^ 64

/-- A number as an index, if it fits a machine word. -/
def index? (i : Nat) : Option Nat := if i < wordSize then some i else none

/-- The character at an index. Behind the last one there is none. -/
def charAt? (s : Text) (i : Nat) : Option (Option Char) := (index? i).map (s[·]?)

variable {s : Text} {i k : Nat} {c : Char} {p : Char → Bool}

theorem index?_eq (h : i < wordSize) : index? i = some i := if_pos h

theorem charAt?_eq (h : i < wordSize) : charAt? s i = some s[i]? := by
  rw [charAt?, index?_eq h, Option.map_some]

theorem getElem?_of_charAt? (h : charAt? s i = some (some c)) : s[i]? = some c := by
  obtain ⟨j, hj, hc⟩ := Option.map_eq_some_iff.1 h
  unfold index? at hj
  split at hj
  · cases hj; exact hc
  · cases hj

theorem lt_of_charAt? (h : charAt? s i = some (some c)) : i < s.length :=
  (List.getElem?_eq_some_iff.1 (getElem?_of_charAt? h)).1

/-! ## Loops -/

/-- The index behind the characters of a class, from an index on. -/
def runEnd? (s : Text) (p : Char → Bool) (i : Nat) : Option Nat :=
  match h : charAt? s i with
  | none => none
  | some none => some i
  | some (some c) => if p c then runEnd? s p (i + 1) else some i
termination_by s.length - i
decreasing_by have := lt_of_charAt? h; omega

/-- The index behind the end of a block, from an index on. -/
def blockEnd? (s : Text) (i : Nat) : Option (Except LexError Nat) :=
  match h : charAt? s i with
  | none => none
  | some none => some (.error (.unterminatedBlock "*/"))
  | some (some c) =>
    if c = '*' then do
      if (← charAt? s (i + 1)) = some '/' then return .ok (← index? (i + 2))
      else blockEnd? s (i + 1)
    else blockEnd? s (i + 1)
termination_by s.length - i
decreasing_by all_goals have := lt_of_charAt? h; omega

/-- The index behind the closing quote, from an index on. A doubled quote closes nothing. -/
def quoteEnd? (s : Text) (q : Char) (i : Nat) : Option (Except LexError Nat) :=
  match h : charAt? s i with
  | none => none
  | some none => some (.error (.unterminatedLiteral q))
  | some (some c) =>
    if c = q then do
      if (← charAt? s (i + 1)) = some q then quoteEnd? s q (i + 2)
      else return .ok (← index? (i + 1))
    else quoteEnd? s q (i + 1)
termination_by s.length - i
decreasing_by all_goals have := lt_of_charAt? h; omega

/-! ## What the loops come to -/

theorem drop_of_getElem?_eq_none (h : s[i]? = none) : s.drop i = [] :=
  List.drop_eq_nil_of_le (List.getElem?_eq_none_iff.1 h)

theorem runEnd?_eq (hs : s.length < wordSize) (hi : i < wordSize) :
    runEnd? s p i = some (i + ((s.drop i).takeWhile p).length) := by
  fun_induction runEnd? s p i with
  | case1 i h => rw [charAt?_eq hi] at h; cases h
  | case2 i h =>
    rw [charAt?_eq hi, Option.some.injEq] at h
    rw [drop_of_getElem?_eq_none h]
    rfl
  | case3 i c h hp ih =>
    have hlt := lt_of_charAt? h
    rw [ih (by omega), drop_of_getElem? (getElem?_of_charAt? h), List.takeWhile_cons_of_pos hp,
      List.length_cons, Nat.add_assoc, Nat.add_comm 1]
  | case4 i c h hp =>
    rw [drop_of_getElem? (getElem?_of_charAt? h), List.takeWhile_cons_of_neg hp]
    rfl

/-- A character that does not begin the end of a block is counted. -/
theorem beforeClose_cons {rest : Text} (h : c = '*' → rest.head? ≠ some '/') (n : Nat) :
    Gap.beforeClose n (c :: rest) = Gap.beforeClose (n + 1) rest := by
  rw [Gap.beforeClose]
  rintro after rfl rfl
  exact h rfl rfl

theorem blockEnd?_eq {n : Nat} (hs : s.length < wordSize) (hi : i < wordSize) (hn : i = k + n) :
    blockEnd? s i = some (match Gap.beforeClose n (s.drop i) with
      | some m => .ok (k + (m + 2))
      | none => .error (.unterminatedBlock "*/")) := by
  fun_induction blockEnd? s i generalizing n with
  | case1 i h => rw [charAt?_eq hi] at h; cases h
  | case2 i h =>
    rw [charAt?_eq hi, Option.some.injEq] at h
    rw [drop_of_getElem?_eq_none h]
    rfl
  | case3 i h ih =>
    have hlt := lt_of_charAt? h
    rw [charAt?_eq (by omega), Option.bind_eq_bind, Option.bind_some,
      drop_of_getElem? (getElem?_of_charAt? h)]
    split
    · next hslash =>
      have hlt' := (List.getElem?_eq_some_iff.1 hslash).1
      rw [index?_eq (by omega), drop_of_getElem? hslash, hn]
      rfl
    · next hslash =>
      rw [ih (by omega) (by omega : i + 1 = k + (n + 1)), beforeClose_cons]
      rw [List.head?_drop]
      exact fun _ => hslash
  | case4 i c h hc ih =>
    have hlt := lt_of_charAt? h
    rw [ih (by omega) (by omega : i + 1 = k + (n + 1)), drop_of_getElem? (getElem?_of_charAt? h),
      beforeClose_cons fun heq => absurd heq hc]

theorem quoteEnd?_eq {q : Char} {n : Nat} (hs : s.length < wordSize) (hi : i < wordSize)
    (hn : i = k + 1 + n) :
    quoteEnd? s q i = some (match Lexeme.beforeQuote q n (s.drop i) with
      | some m => .ok (k + (m + 2))
      | none => .error (.unterminatedLiteral q)) := by
  fun_induction quoteEnd? s q i generalizing n with
  | case1 i h => rw [charAt?_eq hi] at h; cases h
  | case2 i h =>
    rw [charAt?_eq hi, Option.some.injEq] at h
    rw [drop_of_getElem?_eq_none h]
    rfl
  | case3 i h ih =>
    have hlt := lt_of_charAt? h
    rw [charAt?_eq (by omega), Option.bind_eq_bind, Option.bind_some,
      drop_of_getElem? (getElem?_of_charAt? h)]
    split
    · next hq =>
      have hlt' := (List.getElem?_eq_some_iff.1 hq).1
      rw [ih (by omega) (by omega : i + 2 = k + 1 + (n + 2)), drop_of_getElem? hq,
        Lexeme.beforeQuote_pair]
    · next hq =>
      rw [Lexeme.beforeQuote_quote (by rwa [List.head?_drop]), index?_eq (by omega),
        (by omega : i + 1 = k + (n + 2))]
      rfl
  | case4 i c h hc ih =>
    have hlt := lt_of_charAt? h
    rw [ih (by omega) (by omega : i + 1 = k + 1 + (n + 1)),
      drop_of_getElem? (getElem?_of_charAt? h), Lexeme.beforeQuote_of_ne hc]

/-! ## Parts of lexemes -/

/-- The index behind the character at an index if it is of a class, or else that index. -/
def past? (s : Text) (p : Char → Bool) (i : Nat) : Option Nat := do
  if (← charAt? s i).any p then index? (i + 1) else return i

/-- The index behind the characters of a class, and behind one of the class `lead` before them. -/
def ledRunEnd? (s : Text) (lead p : Char → Bool) (i : Nat) : Option Nat := do
  runEnd? s p (← past? s lead i)

/-- The index behind a point and digits. -/
def fractionEnd? (s : Text) (i : Nat) : Option Nat := do
  if (← charAt? s i) = some '.' then runEnd? s Char.isDigit (i + 1) else return i

/-- The index behind the mark of an exponent, a sign and digits. -/
def exponentEnd? (s : Text) (i : Nat) : Option Nat := do
  if (← charAt? s i).any isExponentMark then ledRunEnd? s isSign Char.isDigit (i + 1) else return i

/-- The index behind a comment that goes to the end of its line, or one more than the length. -/
def lineEnd? (s : Text) (i : Nat) : Option (Except LexError Nat) := do
  return .ok (← index? ((← runEnd? s (· ≠ '\n') i) + 1))

/-- Whether `BY` follows, behind blanks. -/
def isBeforeBy? (s : Text) (i : Nat) : Option Bool := do
  let j ← runEnd? s isBlank i
  match ← charAt? s j, ← charAt? s (j + 1) with
  | some a, some b => return sameWord [a, b] Keyword.BY.text.toList
  | _, _ => return false

/-- The longest of the first `n` starts of a text from an index on that is known as a symbol, which
is looked for from the longest down. -/
def longestSymbol? (symbol? : String → Option Symbol) (s : Text) (k : Nat) : Nat → Option Token
  | 0 => none
  | n + 1 =>
    let spelling := String.ofList (s.extract k (k + (n + 1)))
    match symbol? spelling with
    | some x => some ⟨.symbol x, spelling, k + (n + 1)⟩
    | none => longestSymbol? symbol? s k n

theorem extract_add (s : Text) (k n : Nat) : s.extract k (k + n) = (s.drop k).take n := by
  rw [List.extract_eq_take_drop, Nat.add_sub_cancel_left]

theorem past?_eq (hs : s.length < wordSize) (hi : i < wordSize) :
    past? s p i = some (i + if (s.drop i).head?.any p then 1 else 0) := by
  rw [past?, charAt?_eq hi, List.head?_drop, Option.bind_eq_bind, Option.bind_some]
  split
  · next hp =>
    obtain ⟨c, hc, -⟩ := (Option.any_eq_true p s[i]?).1 hp
    have hlt := (List.getElem?_eq_some_iff.1 hc).1
    rw [index?_eq (by omega)]
  · rfl

/-- How many characters of a class are in front, with one of the class `lead` before them. -/
def ledRun (lead p : Char → Bool) (s : Text) : Nat :=
  let n := if s.head?.any lead then 1 else 0
  n + ((s.drop n).takeWhile p).length

theorem any_head?_beq_iff {s : Text} : s.head?.any (· == c) = true ↔ s.head? = some c := by
  cases s <;> simp

theorem whole_eq (s : Text) : Lexeme.whole s = ledRun (· == '-') Char.isDigit s := by
  simp only [ledRun, any_head?_beq_iff]
  rfl

theorem hexLength_eq (s : Text) : Lexeme.hexLength s = ledRun (· == '-') isHexDigit s := by
  simp only [ledRun, any_head?_beq_iff]
  rfl

theorem varLength_eq (s : Text) : Lexeme.varLength s = ledRun (· == '@') isVariableChar s := by
  simp only [ledRun, any_head?_beq_iff]
  rfl

theorem ledRunEnd?_eq {lead : Char → Bool} (hs : s.length < wordSize) (hi : i < wordSize) :
    ledRunEnd? s lead p i = some (i + ledRun lead p (s.drop i)) := by
  have hlead : Lexeme.Scan [lead] fun s => if s.head?.any lead then 1 else 0 :=
    .lead (List.mem_singleton_self _) .zero rfl fun _ _ => rfl
  have hle := hlead.le_length (s.drop i)
  rw [List.length_drop] at hle
  rw [ledRunEnd?, past?_eq hs hi, Option.bind_eq_bind, Option.bind_some,
    runEnd?_eq hs (by omega), ledRun, List.drop_drop, Nat.add_assoc]

theorem fractionEnd?_eq (hs : s.length < wordSize) (hi : i < wordSize) :
    fractionEnd? s i = some (i + Lexeme.fraction (s.drop i)) := by
  rw [fractionEnd?, charAt?_eq hi, Option.bind_eq_bind, Option.bind_some]
  split
  · next hpoint =>
    have hlt := (List.getElem?_eq_some_iff.1 hpoint).1
    rw [runEnd?_eq hs (by omega), drop_of_getElem? hpoint, Lexeme.fraction, Lexeme.digits,
      Nat.add_assoc]
  · next hpoint =>
    have hzero : Lexeme.fraction (s.drop i) = 0 := by
      unfold Lexeme.fraction
      split
      · next rest hrest => exact absurd (by rw [← List.head?_drop, hrest]; rfl) hpoint
      · rfl
    rw [hzero]
    rfl

theorem exponentEnd?_eq (hs : s.length < wordSize) (hi : i < wordSize) :
    exponentEnd? s i = some (i + Lexeme.exponent (s.drop i)) := by
  rw [exponentEnd?, charAt?_eq hi, Option.bind_eq_bind, Option.bind_some]
  cases hc : s[i]? with
  | none => rw [drop_of_getElem?_eq_none hc]; rfl
  | some c =>
    have hlt := (List.getElem?_eq_some_iff.1 hc).1
    rw [drop_of_getElem? hc, Lexeme.exponent, Option.any_some]
    split
    · rw [ledRunEnd?_eq hs (by omega)]
      simp only [ledRun, Lexeme.digits, Nat.add_assoc]
    · rfl

theorem isBeforeBy?_eq (hs : s.length + 1 < wordSize) (hi : i + 1 < wordSize) :
    isBeforeBy? s i = some (Lexeme.isBeforeBy (s.drop i)) := by
  have hle := (List.takeWhile_sublist isBlank (l := s.drop i)).length_le
  rw [List.length_drop] at hle
  have hdrop : (s.drop i).dropWhile isBlank =
      s.drop (i + ((s.drop i).takeWhile isBlank).length) := by
    rw [← List.drop_drop, Lexeme.dropWhile_isBlank]
    rfl
  rw [isBeforeBy?, runEnd?_eq (by omega) (by omega), Lexeme.isBeforeBy, hdrop]
  have hj : i + ((s.drop i).takeWhile isBlank).length + 1 < wordSize := by omega
  generalize i + ((s.drop i).takeWhile isBlank).length = j at hj
  rw [Option.bind_eq_bind, Option.bind_some, charAt?_eq (by omega), charAt?_eq hj]
  simp only [Option.bind_eq_bind, Option.bind_some]
  cases ha : s[j]? with
  | none => rw [drop_of_getElem?_eq_none ha]; rfl
  | some a =>
    cases hb : s[j + 1]? with
    | none => rw [drop_of_getElem? ha, drop_of_getElem?_eq_none hb]; rfl
    | some b => rw [drop_of_getElem? ha, drop_of_getElem? hb]; rfl

/-! ## The longest symbol -/

variable {symbol? : String → Option Symbol} {n : Nat} {t : Token}

/-- What is found is a start that is known, and no longer one is. -/
theorem of_longestSymbol? (h : longestSymbol? symbol? s k n = some t) :
    ∃ m x, 0 < m ∧ m ≤ n ∧ symbol? (String.ofList ((s.drop k).take m)) = some x ∧
      t = (⟨.symbol x, String.ofList ((s.drop k).take m), m⟩ : Token).shift k ∧
      ∀ j, m < j → j ≤ n → symbol? (String.ofList ((s.drop k).take j)) = none := by
  induction n with
  | zero => cases h
  | succ n ih =>
    rw [longestSymbol?, extract_add] at h
    split at h
    · next x hx =>
      cases h
      exact ⟨n + 1, x, by omega, by omega, hx, rfl, fun j hj hj' => by omega⟩
    · next hnone =>
      obtain ⟨m, x, hm, hm', hx, rfl, hlonger⟩ := ih h
      refine ⟨m, x, hm, by omega, hx, rfl, fun j hj hj' => ?_⟩
      rcases Nat.lt_or_eq_of_le hj' with hlt | rfl
      · exact hlonger j hj (by omega)
      · exact hnone

/-- Nothing is found if no start is known. -/
theorem of_longestSymbol?_eq_none (h : longestSymbol? symbol? s k n = none) :
    ∀ j, 0 < j → j ≤ n → symbol? (String.ofList ((s.drop k).take j)) = none := by
  induction n with
  | zero => intro j hj hj'; omega
  | succ n ih =>
    rw [longestSymbol?, extract_add] at h
    split at h
    · cases h
    · next hnone =>
      intro j hj hj'
      rcases Nat.lt_or_eq_of_le hj' with hlt | rfl
      · exact ih h j hj (by omega)
      · exact hnone

/-- What is found in a run of operator characters is the symbol at the cursor. -/
theorem longestSymbol?_run (d : Dictionary) (s : Text) (k : Nat) :
    (match longestSymbol? d.symbol? s k ((s.drop k).takeWhile isOperatorChar).length with
      | some t => Except.ok t
      | none => .error (.unknownSymbol s[k]? k)) = (⟨s, k⟩ : Cursor).operator d := by
  rw [Cursor.operator, Cursor.rest]
  split
  · next t ht =>
    obtain ⟨m, x, hm, hm', hx, rfl, hlonger⟩ := of_longestSymbol? ht
    have hread : Lexeme.operator d (s.drop k) =
        .ok ⟨.symbol x, String.ofList ((s.drop k).take m), m⟩ := by
      rw [Lexeme.operator_eq_ok_iff_longest]
      have hlen : (((s.drop k).takeWhile isOperatorChar).take m).length = m :=
        List.length_take_of_le hm'
      refine ⟨((s.drop k).takeWhile isOperatorChar).take m, x, ?_, ?_⟩
      · constructor
        · exact List.take_prefix m _
        · exact List.ne_nil_of_length_pos (by omega)
        · rwa [Lexeme.take_run hm']
        · intro v hv hne hknown
          refine Nat.le_of_not_lt fun hlt => ?_
          have hnone := hlonger v.length (by omega) hv.length_le
          rw [← Lexeme.take_run hv.length_le, ← List.prefix_iff_eq_take.1 hv] at hnone
          rw [hnone] at hknown
          cases hknown
      · rw [hlen, Lexeme.take_run hm']
    rw [hread]
    rfl
  · next hnone =>
    have hread : Lexeme.operator d (s.drop k) = .error (.unknownSymbol (s.drop k).head? 0) := by
      rw [Lexeme.operator_eq_error_iff]
      refine ⟨rfl, fun v hv hne => ?_⟩
      have hv' := of_longestSymbol?_eq_none hnone v.length (List.length_pos_iff.2 hne) hv.length_le
      rwa [← Lexeme.take_run hv.length_le, ← List.prefix_iff_eq_take.1 hv] at hv'
    rw [hread, List.head?_drop]
    rfl

end SqlLexis.Indexed
