import SqlLexis.Proofs.Lexeme.Caseless
import SqlLexis.Proofs.SideBySide

/-!
# Statements in another case

A statement with some letters in another case is read alike: the tokens stand in the same places and
are of the same types, and their values are the same but for the case (`answers_recased`). Left as
they are must be the `x` of `0x` and, in one dialect, the `N` of `N'`.
-/

namespace SqlLexis

variable {dialect : Dialect} {d : Dictionary} {s s' : Text}

/-! ## Gaps -/

namespace Gap

theorem blanks_upper (s : Text) : blanks (upper s) = blanks s := by
  rw [blanks, upper_takeWhile caseless_isBlank, length_upper, blanks]

theorem beforeClose_upper (n : Nat) (s : Text) : beforeClose n (upper s) = beforeClose n s := by
  fun_induction beforeClose n s with
  | case1 => rfl
  | case2 n after => rfl
  | case3 n c rest hc ih =>
    rw [← ih, upper, List.map_cons, beforeClose, upper]
    intro t h1 h2
    have h := (prefix_upper_iff (m := ['*', '/']) (by simp) (c :: rest)).1
      ⟨t, by simp [upper, h1, h2]⟩
    exact not_closes_of hc h

theorem not_isAlpha_of_marker {marker : Text} (hm : marker ∈ ['/', '*'] :: lineMarkers dialect) :
    ∀ c ∈ marker, c.isAlpha = false := by
  have hall : (['/', '*'] :: lineMarkers dialect).all (fun m => m.all (!·.isAlpha)) = true := by
    cases dialect <;> decide
  simpa using List.all_eq_true.1 hall marker hm

/-- A comment is as long in every case. -/
theorem span?_upper (s : Text) : span? dialect (upper s) = span? dialect s := by
  by_cases hm : ∃ marker ∈ ['/', '*'] :: lineMarkers dialect, marker <+: s
  · obtain ⟨marker, hm, t, rfl⟩ := hm
    have hu : upper (marker ++ t) = marker ++ upper t := by
      rw [upper, List.map_append, ← upper, upper_eq_self (not_isAlpha_of_marker hm), upper]
    rw [hu]
    rcases List.mem_cons.1 hm with rfl | hm
    · have hb := beforeClose_upper 2 t
      simp only [List.cons_append, List.nil_append, span?_block, block, List.drop_succ_cons,
        List.drop_zero, hb]
    · rw [span?_line hm, span?_line hm, lineComment, lineComment, List.drop_left, List.drop_left,
        upper_takeWhile (caseless_of_letters (by decide)), length_upper]
  · have hs : ∀ m ∈ ['/', '*'] :: lineMarkers dialect, ¬ m <+: s :=
      fun m hmem hp => hm ⟨m, hmem, hp⟩
    have hu : ∀ m ∈ ['/', '*'] :: lineMarkers dialect, ¬ m <+: upper s := fun m hmem =>
      (prefix_upper_iff (not_isAlpha_of_marker hmem) s).not.2 (hs m hmem)
    rw [span?_of_no_marker hs, span?_of_no_marker hu]

theorem skip_upper (s : Text) : skip dialect (upper s) = skip dialect s := by
  have hr (s : Text) : span? dialect ((upper s).drop (blanks (upper s))) =
      span? dialect (s.drop (blanks s)) := by
    rw [blanks_upper, upper_drop, span?_upper]
  induction s using skip.induct dialect with
  | case1 s _ hs => rw [skip_of_none hs, skip_of_none ((hr s).trans hs), blanks_upper]
  | case2 s _ e hs => rw [skip_of_error hs, skip_of_error ((hr s).trans hs), blanks_upper]
  | case3 s rest n hs ih =>
    rw [skip_of_ok hs, skip_of_ok ((hr s).trans hs), blanks_upper, upper_drop, upper_drop]
    exact congrArg _ ih

theorem skip_recased (h : upper s = upper s') : skip dialect s = skip dialect s' := by
  rw [← skip_upper, h, skip_upper]

end Gap

/-! ## Places -/

theorem Position.of_recased (h : upper s = upper s') (k : Nat) : of s k = of s' k := by
  have hc (p : Position) (c : Char) : p.advance c.toUpper = p.advance c := by
    have hn : c.toUpper = '\n' ↔ c = '\n' := by
      simpa using Bool.eq_iff_iff.1 (caseless_beq (x := '\n') rfl c)
    simp only [advance, hn]
  have key (t : Text) (p : Position) : (upper t).foldl advance p = t.foldl advance p := by
    rw [upper, List.foldl_map]
    congr 1
    exact funext fun p => funext fun c => hc p c
  rw [of, of, ← key, ← upper_take, h, upper_take, key]

theorem Cursor.previous?_recased (h : upper s = upper s') (k : Nat) :
    (⟨s, k⟩ : Cursor).previous?.any isWordStart = (⟨s', k⟩ : Cursor).previous?.any isWordStart := by
  rw [previous?, previous?]
  split
  · rfl
  · have hd : upper (s.drop (k - 1)) = upper (s'.drop (k - 1)) := by
      rw [← upper_drop, h, upper_drop]
    have hi := any_head?_of_upper_eq caseless_isWordStart hd
    rwa [List.head?_drop, List.head?_drop] at hi

/-! ## The token in front -/

namespace Lexeme

theorem quoted_recased {q : Char} (hq : q.isAlpha = false) (h : upper s = upper s') :
    Alike Token.SameButCase (quoted (q :: s)) (quoted (q :: s')) := by
  rw [quoted, quoted, beforeQuote_recased hq h]
  cases beforeQuote q 0 s' with
  | none => exact .error _
  | some n => exact .ok (sameButCase_ofList h _ _ _)

theorem word_recased (hd : d.IgnoresCase) (h : upper s = upper s') :
    Alike Token.SameButCase (word d s) (word d s') := by
  have hb := head?_eq_some_iff_of_upper_eq (x := backquote) rfl h
  rw [word, word]
  by_cases hq : s'.head? = some backquote
  · have hd : upper (s.drop 1) = upper (s'.drop 1) := by rw [← upper_drop, h, upper_drop]
    rw [if_pos (hb.2 hq), if_pos hq, quotedName, quotedName, beforeQuote_recased rfl hd]
    cases beforeQuote backquote 0 (s'.drop 1) with
    | none => exact .error _
    | some n => exact .ok (sameButCase_ofList h _ _ _)
  · rw [if_neg fun h => hq (hb.1 h), if_neg hq]
    exact .ok (plainWord_recased hd h)

theorem front_recased (hd : d.IgnoresCase) (h : Recased dialect s s') (p : Option Char) :
    Alike Token.SameButCase (front dialect d p s) (front dialect d p s') := by
  have ho := Opening.of_recased h p
  cases s with
  | nil =>
    obtain rfl : s' = [] := by simpa [upper, eq_comm] using h.same
    exact .ok (.refl _)
  | cons c s =>
    cases s' with
    | nil => simpa [upper] using h.same
    | cons c' s' =>
      obtain ⟨hc, hs⟩ := h.eq_or
      have hf := Opening.fits_of dialect p c s
      rw [front, front, ← ho]
      cases hx : Opening.of dialect p (c :: s) <;> rw [hx] at hf <;> simp only []
      case var => exact .ok (var_recased h.same)
      case nationalString =>
        obtain ⟨body, hb⟩ := Opening.drop_of_nationalString hx
        obtain ⟨body', hb'⟩ := Opening.drop_of_nationalString (ho.symm.trans hx)
        obtain rfl : s = '\'' :: body := hb
        obtain rfl : s' = '\'' :: body' := hb'
        have hbody : upper body = upper body' := by simpa [upper] using hs
        exact (quoted_recased rfl hbody).map fun _ _ ht => ht.shift 1
      case word => exact word_recased hd h.same
      case hexNumber => exact .ok (hexNumber_recased h.same)
      case number => exact .ok (number_recased h.same)
      case operator =>
        obtain rfl := eq_of_toUpper_eq hc (not_isAlpha_of_isOperatorChar hf)
        rw [operator_recased h.same rfl]
        cases operator d (c :: s') with
        | error e => exact .error e
        | ok t => exact .ok (.refl t)
      case string =>
        have hq : c.isAlpha = false := not_isAlpha_of_isStringQuote hf
        obtain rfl := eq_of_toUpper_eq hc hq
        exact quoted_recased hq hs
      case endOfInput => exact hf.elim
      case unexpected => exact .error _

end Lexeme

/-! ## All answers -/

/-- The value of a span is its text, but for the quotes of a character string. The end of the input
has neither. -/
def Span.Spelled (dialect : Dialect) (s : Text) (a : Span) : Prop :=
  if a.token.type.isEnd then a.token.value = "" ∧ a.source s = []
  else a.token.Written dialect (a.source s)

/-- Two spans of the texts `s` and `s'` are the same but for the case of letters, and each of them
is spelled as in its text. -/
structure Span.SameButCase (dialect : Dialect) (s s' : Text) (a a' : Span) : Prop where
  start : a.start = a'.start
  token : a.token.SameButCase a'.token
  spelled : a.Spelled dialect s
  spelled' : a'.Spelled dialect s'

/-- The token in front has the value that is written there. -/
theorem Lexeme.spelled_of_front {p : Option Char} {k : Nat} {t : Token}
    (h : front dialect d p (s.drop k) = .ok t) : Span.Spelled dialect s ⟨k, t.shift k⟩ := by
  rw [Span.Spelled, Span.source_shift]
  by_cases hs : s.drop k = []
  · rw [hs] at h ⊢
    cases h
    exact ⟨rfl, List.take_nil⟩
  · obtain ⟨text, after, heq, -, hn, hw⟩ := begins_of_front h hs
    rw [heq, hn, List.take_left]
    show if t.type.isEnd then _ else _
    rw [hw.isEnd]
    exact hw.shift k

theorem inStep_recased (hd : d.IgnoresCase) (h : Recased dialect s s') :
    InStep dialect dialect d d s s' (Span.SameButCase dialect s s') where
  skip k := Gap.skip_recased (h.drop k).same
  place k := Position.of_recased h.same k
  front k := by
    rw [Lexeme.front_congr (Cursor.previous?_recased h.same k)]
    refine (Lexeme.front_recased hd (h.drop k) _).mono fun t t' ht ht' hS => ?_
    exact ⟨rfl, hS.shift k, Lexeme.spelled_of_front ht, Lexeme.spelled_of_front ht'⟩
  ends a a' hS := ⟨hS.token.endOffset, by rw [hS.token.type]⟩

/-- A statement in another case is read alike, where the case does not announce a token. -/
theorem answers_recased {sql sql' : String} {dialect : Dialect}
    (h : Recased dialect sql.toList sql'.toList) :
    List.Forall₂ (Alike (Span.SameButCase dialect sql.toList sql'.toList))
      (Lexer.new sql dialect).answers (Lexer.new sql' dialect).answers := by
  rw [Lexer.new, Lexer.new, Lexer.answers_withDictionary, Lexer.answers_withDictionary]
  exact (inStep_recased dialect.keywordTable.ignoresCase h).answers 0

/-- A number with an exponent, a hexadecimal one, a national string and `ORDER BY`, in two cases. -/
theorem answers_recased_orderBy :
    let sql := "1e-5F 0xAb N'q' Order by n"
    let sql' := "1E-5f 0xaB N'Q' oRDER bY N"
    Recased .sqlServer sql.toList sql'.toList ∧
      List.Forall₂ (Alike (Span.SameButCase .sqlServer sql.toList sql'.toList))
        (Lexer.new sql .sqlServer).answers (Lexer.new sql' .sqlServer).answers := by
  intro sql sql'
  have h : Recased .sqlServer sql.toList sql'.toList :=
    recased_iff.2 ⟨by decide +kernel, by decide +kernel, by decide +kernel⟩
  exact ⟨h, answers_recased h⟩

/-- The case of an `x` behind a zero counts. -/
example : (Lexer.new "0x1" .h2).spans = .ok [⟨0, .literal .hex, "0x1", 3⟩] ∧
    (Lexer.new "0X1" .h2).spans =
      .ok [⟨0, .literal .int, "0", 1⟩, ⟨1, .literal .identifier, "X1", 3⟩] := by
  decide +kernel

end SqlLexis
