import SqlLexis.Proofs.Lexeme.Front

/-!
# Operators one behind the other

At a run of operator characters the longest symbol is read that the dictionary knows, and reading
goes on behind it. The dictionary may know a symbol without knowing its starts.

* `longestSymbol_of_operator`, `noSymbol_of_operator`: what is read is the longest known start of
  the run, and nothing is read if no start of it is known;
* `Cursor.operators`: the symbols of a run, one behind the other;
* `operator_longest`: both for a cursor; and the symbols of a run, in the dictionary of a keyword
  table, are the whole run.
-/

namespace SqlLexis

/-- The symbol `x` is spelled `w` at the start of a text, and every other start of it that the
dictionary knows is shorter. -/
structure LongestSymbol (d : Dictionary) (s w : Text) (x : Symbol) : Prop where
  start : w <+: s
  ne_nil : w ≠ []
  known : d.symbol? (String.ofList w) = some x
  longest : ∀ v, v <+: s → v ≠ [] → (d.symbol? (String.ofList v)).isSome → v.length ≤ w.length

/-- The dictionary knows no start of a text as a symbol. -/
def NoSymbol (d : Dictionary) (s : Text) : Prop :=
  ∀ v, v <+: s → v ≠ [] → d.symbol? (String.ofList v) = none

variable {d : Dictionary} {s w : Text} {x : Symbol} {t : Token} {e : LexError}

/-- No text begins with two longest symbols. -/
theorem LongestSymbol.unique {w' : Text} {x' : Symbol} (h : LongestSymbol d s w x)
    (h' : LongestSymbol d s w' x') : w = w' ∧ x = x' := by
  have hle : w.length ≤ w'.length := h'.longest w h.start h.ne_nil (by rw [h.known]; rfl)
  have hge : w'.length ≤ w.length := h.longest w' h'.start h'.ne_nil (by rw [h'.known]; rfl)
  have hw : w = w' :=
    (List.prefix_of_prefix_length_le h.start h'.start hle).eq_of_length_le hge
  have hx : some x = some x' := by rw [← h.known, ← h'.known, hw]
  exact ⟨hw, Option.some.inj hx⟩

theorem LongestSymbol.not_noSymbol (h : LongestSymbol d s w x) : ¬ NoSymbol d s := fun hn => by
  have := hn w h.start h.ne_nil
  rw [h.known] at this
  cases this

namespace Lexeme

/-! ## The symbol in front -/

/-- No start of the run is known that is longer than what is found. -/
theorem unknown_of_longestKnown {l run : Text} {n k : Nat} {best : Option Token}
    (h : longestKnown d (String.ofList l) n best run = some t) (h0 : 0 < k) (hk : k ≤ run.length)
    (ht : t.endOffset < n + k) : d.symbol? (String.ofList (l ++ run.take k)) = none := by
  induction run generalizing l n best k with
  | nil => exact absurd (Nat.lt_of_lt_of_le h0 hk) (Nat.lt_irrefl 0)
  | cons c run ih =>
    have hp : (String.ofList l).push c = String.ofList (l ++ [c]) := by
      rw [String.ofList_append]; rfl
    rw [longestKnown, hp] at h
    obtain ⟨k, rfl⟩ := Nat.exists_eq_succ_of_ne_zero (Nat.ne_of_gt h0)
    rcases Nat.eq_zero_or_pos k with rfl | hpos
    · -- What is found ends before the character `c`, so it is the find from before.
      rcases of_longestKnown h with hb | ⟨i, x, -, -, -, rfl⟩
      · split at hb
        · cases hb
          exact absurd ht (Nat.lt_irrefl _)
        · next hn => simpa using hn
      · simp only at ht
        omega
    · have := ih h hpos (by simpa using hk) (by omega)
      simpa using this

/-- What is read is the longest known start of the operator characters in front. -/
theorem longestSymbol_of_operator (h : operator d s = .ok t) :
    ∃ w x, LongestSymbol d (s.takeWhile isOperatorChar) w x ∧
      t = ⟨.symbol x, String.ofList w, w.length⟩ := by
  rw [operator_eq_ok_iff] at h
  generalize s.takeWhile isOperatorChar = run at h
  rcases of_longestKnown (l := []) h with hb | ⟨k, x, h0, hk, hx, rfl⟩
  · cases hb
  · have hl : (run.take k).length = k := List.length_take_of_le hk
    refine ⟨run.take k, x, ⟨List.take_prefix k run, ?_, hx, fun v hv hne hsome => ?_⟩, ?_⟩
    · exact List.ne_nil_of_length_pos (by rwa [hl])
    · refine Nat.le_of_not_lt fun hlt => ?_
      have hnone := unknown_of_longestKnown (l := []) h (List.length_pos_iff.2 hne) hv.length_le
        (by rw [hl] at hlt; show 0 + k < 0 + v.length; omega)
      rw [List.nil_append, ← List.prefix_iff_eq_take.1 hv] at hnone
      rw [hnone] at hsome
      cases hsome
    · rw [hl, Nat.zero_add, List.nil_append]

/-- Nothing is read if no start of the operator characters in front is known. -/
theorem noSymbol_of_operator (h : operator d s = .error e) :
    e = .unknownSymbol s.head? 0 ∧ NoSymbol d (s.takeWhile isOperatorChar) := by
  refine ⟨error_of_operator h, fun v hv hne => ?_⟩
  unfold operator at h
  split at h
  · cases h
  · next hn =>
    have := (of_longestKnown_none (l := []) hn).2 v.length (List.length_pos_iff.2 hne) hv.length_le
    rwa [List.nil_append, ← List.prefix_iff_eq_take.1 hv] at this

theorem operator_eq_ok_iff_longest : operator d s = .ok t ↔
    ∃ w x, LongestSymbol d (s.takeWhile isOperatorChar) w x ∧
      t = ⟨.symbol x, String.ofList w, w.length⟩ := by
  refine ⟨longestSymbol_of_operator, ?_⟩
  rintro ⟨w, x, hw, rfl⟩
  cases h : operator d s with
  | error e => exact absurd (noSymbol_of_operator h).2 hw.not_noSymbol
  | ok t =>
    obtain ⟨w', x', hw', rfl⟩ := longestSymbol_of_operator h
    obtain ⟨rfl, rfl⟩ := hw.unique hw'
    rfl

theorem operator_eq_error_iff : operator d s = .error e ↔
    e = .unknownSymbol s.head? 0 ∧ NoSymbol d (s.takeWhile isOperatorChar) := by
  refine ⟨noSymbol_of_operator, ?_⟩
  rintro ⟨rfl, hn⟩
  cases h : operator d s with
  | error e => rw [(noSymbol_of_operator h).1]
  | ok t =>
    obtain ⟨w, x, hw, -⟩ := longestSymbol_of_operator h
    exact absurd hn hw.not_noSymbol

end Lexeme

namespace Cursor

variable {c : Cursor}

/-- The operator characters at the cursor. -/
def run (c : Cursor) : Text := c.rest.takeWhile isOperatorChar

/-- The symbol at a cursor is the longest known start of the run. -/
theorem operator_eq_ok_iff : c.operator d = .ok t ↔
    ∃ w x, LongestSymbol d c.run w x ∧ t = ⟨.symbol x, String.ofList w, c.offset + w.length⟩ := by
  constructor
  · intro h
    obtain ⟨t, ht, rfl⟩ := ok_of_moveToken h
    obtain ⟨w, x, hw, rfl⟩ := Lexeme.longestSymbol_of_operator ht
    exact ⟨w, x, hw, rfl⟩
  · rintro ⟨w, x, hw, rfl⟩
    rw [operator, Lexeme.operator_eq_ok_iff_longest.2 ⟨w, x, hw, rfl⟩]
    rfl

/-- There is no symbol at a cursor if no start of the run is known. -/
theorem operator_eq_error_iff : c.operator d = .error e ↔
    e = .unknownSymbol c.input[c.offset]? c.offset ∧ NoSymbol d c.run := by
  have hc : c.rest.head? = c.input[c.offset]? := List.head?_drop
  constructor
  · intro h
    obtain ⟨e, he, rfl⟩ := error_of_moveToken h
    obtain ⟨rfl, hn⟩ := Lexeme.noSymbol_of_operator he
    exact ⟨by rw [hc]; rfl, hn⟩
  · rintro ⟨rfl, hn⟩
    rw [operator, Lexeme.operator_eq_error_iff.2 ⟨rfl, hn⟩, hc]
    rfl

/-! ## The symbols of a run -/

theorem ne_nil_of_run (h : c.run ≠ []) : c.rest ≠ [] := fun hr => h (by rw [run, hr]; rfl)

/-- The symbols at the cursor, each read behind the one before, up to the end of the run. -/
def operators (d : Dictionary) (c : Cursor) : Except LexError (List Token) :=
  if _hr : c.run = [] then .ok []
  else
    match _h : c.operator d with
    | .error e => .error e
    | .ok t => (operators d { c with offset := t.endOffset }).map (t :: ·)
termination_by c.rest.length
decreasing_by
  obtain ⟨t, ht, rfl⟩ := ok_of_moveToken _h
  have hpos := Lexeme.endOffset_operator_pos ht
  have hlen := List.length_pos_iff.2 (ne_nil_of_run _hr)
  simp only [rest, List.length_drop, Token.shift] at hlen ⊢
  omega

theorem operators_of_nil (h : c.run = []) : c.operators d = .ok [] := by
  rw [operators, dif_pos h]

theorem operators_of_token (hr : c.run ≠ []) (h : c.operator d = .ok t) :
    c.operators d = ((⟨c.input, t.endOffset⟩ : Cursor).operators d).map (t :: ·) := by
  rw [operators, dif_neg hr]
  split <;> simp_all

/-- Behind a start of the run stands the rest of it. -/
theorem run_of_prefix (h : w <+: c.run) :
    c.run = w ++ (⟨c.input, c.offset + w.length⟩ : Cursor).run := by
  have hop : ∀ x ∈ w, isOperatorChar x = true := fun x hx =>
    List.mem_takeWhile_imp (h.subset hx)
  obtain ⟨u, hu⟩ := h.trans (List.takeWhile_prefix isOperatorChar)
  have hrest : (⟨c.input, c.offset + w.length⟩ : Cursor).rest = u := by
    rw [rest, ← List.drop_drop]
    show c.rest.drop w.length = u
    rw [← hu, List.drop_left]
  rw [run, run, hrest, ← hu, List.takeWhile_append_of_pos hop]

end Cursor

/-- Tokens from an offset of a text on, each the longest symbol where it begins, and the next one
where it ends. -/
def Splits (d : Dictionary) (s : Text) : Nat → List Token → Prop
  | _, [] => True
  | k, t :: ts =>
    (∃ w x, LongestSymbol d (s.drop k) w x ∧ t = ⟨.symbol x, String.ofList w, k + w.length⟩) ∧
      Splits d s t.endOffset ts

section Table

variable {table : KeywordTable}

/-- A table knows a symbol at the start of every run, since it knows each character of it. -/
theorem not_noSymbol_run {c : Cursor} (h : c.run ≠ []) : ¬ NoSymbol table.toDictionary c.run := by
  intro hn
  obtain ⟨x, u, hu⟩ := List.exists_cons_of_ne_nil h
  have hx : isOperatorChar x = true := List.mem_takeWhile_imp (l := c.rest) (by
    show x ∈ c.run
    rw [hu]
    exact List.mem_cons_self)
  have hnone : Symbol.ofText? (String.ofList [x]) = none :=
    hn [x] (by rw [hu]; exact List.prefix_append [x] u) (List.cons_ne_nil x [])
  have hsome := Symbol.ofText?_char hx
  rw [hnone] at hsome
  cases hsome

/-- For a table no symbol goes beyond the run, so that the longest one in the run is the longest one
in the text. -/
theorem LongestSymbol.of_run
    (h : LongestSymbol table.toDictionary (s.takeWhile isOperatorChar) w x) :
    LongestSymbol table.toDictionary s w x := by
  refine ⟨h.start.trans (List.takeWhile_prefix _), h.ne_nil, h.known, fun v hv hne hsome => ?_⟩
  obtain ⟨y, hy⟩ := Option.isSome_iff_exists.1 hsome
  have htext : y.text = String.ofList v := Symbol.ofText?_eq_some_iff.1 hy
  have hop : ∀ c ∈ v, isOperatorChar c = true := fun c hc =>
    Symbol.isOperatorChar_of_mem_text (s := y) (by rwa [htext, String.toList_ofList])
  obtain ⟨u, rfl⟩ := hv
  refine h.longest v ?_ hne hsome
  rw [List.takeWhile_append_of_pos hop]
  exact List.prefix_append v _

/-- In the dictionary of a table the run at a cursor is split into longest symbols. -/
theorem splits_operators (c : Cursor) : ∃ ts, c.operators table.toDictionary = .ok ts ∧
    Splits table.toDictionary c.input c.offset ts ∧
    ts.flatMap (fun t => t.value.toList) = c.run := by
  induction c using Cursor.operators.induct table.toDictionary with
  | case1 c hr => exact ⟨[], Cursor.operators_of_nil hr, trivial, hr.symm⟩
  | case2 c hr e he =>
    exact absurd (Cursor.operator_eq_error_iff.1 he).2 (not_noSymbol_run hr)
  | case3 c hr t ht ih =>
    obtain ⟨ts, hts, hsplits, htext⟩ := ih
    obtain ⟨w, x, hw, rfl⟩ := Cursor.operator_eq_ok_iff.1 ht
    refine ⟨_ :: ts, ?_, ⟨⟨w, x, hw.of_run, rfl⟩, hsplits⟩, ?_⟩
    · rw [Cursor.operators_of_token hr ht, hts]
      rfl
    · rw [List.flatMap_cons, htext, String.toList_ofList, ← Cursor.run_of_prefix hw.start]

end Table

/-- At a cursor the longest start of the run of operator characters is read that the dictionary
knows as a symbol, whatever the dictionary; reading fails just if it knows no start of the run. In
the dictionary of a keyword table, reading symbol after symbol splits the run: the symbols together
are the run, and none of them is the start of a longer one. -/
theorem operator_longest (c : Cursor) :
    (∀ d t, c.operator d = .ok t ↔ ∃ w x, LongestSymbol d (c.rest.takeWhile isOperatorChar) w x ∧
      t = ⟨.symbol x, String.ofList w, c.offset + w.length⟩) ∧
    (∀ d e, c.operator d = .error e ↔ e = .unknownSymbol c.input[c.offset]? c.offset ∧
      NoSymbol d (c.rest.takeWhile isOperatorChar)) ∧
    ∀ table : KeywordTable, ∃ ts, c.operators table.toDictionary = .ok ts ∧
      Splits table.toDictionary c.input c.offset ts ∧
      ts.flatMap (fun t => t.value.toList) = c.rest.takeWhile isOperatorChar :=
  ⟨fun _ _ => Cursor.operator_eq_ok_iff, fun _ _ => Cursor.operator_eq_error_iff,
    fun _ => splits_operators c⟩

example : (⟨"a<=>;;b".toList, 1⟩ : Cursor).operators Dialect.h2.dictionary =
    .ok [⟨.symbol .ltEqGt, "<=>", 4⟩, ⟨.symbol .semi, ";", 5⟩, ⟨.symbol .semi, ";", 6⟩] := by
  decide +kernel

end SqlLexis
