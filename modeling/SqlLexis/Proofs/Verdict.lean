import SqlLexis.Proofs.Outcome

/-!
# What decides about a call

The result of a call shows in the text behind the longest gap: `Decides` tells for each kind of
result what has to stand there. By `next_decides` this is so for every lexer whose dictionary is a
table of keywords, whatever it was asked before, and no error of such a lexer is a fault of the
program.
-/

namespace SqlLexis

open Gap (Clear Unclosed Longest)
open Lexeme (LeftOpen Foreign Unreadable)

/-- The conditions for the results of a call whose gap ends at a cursor. -/
structure Decides (dialect : Dialect) (c : Cursor) (r : Except LexError Token) : Prop where
  block : r = .error (.unterminatedBlock "*/") ↔ Unclosed dialect c.rest
  atEnd : (∃ t, r = .ok t ∧ t.type.isEnd = true) ↔ c.input.length ≤ c.offset
  literal (q : Char) : r = .error (.unterminatedLiteral q) ↔ LeftOpen dialect q c.rest
  unexpected (x : Char) (line column : Nat) : r = .error (.unexpectedChar x line column) ↔
    (c.rest.head? = some x ∧ Foreign dialect x) ∧
      line = 1 + (c.input.take c.offset).count '\n' ∧
      column = 1 + ((c.input.take c.offset).rtakeWhile (· ≠ '\n')).length
  token : (∃ t, r = .ok t ∧ t.type.isEnd = false) ↔ ¬ Unclosed dialect c.rest ∧
    c.offset < c.input.length ∧ (∀ q, ¬ LeftOpen dialect q c.rest) ∧
      ∀ x, ¬ (c.rest.head? = some x ∧ Foreign dialect x)
  harmless (e : LexError) : r = .error e → e.isFatal = false ∧ ∀ n, e ≠ .unexpectedEnd n

variable {dialect : Dialect} {d : Dictionary} {c : Cursor}

theorem not_unclosed_of_clear {s : Text} (h : Clear dialect s) : ¬ Unclosed dialect s :=
  fun hu => h.2 ['/', '*'] (List.mem_cons_self) hu.1

theorem Cursor.length_le_offset_iff (c : Cursor) : c.input.length ≤ c.offset ↔ c.rest = [] :=
  List.drop_eq_nil_iff.symm

/-! ## The kinds of result -/

theorem decides_of_unclosed (h : Unclosed dialect c.rest) :
    Decides dialect c (.error (.unterminatedBlock "*/")) := by
  obtain ⟨s, hs⟩ := h.1
  have hn : ¬ c.input.length ≤ c.offset := by
    rw [c.length_le_offset_iff, ← hs]
    exact List.cons_ne_nil _ _
  have hl : ∀ q, ¬ LeftOpen dialect q c.rest := fun q hq => by
    rw [← hs] at hq
    cases hq with
    | quoted hq => exact absurd hq (by decide)
  have hf : ∀ x, ¬ (c.rest.head? = some x ∧ Foreign dialect x) := by
    rintro x ⟨hx, hf⟩
    rw [← hs] at hx
    cases hx
    exact hf.2.2.2.1 (by decide)
  constructor
  case block => simp [h]
  case atEnd => simpa using hn
  case literal => simp [hl]
  case unexpected => simp [hf]
  case token => simp [h]
  case harmless => rintro e ⟨⟩; exact ⟨rfl, nofun⟩

theorem decides_of_nil {t : Token} (h : c.rest = []) (ht : t.type.isEnd = true) :
    Decides dialect c (.ok t) := by
  have hn : c.input.length ≤ c.offset := c.length_le_offset_iff.2 h
  constructor
  case block => simp [h, Unclosed]
  case atEnd => simp [ht, hn]
  case literal => simp [h, Lexeme.not_leftOpen_nil]
  case unexpected => simp [h]
  case token => simp [ht, Nat.not_lt.2 hn]
  case harmless => simp

theorem decides_of_token {p : Option Char} {t t' : Token} (hc : Clear dialect c.rest)
    (hne : c.rest ≠ []) (h : Lexeme.front dialect d p c.rest = .ok t)
    (ht : t'.type.isEnd = false) : Decides dialect c (.ok t') := by
  have hu := not_unclosed_of_clear hc
  have hn : ¬ c.input.length ≤ c.offset := fun hn => hne (c.length_le_offset_iff.1 hn)
  have hl : ∀ q, ¬ LeftOpen dialect q c.rest := fun q hq => by
    rw [Lexeme.front_of_leftOpen hq] at h
    cases h
  have hf : ∀ x, ¬ (c.rest.head? = some x ∧ Foreign dialect x) := fun x hx => by
    rw [Lexeme.front_of_foreign hx.1 hx.2] at h
    cases h
  constructor
  case block => simp [hu]
  case atEnd => simpa [ht] using hn
  case literal => simp [hl]
  case unexpected => simp [hf]
  case token => simp [ht, hu, Nat.not_le.1 hn, hl, hf]
  case harmless => simp

theorem decides_of_leftOpen {q : Char} (hc : Clear dialect c.rest) (h : LeftOpen dialect q c.rest) :
    Decides dialect c (.error (.unterminatedLiteral q)) := by
  have hu := not_unclosed_of_clear hc
  have hn : ¬ c.input.length ≤ c.offset := fun hn =>
    Lexeme.not_leftOpen_nil (c.length_le_offset_iff.1 hn ▸ h)
  have hf : ∀ x, ¬ (c.rest.head? = some x ∧ Foreign dialect x) := fun x hx =>
    h.not_foreign hx.1 hx.2
  constructor
  case block => simp [hu]
  case atEnd => simpa using hn
  case literal =>
    intro q'
    refine ⟨fun he => ?_, fun h' => by rw [h.unique h']⟩
    cases he
    exact h
  case unexpected => simp [hf]
  case token =>
    refine ⟨by simp, fun ht => absurd h (ht.2.2.1 q)⟩
  case harmless => rintro e ⟨⟩; exact ⟨rfl, nofun⟩

theorem decides_of_foreign {x : Char} {s : Text} (hc : Clear dialect c.rest) (hs : c.rest = x :: s)
    (h : Foreign dialect x) : Decides dialect c (.error (.unexpectedChar x
      (Position.of c.input c.offset).line (Position.of c.input c.offset).column)) := by
  have hu := not_unclosed_of_clear hc
  have hn : ¬ c.input.length ≤ c.offset := by
    rw [c.length_le_offset_iff, hs]
    exact List.cons_ne_nil _ _
  have hl : ∀ q, ¬ LeftOpen dialect q c.rest := fun q hq =>
    hq.not_foreign (by rw [hs, List.head?_cons]) h
  have hx : ∀ y, (c.rest.head? = some y ∧ Foreign dialect y) ↔ x = y := fun y => by
    rw [hs, List.head?_cons, Option.some.injEq]
    exact ⟨And.left, fun hy => ⟨hy, hy ▸ h⟩⟩
  constructor
  case block => simp [hu]
  case atEnd => simpa using hn
  case literal => simp [hl]
  case unexpected =>
    intro y line column
    rw [hx, Position.of_eq]
    simp only [Except.error.injEq, LexError.unexpectedChar.injEq, eq_comm]
  case token =>
    refine ⟨by simp, fun ht => absurd ((hx x).2 rfl) (ht.2.2.2 x)⟩
  case harmless => rintro e ⟨⟩; exact ⟨rfl, nofun⟩

/-! ## Every call -/

/-- A dictionary that knows every operator character by itself. -/
def Dictionary.KnowsOperators (d : Dictionary) : Prop :=
  ∀ x ∈ operatorChars, (d.symbol? (String.ofList [x])).isSome = true

theorem decides_of_unreadable {e : LexError} (hd : d.KnowsOperators)
    (hc : Clear dialect c.rest) (he : Unreadable dialect d c.rest e) :
    Decides dialect c (.error (e.behind (.of c.input c.offset))) := by
  generalize hs : c.rest = s at he
  cases he with
  | literal h => exact decides_of_leftOpen hc (hs ▸ h)
  | char h => exact decides_of_foreign hc hs h
  | @symbol x s hx h =>
    have hsome := hd x hx
    rw [h.head hx] at hsome
    cases hsome

/-- The longest gap of a call, and what decides behind it. -/
theorem Lexer.exists_decides (l : Lexer) (hd : l.dictionary.KnowsOperators) :
    ∃ g, Longest l.dialect l.cursor.rest g ∧
      Decides l.dialect ⟨l.input, l.offset + g.length⟩ l.next.result := by
  obtain ⟨g, hg, ho⟩ := l.exists_outcome
  refine ⟨g, hg, ?_⟩
  generalize l.next.result = r at ho
  generalize l.next.lexer = l' at ho
  cases ho with
  | atBlock hs _ ha => exact decides_of_unclosed (Cursor.rest_of_rest hs ▸ ha)
  | atToken hs _ ha he =>
    have hr := Cursor.rest_of_rest hs
    exact decides_of_unreadable hd (hr ▸ ha) (hr ▸ he)
  | token hs hq =>
    have hr := Cursor.rest_of_rest hs
    exact decides_of_token (hr ▸ hq.clear) (hr ▸ List.append_ne_nil_of_left_ne_nil hq.ne_nil _)
      (hr ▸ hq.front) hq.written.isEnd
  | atEnd hs => exact decides_of_nil (Cursor.rest_of_rest (hs.trans (List.append_nil _).symm)) rfl
  | inLine hs => exact decides_of_nil (Cursor.rest_of_rest (hs.trans (List.append_nil _).symm)) rfl

theorem KeywordTable.knowsOperators (t : KeywordTable) : t.toDictionary.KnowsOperators :=
  fun _ hx => Symbol.ofText?_char (List.contains_iff_mem.2 hx)

/-- With a table of keywords a call is decided by what stands behind the longest gap, whatever the
lexer was asked before, and neither kind of call fails by a fault of the program. -/
theorem next_decides (sql : String) (dialect : Dialect) (ks : List Keyword) (rs : List Request) :
    let l := (Lexer.withDictionary sql dialect (KeywordTable.ofList ks).toDictionary).after rs
    (∃ g, (∀ h, Longest dialect (sql.toList.drop l.offset) h ↔ h = g) ∧
        Decides dialect ⟨sql.toList, l.offset + g.length⟩ l.next.result) ∧
      ∀ e, l.tokenize.result = .error e → e.isFatal = false := by
  intro l
  obtain ⟨hdialect, hdict, hinput⟩ := Lexer.fixed_after
    (Lexer.withDictionary sql dialect (KeywordTable.ofList ks).toDictionary) rs
  have hk : l.dictionary.KnowsOperators := by
    rw [hdict]
    exact KeywordTable.knowsOperators _
  refine ⟨?_, fun e he => ?_⟩
  · obtain ⟨g, hg, hd⟩ := l.exists_decides hk
    rw [hdialect, hinput] at hd
    rw [hdialect, Cursor.rest, Lexer.cursor, hinput] at hg
    exact ⟨g, fun h => hg.unique, hd⟩
  · obtain ⟨rs', he'⟩ := Lexer.error_of_tokenize he
    have hk' : (l.after rs').dictionary.KnowsOperators := (l.fixed_after rs').2.1 ▸ hk
    obtain ⟨g, -, hd⟩ := (l.after rs').exists_decides hk'
    exact (hd.harmless e he').1

end SqlLexis
