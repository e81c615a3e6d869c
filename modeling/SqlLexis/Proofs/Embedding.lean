import SqlLexis.Proofs.Concatenation

/-!
# A text as a literal between two others

Every text becomes a character string once its quotes are doubled and quotes are put around it
(`literal`). On a line of its own behind a statement it is one token, whatever stands in it, and
neither the statement nor the text behind the literal is read in another way (`answers_embed`).
-/

namespace SqlLexis

open Gap (Ignorable Clear Trailing)
open Lexeme (isBeforeBy doubled)

variable {dialect : Dialect} {d : Dictionary} {q : Char}

/-- A text between quotes, with its own quotes doubled. -/
def literal (q : Char) (s : Text) : Text := q :: doubled q s ++ [q]

/-- The token of a literal, behind the gap that leads to it. -/
def literalPiece (gap : Text) (q : Char) (s : Text) : Piece :=
  ⟨gap, literal q s, ⟨.literal .chars, String.ofList (doubled q s), (literal q s).length⟩⟩

theorem clear_quote (hq : q = '\'' ∨ q = '"') (s : Text) : Clear dialect (q :: s) := by
  refine ⟨fun c hc => ?_, fun marker hm hp => ?_⟩
  · cases hc
    rcases hq with rfl | rfl <;> decide
  · have hh : ∀ m ∈ ['/', '*'] :: Gap.lineMarkers dialect, m.head? ≠ some q ∧ m ≠ [] := by
      rcases hq with rfl | rfl <;> cases dialect <;> decide
    obtain ⟨h1, h2⟩ := hh marker hm
    obtain ⟨c, m, rfl⟩ := List.exists_cons_of_ne_nil h2
    obtain ⟨t, ht⟩ := hp
    cases ht
    exact h1 rfl

theorem stands_literal {gap after : Text} {s : Text} (hq : q = '\'' ∨ q = '"')
    (hg : Ignorable dialect gap) (ha : after.head? ≠ some q) (p : Option Char) :
    (literalPiece gap q s).Stands dialect d p after := by
  refine ⟨hg, clear_quote hq _, List.cons_ne_nil _ _, rfl, ?_⟩
  show Lexeme.front dialect d _ (q :: (doubled q s ++ [q] ++ after)) = _
  rw [Lexeme.front, opening_of_quote hq]
  refine Lexeme.quoted_eq_ok_iff.2
    ⟨q, doubled q s, after, ?_, Lexeme.quotedBody_doubled q s, ha, ?_⟩
  · rw [List.append_assoc]
    rfl
  · simp [literalPiece, literal]

/-- A word does not take a quote for `BY`. -/
theorem isBeforeBy_quote (hq : q = '\'' ∨ q = '"') (tail s : Text) :
    isBeforeBy (tail ++ '\n' :: q :: s) = isBeforeBy tail := by
  have hb : Breaks ('\n' :: q :: s) := fun c hc => by cases hc; exact isBlank_newline
  rcases Lexeme.isBeforeBy_cut (s := tail) hb with h | ⟨ht, h⟩
  · exact h
  · rw [h, Lexeme.isBeforeBy_of_blanks ht, Lexeme.isBeforeBy_blank isBlank_newline]
    rcases hq with rfl | rfl <;> exact Lexeme.isBeforeBy_of_ne (by decide) (by decide) s

/-- The answers behind a statement and a literal, in terms of texts. -/
theorem answers_literal {s y tail : Text} {qs : List Piece} (text : Text)
    (hs : s = assembled qs ++ tail) (hr : Reads dialect d none qs tail)
    (ht : Trailing dialect tail) (hq : q = '\'' ∨ q = '"') (hy : y.head? ≠ some q) :
    (⟨s ++ '\n' :: literal q text ++ y, 0⟩ : Cursor).answers dialect d = (placed 0 qs).map .ok ++
      .ok ⟨s.length + 1, .literal .chars, String.ofList (doubled q text),
        s.length + 1 + (literal q text).length⟩ ::
      ((⟨y, 0⟩ : Cursor).answers dialect d).map (Span.behind
        (.of (s ++ '\n' :: literal q text) (s ++ '\n' :: literal q text).length)) := by
  let lit := literalPiece (tail ++ ['\n']) q text
  have hall : assembled (qs ++ [lit]) = s ++ '\n' :: literal q text := by
    have h := assembled_concat qs lit []
    rw [List.append_nil] at h
    rw [h, hs]
    simp [lit, literalPiece]
  have hspan : lit.span (0 + (assembled qs).length) = ⟨s.length + 1, .literal .chars,
      String.ofList (doubled q text), s.length + 1 + (literal q text).length⟩ := by
    have hn : 0 + (assembled qs).length + (tail ++ ['\n']).length = s.length + 1 := by
      rw [hs]
      simp only [List.length_append, List.length_singleton]
      omega
    simp only [Piece.span, Token.shift, lit, literalPiece, hn]
  have hreads : Reads dialect d none (qs ++ [lit]) y := by
    have hext := hr.extend (y := '\n' :: (literal q text ++ y))
      (fun c hc => by cases hc; exact isBlank_newline) fun _ _ _ => isBeforeBy_quote hq tail _
    have hgap : tail ++ '\n' :: (literal q text ++ y) =
        lit.gap ++ (lit.text ++ y) := by
      simp only [lit, literalPiece, List.append_assoc]
      rfl
    rw [hgap] at hext
    exact hext.concat (stands_literal hq ht.terminated hy)
  have hlast : (s ++ '\n' :: literal q text).getLast?.any isWordStart = false := by
    have hl : (s ++ '\n' :: literal q text).getLast? = some q := by
      rw [literal, ← List.cons_append, ← List.append_assoc, List.getLast?_concat]
    rw [hl]
    rcases hq with rfl | rfl <;> decide
  calc (⟨s ++ '\n' :: literal q text ++ y, 0⟩ : Cursor).answers dialect d
    _ = (placed 0 (qs ++ [lit])).map .ok ++ (⟨s ++ '\n' :: literal q text ++ y,
          (s ++ '\n' :: literal q text).length + 0⟩ : Cursor).answers dialect d := by
      rw [← hall]
      exact Cursor.answers_of_reads (a := []) hreads
    _ = _ := by
      rw [Cursor.answers_append hlast y 0, placed_concat, hspan, List.map_append, List.append_assoc]
      rfl

/-- A literal behind a statement is its next token, and what is behind the literal is read as it is
read by itself. -/
theorem answers_embed {sql text other : String} {spans : List Span} (hq : q = '\'' ∨ q = '"')
    (h : (Lexer.withDictionary sql dialect d).spans = .ok spans)
    (ho : other.toList.head? ≠ some q) :
    let lit := String.ofList (literal q text.toList)
    (Lexer.withDictionary (sql ++ "\n" ++ lit ++ other) dialect d).answers =
      spans.map .ok ++
        .ok ⟨sql.length + 1, .literal .chars, String.ofList (doubled q text.toList),
          sql.length + 1 + lit.length⟩ ::
        (Lexer.withDictionary other dialect d).answers.map
          (Span.behind (.of (sql ++ "\n" ++ lit).toList (sql.length + 1 + lit.length))) := by
  obtain ⟨qs, tail, hs, hr, ht, rfl⟩ := reads_of_spans h
  have ha := answers_literal text.toList hs hr ht hq ho
  intro lit
  have hl : lit.toList = literal q text.toList := String.toList_ofList
  have hi : (sql ++ "\n" ++ lit).toList = sql.toList ++ '\n' :: literal q text.toList := by
    rw [← hl]
    simp
  have hn : (sql.toList ++ '\n' :: literal q text.toList).length = sql.length + 1 + lit.length := by
    rw [← hl, List.length_append, List.length_cons, String.length_toList, String.length_toList]
    omega
  rw [Lexer.answers_withDictionary, Lexer.answers_withDictionary, String.toList_append, hi, ha, hn]
  simp only [← hl, String.length_toList]

/-- A literal with a quote and the marker of a comment inside. -/
theorem answers_embed_comment :
    let lit := String.ofList (literal '\'' "it's --".toList)
    (Lexer.new "N" .sqlServer).spans = .ok [⟨0, .literal .identifier, "N", 1⟩] ∧
      ".5".toList.head? ≠ some '\'' ∧
      (Lexer.new ("N" ++ "\n" ++ lit ++ ".5") .sqlServer).answers =
        [⟨0, .literal .identifier, "N", 1⟩].map .ok ++
          .ok ⟨"N".length + 1, .literal .chars, String.ofList (doubled '\'' "it's --".toList),
            "N".length + 1 + lit.length⟩ ::
          (Lexer.new ".5" .sqlServer).answers.map
            (Span.behind (.of ("N" ++ "\n" ++ lit).toList ("N".length + 1 + lit.length))) := by
  intro lit
  have h : (Lexer.new "N" .sqlServer).spans = .ok [⟨0, .literal .identifier, "N", 1⟩] := by
    decide +kernel
  have ho : ".5".toList.head? ≠ some '\'' := by decide
  exact ⟨h, ho, answers_embed (.inl rfl) h ho⟩

end SqlLexis
