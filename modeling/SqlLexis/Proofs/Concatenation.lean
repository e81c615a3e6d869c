import SqlLexis.Proofs.Reading

/-!
# One statement behind another

A text that follows a statement on a line of its own leaves the tokens of the statement alone, and
is read as it is read by itself:

* `Reads.extend`: pieces stay where the rest goes on with a blank, unless `BY` comes to stand behind
  a last `ORDER` or `GROUP`;
* `answers_newline`: so the answers are the spans of the statement and the answers of the text,
  moved behind the newline;
* `answers_concat`: what that means for lines, columns and offsets.
-/

namespace SqlLexis

open Gap (Ignorable Clear Trailing)
open Lexeme (isBeforeBy)

variable {dialect : Dialect} {d : Dictionary}

/-- A piece stays where the text behind it goes on with a blank. -/
theorem Piece.Stands.extend {p : Option Char} {q : Piece} {after y : Text}
    (h : q.Stands dialect d p after) (hy : Breaks y)
    (hb : q.token.awaitsBy = true → isBeforeBy (after ++ y) = isBeforeBy after) :
    q.Stands dialect d p (after ++ y) := by
  have hne : q.text ++ after ≠ [] := List.append_ne_nil_of_left_ne_nil h.ne_nil _
  have hle : q.token.endOffset ≤ (q.text ++ after).length := by
    rw [h.endOffset, List.length_append]
    omega
  have hc := clear_cut (x := []) (by rw [List.append_nil]; exact h.clear) hne hy
  have hf := Lexeme.front_cut (x := []) (by rw [List.append_nil]; exact h.front) hne hle hy
  have ht : q.token.retyped d (isBeforeBy (after ++ y)) = q.token := by
    cases haw : q.token.awaitsBy with
    | false => exact Token.retyped_of_not_awaitsBy haw _
    | true => rw [hb haw, h.retyped]
  rw [h.endOffset, List.drop_left, ht] at hf
  rw [List.append_assoc] at hc hf
  exact ⟨h.gap, hc, h.ne_nil, h.endOffset, hf⟩

/-- Before a token that is there already a word looks no further. -/
theorem isBeforeBy_assembled_append {p : Option Char} {q : Piece} {qs : List Piece} {tail y : Text}
    (h : Reads dialect d p (q :: qs) tail) (hy : Breaks y) :
    isBeforeBy (assembled (q :: qs) ++ tail ++ y) = isBeforeBy (assembled (q :: qs) ++ tail) := by
  rcases Lexeme.isBeforeBy_cut (s := assembled (q :: qs) ++ tail) hy with hb | ⟨hall, -⟩
  · exact hb
  · cases h with
    | cons hq hqs =>
      obtain ⟨c, v, hv⟩ := List.exists_cons_of_ne_nil hq.ne_nil
      have hc : isBlank c = false := hq.clear.1 c (by rw [hv]; rfl)
      have hc' := hall c (by rw [assembled_cons, hv]; simp)
      rw [hc] at hc'
      cases hc'

/-- Pieces stay where the rest goes on with a blank, unless that changes what a last `ORDER` or
`GROUP` looks at. -/
theorem Reads.extend {p : Option Char} {qs : List Piece} {tail y : Text}
    (h : Reads dialect d p qs tail) (hy : Breaks y)
    (hl : ∀ q ∈ qs.getLast?, q.token.awaitsBy = true → isBeforeBy (tail ++ y) = isBeforeBy tail) :
    Reads dialect d p qs (tail ++ y) := by
  induction h with
  | nil => exact .nil
  | @cons p q qs tail hq hqs ih =>
    cases qs with
    | nil => exact .cons (hq.extend hy (hl q rfl)) .nil
    | cons q' qs =>
      refine .cons ?_ (ih hl)
      rw [← List.append_assoc]
      exact hq.extend hy fun _ => isBeforeBy_assembled_append hqs hy

/-- Behind a statement and a newline a text is read as it is read by itself. -/
theorem answers_newline {s y tail : Text} {qs : List Piece} (hs : s = assembled qs ++ tail)
    (hr : Reads dialect d none qs tail) (ht : Trailing dialect tail)
    (hl : ∀ q ∈ qs.getLast?, q.token.awaitsBy = true →
      isBeforeBy (tail ++ '\n' :: y) = isBeforeBy tail) :
    (⟨s ++ '\n' :: y, 0⟩ : Cursor).answers dialect d = (placed 0 qs).map .ok ++
      ((⟨y, 0⟩ : Cursor).answers dialect d).map
        (Span.behind (.of (s ++ ['\n']) (s ++ ['\n']).length)) := by
  have hb : Breaks ('\n' :: y) := fun c hc => by cases hc; exact isBlank_newline
  have hlast : (s ++ ['\n']).getLast?.any isWordStart = false := by
    rw [List.getLast?_concat]
    rfl
  have hcons : tail ++ '\n' :: y = tail ++ ['\n'] ++ y := by rw [List.append_assoc]; rfl
  have hend : assembled qs ++ (tail ++ ['\n']) = s ++ ['\n'] := by rw [hs, List.append_assoc]
  have hall : assembled qs ++ (tail ++ ['\n'] ++ y) = s ++ ['\n'] ++ y := by
    rw [← hend, List.append_assoc (assembled qs)]
  have hstart : s ++ '\n' :: y = assembled qs ++ (tail ++ ['\n'] ++ y) := by
    rw [hs, List.append_assoc, hcons]
  calc (⟨s ++ '\n' :: y, 0⟩ : Cursor).answers dialect d
    _ = (placed 0 qs).map .ok ++
        (⟨assembled qs ++ (tail ++ ['\n'] ++ y), (assembled qs).length⟩ : Cursor).answers
          dialect d := by
      rw [hstart, ← hcons]
      exact Cursor.answers_of_reads (a := []) (hr.extend hb hl)
    _ = (placed 0 qs).map .ok ++
        (⟨s ++ ['\n'] ++ y, (s ++ ['\n']).length + 0⟩ : Cursor).answers dialect d := by
      rw [Cursor.answers_of_ignorable _ ht.terminated, hend, hall]
      rfl
    _ = _ := by rw [Cursor.answers_append hlast y 0]

/-! ## Lines, columns and offsets -/

/-- The same error, so many lines and characters further down. Its column stays. -/
def LexError.below (lines chars : Nat) : LexError → LexError
  | unexpectedChar found line column => unexpectedChar found (lines + line) column
  | unknownSymbol found offset => unknownSymbol found (chars + offset)
  | e => e

/-- The same answer, so many lines and characters further down. -/
def Span.below (lines chars : Nat) (r : Except LexError Span) : Except LexError Span :=
  (r.map (Span.shift chars)).mapError (LexError.below lines chars)

theorem LexError.behind_newline (s : Text) (e : LexError) :
    e.behind (.of (s ++ ['\n']) (s.length + 1)) = e.below (1 + s.count '\n') (s.length + 1) := by
  rw [Position.of_newline]
  cases e with
  | unexpectedChar found line column =>
    have hl : s.count '\n' + 2 + line - 1 = 1 + s.count '\n' + line := by omega
    have hc : (if line ≤ 1 then 1 + column - 1 else column) = column := by split <;> omega
    simp only [behind, below, Position.behind, hl, hc]
  | _ => rfl

theorem Span.behind_newline (s : Text) (r : Except LexError Span) :
    Span.behind (.of (s ++ ['\n']) (s ++ ['\n']).length) r =
      Span.below (1 + s.count '\n') (s.length + 1) r := by
  have hn : (s ++ ['\n']).length = s.length + 1 := List.length_append
  rw [hn]
  cases r with
  | ok a => rfl
  | error e =>
    show Except.error (e.behind _) = Except.error (e.below _ _)
    rw [LexError.behind_newline]

theorem awaitsBy_of_getLast? {k : Nat} {qs : List Piece}
    (h : ∀ b ∈ (placed k qs).getLast?, b.token.awaitsBy = false) :
    ∀ q ∈ qs.getLast?, q.token.awaitsBy = false := by
  intro q hq
  have hm := map_placed (f := fun b => b.token.awaitsBy) (g := fun q => q.token.awaitsBy)
    (fun _ _ => rfl) k qs
  have hlast := congrArg List.getLast? hm
  rw [List.getLast?_map, List.getLast?_map, Option.mem_def.1 hq] at hlast
  obtain ⟨b, hb, he⟩ := Option.map_eq_some_iff.1 hlast
  exact he.symm.trans (h b hb)

/-- A text on a line of its own behind a statement is read as it is read by itself, further down,
and the statement is read as before. A last `ORDER` or `GROUP` would look at the text. -/
theorem answers_concat {sql other : String} {spans : List Span}
    (h : (Lexer.withDictionary sql dialect d).spans = .ok spans)
    (hl : ∀ b ∈ spans.getLast?, b.token.awaitsBy = false) :
    (Lexer.withDictionary (sql ++ "\n" ++ other) dialect d).answers =
      spans.map .ok ++ (Lexer.withDictionary other dialect d).answers.map
        (Span.below (1 + sql.toList.count '\n') (sql.length + 1)) := by
  obtain ⟨qs, tail, hs, hr, ht, rfl⟩ := reads_of_spans h
  have ha := answers_newline (y := other.toList) hs hr ht fun q hq haw => by
    rw [awaitsBy_of_getLast? hl q hq] at haw
    cases haw
  have hi : (sql ++ "\n" ++ other).toList = sql.toList ++ '\n' :: other.toList := by simp
  rw [Lexer.answers_withDictionary, Lexer.answers_withDictionary, hi, ha, ← String.length_toList]
  congr 1
  exact List.map_congr_left fun r _ => Span.behind_newline _ r

/-- A statement that ends inside a comment, and a line with a character that begins no token. -/
theorem answers_concat_comment :
    let sql := "SELECT\n1 -- one"
    let spans : List Span := [⟨0, .keyword .SELECT, "SELECT", 6⟩, ⟨7, .literal .int, "1", 8⟩]
    (Lexer.new sql .oracle).spans = .ok spans ∧
      (∀ b ∈ spans.getLast?, b.token.awaitsBy = false) ∧
      (Lexer.new (sql ++ "\n" ++ "a \\") .oracle).answers = spans.map .ok ++
        (Lexer.new "a \\" .oracle).answers.map
          (Span.below (1 + sql.toList.count '\n') (sql.length + 1)) := by
  intro sql spans
  have h : (Lexer.new sql .oracle).spans = .ok spans := by decide +kernel
  have hl : ∀ b ∈ spans.getLast?, b.token.awaitsBy = false := by decide
  exact ⟨h, hl, answers_concat h hl⟩

end SqlLexis
