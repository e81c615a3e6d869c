import Mathlib.Data.List.DropRight
import Mathlib.Data.List.Induction
import SqlLexis.Proofs.Lexeme.Unreadable

/-!
# What is read behind a text

A place in the second part of a text is the place that it has in that part alone, counted from
where the part begins (`Position.of_append`). So is what stands there:

* `Position.of_eq`: a place in terms of the newlines before it;
* `Cursor.token_eq`: the token at a cursor is the token in front of the rest, moved to the cursor;
* `Cursor.token_append`: the token at a cursor in the second part of a text is the token there in
  that part alone, moved behind the first part.
-/

namespace SqlLexis

namespace Position

/-- The place `q`, counted from the place `p` on. -/
def behind (p q : Position) : Position :=
  ⟨p.line + q.line - 1, if q.line ≤ 1 then p.column + q.column - 1 else q.column,
    p.offset + q.offset⟩

/-- Lines and columns are counted from one. -/
def Counted (p : Position) : Prop := 1 ≤ p.line ∧ 1 ≤ p.column

theorem Counted.advance {p : Position} (h : p.Counted) (c : Char) : (p.advance c).Counted := by
  have hl := h.1
  unfold Position.advance
  split
  · exact ⟨by show 1 ≤ p.line + 1; omega, Nat.le_refl 1⟩
  · exact ⟨hl, by show 1 ≤ p.column + 1; omega⟩

theorem behind_start (p : Position) : p.behind start = p := rfl

theorem behind_advance (p : Position) {q : Position} (h : q.Counted) (c : Char) :
    p.behind (q.advance c) = (p.behind q).advance c := by
  obtain ⟨hl, hc⟩ := h
  by_cases hn : c = '\n'
  · simp only [advance, if_pos hn, behind]
    rw [if_neg (by omega), Nat.add_assoc p.offset]
    congr 1; omega
  · simp only [advance, if_neg hn, behind]
    by_cases h1 : q.line ≤ 1
    · rw [if_pos h1, if_pos h1, Nat.add_assoc p.offset]
      congr 1; omega
    · rw [if_neg h1, if_neg h1, Nat.add_assoc p.offset]

theorem behind_foldl (p : Position) {q : Position} (h : q.Counted) (s : Text) :
    p.behind (s.foldl advance q) = s.foldl advance (p.behind q) := by
  induction s generalizing q with
  | nil => rfl
  | cons c s ih => rw [List.foldl_cons, ih (h.advance c), behind_advance p h, List.foldl_cons]

/-- A place hangs on the text before it. -/
theorem of_take (s : Text) (k : Nat) : of (s.take k) k = of s k := by
  rw [of, List.take_take, Nat.min_self, of]

/-- A place in the second part of a text, counted from where the part begins. -/
theorem of_append (s t : Text) (k : Nat) :
    of (s ++ t) (s.length + k) = (of s s.length).behind (of t k) := by
  have hp : ((s ++ t).take (s.length + k)).foldl advance start =
      (s.foldl advance start).behind ((t.take k).foldl advance start) := by
    rw [List.take_length_add_append, List.foldl_append,
      behind_foldl _ ⟨Nat.le_refl 1, Nat.le_refl 1⟩, behind_start]
  rw [of, hp, of, of, List.take_length]
  rfl

theorem line_foldl (p : Position) (s : Text) :
    (s.foldl advance p).line = p.line + s.count '\n' := by
  induction s generalizing p with
  | nil => rfl
  | cons c s ih =>
    rw [List.foldl_cons, ih, advance]
    by_cases hc : c = '\n'
    · rw [if_pos hc, hc, List.count_cons_self]
      show p.line + 1 + _ = _
      omega
    · rw [if_neg hc, List.count_cons_of_ne hc]

theorem column_foldl (s : Text) :
    (s.foldl advance start).column = 1 + (s.rtakeWhile (· ≠ '\n')).length := by
  induction s using List.reverseRecOn with
  | nil => rfl
  | append_singleton s c ih =>
    rw [List.foldl_append, List.foldl_cons, List.foldl_nil, advance]
    by_cases hc : c = '\n'
    · rw [if_pos hc, List.rtakeWhile_concat_neg _ _ _ (by simpa using hc)]
      rfl
    · rw [if_neg hc, List.rtakeWhile_concat_pos _ _ _ (by simpa using hc), List.length_append]
      show (s.foldl advance start).column + 1 = _
      rw [ih, List.length_singleton, Nat.add_assoc]

/-- The line counts the newlines before a place, the column the characters behind the last. -/
theorem of_eq (s : Text) (k : Nat) :
    of s k = ⟨1 + (s.take k).count '\n', 1 + ((s.take k).rtakeWhile (· ≠ '\n')).length, k⟩ := by
  rw [of, ← column_foldl]
  congr 1
  exact line_foldl start _

/-- Behind a newline a line begins. -/
theorem of_newline (s : Text) :
    of (s ++ ['\n']) (s.length + 1) = ⟨s.count '\n' + 2, 1, s.length + 1⟩ := by
  have hs : (s ++ ['\n']).take (s.length + 1) = s ++ ['\n'] :=
    List.take_of_length_le (Nat.le_of_eq List.length_append)
  have hl : (s.foldl advance start).line = 1 + s.count '\n' := line_foldl start s
  rw [of, hs, List.foldl_append, List.foldl_cons, List.foldl_nil, advance, if_pos rfl, hl]
  show Position.mk (1 + s.count '\n' + 1) 1 (s.length + 1) = _
  congr 1
  omega

end Position

namespace LexError

/-- The same error, in a text that begins at the place `p` of a longer one. -/
def behind (p : Position) : LexError → LexError
  | unexpectedChar found line column =>
    let q := p.behind ⟨line, column, 0⟩
    unexpectedChar found q.line q.column
  | unknownSymbol found offset => unknownSymbol found (p.offset + offset)
  | e => e

end LexError

theorem Token.shift_shift (a b : Nat) (t : Token) : (t.shift b).shift a = t.shift (a + b) := by
  simp only [Token.shift, Nat.add_assoc]

/-- What is read, in a text that begins at the place `p` of a longer one. -/
def Token.behind (p : Position) (r : Except LexError Token) : Except LexError Token :=
  (r.map (Token.shift p.offset)).mapError (LexError.behind p)

theorem Token.behind_ok (p : Position) (t : Token) :
    Token.behind p (.ok t) = .ok (t.shift p.offset) := rfl

theorem Token.ok_of_behind {p : Position} {r : Except LexError Token} {t : Token}
    (h : Token.behind p r = .ok t) : ∃ t', r = .ok t' ∧ t'.shift p.offset = t := by
  cases r with
  | ok t' => exact ⟨t', rfl, Except.ok.inj h⟩
  | error e => cases h

namespace Cursor

variable {dialect : Dialect} {d : Dictionary}

theorem moveToken_eq {c : Cursor} {r : Except LexError Token}
    (hr : ∀ e, r = .error e → e.shift c.offset = e.behind (.of c.input c.offset)) :
    c.moveToken r = Token.behind (.of c.input c.offset) r := by
  cases r with
  | ok t => rfl
  | error e =>
    rw [moveToken, hr e rfl]
    rfl

/-- The token at a cursor is the token in front of the rest, moved to the cursor. -/
theorem token_eq (c : Cursor) : c.token dialect d =
    Token.behind (.of c.input c.offset) (Lexeme.front dialect d c.previous? c.rest) := by
  unfold token Lexeme.front opening
  cases ho : Opening.of dialect c.previous? c.rest <;> simp only []
  case nationalString =>
    obtain ⟨body, hb⟩ := Opening.drop_of_nationalString ho
    have hd : (⟨c.input, c.offset + 1⟩ : Cursor).rest = c.rest.drop 1 := by
      rw [rest, rest, List.drop_drop]
    rw [Cursor.quoted, hd, hb]
    cases hq : Lexeme.quoted ('\'' :: body) with
    | ok t =>
      show Except.ok (t.shift (c.offset + 1)) = Token.behind _ (.ok (t.shift 1))
      rw [Token.behind_ok, Token.shift_shift]
      rfl
    | error e => rw [Lexeme.error_of_quoted hq]; rfl
  case word => exact moveToken_eq fun e h => by rw [Lexeme.error_of_word h]; rfl
  case operator => exact moveToken_eq fun e h => by rw [Lexeme.error_of_operator h]; rfl
  case string =>
    refine moveToken_eq fun e h => ?_
    cases hs : c.rest with
    | nil => rw [hs] at ho; cases ho
    | cons q s =>
      rw [hs] at h
      rw [Lexeme.error_of_quoted h]
      rfl
  all_goals rfl

/-- The token at a cursor in the second part of a text. Of the first part no more than its last
character counts. -/
theorem token_append (a b : Text) (k : Nat)
    (hf : Lexeme.front dialect d (⟨a ++ b, a.length + k⟩ : Cursor).previous? (Cursor.mk b k).rest =
      Lexeme.front dialect d (⟨b, k⟩ : Cursor).previous? (Cursor.mk b k).rest) :
    (⟨a ++ b, a.length + k⟩ : Cursor).token dialect d =
      Token.behind (.of a a.length) ((⟨b, k⟩ : Cursor).token dialect d) := by
  have hr : (⟨a ++ b, a.length + k⟩ : Cursor).rest = (⟨b, k⟩ : Cursor).rest :=
    List.drop_length_add_append ..
  rw [token_eq, token_eq, hr, hf, Position.of_append]
  cases hf : Lexeme.front dialect d (⟨b, k⟩ : Cursor).previous? (⟨b, k⟩ : Cursor).rest with
  | ok t =>
    rw [Token.behind_ok, Token.behind_ok, Token.behind_ok, Token.shift_shift]
    rfl
  | error e =>
    have hu := Lexeme.unreadable_of_front hf
    generalize (⟨b, k⟩ : Cursor).rest = s at hu
    cases hu <;> rfl

end Cursor

end SqlLexis
