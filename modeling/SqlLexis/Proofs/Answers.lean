import SqlLexis.Lexer.Run
import SqlLexis.Proofs.Gap
import SqlLexis.Proofs.Position

/-!
# The answers of a lexer

What a lexer answers, call by call, hangs only on its place in the text: `Cursor.answer` is the next
answer there, and `Cursor.answers` are all of them.

* `Lexer.spans_eq_ok_iff`: the spans of a statement are the answers before the last, if none is an
  error;
* `Cursor.answers_of_error`, `Cursor.answers_of_end`, `Cursor.answers_of_token`: the answers from a
  cursor on, by the next one;
* `Cursor.answers_append_of_front`: the answers in the second part of a text are those in that part
  alone, moved behind the first part, unless its first token hangs on the first part;
* `Cursor.answers_append`: that is so where the first part does not end with the start of a word.
-/

namespace SqlLexis

/-- The token of a call and where it begins, or the error. -/
def Call.answer (c : Call Token) : Except LexError Span :=
  c.result.map (⟨c.lexer.tokenStart, ·⟩)

/-- The same span, `k` characters further on. -/
def Span.shift (k : Nat) (a : Span) : Span := ⟨k + a.start, a.token.shift k⟩

/-- The same answer, in a text that begins at the place `p` of a longer one. -/
def Span.behind (p : Position) (r : Except LexError Span) : Except LexError Span :=
  (r.map (Span.shift p.offset)).mapError (LexError.behind p)

/-- The answers of the calls up to the end of the input or the first error. -/
def Lexer.answers (l : Lexer) : List (Except LexError Span) := l.drain.map Call.answer

namespace Cursor

/-- The next answer at a cursor. -/
def answer (dialect : Dialect) (d : Dictionary) (c : Cursor) : Except LexError Span :=
  let gap := Gap.skip dialect c.rest
  let c' : Cursor := ⟨c.input, c.offset + gap.length⟩
  match gap.error? with
  | some e => .error e
  | none => (c'.token dialect d).map (⟨c'.offset, ·⟩)

/-- The answers from a cursor on. -/
def answers (dialect : Dialect) (d : Dictionary) (c : Cursor) : List (Except LexError Span) :=
  (Lexer.mk dialect d c.input c.offset 0 none).answers

end Cursor

namespace Lexer

theorem answer_read (l : Lexer) :
    l.read.answer = (l.cursor.token l.dialect l.dictionary).map (⟨l.tokenStart, ·⟩) := by
  unfold read
  cases l.cursor.token l.dialect l.dictionary <;> rfl

theorem read_of_ok {l : Lexer} {t : Token} (h : l.cursor.token l.dialect l.dictionary = .ok t) :
    l.read.result = .ok t ∧ l.read.lexer = l.afterToken t := by
  simp only [read, h, and_self]

theorem read_of_error {l : Lexer} {e : LexError}
    (h : l.cursor.token l.dialect l.dictionary = .error e) :
    l.read.result = .error e ∧ l.read.lexer = l := by
  simp only [read, h, fail, and_self]

theorem next_of_some {l : Lexer} {e : LexError}
    (h : (Gap.skip l.dialect l.cursor.rest).error? = some e) :
    l.next = (l.afterGap (Gap.skip l.dialect l.cursor.rest).length).fail e := by
  simp only [next, h]

theorem next_of_none {l : Lexer} (h : (Gap.skip l.dialect l.cursor.rest).error? = none) :
    l.next = (l.afterGap (Gap.skip l.dialect l.cursor.rest).length).atToken.read := by
  simp only [next, h]

theorem answer_next (l : Lexer) : l.next.answer = l.cursor.answer l.dialect l.dictionary := by
  cases h : (Gap.skip l.dialect l.cursor.rest).error? with
  | some e => simp only [next_of_some h, Cursor.answer, h]; rfl
  | none => simp only [next_of_none h, Cursor.answer, h]; exact answer_read _

/-- A call that answers with a token leaves the lexer behind it. -/
theorem lexer_next {l : Lexer} {a : Span} (h : l.next.answer = .ok a) :
    l.next.result = .ok a.token ∧
      l.next.lexer =
        ⟨l.dialect, l.dictionary, l.input, a.token.endOffset, a.start, some a.token⟩ := by
  cases he : (Gap.skip l.dialect l.cursor.rest).error? with
  | some e => rw [next_of_some he] at h; cases h
  | none =>
    rw [next_of_none he] at h ⊢
    unfold read at h ⊢
    split at h
    · cases h
      exact ⟨rfl, rfl⟩
    · cases h

theorem drain_of_error {l : Lexer} {e : LexError} (h : l.next.result = .error e) :
    l.drain = [l.next] := by
  rw [drain]
  split
  · rfl
  · next hok => rw [h] at hok; cases hok

theorem drain_of_ok {l : Lexer} {t : Token} (h : l.next.result = .ok t) :
    l.drain = l.next :: if t.type.isEnd then [] else l.next.lexer.drain := by
  rw [drain]
  split
  · next he => rw [h] at he; cases he
  · next t' ht =>
    rw [h] at ht
    cases ht
    cases t.type.isEnd <;> rfl

theorem answers_of_error {l : Lexer} {e : LexError} (h : l.next.answer = .error e) :
    l.answers = [.error e] := by
  rw [answers, drain_of_error (error_of_map h), List.map_singleton, h]

theorem answers_of_ok {l : Lexer} {a : Span} (h : l.next.answer = .ok a) :
    l.answers = .ok a :: if a.token.type.isEnd then [] else l.next.lexer.answers := by
  rw [answers, drain_of_ok (lexer_next h).1, List.map_cons, h]
  cases a.token.type.isEnd <;> rfl

/-- The answers hang only on the place in the text. -/
theorem answers_eq (l : Lexer) : l.answers = l.cursor.answers l.dialect l.dictionary := by
  induction hn : l.left using Nat.strong_induction_on generalizing l with
  | _ n ih =>
    let l' : Lexer := ⟨l.dialect, l.dictionary, l.input, l.offset, 0, none⟩
    show l.answers = l'.answers
    have ha : l'.next.answer = l.next.answer := by rw [answer_next, answer_next]; rfl
    cases h : l.next.answer with
    | error e => rw [answers_of_error h, answers_of_error (ha.trans h)]
    | ok a =>
      rw [answers_of_ok h, answers_of_ok (ha.trans h)]
      obtain ⟨hr, hl⟩ := lexer_next h
      cases he : a.token.type.isEnd with
      | true => rfl
      | false =>
        have hlt := left_lt_of_next hr he
        have hlt' := left_lt_of_next (lexer_next (ha.trans h)).1 he
        rw [ih _ (hn ▸ hlt) _ rfl, ih _ (hn ▸ hlt') _ rfl, hl, (lexer_next (ha.trans h)).2]

theorem answers_ne_nil (l : Lexer) : l.answers ≠ [] := by
  cases h : l.next.answer with
  | error e => rw [answers_of_error h]; exact List.cons_ne_nil _ _
  | ok a => rw [answers_of_ok h]; exact List.cons_ne_nil _ _

theorem mapM_eq_ok_iff {α β ε : Type} {f : α → Except ε β} {xs : List α} {ys : List β} :
    xs.mapM f = .ok ys ↔ xs.map f = ys.map .ok := by
  induction xs generalizing ys with
  | nil => cases ys <;> simp [pure, Except.pure]
  | cons x xs ih =>
    rw [List.mapM_cons, List.map_cons]
    cases hx : f x with
    | error e => cases ys <;> simp [bind, Except.bind]
    | ok y =>
      cases ys with
      | nil => cases hr : xs.mapM f <;> simp [bind, Except.bind, pure, Except.pure]
      | cons y' ys =>
        rw [List.map_cons, List.cons.injEq, ← ih]
        cases hr : xs.mapM f <;> simp [bind, Except.bind, pure, Except.pure]

theorem spans_eq (l : Lexer) : l.spans = (l.drain.mapM Call.answer).map List.dropLast := by
  have hc : (fun call : Call Token => (do
      return ⟨call.lexer.tokenStart, ← call.result⟩ : Except LexError Span)) = Call.answer := by
    funext call
    rw [Call.answer]
    cases call.result <;> rfl
  rw [Lexer.spans, hc]
  cases l.drain.mapM Call.answer <;> rfl

/-- The spans are all answers but the last, if none is an error. -/
theorem spans_eq_ok_iff {l : Lexer} {spans : List Span} :
    l.spans = .ok spans ↔ ∃ last, l.answers = (spans ++ [last]).map .ok := by
  have ho : l.spans = .ok spans ↔ ∃ all : List Span, l.answers = all.map .ok ∧
      all.dropLast = spans := by
    rw [spans_eq]
    simp only [answers, ← mapM_eq_ok_iff]
    cases l.drain.mapM Call.answer <;> simp [Except.map]
  rw [ho]
  constructor
  · rintro ⟨all, ha, rfl⟩
    have hne : all ≠ [] := by
      rintro rfl
      exact answers_ne_nil l ha
    exact ⟨all.getLast hne, by rw [List.dropLast_concat_getLast, ha]⟩
  · rintro ⟨last, ha⟩
    exact ⟨_, ha, List.dropLast_concat⟩

end Lexer

namespace Cursor

variable {dialect : Dialect} {d : Dictionary} {c : Cursor} {a : Span}

theorem answers_of_error {e : LexError} (h : c.answer dialect d = .error e) :
    c.answers dialect d = [.error e] :=
  Lexer.answers_of_error ((Lexer.answer_next _).trans h)

theorem answers_of_end (h : c.answer dialect d = .ok a) (he : a.token.type.isEnd = true) :
    c.answers dialect d = [.ok a] := by
  rw [answers, Lexer.answers_of_ok ((Lexer.answer_next _).trans h), he, if_pos rfl]

theorem answers_of_token (h : c.answer dialect d = .ok a) (he : a.token.type.isEnd = false) :
    c.answers dialect d = .ok a :: answers dialect d ⟨c.input, a.token.endOffset⟩ := by
  have ha := (Lexer.answer_next ⟨dialect, d, c.input, c.offset, 0, none⟩).trans h
  rw [answers, Lexer.answers_of_ok ha, he, if_neg Bool.false_ne_true, Lexer.answers_eq,
    (Lexer.lexer_next ha).2]
  rfl

theorem token_of_nil (h : c.rest = []) : c.token dialect d = .ok (.atEnd c.offset) := by
  simp only [token, opening, h, Opening.of]

/-- At the end of a text, and beyond it, there is no more than the end. -/
theorem answers_of_nil (h : c.rest = []) :
    c.answers dialect d = [.ok ⟨c.offset, .atEnd c.offset⟩] := by
  have ht : (⟨c.input, c.offset⟩ : Cursor).token dialect d = .ok (.atEnd c.offset) :=
    token_of_nil h
  refine answers_of_end ?_ rfl
  simp only [answer, h, Gap.skip_nil, Nat.add_zero, ht]
  rfl

theorem answers_length (a : Text) : (⟨a, a.length⟩ : Cursor).answers dialect d =
    [.ok ⟨a.length, .atEnd a.length⟩] :=
  answers_of_nil List.drop_length

/-- The next answer decides about all that follow. -/
theorem answers_congr {c' : Cursor} (hi : c.input = c'.input)
    (ha : c.answer dialect d = c'.answer dialect d) :
    c.answers dialect d = c'.answers dialect d := by
  cases h : c.answer dialect d with
  | error e => rw [answers_of_error h, answers_of_error (ha.symm.trans h)]
  | ok a =>
    cases he : a.token.type.isEnd with
    | true => rw [answers_of_end h he, answers_of_end (ha.symm.trans h) he]
    | false => rw [answers_of_token h he, answers_of_token (ha.symm.trans h) he, hi]

/-- A token ends behind the start of the text. -/
theorem endOffset_pos (h : c.answer dialect d = .ok a) (he : a.token.type.isEnd = false) :
    0 < a.token.endOffset := by
  unfold answer at h
  simp only at h
  split at h
  · cases h
  · obtain ⟨t, ht, rfl⟩ := ok_of_map h
    exact Nat.zero_lt_of_lt (lt_endOffset_of_token ht he).2

/-! ## Behind another text -/

/-- Only a block without its end stops a gap. -/
theorem closer_of_skip {s : Text} {e : LexError} (h : (Gap.skip dialect s).error? = some e) :
    e = .unterminatedBlock "*/" := by
  have hs := Gap.skips (d := dialect) s
  generalize Gap.skip dialect s = k at h hs
  cases hs <;> cases h
  rfl

/-- The character before the second part of a text is the last one of the first part. -/
theorem previous?_length (a s : Text) : (⟨a ++ s, a.length⟩ : Cursor).previous? = a.getLast? := by
  rw [previous?, List.getLast?_eq_getElem?]
  simp only []
  by_cases h0 : a.length = 0
  · rw [if_pos h0, List.length_eq_zero_iff.1 h0]
    rfl
  · rw [if_neg h0, List.getElem?_append_left (by omega)]

/-- Behind its first character the second part of a text hides the first part. -/
theorem previous?_append (a b : Text) (k : Nat) :
    (⟨a ++ b, a.length + (k + 1)⟩ : Cursor).previous? = (⟨b, k + 1⟩ : Cursor).previous? := by
  simp only [previous?]
  rw [if_neg (by omega), if_neg (by omega), List.getElem?_append_right (by omega)]
  congr 1
  omega

/-- Of the first part of a text only its last character counts, and that only where the second part
begins. -/
theorem front_append {a b : Text} {k : Nat}
    (h : k = 0 → Lexeme.front dialect d a.getLast? b = Lexeme.front dialect d none b) :
    Lexeme.front dialect d (⟨a ++ b, a.length + k⟩ : Cursor).previous? (Cursor.mk b k).rest =
      Lexeme.front dialect d (⟨b, k⟩ : Cursor).previous? (Cursor.mk b k).rest := by
  cases k with
  | zero => rw [Nat.add_zero, previous?_length]; exact h rfl
  | succ k => rw [previous?_append]

theorem answer_append {a b : Text} {k : Nat}
    (h : k = 0 → Lexeme.front dialect d a.getLast? b = Lexeme.front dialect d none b) :
    (⟨a ++ b, a.length + k⟩ : Cursor).answer dialect d =
      Span.behind (.of a a.length) ((⟨b, k⟩ : Cursor).answer dialect d) := by
  have hr : (⟨a ++ b, a.length + k⟩ : Cursor).rest = (⟨b, k⟩ : Cursor).rest :=
    List.drop_length_add_append ..
  simp only [answer, hr]
  cases he : (Gap.skip dialect (⟨b, k⟩ : Cursor).rest).error? with
  | some e => rw [closer_of_skip he]; rfl
  | none =>
    simp only [Nat.add_assoc]
    rw [token_append _ _ _ (front_append fun h0 => h (Nat.eq_zero_of_add_eq_zero_right h0))]
    cases (⟨b, k + (Gap.skip dialect (⟨b, k⟩ : Cursor).rest).length⟩ : Cursor).token dialect d <;>
      rfl

/-- The answers in the second part of a text, where its first token does not hang on the first
part. -/
theorem answers_append_of_front {a b : Text} {k : Nat}
    (h : k = 0 → Lexeme.front dialect d a.getLast? b = Lexeme.front dialect d none b) :
    (⟨a ++ b, a.length + k⟩ : Cursor).answers dialect d =
      ((⟨b, k⟩ : Cursor).answers dialect d).map (Span.behind (.of a a.length)) := by
  induction hn : (⟨b, k⟩ : Cursor).answers dialect d generalizing k with
  | nil => exact absurd hn (Lexer.answers_ne_nil _)
  | cons r rs ih =>
    have hab : (⟨a ++ b, a.length + k⟩ : Cursor).answer dialect d =
        Span.behind (.of a a.length) ((⟨b, k⟩ : Cursor).answer dialect d) := answer_append h
    cases hb : (⟨b, k⟩ : Cursor).answer dialect d with
    | error e =>
      rw [hb] at hab
      rw [answers_of_error hb] at hn
      rw [answers_of_error hab, ← hn]
      rfl
    | ok s =>
      rw [hb] at hab
      cases he : s.token.type.isEnd with
      | true =>
        rw [answers_of_end hb he] at hn
        rw [answers_of_end hab he, ← hn]
        rfl
      | false =>
        -- Behind a token the first part is out of sight.
        have hpos : s.token.endOffset ≠ 0 := Nat.ne_of_gt (endOffset_pos hb he)
        rw [answers_of_token hb he, List.cons.injEq] at hn
        rw [answers_of_token hab he, List.map_cons, ← ih (fun h0 => absurd h0 hpos) hn.2, ← hn.1]
        rfl

/-- The answers in the second part of a text, where the first part does not end with the start of a
word. -/
theorem answers_append {a : Text} (ha : a.getLast?.any isWordStart = false) (b : Text) (k : Nat) :
    (⟨a ++ b, a.length + k⟩ : Cursor).answers dialect d =
      ((⟨b, k⟩ : Cursor).answers dialect d).map (Span.behind (.of a a.length)) :=
  answers_append_of_front fun _ => Lexeme.front_congr ha b

end Cursor

end SqlLexis
