import SqlLexis.Proofs.Answers
import SqlLexis.Proofs.Lexeme.BeforeBy
import SqlLexis.Proofs.Lexeme.Written

/-!
# A statement as gaps and tokens

`Reads` says, in terms of the text alone, how a lexer takes a text apart: into pieces, each of them
a gap and a token, and a rest. The character before each piece is told, since a token may hang on
it. The main statements:

* `Cursor.answers_of_reads`: from a text that reads as pieces a lexer takes the spans of the pieces,
  and goes on behind them;
* `Lexer.of_answers_cons`: the first answer of a lexer is that of a piece, or of the end;
* `reads_of_spans`: the spans of a statement are those of pieces, and what is left behind the last
  one is a gap.
-/

namespace SqlLexis

open Gap (Ignorable Clear Trailing)

/-- A gap and the token behind it, which is counted from where its text begins. -/
structure Piece where
  gap : Text
  text : Text
  token : Token

namespace Piece

/-- The text of a piece. -/
def source (q : Piece) : Text := q.gap ++ q.text

/-- The span of a piece behind `k` characters. -/
def span (k : Nat) (q : Piece) : Span := ⟨k + q.gap.length, q.token.shift (k + q.gap.length)⟩

end Piece

/-- The text that a span covers. -/
def Span.source (s : Text) (b : Span) : Text := s.extract b.start b.token.endOffset

/-- The text of a token that is read at an offset is in front there. -/
theorem Span.source_shift (s : Text) (k : Nat) (t : Token) :
    (⟨k, t.shift k⟩ : Span).source s = (s.drop k).take t.endOffset := by
  show s.extract k (k + t.endOffset) = _
  rw [List.extract_eq_take_drop, Nat.add_sub_cancel_left]

/-- The text of pieces, one behind the other. -/
def assembled (qs : List Piece) : Text := qs.flatMap Piece.source

/-- The spans of pieces behind `k` characters. -/
def placed (k : Nat) : List Piece → List Span
  | [] => []
  | q :: qs => q.span k :: placed (k + q.source.length) qs

/-- A piece stands in front of a text, behind the character `p`: its gap ends where the token begins
that is in front of the rest. -/
structure Piece.Stands (dialect : Dialect) (d : Dictionary) (p : Option Char) (q : Piece)
    (after : Text) : Prop where
  gap : Ignorable dialect q.gap
  clear : Clear dialect (q.text ++ after)
  ne_nil : q.text ≠ []
  endOffset : q.token.endOffset = q.text.length
  front : Lexeme.front dialect d (q.gap.getLast?.or p) (q.text ++ after) = .ok q.token

/-- The pieces that a lexer takes from a text, up to a rest. -/
inductive Reads (dialect : Dialect) (d : Dictionary) : Option Char → List Piece → Text → Prop where
  | nil {p : Option Char} {rest : Text} : Reads dialect d p [] rest
  | cons {p : Option Char} {q : Piece} {qs : List Piece} {rest : Text}
    (hq : q.Stands dialect d p (assembled qs ++ rest))
    (hqs : Reads dialect d q.text.getLast? qs rest) : Reads dialect d p (q :: qs) rest

variable {dialect : Dialect} {d : Dictionary}

theorem assembled_cons (q : Piece) (qs : List Piece) (rest : Text) :
    assembled (q :: qs) ++ rest = q.gap ++ (q.text ++ (assembled qs ++ rest)) := by
  simp only [assembled, List.flatMap_cons, Piece.source, List.append_assoc]

theorem Piece.Stands.written {p : Option Char} {q : Piece} {after : Text}
    (h : q.Stands dialect d p after) : q.token.Written dialect q.text := by
  obtain ⟨text, after', heq, -, hn, hw⟩ :=
    Lexeme.begins_of_front h.front (List.append_ne_nil_of_left_ne_nil h.ne_nil _)
  obtain ⟨rfl, -⟩ := List.append_inj heq (h.endOffset.symm.trans hn)
  exact hw

theorem not_isBlank_of_marker {marker : Text}
    (hm : marker ∈ ['/', '*'] :: Gap.lineMarkers dialect) :
    ∀ c ∈ marker, isBlank c = false := by
  have hall : (['/', '*'] :: Gap.lineMarkers dialect).all (·.all fun c => !isBlank c) = true := by
    cases dialect <;> decide
  intro c hc
  have hb := List.all_eq_true.1 (List.all_eq_true.1 hall marker hm) c hc
  exact Bool.not_eq_true' _ ▸ hb

theorem Piece.Stands.retyped {p : Option Char} {q : Piece} {after : Text}
    (h : q.Stands dialect d p after) :
    q.token.retyped d (Lexeme.isBeforeBy after) = q.token := by
  have hr := Lexeme.retyped_of_front h.front (List.append_ne_nil_of_left_ne_nil h.ne_nil _)
    (by rw [h.endOffset, List.length_append]; omega)
  rwa [h.endOffset, List.drop_left] at hr

/-- A text stays clear if it is cut off with a blank. -/
theorem clear_cut {u x y : Text} (h : Clear dialect (u ++ x)) (hne : u ≠ []) (hy : Breaks y) :
    Clear dialect (u ++ y) := by
  obtain ⟨c, v, rfl⟩ := List.exists_cons_of_ne_nil hne
  refine ⟨h.1, fun marker hm hp => ?_⟩
  obtain ⟨t, ht⟩ := hp
  rcases List.append_eq_append_iff.1 ht with ⟨w, hu, -⟩ | ⟨w, hw, hyt⟩
  · exact h.2 marker hm ⟨w ++ x, by rw [hu, List.append_assoc]⟩
  · cases w with
    | nil =>
      rw [List.append_nil] at hw
      exact h.2 marker hm ⟨x, by rw [hw]⟩
    | cons b w =>
      have hb : isBlank b = true := hy b (by rw [hyt]; rfl)
      have hn := not_isBlank_of_marker hm b (by rw [hw]; simp)
      rw [hb] at hn
      cases hn

theorem extract_append (a g s : Text) :
    (a ++ (g ++ s)).extract a.length (a.length + g.length) = g := by
  rw [List.extract_eq_take_drop, List.drop_left, Nat.add_sub_cancel_left, List.take_left]

theorem extract_append_drop {s : Text} {i j : Nat} (h : i ≤ j) :
    s.extract i j ++ s.drop j = s.drop i := by
  have hd : s.drop j = (s.drop i).drop (j - i) := by rw [List.drop_drop]; congr 1; omega
  rw [List.extract_eq_take_drop, hd, List.take_append_drop]

theorem length_append_source (a : Text) (q : Piece) :
    a.length + q.source.length = (a ++ q.gap ++ q.text).length := by
  simp only [Piece.source, List.length_append, Nat.add_assoc]

theorem Piece.Stands.endOffset_span {p : Option Char} {q : Piece} {after : Text}
    (h : q.Stands dialect d p after) (a : Text) :
    (q.span a.length).token.endOffset = (a ++ q.gap ++ q.text).length := by
  simp only [Piece.span, Token.shift, h.endOffset, List.length_append]

theorem Piece.Stands.source_span {p : Option Char} {q : Piece} {after : Text}
    (h : q.Stands dialect d p after) (a : Text) :
    (q.span a.length).source (a ++ (q.gap ++ (q.text ++ after))) = q.text := by
  have := extract_append (a ++ q.gap) q.text after
  rwa [List.append_assoc, List.length_append, ← h.endOffset] at this

theorem assembled_concat (qs : List Piece) (q : Piece) (rest : Text) :
    assembled (qs ++ [q]) ++ rest = assembled qs ++ (q.gap ++ (q.text ++ rest)) := by
  simp only [assembled, List.flatMap_append, List.flatMap_singleton, Piece.source,
    List.append_assoc]

theorem placed_concat (k : Nat) (qs : List Piece) (q : Piece) :
    placed k (qs ++ [q]) = placed k qs ++ [q.span (k + (assembled qs).length)] := by
  induction qs generalizing k with
  | nil => rfl
  | cons q' qs ih =>
    have hn : (assembled (q' :: qs)).length = q'.source.length + (assembled qs).length := by
      rw [assembled, List.flatMap_cons, List.length_append, assembled]
    rw [List.cons_append, placed, placed, ih, List.cons_append, hn, Nat.add_assoc]

/-- One more piece is read where it stands. -/
theorem Reads.snoc {p : Option Char} {q : Piece} {qs : List Piece} {rest : Text}
    (h : Reads dialect d p qs (q.gap ++ (q.text ++ rest)))
    (hq : q.Stands dialect d ((assembled qs).getLast?.or p) rest) :
    Reads dialect d p (qs ++ [q]) rest := by
  induction qs generalizing p with
  | nil => exact .cons hq .nil
  | cons q' qs ih =>
    cases h with
    | cons hq' hqs =>
      have hlast : (assembled (q' :: qs)).getLast?.or p =
          (assembled qs).getLast?.or q'.text.getLast? := by
        rw [assembled, List.flatMap_cons, Piece.source, List.getLast?_append, List.getLast?_append,
          List.getLast?_eq_some_getLast hq'.ne_nil, Option.some_or, Option.or_assoc, Option.some_or]
        rfl
      rw [hlast] at hq
      refine .cons ?_ (ih hqs hq)
      show q'.Stands dialect d p (assembled (qs ++ [q]) ++ rest)
      rwa [assembled_concat]

/-- One more piece is read that stands there whatever is before it. -/
theorem Reads.concat {p : Option Char} {q : Piece} {qs : List Piece} {rest : Text}
    (h : Reads dialect d p qs (q.gap ++ (q.text ++ rest)))
    (hq : ∀ p', q.Stands dialect d p' rest) : Reads dialect d p (qs ++ [q]) rest :=
  h.snoc (hq _)

/-- A piece stands also behind a longer gap. -/
theorem Piece.Stands.prepend {p : Option Char} {q : Piece} {g after : Text}
    (hg : Ignorable dialect g) (hq : q.Stands dialect d (g.getLast?.or p) after) :
    Piece.Stands dialect d p ⟨g ++ q.gap, q.text, q.token⟩ after := by
  refine ⟨hg.append hq.gap, hq.clear, hq.ne_nil, hq.endOffset, ?_⟩
  rw [List.getLast?_append, Option.or_assoc]
  exact hq.front

theorem getLast?_of_ne_nil (a : Text) {s : Text} (hs : s ≠ []) :
    (a ++ s).getLast? = s.getLast? := by
  rw [List.getLast?_append, List.getLast?_eq_some_getLast hs, Option.some_or]

/-- What does not hang on the place of a span shows in its piece. -/
theorem map_placed {α : Type} {f : Span → α} {g : Piece → α} (h : ∀ k q, f (Piece.span k q) = g q)
    (k : Nat) (qs : List Piece) : (placed k qs).map f = qs.map g := by
  induction qs generalizing k with
  | nil => rfl
  | cons q qs ih => rw [placed, List.map_cons, List.map_cons, h, ih]

/-- Each span of pieces is that of a piece, which stands where the span begins. -/
theorem mem_placed {a tail : Text} {qs : List Piece} {b : Span}
    (h : Reads dialect d a.getLast? qs tail) (hb : b ∈ placed a.length qs) :
    ∃ (q : Piece) (k : Nat) (p : Option Char) (after : Text), q.Stands dialect d p after ∧
      (a ++ (assembled qs ++ tail)).drop k = q.gap ++ (q.text ++ after) ∧ b = q.span k := by
  induction qs generalizing a with
  | nil => cases hb
  | cons q qs ih =>
    cases h with
    | cons hq hqs =>
      rcases List.mem_cons.1 hb with rfl | hb
      · exact ⟨q, a.length, _, _, hq, by rw [List.drop_left, assembled_cons], rfl⟩
      · rw [← getLast?_of_ne_nil (a ++ q.gap) hq.ne_nil] at hqs
        rw [length_append_source] at hb
        obtain ⟨q', k, p, after, hq', hd, rfl⟩ := ih hqs hb
        refine ⟨q', k, p, after, hq', ?_, rfl⟩
        rw [assembled_cons, ← hd]
        simp only [List.append_assoc]

namespace Cursor

/-- Behind a gap that ends at a clear place stands the token in front of what follows. -/
theorem answer_of_gap {g s : Text} (a : Text) (hg : Ignorable dialect g) (hs : Clear dialect s) :
    (⟨a ++ (g ++ s), a.length⟩ : Cursor).answer dialect d =
      (Token.behind (.of (a ++ (g ++ s)) (a.length + g.length))
        (Lexeme.front dialect d (g.getLast?.or a.getLast?) s)).map (⟨a.length + g.length, ·⟩) := by
  have hr : (⟨a ++ (g ++ s), a.length⟩ : Cursor).rest = g ++ s := List.drop_left ..
  have hk : Gap.skip dialect (g ++ s) = ⟨g.length, none⟩ := by
    rw [Gap.skip_append hg, Gap.skip_of_clear hs]; rfl
  simp only [answer, hr, hk]
  rw [token_eq]
  have hp : (⟨a ++ (g ++ s), a.length + g.length⟩ : Cursor).previous? =
      g.getLast?.or a.getLast? := by
    rw [← List.append_assoc, ← List.length_append, previous?_length, List.getLast?_append]
  have hs : (⟨a ++ (g ++ s), a.length + g.length⟩ : Cursor).rest = s := by
    rw [← List.append_assoc, ← List.length_append, rest, List.drop_left]
  rw [hp, hs]

/-- A gap leads to the same answers as the place behind it. -/
theorem answers_of_ignorable {g : Text} (a : Text) (hg : Ignorable dialect g) (s : Text) :
    (⟨a ++ (g ++ s), a.length⟩ : Cursor).answers dialect d =
      (⟨a ++ (g ++ s), (a ++ g).length⟩ : Cursor).answers dialect d := by
  refine answers_congr rfl ?_
  have hr : (⟨a ++ (g ++ s), a.length⟩ : Cursor).rest = g ++ s := List.drop_left ..
  have hs : (⟨a ++ (g ++ s), a.length + g.length⟩ : Cursor).rest = s := by
    rw [← List.append_assoc, ← List.length_append, rest, List.drop_left]
  simp only [answer, hr, hs, Gap.skip_append hg, Gap.Skipped.after, List.length_append,
    Nat.add_assoc]

theorem answer_of_stands {a s : Text} {q : Piece} (h : q.Stands dialect d a.getLast? s) :
    (⟨a ++ (q.gap ++ (q.text ++ s)), a.length⟩ : Cursor).answer dialect d =
      .ok (q.span a.length) := by
  rw [answer_of_gap a h.gap h.clear, h.front]
  rfl

/-- An answer without an error is that of a piece, or of the end. -/
theorem of_answer {a s : Text} {b : Span}
    (h : (⟨a ++ s, a.length⟩ : Cursor).answer dialect d = .ok b) :
    (Trailing dialect s ∧ b.token.type.isEnd = true) ∨
      ∃ (q : Piece) (after : Text), s = q.gap ++ (q.text ++ after) ∧
        q.Stands dialect d a.getLast? after ∧ b = q.span a.length := by
  have hr : (⟨a ++ s, a.length⟩ : Cursor).rest = s := List.drop_left ..
  cases hk : Gap.skip dialect s with
  | mk n e? =>
    cases e? with
    | some e => simp only [answer, hr, hk] at h; cases h
    | none =>
      cases Gap.of_skip hk with
      | atEnd hs hn =>
        have hr' : (⟨a ++ s, a.length + n⟩ : Cursor).rest = [] :=
          List.drop_eq_nil_of_le (by
            show (a ++ s).length ≤ a.length + n
            rw [List.length_append]
            omega)
        simp only [answer, hr, hk, token_eq, hr'] at h
        cases h
        exact .inl ⟨hs, rfl⟩
      | @beforeToken g s hg hc hne =>
        rw [answer_of_gap a hg hc] at h
        obtain ⟨t', ht', rfl⟩ := ok_of_map h
        obtain ⟨t, ht, rfl⟩ := Token.ok_of_behind ht'
        obtain ⟨text, after, rfl, htne, hn, -⟩ := Lexeme.begins_of_front ht hne
        exact .inr ⟨⟨g, text, t⟩, after, rfl, ⟨hg, hc, htne, hn, ht⟩, rfl⟩

/-- Behind a piece the lexer goes on. -/
theorem answers_of_stands {a s : Text} {q : Piece} (h : q.Stands dialect d a.getLast? s) :
    (⟨a ++ (q.gap ++ (q.text ++ s)), a.length⟩ : Cursor).answers dialect d =
      .ok (q.span a.length) ::
        (⟨a ++ q.gap ++ q.text ++ s, (a ++ q.gap ++ q.text).length⟩ : Cursor).answers
          dialect d := by
  rw [answers_of_token (answer_of_stands h) h.written.isEnd, h.endOffset_span]
  simp only [List.append_assoc]

theorem of_answers_cons {a s : Text} {b : Span} {rs : List (Except LexError Span)}
    (h : (⟨a ++ s, a.length⟩ : Cursor).answers dialect d = .ok b :: rs) :
    (Trailing dialect s ∧ b.token.type.isEnd = true ∧ rs = []) ∨
      ∃ (q : Piece) (after : Text), s = q.gap ++ (q.text ++ after) ∧
        q.Stands dialect d a.getLast? after ∧ b = q.span a.length ∧
        (⟨a ++ q.gap ++ q.text ++ after, (a ++ q.gap ++ q.text).length⟩ : Cursor).answers
          dialect d = rs := by
  cases hb : (⟨a ++ s, a.length⟩ : Cursor).answer dialect d with
  | error e => rw [answers_of_error hb] at h; cases h
  | ok b' =>
    rcases of_answer hb with ⟨hs, he⟩ | ⟨q, after, rfl, hq, rfl⟩
    · rw [answers_of_end hb he] at h
      cases h
      exact .inl ⟨hs, he, rfl⟩
    · rw [answers_of_stands hq] at h
      obtain ⟨hb, hrs⟩ := List.cons.inj h
      exact .inr ⟨q, after, rfl, hq, (Except.ok.inj hb).symm, hrs⟩

/-- From a text that reads as pieces a lexer takes their spans, and goes on behind them. -/
theorem answers_of_reads {a rest : Text} {qs : List Piece}
    (h : Reads dialect d a.getLast? qs rest) :
    (⟨a ++ (assembled qs ++ rest), a.length⟩ : Cursor).answers dialect d =
      (placed a.length qs).map .ok ++
        (⟨a ++ (assembled qs ++ rest), (a ++ assembled qs).length⟩ : Cursor).answers dialect d := by
  induction qs generalizing a with
  | nil => simp [assembled, placed]
  | cons q qs ih =>
    cases h with
    | cons hq hqs =>
      rw [← getLast?_of_ne_nil (a ++ q.gap) hq.ne_nil] at hqs
      have hs : a ++ assembled (q :: qs) = a ++ q.gap ++ q.text ++ assembled qs := by
        simp only [assembled, List.flatMap_cons, Piece.source, List.append_assoc]
      rw [assembled_cons, answers_of_stands hq, ih hqs, placed, length_append_source, hs,
        List.map_cons, List.cons_append, ← assembled_cons, ← List.append_assoc a, hs]
      simp only [List.append_assoc]

end Cursor

/-- Answers without an error are those of pieces, which leave no more than a gap. -/
theorem reads_of_answers {a s : Text} {spans : List Span} {last : Span}
    (h : (⟨a ++ s, a.length⟩ : Cursor).answers dialect d = (spans ++ [last]).map .ok) :
    ∃ qs tail, s = assembled qs ++ tail ∧ Reads dialect d a.getLast? qs tail ∧
      Trailing dialect tail ∧ spans = placed a.length qs := by
  induction spans generalizing a s with
  | nil =>
    rcases Cursor.of_answers_cons h with ⟨hs, -⟩ | ⟨q, after, -, -, -, hn⟩
    · exact ⟨[], s, rfl, .nil, hs, rfl⟩
    · exact absurd hn (Lexer.answers_ne_nil _)
  | cons b spans ih =>
    rcases Cursor.of_answers_cons h with ⟨-, -, hn⟩ | ⟨q, after, rfl, hq, rfl, hrs⟩
    · simp at hn
    · obtain ⟨qs, tail, rfl, hqs, ht, rfl⟩ := ih hrs
      rw [getLast?_of_ne_nil (a ++ q.gap) hq.ne_nil] at hqs
      refine ⟨q :: qs, tail, (assembled_cons q qs tail).symm, .cons hq hqs, ht, ?_⟩
      rw [placed, length_append_source]

/-- The first answer of a lexer is the end of the input, and the last, or it is that of a piece,
behind which the lexer goes on. -/
theorem Lexer.of_answers_cons {l : Lexer} {b : Span} {rs : List (Except LexError Span)}
    (h : l.answers = .ok b :: rs) : (b.token.type.isEnd = true ∧ rs = []) ∨
      ∃ (a : Text) (q : Piece) (after : Text), l.input = a ++ (q.gap ++ (q.text ++ after)) ∧
        q.Stands l.dialect l.dictionary a.getLast? after ∧ b = q.span a.length ∧
        (⟨a ++ q.gap ++ q.text ++ after, (a ++ q.gap ++ q.text).length⟩ : Cursor).answers
          l.dialect l.dictionary = rs := by
  rw [answers_eq] at h
  by_cases hl : l.offset ≤ l.input.length
  · have ha : (l.input.take l.offset).length = l.offset := List.length_take_of_le hl
    have hs : l.input.take l.offset ++ l.input.drop l.offset = l.input := List.take_append_drop _ _
    have hc : l.cursor =
        ⟨l.input.take l.offset ++ l.input.drop l.offset, (l.input.take l.offset).length⟩ := by
      rw [hs, ha]
      rfl
    rw [hc] at h
    rcases Cursor.of_answers_cons h with ⟨-, he, hrs⟩ | ⟨q, after, hd, hq, hb, hrs⟩
    · exact .inl ⟨he, hrs⟩
    · exact .inr ⟨_, q, after, by rw [← hd, hs], hq, hb, hrs⟩
  · have hrest : l.cursor.rest = [] := List.drop_eq_nil_of_le (Nat.le_of_not_le hl)
    rw [Cursor.answers_of_nil hrest] at h
    cases h
    exact .inl ⟨rfl, rfl⟩

/-- Two answers in a row are those of two pieces, one behind the other. -/
theorem Lexer.of_answers_cons_cons {l : Lexer} {b u : Span} {rs : List (Except LexError Span)}
    (h : l.answers = .ok b :: .ok u :: rs) (hu : u.token.type.isEnd = false) :
    ∃ (a : Text) (q q' : Piece) (after : Text),
      l.input = a ++ (q.gap ++ (q.text ++ (q'.gap ++ (q'.text ++ after)))) ∧
      q.Stands l.dialect l.dictionary a.getLast? (q'.gap ++ (q'.text ++ after)) ∧
      q'.Stands l.dialect l.dictionary q.text.getLast? after ∧
      b = q.span a.length ∧ u = q'.span (a ++ q.gap ++ q.text).length := by
  rcases of_answers_cons h with ⟨-, hrs⟩ | ⟨a, q, s, hs, hq, hb, hrs⟩
  · cases hrs
  · rcases Cursor.of_answers_cons hrs with ⟨-, he, -⟩ | ⟨q', after, rfl, hq', hb', -⟩
    · rw [hu] at he
      cases he
    · rw [getLast?_of_ne_nil (a ++ q.gap) hq.ne_nil] at hq'
      exact ⟨a, q, q', after, hs, hq, hq', hb, hb'⟩

theorem Lexer.answers_withDictionary (sql : String) (dialect : Dialect) (d : Dictionary) :
    (withDictionary sql dialect d).answers = Cursor.answers dialect d ⟨sql.toList, 0⟩ :=
  answers_eq _

/-- The spans of a statement are those of pieces, which leave no more than a gap. -/
theorem reads_of_spans {sql : String} {spans : List Span}
    (h : (Lexer.withDictionary sql dialect d).spans = .ok spans) :
    ∃ qs tail, sql.toList = assembled qs ++ tail ∧ Reads dialect d none qs tail ∧
      Trailing dialect tail ∧ spans = placed 0 qs := by
  obtain ⟨last, ha⟩ := Lexer.spans_eq_ok_iff.1 h
  rw [Lexer.answers_withDictionary] at ha
  exact reads_of_answers (a := []) ha

end SqlLexis
