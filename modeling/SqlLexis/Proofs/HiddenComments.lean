import SqlLexis.Proofs.Lexeme.Shape
import SqlLexis.Proofs.Outcome
import SqlLexis.Proofs.Tiling

/-!
# No token hides a comment

Outside of quotes a token neither holds what begins a comment nor ends where one begins, with two
exceptions: a number that breaks off behind the sign of its exponent, and `0x-`, end in a minus sign
that another one may follow (`Span.Bare`). So in a statement that is read to its end, what begins a
comment stands between quotes, or is one of these pairs of signs, or lies in a gap
(`hides_no_comment`).
-/

namespace SqlLexis

open Gap (Clear Comment Ignorable Trailing)

/-- A place lies in a span. -/
def Span.Covers (b : Span) (i : Nat) : Prop := b.start ≤ i ∧ i < b.token.endOffset

/-- Nothing in a span of the text `s` begins a comment: no slash before a slash or a star, no two
minus signs, except that the first one may end the span, and where `#` begins a comment none but
within a name or a variable. Nor is there a blank. -/
structure Span.Bare (dialect : Dialect) (s : Text) (b : Span) : Prop where
  slash (i : Nat) : b.Covers i → ¬ ['/', '/'] <+: s.drop i ∧ ¬ ['/', '*'] <+: s.drop i
  signs (i : Nat) : b.Covers i → ['-', '-'] <+: s.drop i →
    i + 1 = b.token.endOffset ∧ b.token.EndsInSign (b.source s)
  hash (i : Nat) : dialect = .mySql → b.Covers i → ['#'] <+: s.drop i →
    b.start < i ∧ (b.token.type = .literal .identifier ∨ b.token.type = .literal .var)
  visible : ∀ c ∈ b.source s, isBlank c = false ∧ isVisible c = true

/-- The places of the gaps between tokens, from an offset on: before each token, and behind the
last. -/
def gaps (s : Text) : Nat → List Span → List (Nat × Nat)
  | e, [] => [(e, s.length)]
  | e, b :: bs => (e, b.start) :: gaps s b.token.endOffset bs

variable {dialect : Dialect} {d : Dictionary} {table : KeywordTable} {s u y : Text}

/-! ## One token -/

theorem mem_tail_of_starts {c : Char} {m : Text} {i : Nat} (h : c :: m <+: (u ++ y).drop (i + 1))
    (hi : i + 1 < u.length) : c ∈ u.tail := by
  rw [List.drop_append_of_le_length (Nat.le_of_lt hi)] at h
  obtain ⟨x, r, hx⟩ := List.exists_cons_of_ne_nil (l := u.drop (i + 1)) fun hn => by
    have := List.drop_eq_nil_iff.1 hn
    omega
  rw [hx, List.cons_append, List.cons_prefix_cons] at h
  rw [h.1]
  refine List.mem_of_mem_drop (i := i) ?_
  rw [List.drop_tail, hx]
  exact List.mem_cons_self

/-- Of two minus signs behind the first character the second stands behind the end. -/
theorem Lexeme.SignsAfter.last {q : Char → Bool} {i : Nat} (h : SignsAfter q u) (hq : q '-' = false)
    (hp : ['-', '-'] <+: (u ++ y).drop (i + 1)) (hi : i + 1 < u.length) :
    i + 2 = u.length ∧ ∃ w c, u = w ++ [c, '-'] ∧ q c = true := by
  have rel := List.isChain_iff_forall_rel_of_append_cons_cons.1 h
  have hlen : (u.drop i).length = u.length - i := List.length_drop
  rw [List.drop_append_of_le_length (Nat.le_of_lt hi), ← List.drop_drop] at hp
  have hu : u.take i ++ u.drop i = u := List.take_append_drop i u
  generalize u.drop i = v at hp hu hlen
  match v, hp, hlen with
  | [], _, hlen => simp only [List.length_nil] at hlen; omega
  | [c], _, hlen => simp only [List.length_singleton] at hlen; omega
  | [c, x], hp, hlen =>
    obtain rfl : '-' = x := (List.cons_prefix_cons.1 hp).1
    simp only [List.length_cons, List.length_nil] at hlen
    exact ⟨by omega, u.take i, c, hu.symm, rel hu.symm rfl⟩
  | c :: x :: z :: r, hp, _ =>
    obtain ⟨rfl, rfl⟩ : x = '-' ∧ z = '-' := by simpa [eq_comm] using hp
    have hsign : q '-' = true :=
      @rel '-' '-' (u.take i ++ [c]) r (by rw [List.append_assoc]; exact hu.symm) rfl
    rw [hq] at hsign
    cases hsign

theorem bare_of_shape {t : Token} {k : Nat} (h : Lexeme.Shape table.toDictionary t u)
    (hq : ¬ t.IsQuoted) (hs : s.drop k = u ++ y) (hc : Clear dialect (u ++ y))
    (he : t.endOffset = u.length) : Span.Bare dialect s ⟨k, t.shift k⟩ := by
  have hsource : (⟨k, t.shift k⟩ : Span).source s = u := by
    rw [Span.source_shift, hs, he, List.take_left]
  -- What stands at a place of the span stands at a place of its text.
  have at_place {i : Nat} (hi : Span.Covers ⟨k, t.shift k⟩ i) :
      ∃ j, i = k + j ∧ j < u.length ∧ s.drop i = (u ++ y).drop j := by
    obtain ⟨h1, h2⟩ := hi
    change k ≤ i at h1
    change i < k + t.endOffset at h2
    exact ⟨i - k, by omega, by omega, by rw [← hs, List.drop_drop]; congr 1; omega⟩
  have hcs : ∀ m ∈ [['/', '/'], ['/', '*'], ['-', '-']], ¬ m <+: u ++ y := fun m hm =>
    hc.2 m (by cases dialect <;> simp [Gap.lineMarkers] at hm ⊢ <;> tauto)
  constructor
  case slash =>
    intro i hi
    obtain ⟨j, -, hj, hd⟩ := at_place hi
    rw [hd]
    cases j with
    | zero => exact ⟨hcs _ (by simp), hcs _ (by simp)⟩
    | succ j =>
      have hn := h.slash_not_mem hq
      exact ⟨fun hp => hn (mem_tail_of_starts hp hj), fun hp => hn (mem_tail_of_starts hp hj)⟩
  case signs =>
    intro i hi hp
    obtain ⟨j, rfl, hj, hd⟩ := at_place hi
    rw [hd] at hp
    cases j with
    | zero => exact absurd hp (hcs _ (by simp))
    | succ j =>
      obtain ⟨q, hqm, hsigns, hend⟩ := h.signs hq
      obtain ⟨hl, w, c, hu, hcq⟩ := hsigns.last hqm hp hj
      refine ⟨?_, ?_⟩
      · show k + (j + 1) + 1 = k + t.endOffset
        omega
      · rw [hsource]
        exact hend w c hu hcq
  case hash =>
    intro i hm hi hp
    obtain ⟨j, rfl, hj, hd⟩ := at_place hi
    rw [hd] at hp
    cases j with
    | zero => exact absurd hp (hc.2 _ (by rw [hm]; simp [Gap.lineMarkers]))
    | succ j =>
      refine ⟨?_, h.isName hq (mem_tail_of_starts hp hj)⟩
      show k < k + (j + 1)
      omega
  case visible =>
    intro c hm
    rw [hsource] at hm
    have hv := h.isVisible hq c hm
    exact ⟨isBlank_of_isVisible hv, hv⟩

theorem bare_of_stands {p : Option Char} {q : Piece} {after : Text} {k : Nat}
    (h : q.Stands dialect table.toDictionary p after) (hs : s.drop k = q.gap ++ (q.text ++ after))
    (hq : ¬ q.token.IsQuoted) : (q.span k).Bare dialect s := by
  have hshape := Lexeme.shape_of_front h.front (List.append_ne_nil_of_left_ne_nil h.ne_nil _)
  rw [h.endOffset, List.take_left] at hshape
  refine bare_of_shape hshape hq ?_ h.clear h.endOffset
  rw [← List.drop_drop, hs, List.drop_left]

/-- A span that covers no place is bare. -/
theorem bare_of_le {b : Span} (h : b.token.endOffset ≤ b.start) : b.Bare dialect s := by
  have hn : ∀ i, ¬ b.Covers i := fun i hi => by
    have := hi.1
    have := hi.2
    omega
  have hsource : b.source s = [] := by
    rw [Span.source, List.extract_eq_take_drop, Nat.sub_eq_zero_of_le h, List.take_zero]
  exact ⟨fun i hi => absurd hi (hn i), fun i hi => absurd hi (hn i),
    fun i _ hi => absurd hi (hn i), by rw [hsource]; exact List.forall_mem_nil _⟩

/-- Every answer of a lexer whose dictionary is a table of keywords is bare, unless it is quoted. -/
theorem Lexer.bare_of_next {l : Lexer} {b : Span} (hd : l.dictionary = table.toDictionary)
    (h : l.next.answer = .ok b) (hq : ¬ b.token.IsQuoted) : b.Bare l.dialect l.input := by
  obtain ⟨g, -, ho⟩ := l.exists_outcome
  rw [Call.answer] at h
  generalize l.next.result = r at h ho
  generalize l.next.lexer = l' at h ho
  cases ho with
  | atBlock => cases h
  | atToken => cases h
  | token hs hstands =>
    cases h
    rw [hd] at hstands
    exact bare_of_stands hstands hs hq
  | atEnd =>
    cases h
    exact bare_of_le (Nat.le_refl _)
  | inLine =>
    cases h
    exact bare_of_le (Nat.le_refl _)

/-! ## The gaps between tokens -/

/-- What is ignorable ends with a blank or with the end of a block. -/
theorem Gap.Ignorable.last {g : Text} (h : Ignorable dialect g) (hne : g ≠ []) :
    (∃ c ∈ g.getLast?, isBlank c = true) ∨ ['*', '/'] <:+ g := by
  induction h with
  | nil => exact absurd rfl hne
  | @blank c g hc _ ih =>
    by_cases hg : g = []
    · subst hg
      exact .inl ⟨c, rfl, hc⟩
    · rcases ih hg with ⟨x, hx, hb⟩ | hs
      · exact .inl ⟨x, by rwa [← List.singleton_append, getLast?_of_ne_nil _ hg], hb⟩
      · exact .inr (hs.trans (List.suffix_cons c g))
  | @comment c g hc _ ih =>
    by_cases hg : g = []
    · subst hg
      rw [List.append_nil]
      cases hc with
      | line => exact .inl ⟨'\n', by simp, isBlank_newline⟩
      | block => exact .inr (List.suffix_append _ _)
    · rcases ih hg with ⟨x, hx, hb⟩ | hs
      · exact .inl ⟨x, by rwa [getLast?_of_ne_nil _ hg], hb⟩
      · exact .inr (hs.trans (List.suffix_append c g))

/-- A place of a tiled text lies in a token or in a gap. -/
theorem covers_or_gap {e i : Nat} {bs : List Span} (h : Tiles dialect s e bs) (he : e ≤ i)
    (hi : i < s.length) : (∃ b ∈ bs, b.Covers i) ∨ ∃ g ∈ gaps s e bs, g.1 ≤ i ∧ i < g.2 := by
  induction bs generalizing e with
  | nil => exact .inr ⟨_, List.mem_singleton_self _, he, hi⟩
  | cons b bs ih =>
    by_cases h1 : i < b.start
    · exact .inr ⟨_, List.mem_cons_self, he, h1⟩
    by_cases h2 : i < b.token.endOffset
    · exact .inl ⟨b, List.mem_cons_self, Nat.le_of_not_lt h1, h2⟩
    rcases ih h.2 (Nat.le_of_not_lt h2) with ⟨x, hx, hc⟩ | ⟨g, hg, hc⟩
    · exact .inl ⟨x, List.mem_cons_of_mem _ hx, hc⟩
    · exact .inr ⟨g, List.mem_cons_of_mem _ hg, hc⟩

/-- The gaps of a tiled text are ignorable, but for the last one, which may be trailing. -/
theorem gap_of_mem_gaps {e : Nat} {bs : List Span} (h : Tiles dialect s e bs) {g : Nat × Nat}
    (hg : g ∈ gaps s e bs) : Ignorable dialect (s.extract g.1 g.2) ∨
      g.2 = s.length ∧ Trailing dialect (s.extract g.1 g.2) := by
  induction bs generalizing e with
  | nil =>
    obtain rfl := List.mem_singleton.1 hg
    refine .inr ⟨rfl, ?_⟩
    have ht : Trailing dialect (s.drop e) := h
    rwa [List.extract_eq_take_drop, List.take_of_length_le (by rw [List.length_drop])]
  | cons b bs ih =>
    rcases List.mem_cons.1 hg with rfl | hg
    · exact .inl h.1.gap
    · exact ih h.2 hg

/-- What begins a comment within a gap lies in it, unless the gap ends with a block there. -/
theorem lies_in_gap {g : Nat × Nat} {m : Text} {i : Nat}
    (h : Ignorable dialect (s.extract g.1 g.2) ∨
      g.2 = s.length ∧ Trailing dialect (s.extract g.1 g.2))
    (hm : m ∈ [['/', '/'], ['/', '*'], ['-', '-']]) (hp : m <+: s.drop i) (h1 : g.1 ≤ i)
    (h2 : i < g.2) : i + 1 < g.2 ∨ ['*', '/'] <:+ s.extract g.1 g.2 := by
  have hl : m.length = 2 := by
    simp only [List.mem_cons, List.not_mem_nil, or_false] at hm
    rcases hm with rfl | rfl | rfl <;> rfl
  have hlen := hp.length_le
  rw [List.length_drop] at hlen
  rcases h with hg | ⟨he, -⟩
  · rcases Nat.lt_or_ge (i + 1) g.2 with hlt | hge
    · exact .inl hlt
    right
    -- The first character of what begins a comment is the last one of the gap, and no blank.
    have hglen : (s.extract g.1 g.2).length = g.2 - g.1 := by
      rw [List.extract_eq_take_drop, List.length_take, List.length_drop]
      omega
    have hne : s.extract g.1 g.2 ≠ [] := fun hn => by
      rw [hn, List.length_nil] at hglen
      omega
    have hlast : (s.extract g.1 g.2).getLast? = s[i]? := by
      rw [List.getLast?_eq_getElem?, hglen, List.extract_eq_take_drop, List.getElem?_take_of_lt
        (by omega), List.getElem?_drop]
      congr 1
      omega
    have hhead : s[i]? = m.head? := by
      obtain ⟨r, hr⟩ := hp
      rw [← List.head?_drop, ← hr, List.head?_append]
      cases m with
      | nil => cases hl
      | cons c m => rfl
    refine (hg.last hne).resolve_left ?_
    rintro ⟨c, hc, hb⟩
    rw [hlast, hhead] at hc
    simp only [List.mem_cons, List.not_mem_nil, or_false] at hm
    rcases hm with rfl | rfl | rfl <;> cases hc <;> exact absurd hb (by decide)
  · left
    omega

/-! ## All tokens -/

/-- What begins a comment is quoted, is one of two minus signs behind a number, or lies in a gap. -/
theorem quoted_or_skipped {sql : String} {spans : List Span} {m : Text} {i : Nat}
    (h : (Lexer.withDictionary sql dialect table.toDictionary).spans = .ok spans)
    (hm : m ∈ [['/', '/'], ['/', '*'], ['-', '-']]) (hp : m <+: sql.toList.drop i) :
    (∃ b ∈ spans, b.token.IsQuoted ∧ b.Covers i) ∨
    (m = ['-', '-'] ∧ ∃ b ∈ spans, i + 1 = b.token.endOffset ∧
      b.token.EndsInSign (b.source sql.toList)) ∨
    ∃ g ∈ gaps sql.toList 0 spans, Trailing dialect (sql.toList.extract g.1 g.2) ∧
      (g.1 ≤ i ∧ i < g.2) ∧ (i + 1 < g.2 ∨ ['*', '/'] <:+ sql.toList.extract g.1 g.2) := by
  obtain ⟨qs, tail, hs, hr, ht, rfl⟩ := reads_of_spans h
  have htiles := tiles_of_reads (a := []) hr ht
  rw [List.nil_append, ← hs] at htiles
  have hi : i < sql.toList.length := by
    by_contra hge
    rw [List.drop_eq_nil_of_le (Nat.le_of_not_lt hge), List.prefix_nil] at hp
    rw [hp] at hm
    simp at hm
  rcases covers_or_gap htiles (Nat.zero_le i) hi with ⟨b, hb, hc⟩ | ⟨g, hg, h1, h2⟩
  · obtain ⟨q, k, p, after, hstands, hd, rfl⟩ := mem_placed (a := []) hr hb
    rw [List.nil_append, ← hs] at hd
    by_cases hq : q.token.IsQuoted
    · exact .inl ⟨_, hb, hq, hc⟩
    · have hbare := bare_of_stands hstands hd hq
      simp only [List.mem_cons, List.not_mem_nil, or_false] at hm
      rcases hm with rfl | rfl | rfl
      · exact absurd hp (hbare.slash i hc).1
      · exact absurd hp (hbare.slash i hc).2
      · exact .inr (.inl ⟨rfl, _, hb, hbare.signs i hc hp⟩)
  · have hgap := gap_of_mem_gaps htiles hg
    refine .inr (.inr ⟨g, hg, ?_, ⟨h1, h2⟩, lies_in_gap hgap hm hp h1 h2⟩)
    exact hgap.elim .inl And.right

/-- No token of a dialect hides a comment, unless it is quoted, whatever the lexer was asked before.
So in a statement that is read to its end everything that begins a comment is quoted, or consists
of the minus sign that ends a number and another one, or lies in a gap. -/
theorem hides_no_comment (sql : String) (dialect : Dialect) :
    let l := Lexer.new sql dialect
    let s := sql.toList
    (∀ rs b, (l.after rs).next.answer = .ok b → ¬ b.token.IsQuoted → b.Bare dialect s) ∧
    (∀ rs ts, (l.after rs).tokenize.result = .ok ts → ∀ t ∈ ts,
      ∃ rs' b, (l.after rs').next.answer = .ok b ∧ b.token = t) ∧
    ∀ spans, l.spans = .ok spans → ∀ m ∈ [['/', '/'], ['/', '*'], ['-', '-']], ∀ i,
      m <+: s.drop i →
        (∃ b ∈ spans, b.token.IsQuoted ∧ b.Covers i) ∨
        (m = ['-', '-'] ∧ ∃ b ∈ spans, i + 1 = b.token.endOffset ∧
          b.token.EndsInSign (b.source s)) ∨
        ∃ g ∈ gaps s 0 spans, Trailing dialect (s.extract g.1 g.2) ∧ (g.1 ≤ i ∧ i < g.2) ∧
          (i + 1 < g.2 ∨ ['*', '/'] <:+ s.extract g.1 g.2) := by
  intro l s
  refine ⟨fun rs b hb hq => ?_, fun rs ts hts t ht => ?_, fun spans hspans m hm i hp => ?_⟩
  · obtain ⟨hdialect, hdict, hinput⟩ := l.fixed_after rs
    have htable : (l.after rs).dictionary = dialect.keywordTable.toDictionary := hdict
    have hbare := Lexer.bare_of_next htable hb hq
    rwa [hdialect, hinput] at hbare
  · obtain ⟨-, rs', hr⟩ := Lexer.mem_tokenize hts ht
    refine ⟨rs ++ rs', ⟨((l.after rs).after rs').next.lexer.tokenStart, t⟩, ?_, rfl⟩
    have ha : l.after (rs ++ rs') = (l.after rs).after rs' := List.foldl_append
    rw [ha, Call.answer, hr]
    rfl
  · have htable : (Lexer.withDictionary sql dialect dialect.keywordTable.toDictionary).spans =
        .ok spans := hspans
    exact quoted_or_skipped htable hm hp

/-- A number that breaks off behind the sign of its exponent, before another sign. -/
theorem hides_no_comment_exponent :
    let l := Lexer.new "1e--x" .mySql
    let b : Span := ⟨0, .literal .float, "1e-", 3⟩
    (l.after []).next.answer = .ok b ∧ ¬ b.token.IsQuoted ∧ b.Bare .mySql "1e--x".toList := by
  intro l b
  have h : (l.after []).next.answer = .ok b := by decide +kernel
  have hq : ¬ b.token.IsQuoted := by simp [b, Token.IsQuoted]
  exact ⟨h, hq, (hides_no_comment "1e--x" .mySql).1 [] b h hq⟩

end SqlLexis
