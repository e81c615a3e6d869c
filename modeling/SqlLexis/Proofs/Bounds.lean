import SqlLexis.Proofs.Outcome

/-!
# Where a lexer stands, and how it goes on

Whatever a lexer is asked, it stays inside its statement and moves forward, so the calls come to an
end. The main statements:

* `Lexer.reached_next`: a lexer stands behind what it has read and a gap, or it has passed a last
  line comment;
* `Lexer.moves`: a token takes the lexer on to its end, and the end of the input is answered from
  then on, with nothing changed;
* `Lexer.length_replies_le`, `Lexer.finishes_drain`: there are no more tokens than characters, and
  reading to the end takes one call more at most;
* `stays_in_bounds`: all of this, for every sequence of requests.
-/

namespace SqlLexis

open Gap (Ignorable)

/-- A text ends inside a line comment: behind its tokens and a gap there is the marker of a comment
and no newline any more. -/
def EndsInLine (dialect : Dialect) (d : Dictionary) (s : Text) : Prop :=
  ∃ qs g marker body, s = assembled qs ++ (g ++ (marker ++ body)) ∧
    Reads dialect d none qs (g ++ (marker ++ body)) ∧ Ignorable dialect g ∧
    marker ∈ Gap.lineMarkers dialect ∧ '\n' ∉ body

/-- The offsets that reading a text reaches. -/
inductive Reached (dialect : Dialect) (d : Dictionary) (s : Text) : Nat → Prop where
  /-- Behind pieces and a gap. -/
  | behind {qs : List Piece} {g rest : Text} (hs : s = assembled qs ++ (g ++ rest))
    (hqs : Reads dialect d none qs (g ++ rest)) (hg : Ignorable dialect g) :
    Reached dialect d s (assembled qs ++ g).length
  /-- Past a line comment that ends with the text. -/
  | beyond (hs : EndsInLine dialect d s) : Reached dialect d s (s.length + 1)

namespace Reached

variable {dialect : Dialect} {d : Dictionary} {s : Text} {qs : List Piece} {g : Text}

/-- Behind a gap more. -/
theorem of_gap {g' after : Text} (hs : s = assembled qs ++ (g ++ (g' ++ after)))
    (hqs : Reads dialect d none qs (g ++ (g' ++ after))) (hg : Ignorable dialect g)
    (hg' : Ignorable dialect g') :
    Reached dialect d s ((assembled qs ++ g).length + g'.length) := by
  rw [← List.length_append, List.append_assoc]
  rw [← List.append_assoc g] at hs hqs
  exact .behind hs hqs (hg.append hg')

/-- Behind a piece more. -/
theorem of_piece {q : Piece} {after : Text}
    (hs : s = assembled qs ++ (g ++ (q.gap ++ (q.text ++ after))))
    (hqs : Reads dialect d none qs (g ++ (q.gap ++ (q.text ++ after)))) (hg : Ignorable dialect g)
    (hq : q.Stands dialect d (assembled qs ++ g).getLast? after) :
    Reached dialect d s (q.span (assembled qs ++ g).length).token.endOffset := by
  -- The gap before the piece becomes part of it.
  let q' : Piece := ⟨g ++ q.gap, q.text, q.token⟩
  have hq' : q'.Stands dialect d ((assembled qs).getLast?.or none) after := by
    rw [List.getLast?_append] at hq
    exact .prepend hg (by rwa [Option.or_none])
  rw [← List.append_assoc g] at hs hqs
  have hend : (q.span (assembled qs ++ g).length).token.endOffset =
      (assembled (qs ++ [q']) ++ []).length := by
    rw [hq.endOffset_span, assembled_concat, List.append_nil]
    simp only [q', List.append_assoc]
  rw [hend]
  refine .behind ?_ (Reads.snoc hqs hq') .nil
  rw [List.nil_append, assembled_concat]
  exact hs

/-- A line comment behind a gap more ends with the text. -/
theorem of_line {g' marker body : Text} (hs : s = assembled qs ++ (g ++ (g' ++ (marker ++ body))))
    (hqs : Reads dialect d none qs (g ++ (g' ++ (marker ++ body)))) (hg : Ignorable dialect g)
    (hg' : Ignorable dialect g') (hm : marker ∈ Gap.lineMarkers dialect) (hb : '\n' ∉ body) :
    Reached dialect d s (s.length + 1) := by
  rw [← List.append_assoc g] at hs hqs
  exact .beyond ⟨qs, g ++ g', marker, body, hs, hqs, hg.append hg', hm, hb⟩

theorem le {n : Nat} (h : Reached dialect d s n) : n ≤ s.length + 1 := by
  cases h with
  | behind hs =>
    rw [hs]
    simp only [List.length_append]
    omega
  | beyond => exact le_rfl

theorem endsInLine (h : Reached dialect d s (s.length + 1)) : EndsInLine dialect d s := by
  generalize hn : s.length + 1 = n at h
  cases h with
  | behind hs =>
    rw [hs] at hn
    simp only [List.length_append] at hn
    omega
  | beyond hs => exact hs

end Reached

/-- The tokens of a reply, without the end of the input. -/
def Reply.returned : Reply → List Token
  | .token (.ok t) => if t.type.isEnd then [] else [t]
  | .tokens (.ok ts) => ts
  | _ => []

/-- Calls that come to an end: at most `n` that return a token, and a last one that does not. -/
def Finishes (n : Nat) (calls : List (Call Token)) : Prop :=
  ∃ first last, calls = first ++ [last] ∧ first.length ≤ n ∧
    (∀ call ∈ first, ∃ t, call.result = .ok t ∧ t.type.isEnd = false) ∧
    ∀ t, last.result = .ok t → t.type.isEnd = true

namespace Lexer

/-- The bounds that a statement sets to a lexer. -/
structure InBounds (dialect : Dialect) (d : Dictionary) (s : Text) (l : Lexer) : Prop where
  tokenStart_le : l.tokenStart ≤ l.offset
  offset_le : l.offset ≤ s.length + 1
  beyond : l.offset = s.length + 1 → EndsInLine dialect d s
  endOffset_le : ∀ t ∈ l.current?, t.endOffset ≤ l.offset

/-- How the next call moves a lexer: a token takes it on to its end, and the end of the input is
answered from then on, with nothing changed. -/
structure Moves (s : Text) (l : Lexer) : Prop where
  token : ∀ t, l.next.result = .ok t → t.type.isEnd = false →
    l.next.lexer.tokenStart < t.endOffset ∧ t.endOffset ≤ s.length ∧
      l.next.lexer.offset = t.endOffset
  atEnd : ∀ t, l.next.result = .ok t → t.type.isEnd = true →
    t = .atEnd l.next.lexer.offset ∧ ∀ rs, l.next.lexer.after rs = l.next.lexer ∧
      (l.next.lexer.after rs).next.result = .ok t ∧
      (l.next.lexer.after rs).tokenize.result = .ok []

variable {l : Lexer} {t : Token}

/-! ## One call -/

theorem offset_le_next (l : Lexer) : l.offset ≤ l.next.lexer.offset := by
  obtain ⟨g, -, ho⟩ := l.exists_outcome
  generalize l.next.result = r at ho
  generalize l.next.lexer = l' at ho
  cases ho with
  | atBlock | atToken | atEnd | inLine => exact Nat.le_add_right _ _
  | @token q =>
    show l.offset ≤ l.offset + q.gap.length + q.token.endOffset
    omega

/-- What a lexer remembers does not lie ahead of it. -/
theorem behind_next (hs : l.tokenStart ≤ l.offset) (hc : ∀ t ∈ l.current?, t.endOffset ≤ l.offset) :
    l.next.lexer.tokenStart ≤ l.next.lexer.offset ∧
      ∀ t ∈ l.next.lexer.current?, t.endOffset ≤ l.next.lexer.offset := by
  have hle := l.offset_le_next
  obtain ⟨g, -, ho⟩ := l.exists_outcome
  generalize l.next.result = r at ho
  generalize l.next.lexer = l' at ho hle
  cases ho with
  | atBlock => exact ⟨hs.trans hle, fun t ht => (hc t ht).trans hle⟩
  | atToken => exact ⟨le_rfl, fun t ht => (hc t ht).trans hle⟩
  | token => exact ⟨Nat.le_add_right _ _, fun t ht => by cases ht; exact le_rfl⟩
  | atEnd | inLine => exact ⟨le_rfl, fun t ht => by cases ht; exact le_rfl⟩

/-- At the end of a statement a call finds the end and goes no further. -/
theorem next_of_nil (h : l.cursor.rest = []) : l.next.result = .ok (.atEnd l.offset) ∧
    l.next.lexer = l.atToken.afterToken (.atEnd l.offset) := by
  rw [next_of_clear (g := []) h .nil Gap.clear_nil]
  exact read_of_ok (l := l.atToken) (Cursor.token_of_nil h)

theorem token_of_next (h : l.next.result = .ok t) (ht : t.type.isEnd = false) :
    l.next.lexer.tokenStart < t.endOffset ∧ t.endOffset ≤ l.input.length ∧
      l.next.lexer.offset = t.endOffset := by
  obtain ⟨g, -, ho⟩ := l.exists_outcome
  generalize l.next.lexer = l' at ho
  rw [h] at ho
  cases ho with
  | @token q after hs hq =>
    have hpos := List.length_pos_iff.2 hq.ne_nil
    have hlen := length_input_of_rest hs (by simp [hq.ne_nil])
    have hend : (q.span l.offset).token.endOffset =
        l.offset + q.gap.length + q.text.length := congrArg _ hq.endOffset
    simp only [List.length_append] at hlen
    refine ⟨?_, ?_, rfl⟩
    · show l.offset + q.gap.length < _
      omega
    · omega
  | atEnd | inLine => cases ht

/-- The end of the input is found at the end of the statement. -/
theorem rest_of_end (h : l.next.result = .ok t) (ht : t.type.isEnd = true) :
    l.next.lexer.cursor.rest = [] ∧ t = .atEnd l.next.lexer.offset ∧
      l.next.lexer = l.next.lexer.atToken.afterToken t := by
  obtain ⟨g, -, ho⟩ := l.exists_outcome
  generalize l.next.lexer = l' at ho
  rw [h] at ho
  cases ho with
  | token hs hq => exact absurd ht (Bool.eq_false_iff.1 hq.written.isEnd)
  | atEnd hs => exact ⟨Cursor.rest_of_rest (hs.trans (List.append_nil _).symm), rfl, rfl⟩
  | @inLine _ marker body n hs _ hm _ hn =>
    have hne : marker ≠ [] := Gap.ne_nil_of_marker (List.mem_cons_of_mem _ hm)
    have hlen := length_input_of_rest hs (by simp [hne])
    refine ⟨List.drop_eq_nil_of_le ?_, rfl, rfl⟩
    show l.input.length ≤ l.offset + n
    omega

theorem moves (l : Lexer) : l.Moves l.input where
  token := fun _ => token_of_next
  atEnd := by
    intro t h ht
    obtain ⟨hrest, htoken, hlexer⟩ := rest_of_end h ht
    obtain ⟨hr, hl⟩ := next_of_nil hrest
    rw [← htoken] at hr hl
    have hfixed : l.next.lexer.next.lexer = l.next.lexer := hl.trans hlexer.symm
    refine ⟨htoken, fun rs => ?_⟩
    rw [after_of_fixed hfixed rs]
    exact ⟨rfl, hr, (tokenize_of_end hr ht).1⟩

/-! ## Sequences of calls -/

/-- From an offset that reading reaches a call goes on to another one. -/
theorem reached_next (h : Reached l.dialect l.dictionary l.input l.offset) :
    Reached l.dialect l.dictionary l.input l.next.lexer.offset := by
  generalize hn : l.offset = n at h
  cases h with
  | @behind qs g rest hs hqs hg =>
    have hin : l.input = (assembled qs ++ g) ++ rest := by rw [hs, List.append_assoc]
    have hrest : l.cursor.rest = rest := by
      show l.input.drop l.offset = rest
      rw [hin, hn, List.drop_left]
    have hprev : l.cursor.previous? = (assembled qs ++ g).getLast? := by
      rw [cursor, hin, hn, Cursor.previous?_length]
    have hgap : ∀ {g' after}, l.cursor.rest = g' ++ after → Ignorable l.dialect g' →
        Reached l.dialect l.dictionary l.input (l.offset + g'.length) := by
      intro g' after hs' hg'
      cases hrest.symm.trans hs'
      rw [hn]
      exact .of_gap hs hqs hg hg'
    obtain ⟨g', -, ho⟩ := l.exists_outcome
    generalize l.next.result = r at ho
    generalize l.next.lexer = l' at ho
    cases ho with
    | atBlock hs' hg' | atToken hs' hg' => exact hgap hs' hg'
    | atEnd hs' hg' => exact hgap (hs'.trans (List.append_nil _).symm) hg'
    | token hs' hq =>
      cases hrest.symm.trans hs'
      show Reached _ _ _ (Piece.span l.offset _).token.endOffset
      rw [hprev] at hq
      rw [hn]
      exact .of_piece hs hqs hg hq
    | @inLine g' marker body k hs' hg' hm hb hk =>
      have hlen := length_input_of_rest hs' (by
        simp [Gap.ne_nil_of_marker (List.mem_cons_of_mem _ hm)])
      cases hrest.symm.trans hs'
      have hend : l.offset + k = l.input.length + 1 := by rw [hk, ← hlen, Nat.add_assoc]
      show Reached _ _ _ (l.offset + k)
      rw [hend]
      exact .of_line hs hqs hg hg' hm hb
  | beyond hs =>
    have hrest : l.cursor.rest = [] := List.drop_eq_nil_of_le
      (show l.input.length ≤ l.offset by omega)
    rw [(next_of_nil hrest).2]
    show Reached _ _ _ l.offset
    rw [hn]
    exact .beyond hs

/-- What holds of a lexer whatever it is asked. -/
structure Kept (l : Lexer) : Prop where
  reached : Reached l.dialect l.dictionary l.input l.offset
  tokenStart_le : l.tokenStart ≤ l.offset
  endOffset_le : ∀ t ∈ l.current?, t.endOffset ≤ l.offset

theorem Kept.next (h : l.Kept) : l.next.lexer.Kept := by
  obtain ⟨hdialect, hdict, hinput⟩ := l.fixed_next
  obtain ⟨hs, hc⟩ := behind_next h.tokenStart_le h.endOffset_le
  refine ⟨?_, hs, hc⟩
  rw [hdialect, hdict, hinput]
  exact reached_next h.reached

theorem kept_withDictionary (sql : String) (dialect : Dialect) (d : Dictionary) :
    (withDictionary sql dialect d).Kept where
  reached := by
    have hs : sql.toList = assembled [] ++ ([] ++ sql.toList) := rfl
    exact .behind hs .nil .nil
  tokenStart_le := le_rfl
  endOffset_le := nofun

/-- Every sequence of requests leaves a fresh lexer within its bounds. -/
theorem inBounds_after (sql : String) (dialect : Dialect) (d : Dictionary) (rs : List Request) :
    ((withDictionary sql dialect d).after rs).InBounds dialect d sql.toList := by
  obtain ⟨hreached, hs, hc⟩ :=
    of_after (fun _ => Kept.next) (kept_withDictionary sql dialect d) rs
  obtain ⟨hdialect, hdict, hinput⟩ := (withDictionary sql dialect d).fixed_after rs
  rw [hdialect, hdict, hinput] at hreached
  exact ⟨hs, hreached.le, fun ho => (ho ▸ hreached).endsInLine, hc⟩

theorem offset_le_after (l : Lexer) (rs : List Request) : l.offset ≤ (l.after rs).offset :=
  of_after (P := fun l' => l.offset ≤ l'.offset)
    (fun l' h => h.trans l'.offset_le_next) le_rfl rs

/-! ## How many calls -/

theorem left_next_le (l : Lexer) : l.next.lexer.left ≤ l.left := by
  unfold left
  rw [l.fixed_next.2.2]
  exact Nat.sub_le_sub_left l.offset_le_next _

theorem length_tokenize_le {ts : List Token} (h : l.tokenize.result = .ok ts) :
    ts.length + l.tokenize.lexer.left ≤ l.left := by
  induction l using readAll.induct generalizing ts with
  | case1 l e he => rw [(tokenize_of_error he).1] at h; cases h
  | case2 l t ht hend =>
    obtain ⟨hr, hl⟩ := tokenize_of_end ht hend
    rw [hr] at h
    cases h
    rw [hl, List.length_nil, Nat.zero_add]
    exact l.left_next_le
  | case3 l t ht hend ih =>
    have hend : t.type.isEnd = false := by simpa using hend
    obtain ⟨hr, hl⟩ := tokenize_of_token ht hend
    rw [hr] at h
    obtain ⟨ts, hts, rfl⟩ := ok_of_map h
    have hle := ih hts
    have hlt := left_lt_of_next ht hend
    rw [hl, List.length_cons]
    omega

/-- Each token of a reply leaves one character less to read. -/
theorem length_reply_le (l : Lexer) (r : Request) :
    (l.reply r).returned.length + (l.asked r).left ≤ l.left := by
  cases r with
  | next =>
    have hle := l.left_next_le
    show (Reply.token l.next.result).returned.length + l.next.lexer.left ≤ l.left
    cases h : l.next.result with
    | error e => simpa [Reply.returned] using hle
    | ok t =>
      cases ht : t.type.isEnd with
      | true => simpa [Reply.returned, ht] using hle
      | false =>
        have hlt := left_lt_of_next h ht
        simp only [Reply.returned, ht, Bool.false_eq_true, if_false, List.length_singleton]
        omega
  | tokenize =>
    show (Reply.tokens l.tokenize.result).returned.length + l.tokenize.lexer.left ≤ l.left
    cases h : l.tokenize.result with
    | error e =>
      have hle := of_tokenize (P := fun l' => l'.left ≤ l.left)
        (fun l' h => l'.left_next_le.trans h) le_rfl
      simpa [Reply.returned] using hle
    | ok ts => exact length_tokenize_le h

/-- A lexer returns no more tokens than there are characters left. -/
theorem length_replies_le (l : Lexer) (rs : List Request) :
    ((l.replies rs).flatMap Reply.returned).length + (l.after rs).left ≤ l.left := by
  induction rs generalizing l with
  | nil => simp [replies, after]
  | cons r rs ih =>
    have hr := l.length_reply_le r
    have hrs := ih (l.asked r)
    rw [replies, List.flatMap_cons, List.length_append]
    show _ + ((l.asked r).after rs).left ≤ _
    omega

/-- Reading to the end takes no more calls than there are characters left, and a last one. -/
theorem finishes_drain (l : Lexer) : Finishes l.left l.drain := by
  induction l using drain.induct with
  | case1 l e he =>
    refine ⟨[], l.next, drain_of_error he, Nat.zero_le _, List.forall_mem_nil _, fun t ht => ?_⟩
    rw [he] at ht
    cases ht
  | case2 l t ht hend =>
    refine ⟨[], l.next, ?_, Nat.zero_le _, List.forall_mem_nil _, fun t' ht' => ?_⟩
    · rw [drain_of_ok ht, if_pos hend]
      rfl
    · rw [ht] at ht'
      cases ht'
      exact hend
  | case3 l t ht hend ih =>
    obtain ⟨first, last, hd, hlen, hfirst, hlast⟩ := ih
    have hlt := left_lt_of_next ht (by simpa using hend)
    refine ⟨l.next :: first, last, ?_, ?_, ?_, hlast⟩
    · rw [drain_of_ok ht, if_neg hend, hd, List.cons_append]
    · rw [List.length_cons]
      omega
    · rw [List.forall_mem_cons]
      exact ⟨⟨t, ht, by simpa using hend⟩, hfirst⟩

end Lexer

/-- Whatever a lexer was asked, it stands inside its statement; it never goes back; a token takes it
on to its end, which lies in the statement, and the end of the input is final. So a gap ends, there
are no more tokens than characters, and reading to the end takes one call more at most. -/
theorem stays_in_bounds (sql : String) (dialect : Dialect) (d : Dictionary) (rs : List Request) :
    let fresh := Lexer.withDictionary sql dialect d
    let l := fresh.after rs
    l.InBounds dialect d sql.toList ∧ (∀ rs', l.offset ≤ (l.after rs').offset) ∧
      l.Moves sql.toList ∧
      (∀ ts, l.tokenize.result = .ok ts → ∀ t ∈ ts, t.type.isEnd = false ∧
        ∃ rs', (l.after rs').next.result = .ok t) ∧
      (∃ k ≤ sql.toList.length, Gap.Rounds dialect l.cursor.rest k
        (l.cursor.rest.drop (Gap.skip dialect l.cursor.rest).length)) ∧
      ((fresh.replies rs).flatMap Reply.returned).length ≤ sql.toList.length ∧
      Finishes sql.toList.length l.drain := by
  intro fresh l
  have hinput : l.input = sql.toList := (fresh.fixed_after rs).2.2
  have hleft : l.left ≤ sql.toList.length := by
    rw [← hinput]
    exact Nat.sub_le _ _
  have hreplies := fresh.length_replies_le rs
  refine ⟨Lexer.inBounds_after sql dialect d rs, l.offset_le_after, hinput ▸ l.moves,
    fun ts hts t ht => Lexer.mem_tokenize hts ht, ?_, ?_, ?_⟩
  · obtain ⟨k, hk⟩ := Gap.rounds_skip dialect l.cursor.rest
    have hlen : l.cursor.rest.length = l.left := List.length_drop
    have hle := hk.le_length
    exact ⟨k, by omega, hk⟩
  · have hfresh : fresh.left = sql.toList.length := rfl
    omega
  · obtain ⟨first, last, hd, hlen, hrest⟩ := l.finishes_drain
    exact ⟨first, last, hd, hlen.trans hleft, hrest⟩

end SqlLexis
