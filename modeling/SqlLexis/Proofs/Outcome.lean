import SqlLexis.Proofs.Calls
import SqlLexis.Proofs.Gap.Longest
import SqlLexis.Proofs.Lexeme.Unreadable
import SqlLexis.Proofs.Reading

/-!
# What a call comes to

`Lexer.Outcome` lists what can come of a call for the next token, with the gap that it skips, its
result and the lexer that it leaves, all in terms of the text from the lexer on. By
`Lexer.exists_outcome` there is nothing else, and the gap is the longest one.
-/

namespace SqlLexis

open Gap (Ignorable Clear Unclosed Longest)
open Lexeme (Unreadable)

namespace Cursor

theorem rest_of_rest {c : Cursor} {g after : Text} (h : c.rest = g ++ after) :
    (⟨c.input, c.offset + g.length⟩ : Cursor).rest = after := by
  rw [rest, ← List.drop_drop]
  show c.rest.drop g.length = after
  rw [h, List.drop_left]

theorem previous?_of_rest {c : Cursor} {g after : Text} (h : c.rest = g ++ after) :
    (⟨c.input, c.offset + g.length⟩ : Cursor).previous? = g.getLast?.or c.previous? := by
  by_cases hg : g = []
  · subst hg
    rfl
  · have hpos : 0 < g.length := List.length_pos_iff.2 hg
    have hi : c.input[c.offset + (g.length - 1)]? = g[g.length - 1]? := by
      rw [← List.getElem?_drop]
      show c.rest[g.length - 1]? = _
      rw [h, List.getElem?_append_left (by omega)]
    rw [previous?, if_neg (by show c.offset + g.length ≠ 0; omega)]
    show c.input[c.offset + g.length - 1]? = _
    rw [Nat.add_sub_assoc hpos, hi, ← List.getLast?_eq_getElem?, List.getLast?_eq_some_getLast hg,
      Option.some_or]

end Cursor

namespace Lexer

/-- What can come of a call that skips the gap `g`: its result and the lexer that it leaves. -/
inductive Outcome (l : Lexer) : Text → Except LexError Token → Lexer → Prop where
  /-- The gap stops at a block that has no end. -/
  | atBlock {g after : Text} (hs : l.cursor.rest = g ++ after) (hg : Ignorable l.dialect g)
    (ha : Unclosed l.dialect after) :
    Outcome l g (.error (.unterminatedBlock "*/")) (l.afterGap g.length)
  /-- Behind the gap no token can be read. -/
  | atToken {g after : Text} {e : LexError} (hs : l.cursor.rest = g ++ after)
    (hg : Ignorable l.dialect g) (ha : Clear l.dialect after)
    (he : Unreadable l.dialect l.dictionary after e) :
    Outcome l g (.error (e.behind (.of l.input (l.offset + g.length))))
      (l.afterGap g.length).atToken
  /-- The gap and the token behind it are read. -/
  | token {q : Piece} {after : Text} (hs : l.cursor.rest = q.gap ++ (q.text ++ after))
    (hq : q.Stands l.dialect l.dictionary l.cursor.previous? after) :
    Outcome l q.gap (.ok (q.span l.offset).token)
      ((l.afterGap q.gap.length).atToken.afterToken (q.span l.offset).token)
  /-- The gap is all that is left. -/
  | atEnd {g : Text} (hs : l.cursor.rest = g) (hg : Ignorable l.dialect g) :
    Outcome l g (.ok (.atEnd (l.offset + g.length)))
      ((l.afterGap g.length).atToken.afterToken (.atEnd (l.offset + g.length)))
  /-- The gap is all that is left, and its last line has no newline. -/
  | inLine {g marker body : Text} {n : Nat} (hs : l.cursor.rest = g ++ (marker ++ body))
    (hg : Ignorable l.dialect g) (hm : marker ∈ Gap.lineMarkers l.dialect) (hb : '\n' ∉ body)
    (hn : n = (g ++ (marker ++ body)).length + 1) :
    Outcome l (g ++ (marker ++ body)) (.ok (.atEnd (l.offset + n)))
      ((l.afterGap n).atToken.afterToken (.atEnd (l.offset + n)))

variable {l : Lexer}

theorem length_input_of_rest {g : Text} (h : l.cursor.rest = g) (hg : g ≠ []) :
    l.offset + g.length = l.input.length := by
  have hpos : 0 < g.length := List.length_pos_iff.2 hg
  have hlen : g.length = l.input.length - l.offset := by rw [← h]; exact List.length_drop
  omega

/-- Behind a gap that ends at a clear place the token is read. -/
theorem next_of_clear {g after : Text} (hs : l.cursor.rest = g ++ after)
    (hg : Ignorable l.dialect g) (ha : Clear l.dialect after) :
    l.next = (l.afterGap g.length).atToken.read := by
  have hk : Gap.skip l.dialect l.cursor.rest = ⟨g.length, none⟩ := by
    rw [hs, Gap.skip_append hg, Gap.skip_of_clear ha]
    rfl
  rw [next_of_none (by rw [hk]), hk]

/-- Behind a gap that ends at a block without its end the call fails. -/
theorem next_of_unclosed {g after : Text} (hs : l.cursor.rest = g ++ after)
    (hg : Ignorable l.dialect g) (ha : Unclosed l.dialect after) :
    l.next = (l.afterGap g.length).fail (.unterminatedBlock "*/") := by
  have hk : Gap.skip l.dialect l.cursor.rest = ⟨g.length, some (.unterminatedBlock "*/")⟩ := by
    rw [hs, Gap.skip_append hg, Gap.skip_of_unclosed ha]
    rfl
  rw [next_of_some (e := .unterminatedBlock "*/") (by rw [hk]), hk]

/-- Behind a gap that ends at a clear place: a token, its absence, or the end. -/
theorem outcome_of_clear {g after : Text} (hs : l.cursor.rest = g ++ after)
    (hg : Ignorable l.dialect g) (ha : Clear l.dialect after) :
    l.Outcome g l.next.result l.next.lexer := by
  let l' : Lexer := (l.afterGap g.length).atToken
  have ht : l'.cursor.token l.dialect l.dictionary =
      Token.behind (.of l.input (l.offset + g.length))
        (Lexeme.front l.dialect l.dictionary (g.getLast?.or l.cursor.previous?) after) := by
    rw [Cursor.token_eq]
    show Token.behind _ (Lexeme.front _ _ (Cursor.previous? ⟨l.input, l.offset + g.length⟩)
      (Cursor.rest ⟨l.input, l.offset + g.length⟩)) = _
    rw [← Cursor.previous?_of_rest hs, ← Cursor.rest_of_rest hs]
    rfl
  rw [next_of_clear hs hg ha]
  cases hf : Lexeme.front l.dialect l.dictionary (g.getLast?.or l.cursor.previous?) after with
  | error e =>
    rw [hf] at ht
    obtain ⟨hr, hl⟩ := read_of_error (l := l') ht
    rw [hr, hl]
    exact .atToken hs hg ha (Lexeme.unreadable_of_front hf)
  | ok t =>
    rw [hf] at ht
    obtain ⟨hr, hl⟩ := read_of_ok (l := l') ht
    rw [hr, hl]
    by_cases hne : after = []
    · subst hne
      cases hf
      rw [List.append_nil] at hs
      exact .atEnd hs hg
    · obtain ⟨text, after, rfl, htext, hend, -⟩ := Lexeme.begins_of_front hf hne
      exact .token (q := ⟨g, text, t⟩) hs ⟨hg, ha, htext, hend, hf⟩

/-- A call skips the longest gap, and nothing but an `Outcome` comes of it. -/
theorem exists_outcome (l : Lexer) :
    ∃ g, Longest l.dialect l.cursor.rest g ∧ l.Outcome g l.next.result l.next.lexer := by
  have hk := Gap.skips (d := l.dialect) l.cursor.rest
  generalize hs : l.cursor.rest = s at hk
  generalize hsk : Gap.skip l.dialect s = k at hk
  cases hk with
  | @clear g after hg ha =>
    exact ⟨g, Gap.longest_iff.2 (by rw [hsk, List.take_left]), outcome_of_clear hs hg ha⟩
  | @inLine g marker body hg hm hb =>
    have hne : g ++ (marker ++ body) ≠ [] := by
      simp [Gap.ne_nil_of_marker (List.mem_cons_of_mem _ hm)]
    have hlen := length_input_of_rest hs hne
    let l' : Lexer := (l.afterGap ((g ++ (marker ++ body)).length + 1)).atToken
    have hn : l.next = l'.read := by rw [next_of_none (by rw [hs, hsk]), hs, hsk]
    have hle : l.input.length ≤ l'.offset := by
      show l.input.length ≤ l.offset + ((g ++ (marker ++ body)).length + 1)
      omega
    have ht : l'.cursor.token l.dialect l.dictionary = .ok (.atEnd l'.offset) :=
      Cursor.token_of_nil (List.drop_eq_nil_of_le hle)
    obtain ⟨hr, hl⟩ := read_of_ok (l := l') ht
    rw [hn, hr, hl]
    exact ⟨_, Gap.longest_iff.2 (by rw [hsk, List.take_of_length_le (Nat.le_succ _)]),
      .inLine hs hg hm hb rfl⟩
  | @atBlock g after hg ha =>
    rw [next_of_unclosed hs hg ha]
    exact ⟨g, Gap.longest_iff.2 (by rw [hsk, List.take_left]), .atBlock hs hg ha⟩

end Lexer

end SqlLexis
