import SqlLexis.Proofs.Reading

/-!
# Gaps and tokens tile a statement

The tokens of a statement follow one another in its text, and what stands between them is ignorable:
nothing is lost and nothing is told twice (`spans_tile`).
-/

namespace SqlLexis

variable {dialect : Dialect} {d : Dictionary}

/-- What holds of a token and of the gap in front of it, where the token before ends at `e`. -/
structure Tile (dialect : Dialect) (s : Text) (e : Nat) (b : Span) : Prop where
  ordered : e ≤ b.start ∧ b.start < b.token.endOffset ∧ b.token.endOffset ≤ s.length
  gap : Gap.Ignorable dialect (s.extract e b.start)
  clear : Gap.Clear dialect (s.drop b.start)
  written : b.token.Written dialect (b.source s)

/-- Tokens tile a text from an offset on: each of them with its gap, and behind the last there is no
more than a gap. -/
def Tiles (dialect : Dialect) (s : Text) : Nat → List Span → Prop
  | e, [] => Gap.Trailing dialect (s.drop e)
  | e, b :: bs => Tile dialect s e b ∧ Tiles dialect s b.token.endOffset bs

/-- The gaps and the texts of tokens in turn, from an offset on. -/
def tiles (s : Text) : Nat → List Span → List Text
  | e, [] => [s.drop e]
  | e, b :: bs => s.extract e b.start :: b.source s :: tiles s b.token.endOffset bs

theorem flatten_tiles {s : Text} {e : Nat} {bs : List Span} (h : Tiles dialect s e bs) :
    (tiles s e bs).flatten = s.drop e := by
  induction bs generalizing e with
  | nil => simp [tiles]
  | cons b bs ih =>
    obtain ⟨ht, hbs⟩ := h
    obtain ⟨h1, h2, -⟩ := ht.ordered
    rw [tiles, List.flatten_cons, List.flatten_cons, ih hbs, Span.source,
      extract_append_drop (Nat.le_of_lt h2), extract_append_drop h1]

theorem tile_of_stands {a after : Text} {q : Piece} (h : q.Stands dialect d a.getLast? after) :
    Tile dialect (a ++ (q.gap ++ (q.text ++ after))) a.length (q.span a.length) := by
  have hpos : 0 < q.text.length := List.length_pos_iff.2 h.ne_nil
  have hend := h.endOffset_span a
  simp only [List.length_append] at hend
  refine ⟨⟨Nat.le_add_right _ _, ?_, ?_⟩, ?_, ?_, ?_⟩
  · rw [hend]
    show a.length + q.gap.length < _
    omega
  · rw [hend]
    simp only [List.length_append]
    omega
  · show Gap.Ignorable dialect (List.extract _ a.length (a.length + q.gap.length))
    rw [extract_append]
    exact h.gap
  · show Gap.Clear dialect (List.drop (a.length + q.gap.length) _)
    rw [← List.append_assoc, ← List.length_append, List.drop_left]
    exact h.clear
  · rw [h.source_span]
    exact h.written.shift _

theorem tiles_of_reads {a tail : Text} {qs : List Piece} (h : Reads dialect d a.getLast? qs tail)
    (ht : Gap.Trailing dialect tail) :
    Tiles dialect (a ++ (assembled qs ++ tail)) a.length (placed a.length qs) := by
  induction qs generalizing a with
  | nil =>
    show Gap.Trailing dialect (List.drop a.length (a ++ tail))
    rwa [List.drop_left]
  | cons q qs ih =>
    cases h with
    | cons hq hqs =>
      rw [← getLast?_of_ne_nil (a ++ q.gap) hq.ne_nil] at hqs
      refine ⟨by rw [assembled_cons]; exact tile_of_stands hq, ?_⟩
      rw [hq.endOffset_span, length_append_source]
      have hi := ih hqs
      simp only [List.append_assoc] at hi ⊢
      rwa [assembled_cons]

/-- A statement that is read to its end is tiled by its tokens and the gaps around them. -/
theorem spans_tile {sql : String} {spans : List Span}
    (h : (Lexer.withDictionary sql dialect d).spans = .ok spans) :
    Tiles dialect sql.toList 0 spans ∧ (tiles sql.toList 0 spans).flatten = sql.toList := by
  obtain ⟨qs, tail, hs, hr, ht, rfl⟩ := reads_of_spans h
  have htiles := tiles_of_reads (a := []) hr ht
  rw [List.nil_append, ← hs] at htiles
  exact ⟨htiles, flatten_tiles htiles⟩

/-- A national string between two comments. -/
theorem spans_tile_nationalString :
    let sql := "a/**/N'b''c' -- d"
    let spans : List Span := [⟨0, .literal .identifier, "a", 1⟩, ⟨5, .literal .chars, "b''c", 12⟩]
    (Lexer.new sql .sqlServer).spans = .ok spans ∧ Tiles .sqlServer sql.toList 0 spans ∧
      (tiles sql.toList 0 spans).flatten = sql.toList := by
  intro sql spans
  have h : (Lexer.new sql .sqlServer).spans = .ok spans := by decide +kernel
  exact ⟨h, spans_tile h⟩

end SqlLexis
