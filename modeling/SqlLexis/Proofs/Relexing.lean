import SqlLexis.Proofs.Reading

/-!
# Writing tokens down and reading them again

The tokens of a statement, written with one space between them, are read as they were
(`spans_respaced`). There is one exception: where a comment keeps `BY` from an `ORDER` or a `GROUP`,
a space does not.
-/

namespace SqlLexis

open Gap (Ignorable Clear Trailing)
open Lexeme (isBeforeBy HasComment)

variable {dialect : Dialect} {d : Dictionary}

/-- Pieces with other gaps: a first one, and a space before each of the others. A word has the type
that it has there. -/
def spaced (d : Dictionary) (g : Text) : List Piece → List Piece
  | [] => []
  | q :: qs =>
    let others := spaced d [' '] qs
    ⟨g, q.text, q.token.retyped d (isBeforeBy (assembled others))⟩ :: others

theorem breaks_assembled_spaced (qs : List Piece) : Breaks (assembled (spaced d [' '] qs)) := by
  cases qs with
  | nil => intro c hc; cases hc
  | cons q qs =>
    intro c hc
    cases hc
    exact isBlank_space

theorem retyped_endOffset (t : Token) (b : Bool) : (t.retyped d b).endOffset = t.endOffset := by
  rw [Token.retyped]
  split <;> rfl

theorem retyped_value (t : Token) (b : Bool) : (t.retyped d b).value = t.value := by
  rw [Token.retyped]
  split <;> rfl

theorem stands_spaced {p p' : Option Char} {q : Piece} {after g : Text} (qs : List Piece)
    (h : q.Stands dialect d p after) (hg : Ignorable dialect g)
    (hp : (g.getLast?.or p').any isWordStart = false) :
    Piece.Stands dialect d p'
      ⟨g, q.text, q.token.retyped d (isBeforeBy (assembled (spaced d [' '] qs)))⟩
      (assembled (spaced d [' '] qs)) := by
  have hy := breaks_assembled_spaced (d := d) qs
  generalize assembled (spaced d [' '] qs) = y at hy ⊢
  have hn := (retyped_endOffset (d := d) q.token (isBeforeBy y)).trans h.endOffset
  have hf := Lexeme.front_cut h.front h.ne_nil (Nat.le_of_eq h.endOffset) hy
  rw [h.endOffset, List.drop_length, List.nil_append] at hf
  exact ⟨hg, clear_cut h.clear h.ne_nil hy, h.ne_nil, hn,
    Lexeme.front_of_not_isWordStart hf h.ne_nil hn hy hp⟩

/-- The same tokens are read, whatever was around them. -/
theorem reads_spaced {p p' : Option Char} {qs : List Piece} {tail g : Text}
    (h : Reads dialect d p qs tail) (hg : Ignorable dialect g)
    (hp : (g.getLast?.or p').any isWordStart = false) : Reads dialect d p' (spaced d g qs) [] := by
  induction h generalizing p' g with
  | nil => exact .nil
  | @cons p q qs tail hq hqs ih =>
    refine .cons ?_ (ih (.blank isBlank_space .nil) rfl)
    rw [List.append_nil]
    exact stands_spaced qs hq hg hp

/-! ## What becomes of the types -/

theorem isBeforeBy_of_stands {p : Option Char} {q : Piece} {after : Text}
    (h : q.Stands dialect d p after) :
    isBeforeBy (q.text ++ after) = sameWord (q.text.take 2) Keyword.BY.text.toList := by
  refine Lexeme.isBeforeBy_of_front h.front h.ne_nil h.endOffset fun c hc => ?_
  refine h.clear.1 c ?_
  rw [Option.mem_def, List.head?_append, Option.mem_def.1 hc, Option.some_or]

/-- A space leads to the same look ahead as the gap that was there, unless a comment in it hid the
`BY` of the next token. -/
theorem isBeforeBy_spaced {p : Option Char} {qs : List Piece} {tail : Text}
    (h : Reads dialect d p qs tail) (ht : Trailing dialect tail) :
    isBeforeBy (assembled (spaced d [' '] qs)) = isBeforeBy (assembled qs ++ tail) ∨
      isBeforeBy (assembled qs ++ tail) = false ∧ ∃ next ∈ qs.head?,
        HasComment dialect next.gap ∧
          sameWord (next.text.take 2) Keyword.BY.text.toList = true := by
  cases h with
  | nil =>
    left
    show isBeforeBy [] = isBeforeBy tail
    rw [Lexeme.isBeforeBy_trailing ht]
    rfl
  | @cons _ q qs _ hq hqs =>
    have hg : Ignorable dialect [' '] := .blank isBlank_space .nil
    have hp : ([' '].getLast?.or none).any isWordStart = false := rfl
    have hs := isBeforeBy_of_stands (stands_spaced qs hq hg hp)
    have hb : isBeforeBy (assembled (spaced d [' '] (q :: qs))) =
        sameWord (q.text.take 2) Keyword.BY.text.toList := by
      rw [← hs]
      show isBeforeBy (' ' :: (q.text ++ assembled (spaced d [' '] qs))) = _
      rw [Lexeme.isBeforeBy_blank isBlank_space]
    rw [hb, assembled_cons]
    rcases Lexeme.isBeforeBy_gap hq.gap (q.text ++ (assembled qs ++ tail)) with hg | ⟨hc, hg⟩
    · left
      rw [hg, isBeforeBy_of_stands hq]
    · rw [hg]
      cases hw : sameWord (q.text.take 2) Keyword.BY.text.toList with
      | false => exact .inl rfl
      | true => exact .inr ⟨rfl, q, rfl, hc, hw⟩

theorem retyped_type {t : Token} (h : t.awaitsBy = true) (b : Bool) :
    (t.retyped d b).type =
      if b then d.typeOf t.value (.literal .identifier) else .literal .identifier := by
  rw [Token.retyped, if_pos h]

/-- A token keeps its type, or is a name that becomes a keyword when the comment behind it goes. -/
theorem type_spaced {p : Option Char} {q : Piece} {qs : List Piece} {tail : Text}
    (hq : q.Stands dialect d p (assembled qs ++ tail))
    (hqs : Reads dialect d q.text.getLast? qs tail) (ht : Trailing dialect tail) :
    (q.token.retyped d (isBeforeBy (assembled (spaced d [' '] qs)))).type = q.token.type ∨
      q.token.awaitsBy = true ∧ q.token.type = .literal .identifier ∧
        (∃ k, d.keyword? q.token.value = some k ∧
          (q.token.retyped d (isBeforeBy (assembled (spaced d [' '] qs)))).type = .keyword k) ∧
        ∃ next ∈ qs.head?, HasComment dialect next.gap ∧
          sameWord (next.text.take 2) Keyword.BY.text.toList = true := by
  cases haw : q.token.awaitsBy with
  | false =>
    left
    rw [Token.retyped_of_not_awaitsBy haw]
  | true =>
    have hself := hq.retyped
    rcases isBeforeBy_spaced hqs ht with hb | ⟨hb, hnext⟩
    · left
      rw [hb, hself]
    · have hid : q.token.type = .literal .identifier := by
        rw [← hself, hb, retyped_type haw, if_neg Bool.false_ne_true]
      rw [retyped_type haw, hid]
      cases isBeforeBy (assembled (spaced d [' '] qs)) with
      | false => exact .inl rfl
      | true =>
        rw [if_pos rfl, Dictionary.typeOf]
        cases hk : d.keyword? q.token.value with
        | none => exact .inl rfl
        | some k => exact .inr ⟨rfl, rfl, ⟨k, rfl, rfl⟩, hnext⟩

/-! ## The tokens of a statement -/

/-- The source texts of tokens, with a space between them. -/
def respaced (sql : String) (spans : List Span) : String :=
  " ".intercalate (spans.map fun b => String.ofList (b.source sql.toList))

/-- A name that is `ORDER` or `GROUP`, and that a comment separates from a token that begins with
`BY`, becomes a keyword of the dictionary. -/
structure BecomesKeyword (dialect : Dialect) (d : Dictionary) (s : Text) (b next : Span)
    (type : TokenType) : Prop where
  identifier : b.token.type = .literal .identifier
  awaitsBy : Lexeme.awaitsBy (b.source s) = true
  comment : HasComment dialect (s.extract b.token.endOffset next.start)
  beforeBy : sameWord ((next.source s).take 2) Keyword.BY.text.toList = true
  keyword : ∃ k, d.keyword? b.token.value = some k ∧ type = .keyword k

/-- The token `b` of a text `s` is read again as the token `b'` of a text `s'`. -/
structure Rereads (dialect : Dialect) (d : Dictionary) (s s' : Text) (b : Span)
    (next? : Option Span) (b' : Span) : Prop where
  source : b'.source s' = b.source s
  value : b'.token.value = b.token.value
  type : b'.token.type = b.token.type ∨
    ∃ next ∈ next?, BecomesKeyword dialect d s b next b'.token.type

/-- The tokens of one text are read again as those of another, one by one. -/
def RereadsAll (dialect : Dialect) (d : Dictionary) (s s' : Text) : List Span → List Span → Prop
  | [], [] => True
  | b :: bs, b' :: bs' => Rereads dialect d s s' b bs.head? b' ∧ RereadsAll dialect d s s' bs bs'
  | _, _ => False

/-! ## The text that is read again -/

theorem assembled_spaced_cons (g : Text) (q : Piece) (qs : List Piece) :
    assembled (spaced d g (q :: qs)) = g ++ (q.text ++ assembled (spaced d [' '] qs)) := by
  simp only [spaced, assembled, List.flatMap_cons, Piece.source, List.append_assoc]

theorem assembled_spaced (qs : List Piece) :
    assembled (spaced d [] qs) = [' '].intercalate (qs.map Piece.text) := by
  induction qs with
  | nil => rfl
  | cons q qs ih =>
    rw [assembled_spaced_cons, List.nil_append]
    cases qs with
    | nil => simp [spaced, assembled]
    | cons q' qs =>
      rw [assembled_spaced_cons, List.nil_append] at ih
      rw [assembled_spaced_cons, List.map_cons, List.map_cons, List.intercalate_cons_cons,
        ← List.map_cons, ← ih, List.append_assoc]

theorem map_source_placed {a tail : Text} {qs : List Piece}
    (h : Reads dialect d a.getLast? qs tail) :
    (placed a.length qs).map (Span.source (a ++ (assembled qs ++ tail))) = qs.map Piece.text := by
  induction qs generalizing a with
  | nil => rfl
  | cons q qs ih =>
    cases h with
    | cons hq hqs =>
      rw [← getLast?_of_ne_nil (a ++ q.gap) hq.ne_nil] at hqs
      have hi := ih hqs
      simp only [List.append_assoc] at hi
      rw [placed, length_append_source, List.map_cons, List.map_cons, assembled_cons,
        hq.source_span]
      simp only [List.append_assoc, hi]

theorem toList_respaced {sql : String} {tail : Text} {qs : List Piece}
    (hs : sql.toList = assembled qs ++ tail) (h : Reads dialect d none qs tail) :
    (respaced sql (placed 0 qs)).toList = assembled (spaced d [] qs) := by
  have hm := map_source_placed (a := []) h
  rw [List.nil_append, ← hs] at hm
  have hl : (placed 0 qs).map (fun b => (String.ofList (b.source sql.toList)).toList) =
      qs.map Piece.text := by
    rw [← hm]
    exact List.map_congr_left fun b _ => String.toList_ofList
  rw [respaced, String.toList_intercalate, List.map_map, assembled_spaced]
  exact congrArg _ hl

/-- A name before a comment and `BY` is told from the text around it. -/
theorem becomesKeyword_of_stands {a after after' : Text} {q next : Piece} {type : TokenType}
    (hq : q.Stands dialect d a.getLast? after)
    (hn : next.Stands dialect d q.text.getLast? after')
    (ha : after = next.gap ++ (next.text ++ after')) (haw : q.token.awaitsBy = true)
    (hid : q.token.type = .literal .identifier) (hc : HasComment dialect next.gap)
    (hby : sameWord (next.text.take 2) Keyword.BY.text.toList = true)
    (hk : ∃ k, d.keyword? q.token.value = some k ∧ type = .keyword k) :
    BecomesKeyword dialect d (a ++ (q.gap ++ (q.text ++ after))) (q.span a.length)
      (next.span (a ++ q.gap ++ q.text).length) type := by
  have hs : a ++ (q.gap ++ (q.text ++ after)) =
      a ++ q.gap ++ q.text ++ (next.gap ++ (next.text ++ after')) := by
    simp only [ha, List.append_assoc]
  refine ⟨hid, ?_, ?_, ?_, hk⟩
  · rw [hq.source_span, hq.written.eq_value (by rw [hid]; exact fun h => by cases h)]
    rw [Token.awaitsBy, Bool.and_eq_true] at haw
    exact haw.2
  · rw [hq.endOffset_span, hs]
    show HasComment dialect (List.extract _ _ ((a ++ q.gap ++ q.text).length + next.gap.length))
    rwa [extract_append]
  · rwa [hs, hn.source_span]

theorem rereads_spaced {a b tail g : Text} {q : Piece} {qs : List Piece}
    (hq : q.Stands dialect d a.getLast? (assembled qs ++ tail))
    (hqs : Reads dialect d q.text.getLast? qs tail) (ht : Trailing dialect tail)
    (hg : Ignorable dialect g) (hp : (g.getLast?.or b.getLast?).any isWordStart = false) :
    Rereads dialect d (a ++ (q.gap ++ (q.text ++ (assembled qs ++ tail))))
      (b ++ assembled (spaced d g (q :: qs))) (q.span a.length)
      (placed (a ++ q.gap ++ q.text).length qs).head?
      (Piece.span b.length
        ⟨g, q.text, q.token.retyped d (isBeforeBy (assembled (spaced d [' '] qs)))⟩) := by
  have hs := stands_spaced qs hq hg hp
  refine ⟨?_, retyped_value q.token _, ?_⟩
  · rw [hq.source_span, assembled_spaced_cons, hs.source_span]
  · rcases type_spaced hq hqs ht with h | ⟨haw, hid, hk, next, hn, hc, hby⟩
    · exact .inl h
    · right
      cases hqs with
      | nil => cases hn
      | cons hq' hqs' =>
        cases hn
        exact ⟨_, rfl, becomesKeyword_of_stands hq hq' (assembled_cons _ _ _) haw hid hc hby hk⟩

theorem rereadsAll_spaced {a b tail g : Text} {qs : List Piece}
    (h : Reads dialect d a.getLast? qs tail) (ht : Trailing dialect tail)
    (hg : Ignorable dialect g) (hp : (g.getLast?.or b.getLast?).any isWordStart = false) :
    RereadsAll dialect d (a ++ (assembled qs ++ tail)) (b ++ assembled (spaced d g qs))
      (placed a.length qs) (placed b.length (spaced d g qs)) := by
  induction qs generalizing a b g with
  | nil => trivial
  | cons q qs ih =>
    cases h with
    | cons hq hqs =>
      have hone := rereads_spaced hq hqs ht hg hp
      rw [← getLast?_of_ne_nil (a ++ q.gap) hq.ne_nil] at hqs
      have hall := ih (b := b ++ g ++ q.text) hqs (.blank isBlank_space .nil) rfl
      rw [assembled_cons]
      refine ⟨?_, ?_⟩
      · rwa [length_append_source]
      · have hs : b ++ g ++ q.text ++ assembled (spaced d [' '] qs) =
            b ++ assembled (spaced d g (q :: qs)) := by
          rw [assembled_spaced_cons, List.append_assoc, List.append_assoc]
        rw [hs] at hall
        simp only [Piece.source, List.append_assoc, List.length_append] at hall ⊢
        exact hall

/-- The tokens of a statement, written with one space between them, are read again one by one, with
the same texts and the same types, except for a name that was kept from its `BY` by a comment. -/
theorem spans_respaced {sql : String} {spans : List Span}
    (h : (Lexer.withDictionary sql dialect d).spans = .ok spans) :
    ∃ spans', (Lexer.withDictionary (respaced sql spans) dialect d).spans = .ok spans' ∧
      RereadsAll dialect d sql.toList (respaced sql spans).toList spans spans' := by
  obtain ⟨qs, tail, hs, hr, ht, rfl⟩ := reads_of_spans h
  have hl := toList_respaced hs hr
  have hr' : Reads dialect d none (spaced d [] qs) [] := reads_spaced hr .nil rfl
  refine ⟨placed 0 (spaced d [] qs), Lexer.spans_eq_ok_iff.2 ?_, ?_⟩
  · have hlast := Cursor.answers_of_reads (a := []) hr'
    rw [List.append_nil, List.nil_append, ← hl, Cursor.answers_length] at hlast
    let n := (respaced sql (placed 0 qs)).toList.length
    refine ⟨⟨n, .atEnd n⟩, ?_⟩
    rw [Lexer.answers_withDictionary, List.map_append]
    exact hlast
  · have hall := rereadsAll_spaced (a := []) (b := []) hr ht .nil rfl
    rwa [List.nil_append, List.nil_append, ← hs, ← hl] at hall

/-- A comment before `BY`, a number without a whole part, and a comment at the end. -/
theorem spans_respaced_orderBy :
    let sql := "ORDER/**/BY a.5--"
    let spans : List Span := [⟨0, .literal .identifier, "ORDER", 5⟩, ⟨9, .keyword .BY, "BY", 11⟩,
      ⟨12, .literal .identifier, "a", 13⟩, ⟨13, .symbol .dot, ".", 14⟩,
      ⟨14, .literal .int, "5", 15⟩]
    (Lexer.new sql .mySql).spans = .ok spans ∧
      ∃ spans', (Lexer.new (respaced sql spans) .mySql).spans = .ok spans' ∧
        RereadsAll .mySql Dialect.mySql.dictionary sql.toList (respaced sql spans).toList spans
          spans' := by
  intro sql spans
  have h : (Lexer.new sql .mySql).spans = .ok spans := by decide +kernel
  exact ⟨h, spans_respaced h⟩

end SqlLexis
