import SqlLexis.Proofs.Calls
import SqlLexis.Proofs.Lexeme.Words
import SqlLexis.Proofs.Relexing

/-!
# `ORDER BY` and `GROUP BY`

The lexer skips comments and hints between any two tokens, but `ORDER` and `GROUP` look for `BY`
past blanks alone. So in `ORDER/**/BY` there is a name before the keyword `BY`.

* `isBeforeBy_of_by`: the token `BY` is what is looked for;
* `type_of_stands`: the type of `ORDER` and `GROUP` by what follows them;
* `type_before_by`: their type before the token `BY`.
-/

namespace SqlLexis

open Lexeme (isBeforeBy HasComment)

variable {dialect : Dialect} {table : KeywordTable} {k : Keyword}

/-- The token `BY` is what `ORDER` and `GROUP` look for. -/
theorem isBeforeBy_of_by {p : Option Char} {q : Piece} {after : Text}
    (hq : q.Stands dialect table.toDictionary p after) (ht : q.token.type = .keyword .BY) :
    isBeforeBy (q.text ++ after) = true := by
  have hvalue : q.text = q.token.value.toList := hq.written.eq_value (by rw [ht]; exact nofun)
  obtain ⟨c, v, -, -, hword⟩ := Lexeme.word_of_front hq.front (by rw [ht]; rfl)
  have hfind : table.find? q.token.value = some .BY := Lexeme.keyword_of_word hword ht
  have hupper : Keyword.BY.text.toList = upper q.text := by
    rw [hvalue]
    exact KeywordTable.text_of_find? hfind
  have hlen : q.text.length = 2 := by rw [← length_upper, ← hupper]; rfl
  rw [isBeforeBy_of_stands hq, List.take_of_length_le (Nat.le_of_eq hlen), sameWord, ← hupper]
  rfl

/-- No other keyword is spelled like these two. -/
theorem eq_of_text_eq {k' : Keyword} (hk : k = .ORDER ∨ k = .GROUP) (h : k'.text = k.text) :
    k' = k := by
  rcases hk with rfl | rfl <;> revert h <;> cases k' <;> decide

/-- A table that knows `ORDER` and `GROUP` knows them in any case. -/
theorem keyword?_of_sameWord {w : String} (hmem : k ∈ table.keywords)
    (hk : k = .ORDER ∨ k = .GROUP) (hw : sameWord w.toList k.text.toList = true) :
    table.toDictionary.keyword? w = some k := by
  have hupper : upper w.toList = k.text.toList := by
    have h : upper w.toList = upper k.text.toList := by simpa [sameWord] using hw
    rw [h]
    rcases hk with rfl | rfl <;> rfl
  have hsome : (table.find? w).isSome = true := by
    rw [KeywordTable.find?, List.find?_isSome]
    exact ⟨k, hmem, by rw [hupper, String.ofList_toList, beq_self_eq_true]⟩
  obtain ⟨k', hk'⟩ := Option.isSome_iff_exists.1 hsome
  have htext : k'.text = k.text :=
    String.toList_injective ((KeywordTable.text_of_find? hk').trans hupper)
  rw [eq_of_text_eq hk htext] at hk'
  exact hk'

/-- The type of a word that is `ORDER` or `GROUP` in some case. -/
theorem type_of_stands {p : Option Char} {q : Piece} {after : Text} (hmem : k ∈ table.keywords)
    (hq : q.Stands dialect table.toDictionary p after) (hk : k = .ORDER ∨ k = .GROUP)
    (hword : q.token.type.isWord = true)
    (hw : sameWord q.token.value.toList k.text.toList = true) :
    q.token.type = if isBeforeBy after then .keyword k else .literal .identifier := by
  have hawaits : q.token.awaitsBy = true := by
    rw [Token.awaitsBy, hword, Bool.true_and, Lexeme.awaitsBy_iff]
    rcases hk with rfl | rfl
    · exact .inl hw
    · exact .inr hw
  have htype := retyped_type (d := table.toDictionary) hawaits (isBeforeBy after)
  rwa [hq.retyped, Dictionary.typeOf, keyword?_of_sameWord hmem hk hw] at htype

theorem mem_keywordTable (hk : k = .ORDER ∨ k = .GROUP) : k ∈ dialect.keywordTable.keywords := by
  refine KeywordTable.mem_keywords_ofList.2 (.inl ?_)
  rcases hk with rfl | rfl <;> decide

/-- The type of `ORDER` or `GROUP` before the token `BY`, by the gap between them: a keyword if
there are blanks alone, and a name if there is a comment or a hint; there is nothing else. -/
structure TypedByGap (dialect : Dialect) (gap : Text) (k : Keyword) (type : TokenType) : Prop where
  blanks : (∀ c ∈ gap, isBlank c = true) → type = .keyword k
  comment : HasComment dialect gap → type = .literal .identifier
  either : (∀ c ∈ gap, isBlank c = true) ∨ HasComment dialect gap

/-- If the token `BY` follows `ORDER` or `GROUP`, the gap between them decides which type that word
has. -/
theorem type_before_by {sql : String} {rs : List Request} {b u : Span}
    {more : List (Except LexError Span)}
    (h : ((Lexer.new sql dialect).after rs).answers = .ok b :: .ok u :: more)
    (hk : k = .ORDER ∨ k = .GROUP) (hword : b.token.type.isWord = true)
    (hw : sameWord b.token.value.toList k.text.toList = true) (hu : u.token.type = .keyword .BY) :
    TypedByGap dialect (sql.toList.extract b.token.endOffset u.start) k b.token.type := by
  obtain ⟨hdialect, hdict, hinput⟩ := Lexer.fixed_new_after sql dialect rs
  obtain ⟨a, q, q', after, hs, hq, hq', rfl, rfl⟩ := Lexer.of_answers_cons_cons h (by rw [hu]; rfl)
  rw [hdialect, hdict] at hq hq'
  have hgap : sql.toList.extract (q.span a.length).token.endOffset
      (q'.span (a ++ q.gap ++ q.text).length).start = q'.gap := by
    rw [hq.endOffset_span, ← hinput, hs, ← List.append_assoc, ← List.append_assoc]
    exact extract_append _ _ _
  have hby : isBeforeBy (q'.text ++ after) = true := isBeforeBy_of_by hq' hu
  have htype : q.token.type =
      if isBeforeBy (q'.gap ++ (q'.text ++ after)) then .keyword k else .literal .identifier :=
    type_of_stands (mem_keywordTable hk) hq hk hword hw
  rw [hgap]
  refine ⟨fun hblank => ?_, fun hcomment => ?_, Lexeme.blanks_or_hasComment hq'.gap⟩
  · rw [Lexeme.isBeforeBy_blanks hblank, hby, if_pos rfl] at htype
    exact htype
  · rw [Lexeme.isBeforeBy_hasComment hcomment, if_neg Bool.false_ne_true] at htype
    exact htype

/-- A blank that is no space is between `Order` and `by`. -/
theorem type_before_by_blank :
    let sql := "a Order\u00a0by 1"
    let b : Span := ⟨2, .keyword .ORDER, "Order", 7⟩
    let u : Span := ⟨8, .keyword .BY, "by", 10⟩
    let more : List (Except LexError Span) :=
      [.ok ⟨11, .literal .int, "1", 12⟩, .ok ⟨12, .atEnd 12⟩]
    ((Lexer.new sql .oracle).after [.next]).answers = .ok b :: .ok u :: more ∧
      b.token.type.isWord = true ∧
      sameWord b.token.value.toList Keyword.ORDER.text.toList = true ∧
      u.token.type = .keyword .BY ∧
      TypedByGap .oracle (sql.toList.extract b.token.endOffset u.start) .ORDER b.token.type := by
  intro sql b u more
  have h : ((Lexer.new sql .oracle).after [.next]).answers = .ok b :: .ok u :: more := by
    decide +kernel
  have hw : sameWord b.token.value.toList Keyword.ORDER.text.toList = true := by decide
  exact ⟨h, rfl, hw, rfl, type_before_by h (.inl rfl) rfl hw rfl⟩

/-- Behind a comment the token `BY` does not make `ORDER` a keyword. -/
theorem not_keyword_before_comment :
    ¬ ∀ b u more, (Lexer.new "ORDER/**/BY" .mySql).answers = .ok b :: .ok u :: more →
      b.token.type.isWord = true →
      sameWord b.token.value.toList Keyword.ORDER.text.toList = true →
      u.token.type = .keyword .BY → b.token.type = .keyword .ORDER := by
  intro h
  have hanswers : (Lexer.new "ORDER/**/BY" .mySql).answers =
      [.ok ⟨0, .literal .identifier, "ORDER", 5⟩, .ok ⟨9, .keyword .BY, "BY", 11⟩,
        .ok ⟨11, .atEnd 11⟩] := by decide +kernel
  have htype := h _ _ _ hanswers rfl (by decide) rfl
  cases htype

end SqlLexis
