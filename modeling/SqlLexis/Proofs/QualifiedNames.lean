import SqlLexis.Proofs.Calls
import SqlLexis.Proofs.Lexeme.Operators
import SqlLexis.Proofs.Lexeme.Words
import SqlLexis.Proofs.Reading

/-!
# Names with dots

A dot goes on with the name before it, even if a digit follows: that is the intent of looking at the
character before a dot. What is looked for there is the start of a word, though, and a name may end
in a digit or a `#`, which start none. So `t.5` is a name, a dot and a number, but `t1.5` is a name
and a number with a point.

* `front_dot`: the token that a dot begins behind a word;
* `next_after_dot`: the token behind a word that a dot follows.
-/

namespace SqlLexis

variable {dialect : Dialect} {table : KeywordTable} {p : Option Char} {s : Text}

/-- Whether a dot behind a word is taken for the start of a number: the word ends in a character
with which no word begins, and a digit follows the dot. -/
def dotBeginsNumber (word : Text) (next? : Option Char) : Bool :=
  word.getLast?.any (fun c => c.isDigit || c == '#') && next?.any Char.isDigit

/-- The type of the token that a dot begins behind a word: it is one dot or two, unless the dot is
taken for the start of a number. -/
def DotType (word : Text) (next? : Option Char) (type : TokenType) : Prop :=
  if dotBeginsNumber word next? then type = .literal .float
  else type = .symbol .dot ∨ type = .symbol .doubleDot

namespace Lexeme

theorem opening_dot (s : Text) : Opening.of dialect p ('.' :: s) =
    if s.head?.any Char.isDigit && !p.any isWordStart then .number else .operator := by
  have hw : isWordStart '.' = false := by decide
  have ho : isOperatorChar '.' = true := by decide
  simp [Opening.of, Opening.isNumberStart, hw, ho]

/-- A number that begins with a dot is not whole. -/
theorem type_number_dot (hs : s.head?.any Char.isDigit = true) :
    (number ('.' :: s)).type = .literal .float := by
  have hstart : Opening.isNumberStart none '.' s.head? = true := by simp [Opening.isNumberStart, hs]
  have hpos : 0 < numberLength ('.' :: s) := numberLength_pos hstart
  have hne : numberLength ('.' :: s) ≠ whole ('.' :: s) := by
    rw [whole_dot]
    exact Nat.ne_of_gt hpos
  simp only [number, Token.leading, if_neg hne]

theorem eq_dot_or_doubleDot {x : Symbol} (h : x.text.toList.head? = some '.') :
    x = .dot ∨ x = .doubleDot := by
  revert h
  cases x <;> decide

/-- A dot is a symbol by itself or with the one behind it. -/
theorem operator_dot (s : Text) : ∃ t, operator table.toDictionary ('.' :: s) = .ok t ∧
    (t.type = .symbol .dot ∨ t.type = .symbol .doubleDot) := by
  have hr : ('.' :: s).takeWhile isOperatorChar = '.' :: s.takeWhile isOperatorChar :=
    List.takeWhile_cons_of_pos (by decide)
  cases h : operator table.toDictionary ('.' :: s) with
  | error e =>
    have hn := (noSymbol_of_operator h).2 ['.'] (by rw [hr]; exact List.prefix_append _ _)
      (List.cons_ne_nil _ _)
    have hdot : table.toDictionary.symbol? (String.ofList ['.']) = some .dot :=
      Symbol.ofText?_text .dot
    rw [hdot] at hn
    cases hn
  | ok t =>
    obtain ⟨w, x, hw, rfl⟩ := longestSymbol_of_operator h
    obtain ⟨c, w, rfl⟩ := List.exists_cons_of_ne_nil hw.ne_nil
    have hstart := hw.start
    rw [hr] at hstart
    obtain rfl : c = '.' := (List.cons_prefix_cons.1 hstart).1
    have htext : x.text = String.ofList ('.' :: w) := Symbol.ofText?_eq_some_iff.1 hw.known
    refine ⟨_, rfl, ?_⟩
    rcases eq_dot_or_doubleDot (x := x) (by rw [htext, String.toList_ofList]; rfl) with rfl | rfl
    · exact .inl rfl
    · exact .inr rfl

/-- The token in front of a dot behind a word. -/
theorem front_dot {word : Text} (s : Text)
    (hlast : ∃ c ∈ word.getLast?, isWordChar c = true ∨ c = backquote) :
    ∃ t, front dialect table.toDictionary word.getLast? ('.' :: s) = .ok t ∧
      DotType word s.head? t.type := by
  obtain ⟨c, hc, hword⟩ := hlast
  have hb : dotBeginsNumber word s.head? =
      (s.head?.any Char.isDigit && !word.getLast?.any isWordStart) := by
    have hstart := isWordStart_eq_false_iff hword
    rw [dotBeginsNumber, Option.mem_def.1 hc, Bool.and_comm]
    cases hw : isWordStart c <;> simp_all
  unfold DotType
  rw [hb, front, opening_dot]
  cases hn : s.head?.any Char.isDigit && !word.getLast?.any isWordStart with
  | true =>
    rw [Bool.and_eq_true] at hn
    exact ⟨_, rfl, type_number_dot hn.1⟩
  | false => exact operator_dot s

theorem clear_dot (s : Text) : Gap.Clear dialect ('.' :: s) := by
  refine ⟨fun c hc => ?_, fun marker hm hp => ?_⟩
  · cases hc
    decide
  · have hfirst : ∀ m ∈ ['/', '*'] :: Gap.lineMarkers dialect, m.head? ≠ some '.' := by
      cases dialect <;> decide
    obtain ⟨c, m, rfl⟩ := List.exists_cons_of_ne_nil (Gap.ne_nil_of_marker hm)
    obtain rfl : c = '.' := (List.cons_prefix_cons.1 hp).1
    exact hfirst _ hm rfl

end Lexeme

theorem TokenType.isEnd_of_isWord {type : TokenType} (h : type.isWord = true) :
    type.isEnd = false := by
  cases type <;> first | rfl | cases h

/-- What is answered behind a word that a dot follows. -/
theorem answer_dot {a : Text} {q : Piece} (hq : q.Stands dialect table.toDictionary p ('.' :: s))
    (ha : a.getLast? = q.text.getLast?) (hword : q.token.type.isWord = true) :
    ∃ u, (⟨a ++ '.' :: s, a.length⟩ : Cursor).answer dialect table.toDictionary = .ok u ∧
      u.start = a.length ∧ DotType q.token.value.toList s.head? u.token.type := by
  have hvalue : q.text = q.token.value.toList :=
    hq.written.eq_value fun ht => by rw [ht] at hword; cases hword
  obtain ⟨c, v, heq, hc, hread⟩ := Lexeme.word_of_front hq.front hword
  rw [heq] at hread
  obtain ⟨t, ht, htype⟩ : ∃ t, Lexeme.front dialect table.toDictionary
      q.token.value.toList.getLast? ('.' :: s) = .ok t ∧
      DotType q.token.value.toList s.head? t.type :=
    Lexeme.front_dot s (Lexeme.last_of_word hc hread)
  refine ⟨⟨a.length, t.shift a.length⟩, ?_, rfl, htype⟩
  have hgap : Gap.Ignorable dialect [] := .nil
  rw [← List.nil_append ('.' :: s), Cursor.answer_of_gap a hgap (Lexeme.clear_dot s),
    List.getLast?_nil, Option.none_or, ha, hvalue, ht]
  rfl

/-- Behind a word that a dot follows, the next token begins with that dot. It is one dot or two,
unless the word ends in a digit or a `#` and a digit follows the dot: then it is a number. -/
theorem next_after_dot {sql : String} {dialect : Dialect} {rs : List Request} {b : Span}
    {more : List (Except LexError Span)}
    (h : ((Lexer.new sql dialect).after rs).answers = .ok b :: more)
    (hword : b.token.type.isWord = true) (hdot : sql.toList[b.token.endOffset]? = some '.') :
    ∃ u more', more = .ok u :: more' ∧ u.start = b.token.endOffset ∧
      DotType b.token.value.toList sql.toList[b.token.endOffset + 1]? u.token.type := by
  obtain ⟨hdialect, hdict, hinput⟩ := Lexer.fixed_new_after sql dialect rs
  rcases Lexer.of_answers_cons h with ⟨hend, -⟩ | ⟨a, q, after, hs, hq, rfl, hmore⟩
  · rw [TokenType.isEnd_of_isWord hword] at hend
    cases hend
  rw [hdialect, hdict] at hq hmore
  have hget : ∀ i, sql.toList[(a ++ q.gap ++ q.text).length + i]? = after[i]? := fun i => by
    rw [← hinput, hs, ← List.append_assoc, ← List.append_assoc, ← List.getElem?_drop,
      List.drop_left]
  have h0 := hget 0
  rw [Nat.add_zero, ← hq.endOffset_span, hdot, ← List.head?_eq_getElem?] at h0
  obtain ⟨s, rfl⟩ := List.head?_eq_some_iff.1 h0.symm
  have h1 : sql.toList[(a ++ q.gap ++ q.text).length + 1]? = s.head? := by
    rw [hget, List.head?_eq_getElem?]
    rfl
  obtain ⟨u, hu, hstart, htype⟩ := answer_dot hq (getLast?_of_ne_nil _ hq.ne_nil) hword
  rw [hq.endOffset_span, h1]
  cases hend : u.token.type.isEnd with
  | true => exact ⟨u, _, hmore.symm.trans (Cursor.answers_of_end hu hend), hstart, htype⟩
  | false => exact ⟨u, _, hmore.symm.trans (Cursor.answers_of_token hu hend), hstart, htype⟩

/-- A quoted name goes on with a dot, though a digit follows. -/
theorem next_after_dot_quoted :
    let sql := "use \x60t1\x60.5"
    let b : Span := ⟨4, .literal .identifier, "\x60t1\x60", 8⟩
    let more : List (Except LexError Span) :=
      [.ok ⟨8, .symbol .dot, ".", 9⟩, .ok ⟨9, .literal .int, "5", 10⟩, .ok ⟨10, .atEnd 10⟩]
    ((Lexer.new sql .mySql).after [.next]).answers = .ok b :: more ∧
      b.token.type.isWord = true ∧ sql.toList[b.token.endOffset]? = some '.' ∧
      ∃ u more', more = .ok u :: more' ∧ u.start = b.token.endOffset ∧
        DotType b.token.value.toList sql.toList[b.token.endOffset + 1]? u.token.type := by
  intro sql b more
  have h : ((Lexer.new sql .mySql).after [.next]).answers = .ok b :: more := by decide +kernel
  have hdot : sql.toList[b.token.endOffset]? = some '.' := by decide
  exact ⟨h, rfl, hdot, next_after_dot h rfl hdot⟩

/-- A name that ends in a digit does not go on with a dot that a digit follows. -/
theorem not_symbol_after_digit :
    ¬ ∀ b u more, (Lexer.new "t1.5" .mySql).answers = .ok b :: .ok u :: more →
      b.token.type.isWord = true → "t1.5".toList[b.token.endOffset]? = some '.' →
      u.start = b.token.endOffset ∧
        (u.token.type = .symbol .dot ∨ u.token.type = .symbol .doubleDot) := by
  intro h
  have hanswers : (Lexer.new "t1.5" .mySql).answers =
      [.ok ⟨0, .literal .identifier, "t1", 2⟩, .ok ⟨2, .literal .float, ".5", 4⟩,
        .ok ⟨4, .atEnd 4⟩] := by decide +kernel
  have htype := (h _ _ _ hanswers rfl rfl).2
  rcases htype with htype | htype <;> cases htype

end SqlLexis
