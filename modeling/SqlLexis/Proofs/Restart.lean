import SqlLexis.Proofs.Calls
import SqlLexis.Proofs.Reading

/-!
# A lexer that starts in the middle

What a lexer answers from some place on is what a fresh lexer answers to the text from there on,
moved to that place. There is one exception, a dot that goes on with a name (`ContinuesName`), and
even there no more of the text before counts than its last character (`answers_restart`).
-/

namespace SqlLexis

variable {dialect : Dialect} {d : Dictionary}

/-- An offset behind the start of a word and in front of a dot with a digit behind it. -/
def ContinuesName (s : Text) (k : Nat) : Prop :=
  (∃ x ∈ (⟨s, k⟩ : Cursor).previous?, isWordStart x = true) ∧ s[k]? = some '.' ∧
    ∃ y ∈ s[k + 1]?, y.isDigit = true

/-- The character before a text counts only as the start of a word, and only for a dot with a digit
behind it. -/
theorem Lexeme.front_previous {p : Option Char} {s : Text}
    (h : ¬ ((∃ x ∈ p, isWordStart x = true) ∧ s.head? = some '.' ∧
      ∃ y ∈ s[1]?, y.isDigit = true)) : front dialect d p s = front dialect d none s := by
  cases hp : p.any isWordStart with
  | false => exact front_congr hp s
  | true =>
    suffices ho : Opening.of dialect p s = Opening.of dialect none s by rw [front, front, ho]
    cases s with
    | nil => rfl
    | cons c s =>
      have hn : Opening.isNumberStart p c s.head? = Opening.isNumberStart none c s.head? := by
        refine Opening.isNumberStart_congr fun hc => h ⟨?_, by rw [List.head?_cons, hc.1], ?_⟩
        · simpa [Option.any_eq_true] using hp
        · simpa [Option.any_eq_true, List.head?_eq_getElem?] using hc.2
      rw [Opening.of, Opening.of, hn]

namespace Cursor

/-- The answers from a cursor on are those to the rest of the text. -/
theorem answers_rest {c : Cursor} (h : ¬ ContinuesName c.input c.offset) :
    c.answers dialect d =
      ((⟨c.rest, 0⟩ : Cursor).answers dialect d).map (Span.behind (.of c.input c.offset)) := by
  obtain ⟨s, k⟩ := c
  by_cases hk : k ≤ s.length
  · have hl : (s.take k).length = k := List.length_take_of_le hk
    have hf : Lexeme.front dialect d (s.take k).getLast? (s.drop k) =
        Lexeme.front dialect d none (s.drop k) := by
      refine Lexeme.front_previous fun hn => h ?_
      rw [← previous?_length _ (s.drop k), List.take_append_drop, hl, List.head?_drop,
        List.getElem?_drop] at hn
      exact hn
    have ha := answers_append_of_front (a := s.take k) (b := s.drop k) (k := 0) fun _ => hf
    rw [List.take_append_drop, hl, Nat.add_zero] at ha
    rw [Position.of_take] at ha
    exact ha
  · have hr : (⟨s, k⟩ : Cursor).rest = [] := List.drop_eq_nil_of_le (by show s.length ≤ k; omega)
    rw [answers_of_nil hr, answers_of_nil (c := ⟨_, 0⟩) (by rw [hr]; rfl)]
    rfl

/-- The character before a cursor is all that the answers from there on know of the text before. -/
theorem answers_previous {c : Cursor} {x : Char} (h : c.previous? = some x) :
    c.answers dialect d = ((⟨x :: c.rest, 1⟩ : Cursor).answers dialect d).map
      (Span.behind (.of c.input (c.offset - 1))) := by
  obtain ⟨s, k⟩ := c
  cases k with
  | zero => cases h
  | succ j =>
    have hx : s[j]? = some x := h
    obtain ⟨hj, rfl⟩ := List.getElem?_eq_some_iff.1 hx
    have hl : (s.take j).length = j := List.length_take_of_le (Nat.le_of_lt hj)
    have ha : (⟨s.take j ++ s.drop j, (s.take j).length + 1⟩ : Cursor).answers dialect d =
        ((⟨s.drop j, 1⟩ : Cursor).answers dialect d).map
          (Span.behind (.of (s.take j) (s.take j).length)) :=
      answers_append_of_front fun h0 => absurd h0 Nat.one_ne_zero
    rw [List.take_append_drop, hl, List.drop_eq_getElem_cons hj, Position.of_take] at ha
    exact ha

end Cursor

/-- From wherever a lexer stands it answers as a fresh lexer does to the text from there on, moved
to that place, unless a dot there goes on with a name. Even then it knows of the text before no more
than the last character. -/
theorem answers_restart (sql : String) (dialect : Dialect) (d : Dictionary) (rs : List Request) :
    let l := (Lexer.withDictionary sql dialect d).after rs
    let rest := sql.toList.drop l.offset
    (ContinuesName sql.toList l.offset ∨
      l.answers = (Lexer.withDictionary (String.ofList rest) dialect d).answers.map
        (Span.behind (.of sql.toList l.offset))) ∧
    ∀ x ∈ (⟨sql.toList, l.offset⟩ : Cursor).previous?, l.answers =
      (Cursor.answers dialect d ⟨x :: rest, 1⟩).map
        (Span.behind (.of sql.toList (l.offset - 1))) := by
  intro l rest
  obtain ⟨hdialect, hdict, hinput⟩ := (Lexer.withDictionary sql dialect d).fixed_after rs
  have ha : l.answers = Cursor.answers dialect d ⟨sql.toList, l.offset⟩ := by
    rw [Lexer.answers_eq, Lexer.cursor, hdialect, hdict, hinput]
    rfl
  rw [ha]
  refine ⟨?_, fun x hx => Cursor.answers_previous hx⟩
  by_cases hc : ContinuesName sql.toList l.offset
  · exact .inl hc
  · rw [Lexer.answers_withDictionary, String.toList_ofList]
    exact .inr (Cursor.answers_rest hc)

/-- Behind a name a dot with a digit is a symbol, at the start of a statement it is a number. -/
example : ((Lexer.new "a.5" .oracle).after [.next]).next.result = .ok ⟨.symbol .dot, ".", 2⟩ ∧
    (Lexer.new ".5" .oracle).next.result = .ok ⟨.literal .float, ".5", 2⟩ := by
  decide +kernel

end SqlLexis
