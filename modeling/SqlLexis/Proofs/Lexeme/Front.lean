import SqlLexis.Lexer.Progress
import SqlLexis.Proofs.Lexeme.Quoted
import SqlLexis.Proofs.Lexeme.Settled

/-!
# The token in front of a text

What a lexer reads at a place hangs on the text from there on and on the character before it.
`Lexeme.front` is the token that a text begins with, without a cursor:

* `Opening.fits_of`: what each opening says about the characters that announce it;
* `Opening.of_congr`, `Opening.of_breaks`, `Opening.of_alone`: how little of a text an opening
  hangs on;
* `front_congr`: the character before counts only as the start of a word.
-/

namespace SqlLexis

theorem ok_of_map {α β ε : Type} {f : α → β} {r : Except ε α} {b : β} (h : r.map f = .ok b) :
    ∃ a, r = .ok a ∧ f a = b := by
  cases r with
  | ok a => exact ⟨a, rfl, Except.ok.inj h⟩
  | error e => cases h

theorem error_of_map {α β ε : Type} {f : α → β} {r : Except ε α} {e : ε}
    (h : r.map f = .error e) : r = .error e := by
  cases r with
  | ok a => cases h
  | error e' => cases h; rfl

namespace Opening

/-- What each opening says about the character in front and the text behind it. -/
def Fits (d : Dialect) (previous? : Option Char) (c : Char) (s : Text) : Opening → Prop
  | .var => d.hasVariables = true ∧ c = '@'
  | .nationalString => d.nationalStrings = true ∧ c = 'N' ∧ s.head? = some '\''
  | .word => isWordStart c = true
  | .hexNumber => c = '0' ∧ s.head? = some 'x'
  | .number => isNumberStart previous? c s.head? = true
  | .operator => isOperatorChar c = true
  | .string => isStringQuote c = true
  | .endOfInput => False
  | .unexpected c' => c' = c

theorem fits_of (d : Dialect) (previous? : Option Char) (c : Char) (s : Text) :
    Fits d previous? c s (.of d previous? (c :: s)) := by
  unfold Opening.of
  repeat' split
  all_goals simp_all [Fits]

variable {dialect : Dialect} {p : Option Char} {c : Char}

theorem drop_of_nationalString {s : Text} (h : of dialect p s = .nationalString) :
    ∃ body, s.drop 1 = '\'' :: body := by
  cases s with
  | nil => cases h
  | cons c s =>
    have hf := fits_of dialect p c s
    rw [h] at hf
    have hq : s.head? = some '\'' := hf.2.2
    cases s with
    | nil => cases hq
    | cons q body => cases hq; exact ⟨body, rfl⟩

/-- Of the text behind the first character only its first character counts. -/
theorem of_congr {s s' : Text} (h : s.head? = s'.head?) :
    of dialect p (c :: s) = of dialect p (c :: s') := by
  simp only [of, h]

theorem of_breaks {s : Text} (h : Breaks s) : of dialect p (c :: s) = of dialect p [c] := by
  cases s with
  | nil => rfl
  | cons x s =>
    have hx : isBlank x = true := h x rfl
    have hq : x ≠ '\'' := ne_of_isBlank hx (by decide)
    have hX : x ≠ 'x' := ne_of_isBlank hx (by decide)
    have hd : x ≠ '.' := ne_of_isBlank hx (by decide)
    simp [of, isNumberStart, visible_isDigit.of_isBlank hx, hq, hX, hd]

/-- The character before counts only where a dot and a digit follow. -/
theorem isNumberStart_congr {p' next? : Option Char}
    (h : ¬ (c = '.' ∧ next?.any Char.isDigit = true)) :
    isNumberStart p c next? = isNumberStart p' c next? := by
  have hd : (c == '.' && next?.any Char.isDigit) = false := by simpa using h
  simp only [isNumberStart, hd, Bool.false_and]

/-- An opening that one character announces needs no second one. -/
theorem of_alone {s : Text} {o : Opening} (h : of dialect p (c :: s) = o)
    (hs : o ≠ .nationalString) (hh : o ≠ .hexNumber) (hn : o = .number → c.isDigit = true) :
    of dialect p [c] = o := by
  unfold of at h ⊢
  unfold isNumberStart at h ⊢
  grind

end Opening

theorem opening_of_quote {dialect : Dialect} {q : Char} (hq : q = '\'' ∨ q = '"')
    (p : Option Char) (s : Text) : Opening.of dialect p (q :: s) = .string := by
  have hd : q.isDigit = false := by rcases hq with rfl | rfl <;> rfl
  have hw : isWordStart q = false := by rcases hq with rfl | rfl <;> decide
  have ho : isOperatorChar q = false := by rcases hq with rfl | rfl <;> decide
  have hs : isStringQuote q = true := by rcases hq with rfl | rfl <;> decide
  rcases hq with rfl | rfl <;> simp [Opening.of, Opening.isNumberStart, hd, hw, ho, hs]

namespace Lexeme

/-- The token in front of a text, after the character `previous?`. Its offsets are those of the
text, and so are the line and the column of an unexpected character. -/
def front (dialect : Dialect) (d : Dictionary) (previous? : Option Char) (s : Text) :
    Except LexError Token :=
  match Opening.of dialect previous? s with
  | .var => .ok (var s)
  | .nationalString => (quoted (s.drop 1)).map (Token.shift 1)
  | .word => word d s
  | .hexNumber => .ok (hexNumber s)
  | .number => .ok (number s)
  | .operator => operator d s
  | .string => quoted s
  | .endOfInput => .ok (.atEnd 0)
  | .unexpected c => .error (.unexpectedChar c 1 1)

variable {dialect : Dialect} {d : Dictionary} {p : Option Char} {t : Token}

theorem operator_eq_ok_iff {s : Text} :
    operator d s = .ok t ↔ longestKnown d "" 0 none (s.takeWhile isOperatorChar) = some t := by
  unfold operator
  cases longestKnown d "" 0 none (s.takeWhile isOperatorChar) <;> simp

theorem error_of_quoted {q : Char} {s : Text} {e : LexError} (h : quoted (q :: s) = .error e) :
    e = .unterminatedLiteral q :=
  (quoted_eq_error_iff.1 h).1

theorem error_of_word {s : Text} {e : LexError} (h : word d s = .error e) :
    e = .unterminatedLiteral backquote := by
  unfold word at h
  split at h
  · unfold quotedName at h
    split at h <;> cases h
    rfl
  · cases h

theorem error_of_operator {s : Text} {e : LexError} (h : operator d s = .error e) :
    e = .unknownSymbol s.head? 0 := by
  unfold operator at h
  split at h <;> cases h
  rfl

/-- The character before the token in front counts only as the start of a word. -/
theorem front_congr {p' : Option Char} (hp : p.any isWordStart = p'.any isWordStart) (s : Text) :
    front dialect d p s = front dialect d p' s := by
  have ho : Opening.of dialect p s = Opening.of dialect p' s := by
    cases s with
    | nil => rfl
    | cons c s =>
      have hn : Opening.isNumberStart p c s.head? = Opening.isNumberStart p' c s.head? := by
        rw [Opening.isNumberStart, hp]; rfl
      rw [Opening.of, hn]; rfl
  rw [front, front, ho]

end Lexeme

end SqlLexis
