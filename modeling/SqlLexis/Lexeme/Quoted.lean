import SqlLexis.Error
import SqlLexis.Token

/-!
# Quoted lexemes

A quoted lexeme ends at the first quote that is not doubled; two quotes in a row stand for one
inside it, and stay two in the value.

* `beforeQuote`: the number of characters up to the closing quote;
* `quoted`: a character string, in whatever character the text begins with;
* `quotedName`: an identifier in its quotes, which its value keeps.
-/

namespace SqlLexis.Lexeme

/-- How many characters stand before the closing quote; `n` more were counted before. -/
def beforeQuote (q : Char) (n : Nat) : Text → Option Nat
  | [] => none
  | c :: rest =>
    if c = q then
      match rest with
      | [] => some n
      | c' :: rest' => if c' = q then beforeQuote q (n + 2) rest' else some n
    else beforeQuote q (n + 1) rest

/-- A character string, opened by the first character of the text. -/
def quoted : Text → Except LexError Token
  | [] => .error (.unexpectedEnd 0)
  | q :: rest =>
    match beforeQuote q 0 rest with
    | some n => .ok ⟨.literal .chars, String.ofList (rest.take n), n + 2⟩
    | none => .error (.unterminatedLiteral q)

/-- An identifier between back quotes, of which the first is in front. -/
def quotedName (s : Text) : Except LexError Token :=
  match beforeQuote backquote 0 (s.drop 1) with
  | some n => .ok ⟨.literal .identifier, String.ofList (s.take (n + 2)), n + 2⟩
  | none => .error (.unterminatedLiteral backquote)

/-- A character string has at least its two quotes. -/
theorem endOffset_quoted {s : Text} {t : Token} (h : quoted s = .ok t) : 0 < t.endOffset := by
  unfold quoted at h
  split at h
  · cases h
  · split at h
    · cases h; simp
    · cases h

/-- So has a quoted identifier. -/
theorem endOffset_quotedName {s : Text} {t : Token} (h : quotedName s = .ok t) :
    0 < t.endOffset := by
  unfold quotedName at h
  split at h
  · cases h; simp
  · cases h

end SqlLexis.Lexeme
