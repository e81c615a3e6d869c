import Mathlib.Data.List.Forall2
import SqlLexis.Proofs.Reading

/-!
# Two lexers side by side

Two lexers that skip the same gaps, and that see tokens with the same ends behind them, go through
their texts in step: what relates their tokens at each place relates all their answers
(`InStep.answers`).
-/

namespace SqlLexis

/-- Two results that fail with the same error, or succeed with related values. -/
inductive Alike {α : Type} (R : α → α → Prop) : Except LexError α → Except LexError α → Prop where
  | error (e : LexError) : Alike R (.error e) (.error e)
  | ok {a a' : α} (h : R a a') : Alike R (.ok a) (.ok a')

namespace Alike

variable {α β : Type} {R : α → α → Prop} {S : β → β → Prop} {r r' : Except LexError α}

theorem map {f : α → β} (h : Alike R r r') (hf : ∀ a a', R a a' → S (f a) (f a')) :
    Alike S (r.map f) (r'.map f) := by
  cases h with
  | error e => exact .error e
  | ok h => exact .ok (hf _ _ h)

theorem mapError {f : LexError → LexError} (h : Alike R r r') :
    Alike R (r.mapError f) (r'.mapError f) := by
  cases h with
  | error e => exact .error (f e)
  | ok h => exact .ok h

theorem mono {R' : α → α → Prop} (h : Alike R r r')
    (hR : ∀ a a', r = .ok a → r' = .ok a' → R a a' → R' a a') : Alike R' r r' := by
  cases h with
  | error e => exact .error e
  | ok h => exact .ok (hR _ _ rfl rfl h)

end Alike

variable {dialect dialect' : Dialect} {d d' : Dictionary} {s s' : Text} {S : Span → Span → Prop}

/-- What two lexers have to share to go through the texts `s` and `s'` in step, with related
tokens. -/
structure InStep (dialect dialect' : Dialect) (d d' : Dictionary) (s s' : Text)
    (S : Span → Span → Prop) : Prop where
  skip (k : Nat) : Gap.skip dialect (s.drop k) = Gap.skip dialect' (s'.drop k)
  place (k : Nat) : Position.of s k = Position.of s' k
  front (k : Nat) : Alike (fun t t' => S ⟨k, t.shift k⟩ ⟨k, t'.shift k⟩)
    (Lexeme.front dialect d (⟨s, k⟩ : Cursor).previous? (s.drop k))
    (Lexeme.front dialect' d' (⟨s', k⟩ : Cursor).previous? (s'.drop k))
  ends (a a' : Span) : S a a' →
    a.token.endOffset = a'.token.endOffset ∧ a.token.type.isEnd = a'.token.type.isEnd

namespace InStep

theorem token (h : InStep dialect dialect' d d' s s' S) (k : Nat) :
    Alike (fun t t' => S ⟨k, t⟩ ⟨k, t'⟩) ((⟨s, k⟩ : Cursor).token dialect d)
      ((⟨s', k⟩ : Cursor).token dialect' d') := by
  rw [Cursor.token_eq, Cursor.token_eq]
  show Alike _ (Token.behind (.of s k) _) (Token.behind (.of s' k) _)
  rw [← h.place]
  exact ((h.front k).map (f := Token.shift k) (S := fun t t' => S ⟨k, t⟩ ⟨k, t'⟩)
    fun _ _ ht => ht).mapError

theorem answer (h : InStep dialect dialect' d d' s s' S) (k : Nat) :
    Alike S ((⟨s, k⟩ : Cursor).answer dialect d) ((⟨s', k⟩ : Cursor).answer dialect' d') := by
  have hk : Gap.skip dialect (⟨s, k⟩ : Cursor).rest = Gap.skip dialect' (⟨s', k⟩ : Cursor).rest :=
    h.skip k
  simp only [Cursor.answer, hk]
  cases (Gap.skip dialect' (⟨s', k⟩ : Cursor).rest).error? with
  | some e => exact .error e
  | none => exact (h.token _).map fun _ _ ht => ht

/-- Two lexers in step give related answers, all of them. -/
theorem answers (h : InStep dialect dialect' d d' s s' S) (k : Nat) :
    List.Forall₂ (Alike S) ((⟨s, k⟩ : Cursor).answers dialect d)
      ((⟨s', k⟩ : Cursor).answers dialect' d') := by
  induction hn : (⟨s, k⟩ : Cursor).answers dialect d generalizing k with
  | nil => exact absurd hn (Lexer.answers_ne_nil _)
  | cons r rs ih =>
    have ha := h.answer k
    generalize hr : (⟨s, k⟩ : Cursor).answer dialect d = r₁ at ha
    generalize hr' : (⟨s', k⟩ : Cursor).answer dialect' d' = r₂ at ha
    cases ha with
    | error e =>
      rw [Cursor.answers_of_error hr] at hn
      rw [Cursor.answers_of_error hr', ← hn]
      exact .cons (.error e) .nil
    | @ok a a' hS =>
      obtain ⟨hend, htype⟩ := h.ends a a' hS
      cases he : a.token.type.isEnd with
      | true =>
        rw [Cursor.answers_of_end hr he] at hn
        rw [Cursor.answers_of_end hr' (htype ▸ he), ← hn]
        exact .cons (.ok hS) .nil
      | false =>
        rw [Cursor.answers_of_token hr he, List.cons.injEq] at hn
        rw [Cursor.answers_of_token hr' (htype ▸ he), ← hn.1, ← hend]
        exact .cons (.ok hS) (ih _ hn.2)

end InStep

end SqlLexis
