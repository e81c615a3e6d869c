import SqlLexis.Proofs.Outcome

/-!
# Calls that fail

A call that fails leaves the lexer where reading cannot go on, with its last token (`Failure`). From
there every call fails in the same way and changes nothing (`next_error_stays`).
-/

namespace SqlLexis

open Gap (Ignorable Clear Unclosed)
open Lexeme (Unreadable)

/-- What a call that fails with an error does to a lexer. It stops behind complete blanks, comments
and hints: at a block that has no end, which does not count as the start of a token, or where no
token can be read, which does. -/
structure Failure (dialect : Dialect) (d : Dictionary) (l l' : Lexer) (e : LexError) : Prop where
  current : l'.current? = l.current?
  gap : ∃ g, l.cursor.rest = g ++ l'.cursor.rest ∧ Ignorable dialect g ∧
    l'.offset = l.offset + g.length
  place : (Unclosed dialect l'.cursor.rest ∧ e = .unterminatedBlock "*/" ∧
      l'.tokenStart = l.tokenStart) ∨
    (Clear dialect l'.cursor.rest ∧ l'.tokenStart = l'.offset ∧
      ∃ e', Unreadable dialect d l'.cursor.rest e' ∧ e = e'.behind (.of l'.input l'.offset))

namespace Lexer

variable {l : Lexer} {e : LexError}

theorem failure_of_next (h : l.next.result = .error e) :
    Failure l.dialect l.dictionary l l.next.lexer e := by
  obtain ⟨g, -, ho⟩ := l.exists_outcome
  rw [h] at ho
  generalize l.next.lexer = l' at ho
  cases ho with
  | atBlock hs hg ha =>
    have hr : (l.afterGap g.length).cursor.rest = _ := Cursor.rest_of_rest hs
    exact ⟨rfl, ⟨g, hr ▸ hs, hg, rfl⟩, .inl ⟨hr ▸ ha, rfl, rfl⟩⟩
  | atToken hs hg ha he =>
    have hr : (l.afterGap g.length).atToken.cursor.rest = _ := Cursor.rest_of_rest hs
    exact ⟨rfl, ⟨g, hr ▸ hs, hg, rfl⟩, .inr ⟨hr ▸ ha, rfl, _, hr ▸ he, rfl⟩⟩

/-- A lexer that stands where reading cannot go on stays there. -/
theorem next_of_failure (h : l.next.result = .error e) :
    l.next.lexer.next.result = .error e ∧ l.next.lexer.next.lexer = l.next.lexer := by
  obtain ⟨g, -, ho⟩ := l.exists_outcome
  generalize hr : l.next.result = r at ho
  generalize hl : l.next.lexer = l' at ho
  cases ho with
  | @atBlock _ after hs hg ha =>
    have hrest : (l.afterGap g.length).cursor.rest = [] ++ after := Cursor.rest_of_rest hs
    rw [← h, hr, next_of_unclosed hrest .nil ha]
    exact ⟨rfl, rfl⟩
  | @atToken _ after e' hs hg ha he =>
    have hrest : (l.afterGap g.length).atToken.cursor.rest = [] ++ after := Cursor.rest_of_rest hs
    have hn : (l.afterGap g.length).atToken.next = l.next := by
      rw [next_of_clear hrest .nil ha, next_of_clear hs hg ha]
      rfl
    rw [hn, h, hl]
    exact ⟨rfl, rfl⟩
  | _ => rw [h] at hr; cases hr

end Lexer

/-- A call that fails stops at what it cannot read, and from then on every call of either kind fails
with the same error and leaves the lexer as it is. -/
theorem next_error_stays {sql : String} {dialect : Dialect} {d : Dictionary} {rs : List Request}
    {e : LexError} (h : ((Lexer.withDictionary sql dialect d).after rs).next.result = .error e) :
    let l := (Lexer.withDictionary sql dialect d).after rs
    let l' := l.next.lexer
    Failure dialect d l l' e ∧ ∀ rs', l'.after rs' = l' ∧
      (l'.after rs').next.result = .error e ∧ (l'.after rs').tokenize.result = .error e := by
  intro l l'
  obtain ⟨hdialect, hdict, -⟩ := Lexer.fixed_after (Lexer.withDictionary sql dialect d) rs
  have hf := Lexer.failure_of_next h
  rw [hdialect, hdict] at hf
  obtain ⟨hr, hl⟩ := Lexer.next_of_failure h
  refine ⟨hf, fun rs' => ?_⟩
  have ha : l'.after rs' = l' := Lexer.after_of_fixed hl rs'
  rw [ha]
  exact ⟨rfl, hr, (Lexer.tokenize_of_error hr).1⟩

/-- A national string that is not closed, behind a token and a comment. -/
theorem next_error_stays_nationalString :
    let l := (Lexer.new "a /* b */ N'c" .sqlServer).after [.next]
    let l' := l.next.lexer
    l.next.result = .error (.unterminatedLiteral '\'') ∧
      Failure .sqlServer Dialect.sqlServer.dictionary l l' (.unterminatedLiteral '\'') ∧
      ∀ rs', l'.after rs' = l' ∧
        (l'.after rs').next.result = .error (.unterminatedLiteral '\'') ∧
        (l'.after rs').tokenize.result = .error (.unterminatedLiteral '\'') := by
  intro l l'
  have h : l.next.result = .error (.unterminatedLiteral '\'') := by decide +kernel
  exact ⟨h, next_error_stays h⟩

end SqlLexis
