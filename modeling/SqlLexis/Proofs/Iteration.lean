import SqlLexis.Proofs.Bounds
import SqlLexis.Proofs.Failure

/-!
# All tokens by asking for the next one

`Draws` is a sequence of calls for the next token, each of which returns one. A call for all tokens
is such a sequence, and the call behind it that `Stops`: it has the same result and the same log,
and it leaves the same lexer (`Iterates`).

* `Lexer.exists_draws`: drawing comes to a stop;
* `Lexer.Draws.readAll`: what was drawn comes in front of what is read afterwards;
* `Lexer.tokenize_after`: what a lexer returned, whatever it was asked, and what it returns then for
  all tokens make up what it would have returned at once;
* `tokenize_iterates`: all of this, for every lexer that a sequence of requests leaves.
-/

namespace SqlLexis

namespace Lexer

/-- Calls for the next token that return the tokens `ts`, send the records `log` and leave the last
lexer. -/
inductive Draws : Lexer → List Token → List LogRecord → Lexer → Prop where
  | none {l : Lexer} : Draws l [] [] l
  | token {l l' : Lexer} {t : Token} {ts : List Token} {log : List LogRecord}
    (ht : l.next.result = .ok t) (hend : t.type.isEnd = false)
    (hts : Draws l.next.lexer ts log l') : Draws l (t :: ts) (l.next.log ++ log) l'

variable {l l' : Lexer} {t : Token} {ts : List Token} {e : LexError} {log : List LogRecord}

/-! ## The records of a call -/

theorem log_next_of_ok (h : l.next.result = .ok t) : l.next.log = [.token l.dialect t] := by
  unfold next at h ⊢
  simp only at h ⊢
  split at h
  · cases h
  · unfold read at h ⊢
    split at h
    · cases h
      rfl
    · cases h

theorem log_next_of_error (h : l.next.result = .error e) :
    l.next.log = l.next.lexer.failureLog e := by
  unfold next at h ⊢
  simp only at h ⊢
  split at h
  · cases h
    rfl
  · unfold read at h ⊢
    split at h
    · cases h
    · cases h
      rfl

theorem log_tokenize_of_ok (h : l.readAll.result = .ok ts) : l.tokenize.log =
    l.readAll.log ++ [.statement l.dialect l.input.length ts.length] := by
  simp only [tokenize, h]

theorem log_tokenize_of_error (h : l.readAll.result = .error e) :
    l.tokenize.log = l.readAll.log := by
  simp only [tokenize, h]

/-! ## Drawing tokens -/

/-- Drawing comes to a stop. -/
theorem exists_draws (l : Lexer) : ∃ ts log l', Draws l ts log l' ∧ l'.Stops := by
  induction l using readAll.induct with
  | case1 l e he => exact ⟨[], [], l, .none, stops_of_error he⟩
  | case2 l t ht hend => exact ⟨[], [], l, .none, stops_of_end ht hend⟩
  | case3 l t ht hend ih =>
    obtain ⟨ts, log, l', hts, hstop⟩ := ih
    exact ⟨_, _, l', .token ht (by simpa using hend) hts, hstop⟩

namespace Draws

theorem fixed (h : Draws l ts log l') : l'.dialect = l.dialect ∧ l'.input = l.input := by
  induction h with
  | none => exact ⟨rfl, rfl⟩
  | @token l _ _ _ _ _ _ _ ih =>
    obtain ⟨hdialect, -, hinput⟩ := l.fixed_next
    exact ⟨ih.1.trans hdialect, ih.2.trans hinput⟩

/-- Each token has its record. -/
theorem log_eq (h : Draws l ts log l') : log = ts.map (.token l.dialect) := by
  induction h with
  | none => rfl
  | @token l _ _ _ _ ht _ _ ih =>
    rw [ih, log_next_of_ok ht, l.fixed_next.1]
    rfl

/-- What was drawn comes in front of what is read afterwards. -/
theorem readAll (h : Draws l ts log l') :
    l.readAll = ⟨l'.readAll.result.map (ts ++ ·), log ++ l'.readAll.log, l'.readAll.lexer⟩ := by
  induction h with
  | @none l =>
    cases hr : l.readAll with
    | mk result log lexer => cases result <;> rfl
  | @token l l' t ts log ht hend _ ih =>
    rw [readAll_of_token ht hend, ih, List.append_assoc]
    cases l'.readAll.result <;> rfl

/-- Up to the call that stops: that call is all that is left. -/
theorem readAll_of_stops (h : Draws l ts log l') (hstop : l'.Stops) :
    l.readAll = ⟨l'.next.result.map fun _ => ts, log ++ l'.next.log, l'.next.lexer⟩ := by
  rw [h.readAll, Lexer.readAll_of_stops hstop]
  cases l'.next.result with
  | error e => rfl
  | ok t => exact congrArg (Call.mk · _ _) (congrArg _ (List.append_nil ts))

end Draws

/-! ## In any order -/

theorem map_nil_append {α ε : Type} (r : Except ε (List α)) : r.map ([] ++ ·) = r := by
  cases r <;> rfl

theorem map_append_map {α ε : Type} (xs ys : List α) (r : Except ε (List α)) :
    (r.map (ys ++ ·)).map (xs ++ ·) = r.map (xs ++ ys ++ ·) := by
  cases r with
  | error e => rfl
  | ok zs => exact congrArg Except.ok (List.append_assoc xs ys zs).symm

/-- What the next call returns is the first of what is left. -/
theorem tokenize_next (l : Lexer) :
    l.tokenize.result =
        l.next.lexer.tokenize.result.map ((Reply.token l.next.result).returned ++ ·) ∧
      l.next.lexer.tokenize.lexer = l.tokenize.lexer := by
  cases h : l.next.result with
  | error e =>
    obtain ⟨hr, hl⟩ := next_of_failure h
    rw [(tokenize_of_error h).1, (tokenize_of_error h).2, (tokenize_of_error hr).1,
      (tokenize_of_error hr).2, hl]
    exact ⟨rfl, rfl⟩
  | ok t =>
    cases hend : t.type.isEnd with
    | true =>
      obtain ⟨hafter, -, hr⟩ := (l.moves.atEnd t h hend).2 [.tokenize]
      have hl : l.next.lexer.tokenize.lexer = l.next.lexer := hafter
      rw [hafter] at hr
      rw [(tokenize_of_end h hend).1, (tokenize_of_end h hend).2, hl, hr, Reply.returned, hend,
        if_pos rfl]
      exact ⟨rfl, rfl⟩
    | false =>
      rw [(tokenize_of_token h hend).1, (tokenize_of_token h hend).2, Reply.returned, hend,
        if_neg Bool.false_ne_true]
      exact ⟨rfl, rfl⟩

/-- After a request, what was returned comes in front of what is left. -/
theorem tokenize_asked (l : Lexer) (r : Request) :
    l.tokenize.result = (l.asked r).tokenize.result.map ((l.reply r).returned ++ ·) ∧
      (l.asked r).tokenize.lexer = l.tokenize.lexer := by
  cases r with
  | next => exact l.tokenize_next
  | tokenize =>
    obtain ⟨ts, log, l', hts, hstop⟩ := l.exists_draws
    -- The lexer stands where the call that stops left it, so the answer is that of this call.
    obtain ⟨hr, hl⟩ := l'.tokenize_next
    have hall := hts.readAll_of_stops hstop
    have hlast := readAll_of_stops hstop
    rw [(tokenize_eq l').1, hlast] at hr
    rw [(tokenize_eq l').2, hlast] at hl
    show l.tokenize.result =
        l.tokenize.lexer.tokenize.result.map ((Reply.tokens l.tokenize.result).returned ++ ·) ∧
      l.tokenize.lexer.tokenize.lexer = l.tokenize.lexer
    rw [(tokenize_eq l).1, (tokenize_eq l).2, hall]
    refine ⟨?_, hl⟩
    cases hn : l'.next.result with
    | error e =>
      rw [hn] at hr
      exact hr
    | ok t =>
      rw [hn, Reply.returned, hstop t hn, if_pos rfl, map_nil_append] at hr
      rw [← hr]
      exact congrArg Except.ok (List.append_nil ts).symm

/-- Whatever a lexer was asked, what it returned comes in front of what is left. -/
theorem tokenize_after (l : Lexer) (rs : List Request) :
    l.tokenize.result =
        (l.after rs).tokenize.result.map ((l.replies rs).flatMap Reply.returned ++ ·) ∧
      (l.after rs).tokenize.lexer = l.tokenize.lexer := by
  induction rs generalizing l with
  | nil => exact ⟨(map_nil_append _).symm, rfl⟩
  | cons r rs ih =>
    obtain ⟨hr, hl⟩ := l.tokenize_asked r
    obtain ⟨hrs, hls⟩ := ih (l.asked r)
    refine ⟨?_, hls.trans hl⟩
    rw [hr, hrs, map_append_map]
    rfl

end Lexer

open Lexer (Draws)

/-- A call for all tokens that is a sequence of calls for the next one, up to the first that returns
no token: `all` has their tokens or their error, their records and their lexer. Each token has a
record, the end of the input too, and so has an error, with the place where the lexer then stands,
unless it is a fault of the program. A statement that was read to its end has one record more. -/
structure Iterates (dialect : Dialect) (s : Text) (l : Lexer) (all : Call (List Token)) : Prop where
  ok (ts : List Token) : all.result = .ok ts ↔
    ∃ log l' t, Draws l ts log l' ∧ l'.next.result = .ok t ∧ t.type.isEnd = true
  error (e : LexError) : all.result = .error e ↔
    ∃ ts log l', Draws l ts log l' ∧ l'.next.result = .error e
  atEnd {ts : List Token} {log : List LogRecord} {l' : Lexer} {t : Token} :
    Draws l ts log l' → l'.next.result = .ok t → t.type.isEnd = true →
      all.lexer = l'.next.lexer ∧
      all.log = log ++ l'.next.log ++ [.statement dialect s.length ts.length] ∧
      log ++ l'.next.log = (ts ++ [t]).map (.token dialect) ∧
      all.log.map LogRecord.level = List.replicate (ts.length + 1) "TRACE" ++ ["DEBUG"]
  atError {ts : List Token} {log : List LogRecord} {l' : Lexer} {e : LexError} :
    Draws l ts log l' → l'.next.result = .error e →
      all.lexer = l'.next.lexer ∧ all.log = log ++ l'.next.log ∧ log = ts.map (.token dialect) ∧
      l'.next.log = (if e.isFatal then [] else [.failure dialect l'.next.lexer.offset e]) ∧
      all.log.map LogRecord.level =
        List.replicate ts.length "TRACE" ++ if e.isFatal then [] else ["DEBUG"]

namespace Lexer

theorem map_level_token (dialect : Dialect) (ts : List Token) :
    (ts.map (LogRecord.token dialect)).map LogRecord.level = List.replicate ts.length "TRACE" := by
  rw [List.map_map, ← List.map_const']
  rfl

theorem iterates (l : Lexer) : Iterates l.dialect l.input l l.tokenize := by
  obtain ⟨ts, log, l', hts, hstop⟩ := l.exists_draws
  have hall := hts.readAll_of_stops hstop
  constructor
  case ok =>
    intro ts'
    rw [(tokenize_eq l).1]
    constructor
    · intro h
      rw [hall] at h
      obtain ⟨t, ht, rfl⟩ := ok_of_map h
      exact ⟨log, l', t, hts, ht, hstop t ht⟩
    · rintro ⟨log', l'', t, hts', ht, hend⟩
      rw [hts'.readAll_of_stops (stops_of_end ht hend), ht]
      rfl
  case error =>
    intro e
    rw [(tokenize_eq l).1]
    constructor
    · intro h
      rw [hall] at h
      exact ⟨ts, log, l', hts, error_of_map h⟩
    · rintro ⟨ts', log', l'', hts', he⟩
      rw [hts'.readAll_of_stops (stops_of_error he), he]
      rfl
  case atEnd =>
    intro ts' log' l'' t hts' ht hend
    have hall' := hts'.readAll_of_stops (stops_of_end ht hend)
    rw [ht] at hall'
    have hlog : log' ++ l''.next.log = (ts' ++ [t]).map (.token l.dialect) := by
      rw [hts'.log_eq, log_next_of_ok ht, hts'.fixed.1, List.map_append]
      rfl
    have hok : l.readAll.result = .ok ts' := by
      rw [hall']
      rfl
    rw [(tokenize_eq l).2, log_tokenize_of_ok hok, hall']
    refine ⟨rfl, rfl, hlog, ?_⟩
    show (log' ++ l''.next.log ++ _).map LogRecord.level = _
    rw [hlog, List.map_append, map_level_token, List.length_append]
    rfl
  case atError =>
    intro ts' log' l'' e hts' he
    have hall' := hts'.readAll_of_stops (stops_of_error he)
    rw [he] at hall'
    have hlog : l''.next.log =
        if e.isFatal then [] else [.failure l.dialect l''.next.lexer.offset e] := by
      rw [log_next_of_error he, failureLog, l''.fixed_next.1, hts'.fixed.1]
    have herror : l.readAll.result = .error e := by
      rw [hall']
      rfl
    rw [(tokenize_eq l).2, log_tokenize_of_error herror, hall']
    refine ⟨rfl, rfl, hts'.log_eq, hlog, ?_⟩
    show (log' ++ l''.next.log).map LogRecord.level = _
    rw [hlog, hts'.log_eq, List.map_append, map_level_token]
    cases e.isFatal <;> rfl

end Lexer

/-- Whatever a lexer was asked before, a call for all tokens comes to the same as calls for the next
one up to the first that returns no token. And what the lexer had returned comes in front of what
that call returns: together they are all tokens of the statement, and it stands where it would stand
if it had been asked for these at once. -/
theorem tokenize_iterates (sql : String) (dialect : Dialect) (d : Dictionary) (rs : List Request) :
    let fresh := Lexer.withDictionary sql dialect d
    let l := fresh.after rs
    Iterates dialect sql.toList l l.tokenize ∧
      fresh.tokenize.result =
        l.tokenize.result.map ((fresh.replies rs).flatMap Reply.returned ++ ·) ∧
      l.tokenize.lexer = fresh.tokenize.lexer := by
  intro fresh l
  obtain ⟨hdialect, -, hinput⟩ := fresh.fixed_after rs
  refine ⟨?_, fresh.tokenize_after rs⟩
  have hl := l.iterates
  rw [hdialect, hinput] at hl
  exact hl

end SqlLexis
