import SqlLexis.Lexer.Run

/-!
# Sequences of calls

A lexer may be asked for its next token or for all that are left, in any order and also after an
error. `Lexer.after` is the lexer that a sequence of requests leaves, and `Lexer.replies` is what it
replies to them.

* `tokenize_of_error`, `tokenize_of_end`, `tokenize_of_token`: reading all tokens by way of the next
  one;
* `of_after`: what a call for the next token preserves, every sequence of requests preserves;
* `mem_tokenize`: each of all the tokens is the next one at some time.
-/

namespace SqlLexis

/-- What a lexer may be asked for. -/
inductive Request where
  /-- The next token. -/
  | next
  /-- The tokens that are left. -/
  | tokenize
  deriving DecidableEq

/-- What a lexer replies to a request. -/
inductive Reply where
  | token (result : Except LexError Token)
  | tokens (result : Except LexError (List Token))

namespace Lexer

/-- The reply to a request. -/
def reply (l : Lexer) : Request → Reply
  | .next => .token l.next.result
  | .tokenize => .tokens l.tokenize.result

/-- The lexer that a request leaves. -/
def asked (l : Lexer) : Request → Lexer
  | .next => l.next.lexer
  | .tokenize => l.tokenize.lexer

/-- The lexer that a sequence of requests leaves. -/
def after (l : Lexer) (rs : List Request) : Lexer := rs.foldl asked l

/-- The replies to a sequence of requests. -/
def replies (l : Lexer) : List Request → List Reply
  | [] => []
  | r :: rs => l.reply r :: (l.asked r).replies rs

variable {l : Lexer} {t : Token} {e : LexError}

/-! ## All tokens by way of the next one -/

theorem tokenize_eq (l : Lexer) :
    l.tokenize.result = l.readAll.result ∧ l.tokenize.lexer = l.readAll.lexer := by
  unfold tokenize
  cases h : l.readAll.result <;> simp only [h, and_self]

/-- The next call returns no token: it finds the end of the input, or it fails. -/
def Stops (l : Lexer) : Prop := ∀ t, l.next.result = .ok t → t.type.isEnd = true

theorem stops_of_error (h : l.next.result = .error e) : l.Stops := by
  intro t ht
  rw [h] at ht
  cases ht

theorem stops_of_end (h : l.next.result = .ok t) (ht : t.type.isEnd = true) : l.Stops := by
  intro t' ht'
  rw [h] at ht'
  cases ht'
  exact ht

theorem readAll_of_stops (h : l.Stops) :
    l.readAll = ⟨l.next.result.map fun _ => [], l.next.log, l.next.lexer⟩ := by
  rw [readAll]
  split
  · next he => rw [he]; rfl
  · next t ht => rw [ht, dif_pos (h t ht)]; rfl

theorem readAll_of_token (h : l.next.result = .ok t) (ht : t.type.isEnd = false) :
    l.readAll = ⟨l.next.lexer.readAll.result.map (t :: ·),
      l.next.log ++ l.next.lexer.readAll.log, l.next.lexer.readAll.lexer⟩ := by
  rw [readAll]
  split <;> simp_all

theorem tokenize_of_error (h : l.next.result = .error e) :
    l.tokenize.result = .error e ∧ l.tokenize.lexer = l.next.lexer := by
  rw [(tokenize_eq l).1, (tokenize_eq l).2, readAll_of_stops (stops_of_error h), h]
  exact ⟨rfl, rfl⟩

theorem tokenize_of_end (h : l.next.result = .ok t) (ht : t.type.isEnd = true) :
    l.tokenize.result = .ok [] ∧ l.tokenize.lexer = l.next.lexer := by
  rw [(tokenize_eq l).1, (tokenize_eq l).2, readAll_of_stops (stops_of_end h ht), h]
  exact ⟨rfl, rfl⟩

theorem tokenize_of_token (h : l.next.result = .ok t) (ht : t.type.isEnd = false) :
    l.tokenize.result = l.next.lexer.tokenize.result.map (t :: ·) ∧
      l.tokenize.lexer = l.next.lexer.tokenize.lexer := by
  rw [(tokenize_eq l).1, (tokenize_eq l).2, (tokenize_eq _).1, (tokenize_eq _).2,
    readAll_of_token h ht]
  exact ⟨rfl, rfl⟩

/-- Each of all the tokens is the next one at some time. -/
theorem mem_tokenize {ts : List Token} (h : l.tokenize.result = .ok ts) (ht : t ∈ ts) :
    t.type.isEnd = false ∧ ∃ rs, (l.after rs).next.result = .ok t := by
  induction l using readAll.induct generalizing ts with
  | case1 l e he => rw [(tokenize_of_error he).1] at h; cases h
  | case2 l t' ht' hend => rw [(tokenize_of_end ht' hend).1] at h; cases h; cases ht
  | case3 l t' ht' hend ih =>
    have hend' : t'.type.isEnd = false := by simpa using hend
    rw [(tokenize_of_token ht' hend').1] at h
    cases hts : l.next.lexer.tokenize.result with
    | error e => rw [hts] at h; cases h
    | ok ts' =>
      rw [hts] at h
      cases h
      rcases List.mem_cons.1 ht with rfl | ht
      · exact ⟨hend', [], ht'⟩
      · obtain ⟨hn, rs, hrs⟩ := ih hts ht
        exact ⟨hn, .next :: rs, hrs⟩

/-- An error of reading all tokens is that of the next one at some time. -/
theorem error_of_tokenize (h : l.tokenize.result = .error e) :
    ∃ rs, (l.after rs).next.result = .error e := by
  induction l using readAll.induct with
  | case1 l e' he =>
    rw [(tokenize_of_error he).1] at h
    cases h
    exact ⟨[], he⟩
  | case2 l t ht hend => rw [(tokenize_of_end ht hend).1] at h; cases h
  | case3 l t ht hend ih =>
    rw [(tokenize_of_token ht (by simpa using hend)).1] at h
    cases hts : l.next.lexer.tokenize.result with
    | ok ts => rw [hts] at h; cases h
    | error e' =>
      rw [hts] at h
      cases h
      obtain ⟨rs, hrs⟩ := ih hts
      exact ⟨.next :: rs, hrs⟩

/-! ## What a call preserves -/

variable {P : Lexer → Prop}

theorem of_tokenize (hP : ∀ l, P l → P l.next.lexer) (h : P l) : P l.tokenize.lexer := by
  induction l using readAll.induct with
  | case1 l e he => rw [(tokenize_of_error he).2]; exact hP l h
  | case2 l t ht hend => rw [(tokenize_of_end ht hend).2]; exact hP l h
  | case3 l t ht hend ih => rw [(tokenize_of_token ht (by simpa using hend)).2]; exact ih (hP l h)

/-- What a call for the next token preserves, every sequence of requests preserves. -/
theorem of_after (hP : ∀ l, P l → P l.next.lexer) (h : P l) (rs : List Request) :
    P (l.after rs) := by
  induction rs generalizing l with
  | nil => exact h
  | cons r rs ih =>
    cases r with
    | next => exact ih (hP l h)
    | tokenize => exact ih (of_tokenize hP h)

/-- A lexer that a call for the next token leaves as it is stays as it is. -/
theorem after_of_fixed (h : l.next.lexer = l) (rs : List Request) : l.after rs = l :=
  of_after (P := (· = l)) (fun _ hl => hl ▸ h) rfl rs

/-- A call changes neither the statement nor the rules for reading it. -/
theorem fixed_next (l : Lexer) : l.next.lexer.dialect = l.dialect ∧
    l.next.lexer.dictionary = l.dictionary ∧ l.next.lexer.input = l.input := by
  unfold next
  simp only
  split
  · exact ⟨rfl, rfl, rfl⟩
  · unfold read
    split <;> exact ⟨rfl, rfl, rfl⟩

theorem fixed_after (l : Lexer) (rs : List Request) : (l.after rs).dialect = l.dialect ∧
    (l.after rs).dictionary = l.dictionary ∧ (l.after rs).input = l.input := by
  refine of_after (P := fun l' => l'.dialect = l.dialect ∧ l'.dictionary = l.dictionary ∧
    l'.input = l.input) (fun l' h => ?_) ⟨rfl, rfl, rfl⟩ rs
  obtain ⟨h1, h2, h3⟩ := fixed_next l'
  exact ⟨h1.trans h.1, h2.trans h.2.1, h3.trans h.2.2⟩

theorem fixed_new_after (sql : String) (dialect : Dialect) (rs : List Request) :
    ((new sql dialect).after rs).dialect = dialect ∧
      ((new sql dialect).after rs).dictionary = dialect.dictionary ∧
      ((new sql dialect).after rs).input = sql.toList :=
  fixed_after _ rs

end Lexer

end SqlLexis
