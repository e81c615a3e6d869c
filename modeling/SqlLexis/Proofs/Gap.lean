import Mathlib.Data.List.TakeWhile
import SqlLexis.Gap

/-!
# The grammar of gaps

What may stand between tokens is said twice: `skip` measures it, and the grammar here lists its
parts. A `Comment` is a comment or a hint with its end, an `Ignorable` text is made of blanks and
comments, and a `Trailing` text may besides end inside a line comment. `Clear` texts begin with
none of these, `Unclosed` ones with a block that has no end.

* `skip_append`: what is ignorable is skipped, whatever follows it, and then the rest is;
* `skip_of_clear`, `skip_of_unclosed`: nothing is skipped in front of a clear text or of a block
  that has no end;
* `skips`: what skipping comes to is one of three cases: it stops at a clear place, inside the last
  line, or at a block that has no end;
* `of_skip`: a gap that is skipped without an error is ignorable and ends at a clear place, or is
  all that is left and trailing (`Ends`).
-/

namespace SqlLexis.Gap

variable {d : Dialect}

/-- The markers after which a comment ends with its line. -/
def lineMarkers : Dialect → List Text
  | .mySql => [['-', '-'], ['/', '/'], ['#']]
  | _ => [['-', '-'], ['/', '/']]

/-- A comment or a hint with its end: a line with its newline, or a block up to the first `*/`
behind its marker. -/
inductive Comment (d : Dialect) : Text → Prop where
  | line {marker body : Text} (hm : marker ∈ lineMarkers d) (hb : '\n' ∉ body) :
    Comment d (marker ++ body ++ ['\n'])
  | block {body : Text} (hb : ¬ ['*', '/'] <:+: body) :
    Comment d (['/', '*'] ++ body ++ ['*', '/'])

/-- A text of blanks, comments and hints, one after the other. -/
inductive Ignorable (d : Dialect) : Text → Prop where
  | nil : Ignorable d []
  | blank {c : Char} {s : Text} (hc : isBlank c = true) (hs : Ignorable d s) : Ignorable d (c :: s)
  | comment {c s : Text} (hc : Comment d c) (hs : Ignorable d s) : Ignorable d (c ++ s)

/-- The same at the end of a text, where the last line may lack its newline. -/
def Trailing (d : Dialect) (s : Text) : Prop :=
  Ignorable d s ∨ ∃ g marker body, Ignorable d g ∧ marker ∈ lineMarkers d ∧ '\n' ∉ body ∧
    s = g ++ (marker ++ body)

/-- No blank, comment or hint is in front. -/
def Clear (d : Dialect) (s : Text) : Prop :=
  (∀ c ∈ s.head?, isBlank c = false) ∧ ∀ marker ∈ ['/', '*'] :: lineMarkers d, ¬ marker <+: s

/-- A block is in front whose end is missing: no `*/` begins behind its marker, which has three
characters for a hint and two for a comment. -/
def Unclosed (d : Dialect) (s : Text) : Prop :=
  ['/', '*'] <+: s ∧ ¬ ['*', '/'] <:+: s.drop (if opensHint d s then 3 else 2)

theorem ne_nil_of_marker {marker : Text} (hm : marker ∈ ['/', '*'] :: lineMarkers d) :
    marker ≠ [] := by
  have hne : ∀ m ∈ ['/', '*'] :: lineMarkers d, m ≠ [] := by cases d <;> decide
  exact hne marker hm

theorem Ignorable.append {g h : Text} (hg : Ignorable d g) (hh : Ignorable d h) :
    Ignorable d (g ++ h) := by
  induction hg with
  | nil => exact hh
  | blank hc _ ih => exact .blank hc ih
  | comment hc _ ih => rw [List.append_assoc]; exact .comment hc ih

theorem Comment.ignorable {c : Text} (hc : Comment d c) : Ignorable d c := by
  rw [← List.append_nil c]
  exact .comment hc .nil

/-- A newline completes what a text may end with. -/
theorem Trailing.terminated {s : Text} (h : Trailing d s) : Ignorable d (s ++ ['\n']) := by
  rcases h with h | ⟨g, marker, body, hg, hm, hb, rfl⟩
  · exact h.append (.blank isBlank_newline .nil)
  · rw [List.append_assoc]
    exact hg.append (Comment.line hm hb).ignorable

/-! ## One comment -/

theorem beforeClose_append {body : Text} (hb : ¬ ['*', '/'] <:+: body) (n : Nat) (s : Text) :
    beforeClose n (body ++ '*' :: '/' :: s) = some (n + body.length) := by
  induction body generalizing n with
  | nil => rfl
  | cons c body ih =>
    have hb' : ¬ ['*', '/'] <:+: body := fun h => hb (h.trans (List.infix_cons (List.infix_refl _)))
    rw [List.cons_append, beforeClose, ih hb', List.length_cons]
    · congr 1; omega
    · -- The end of the block does not begin with the last character of its body.
      rintro s' rfl h
      cases body with
      | nil => simp at h
      | cons c' body =>
        simp only [List.cons_append, List.cons.injEq] at h
        exact hb (by rw [h.1]; exact (List.prefix_append ['*', '/'] body).isInfix)

theorem not_closes_of {c : Char} {s : Text} (h : ∀ t, c = '*' → s = '/' :: t → False) :
    ¬ ['*', '/'] <+: c :: s := by
  rintro ⟨t, ht⟩
  simp only [List.cons_append, List.nil_append, List.cons.injEq] at ht
  exact h t ht.1.symm ht.2.symm

theorem of_beforeClose {n m : Nat} {s : Text} (h : beforeClose n s = some m) :
    ∃ body after, s = body ++ '*' :: '/' :: after ∧ m = n + body.length ∧
      ¬ ['*', '/'] <:+: body := by
  fun_induction beforeClose n s with
  | case1 => cases h
  | case2 n after => cases h; exact ⟨[], after, rfl, rfl, by simp⟩
  | case3 n c rest hc ih =>
    obtain ⟨body, after, rfl, rfl, hb⟩ := ih h
    refine ⟨c :: body, after, rfl, by rw [List.length_cons]; omega, fun hi => ?_⟩
    rcases List.infix_cons_iff.1 hi with hp | hi
    · exact not_closes_of hc (hp.trans (List.prefix_append (c :: body) ('*' :: '/' :: after)))
    · exact hb hi

theorem beforeClose_eq_none_iff {n : Nat} {s : Text} :
    beforeClose n s = none ↔ ¬ ['*', '/'] <:+: s := by
  fun_induction beforeClose n s with
  | case1 => simp
  | case2 n after =>
    simpa using (List.prefix_append ['*', '/'] after).isInfix
  | case3 n c rest hc ih => rw [ih, List.infix_cons_iff, or_iff_right (not_closes_of hc)]

theorem block_eq_error_iff {m : Nat} {s : Text} {e : LexError} :
    block m s = .error e ↔ e = .unterminatedBlock "*/" ∧ ¬ ['*', '/'] <:+: s.drop m := by
  rw [← beforeClose_eq_none_iff (n := m), block]
  cases beforeClose m (s.drop m) with
  | none => simp [eq_comm]
  | some n => simp

/-- A block ends in the same place whether or not its third character belongs to the marker, unless
that character may begin the end. -/
theorem block_three {c : Char} (hc : c ≠ '*') (s : Text) :
    block 3 ('/' :: '*' :: c :: s) = block 2 ('/' :: '*' :: c :: s) := by
  have hs : beforeClose 2 (c :: s) = beforeClose 3 s := by
    rw [beforeClose]
    rintro _ rfl
    exact absurd rfl hc
  simp only [block, List.drop_succ_cons, List.drop_zero, hs]

/-- The marker of a hint cannot begin the end of a block, so a hint ends where a comment would. -/
theorem block_of_opensHint {s : Text} (h : opensHint d s = true) : block 3 s = block 2 s := by
  unfold opensHint at h
  split at h
  · next c rest =>
    have hc : c ≠ '*' := by rintro rfl; cases d <;> simp [Dialect.hintMarker?] at h
    exact block_three hc rest
  · cases h

theorem span?_block (s : Text) :
    span? d ('/' :: '*' :: s) = some (block 2 ('/' :: '*' :: s)) := by
  unfold span?
  split
  · next h => rw [hint, block_of_opensHint h]
  · rfl

theorem span?_line {marker : Text} (hm : marker ∈ lineMarkers d) (s : Text) :
    span? d (marker ++ s) = some (.ok (lineComment marker.length (marker ++ s))) := by
  cases d <;> simp only [lineMarkers, List.mem_cons, List.not_mem_nil, or_false] at hm <;>
    rcases hm with rfl | rfl | rfl <;> rfl

/-- A dialect sees a comment only where one of its markers stands. -/
theorem exists_marker_of_span? {s : Text} {r : Except LexError Nat} (h : span? d s = some r) :
    ∃ marker ∈ ['/', '*'] :: lineMarkers d, marker <+: s := by
  have ho : opensComment d s = true := by
    unfold span? at h
    split at h
    · next hh =>
      unfold opensHint at hh
      split at hh
      · rfl
      · cases hh
    · split at h
      · next hc => exact hc
      · cases h
  unfold opensComment at ho
  split at ho
  · refine ⟨['#'], ?_, List.prefix_append ['#'] _⟩
    cases d <;> simp_all [Dialect.hashComments, lineMarkers]
  · exact ⟨['-', '-'], by cases d <;> simp [lineMarkers], List.prefix_append ['-', '-'] _⟩
  · exact ⟨['/', '/'], by cases d <;> simp [lineMarkers], List.prefix_append ['/', '/'] _⟩
  · exact ⟨['/', '*'], by simp, List.prefix_append ['/', '*'] _⟩
  · cases ho

theorem span?_of_no_marker {s : Text}
    (h : ∀ marker ∈ ['/', '*'] :: lineMarkers d, ¬ marker <+: s) : span? d s = none := by
  cases hr : span? d s with
  | none => rfl
  | some r =>
    obtain ⟨marker, hm, hp⟩ := exists_marker_of_span? hr
    exact absurd hp (h marker hm)

/-- The only span without an end is a block, and what stops a gap is always the same error. -/
theorem span?_eq_error_iff {s : Text} {e : LexError} :
    span? d s = some (.error e) ↔ e = .unterminatedBlock "*/" ∧ Unclosed d s := by
  have hblock : ∀ s, ['/', '*'] <+: s → (span? d s = some (.error e) ↔
      e = .unterminatedBlock "*/" ∧ Unclosed d s) := by
    rintro _ ⟨s, rfl⟩
    have hb := block_eq_error_iff (m := if opensHint d ('/' :: '*' :: s) then 3 else 2)
      (s := '/' :: '*' :: s) (e := e)
    rw [Unclosed, and_iff_right (List.prefix_append ['/', '*'] s)]
    simp only [List.cons_append, List.nil_append]
    rw [← hb, span?_block, Option.some.injEq]
    split
    · next h => rw [block_of_opensHint h]
    · rfl
  constructor
  · intro h
    obtain ⟨marker, hm, hp⟩ := exists_marker_of_span? h
    rcases List.mem_cons.1 hm with rfl | hm
    · exact (hblock s hp).1 h
    · obtain ⟨s, rfl⟩ := hp
      rw [span?_line hm] at h
      cases h
  · intro h
    exact (hblock s h.2.1).2 h

theorem takeWhile_line {body : Text} (hb : '\n' ∉ body) (s : Text) :
    (body ++ '\n' :: s).takeWhile (· ≠ '\n') = body := by
  have h : ∀ c ∈ body, decide (c ≠ '\n') = true := fun c hc => by
    simpa using fun e : c = '\n' => hb (e ▸ hc)
  rw [List.takeWhile_append_of_pos h]
  simp

/-- A comment is one span, whatever follows it. -/
theorem span?_comment {c : Text} (h : Comment d c) (s : Text) :
    span? d (c ++ s) = some (.ok c.length) := by
  cases h with
  | @line marker body hm hb =>
    rw [List.append_assoc, List.append_assoc, span?_line hm, lineComment, List.drop_left]
    simp only [List.cons_append, List.nil_append, takeWhile_line hb, List.length_append,
      List.length_cons, List.length_nil, Nat.add_assoc]
  | @block body hb =>
    simp only [List.cons_append, List.nil_append, List.append_assoc, span?_block, block,
      List.drop_succ_cons, List.drop_zero, beforeClose_append hb, List.length_cons,
      List.length_append, List.length_nil, Option.some.injEq, Except.ok.injEq]
    omega

/-- A span with its end is a comment, or the text ends inside its line. -/
theorem of_span? {s : Text} {n : Nat} (h : span? d s = some (.ok n)) :
    (∃ c after, Comment d c ∧ s = c ++ after) ∨
      ∃ marker body, marker ∈ lineMarkers d ∧ '\n' ∉ body ∧ s = marker ++ body := by
  obtain ⟨marker, hm, s, rfl⟩ := exists_marker_of_span? h
  rcases List.mem_cons.1 hm with rfl | hm
  · simp only [List.cons_append, List.nil_append, span?_block, block, List.drop_succ_cons,
      List.drop_zero, Option.some.injEq] at h
    split at h
    · next k hk =>
      obtain ⟨body, after, rfl, -, hb⟩ := of_beforeClose hk
      exact .inl ⟨_, after, .block hb, by simp⟩
    · cases h
  · rw [span?_line hm, lineComment, List.drop_left] at h
    have hs := List.takeWhile_append_dropWhile (p := (· ≠ '\n')) (l := s)
    have hb : '\n' ∉ s.takeWhile (· ≠ '\n') := fun hc => by
      simpa using List.mem_takeWhile_imp hc
    generalize s.takeWhile (· ≠ '\n') = body at h hs hb
    cases hd : s.dropWhile (· ≠ '\n') with
    | nil =>
      rw [hd, List.append_nil] at hs
      cases h
      exact .inr ⟨marker, body, hm, hb, by rw [hs]⟩
    | cons c after =>
      have hc := List.head?_dropWhile_not (· ≠ '\n') s
      rw [hd] at hc
      obtain rfl : c = '\n' := by simpa using hc
      exact .inl ⟨_, after, .line hm hb, by rw [← hs, hd]; simp⟩

theorem blanks_line {marker : Text} (hm : marker ∈ lineMarkers d) (s : Text) :
    blanks (marker ++ s) = 0 := by
  cases d <;> simp only [lineMarkers, List.mem_cons, List.not_mem_nil, or_false] at hm <;>
    rcases hm with rfl | rfl | rfl <;> rfl

theorem blanks_comment {c : Text} (h : Comment d c) (s : Text) : blanks (c ++ s) = 0 := by
  cases h with
  | @line marker body hm hb => rw [List.append_assoc, List.append_assoc, blanks_line hm]
  | block => rfl

theorem blanks_of_head {s : Text} (h : ∀ c ∈ s.head?, isBlank c = false) : blanks s = 0 := by
  cases s with
  | nil => rfl
  | cons c s => simp [blanks, h c rfl]

/-! ## The whole gap -/

/-- The gap that begins with `n` characters to be ignored. -/
def Skipped.after (n : Nat) (k : Skipped) : Skipped := ⟨n + k.length, k.error?⟩

theorem Skipped.after_after (m n : Nat) (k : Skipped) : (k.after n).after m = k.after (m + n) := by
  simp only [after, Nat.add_assoc]

theorem skip_of_none {s : Text} (h : span? d (s.drop (blanks s)) = none) :
    skip d s = ⟨blanks s, none⟩ := by
  rw [skip]
  split <;> simp_all

theorem skip_of_error {s : Text} {e : LexError}
    (h : span? d (s.drop (blanks s)) = some (.error e)) : skip d s = ⟨blanks s, some e⟩ := by
  rw [skip]
  split <;> simp_all

theorem skip_of_ok {s : Text} {n : Nat} (h : span? d (s.drop (blanks s)) = some (.ok n)) :
    skip d s = (skip d ((s.drop (blanks s)).drop n)).after (blanks s + n) := by
  rw [skip]
  split <;> simp_all [Skipped.after]

theorem skip_blank {c : Char} (hc : isBlank c = true) (s : Text) :
    skip d (c :: s) = (skip d s).after 1 := by
  have hb : blanks (c :: s) = blanks s + 1 := by simp [blanks, hc]
  have hd : (c :: s).drop (blanks (c :: s)) = s.drop (blanks s) := by rw [hb, List.drop_succ_cons]
  cases h : span? d (s.drop (blanks s)) with
  | none => rw [skip_of_none h, skip_of_none (by rw [hd, h]), hb, Skipped.after, Nat.add_comm]
  | some r =>
    cases r with
    | error e =>
      rw [skip_of_error h, skip_of_error (by rw [hd, h]), hb, Skipped.after, Nat.add_comm]
    | ok n =>
      rw [skip_of_ok h, skip_of_ok (by rw [hd, h]), hd, hb, Skipped.after_after]
      congr 1
      omega

theorem skip_comment {c : Text} (hc : Comment d c) (s : Text) :
    skip d (c ++ s) = (skip d s).after c.length := by
  have hb := blanks_comment hc s
  rw [skip_of_ok (n := c.length) (by rw [hb, List.drop_zero, span?_comment hc]), hb,
    List.drop_zero, List.drop_left, Nat.zero_add]

/-- A line comment without its newline is skipped, and counts one character beyond the text. -/
theorem skip_line {marker body : Text} (hm : marker ∈ lineMarkers d) (hb : '\n' ∉ body) :
    skip d (marker ++ body) = ⟨(marker ++ body).length + 1, none⟩ := by
  have hz := blanks_line hm body
  have hw : body.takeWhile (· ≠ '\n') = body :=
    List.takeWhile_eq_self_iff.2 fun c hc => by simpa using fun e : c = '\n' => hb (e ▸ hc)
  have hs := span?_line hm body
  rw [lineComment, List.drop_left, hw, ← List.length_append] at hs
  rw [skip_of_ok (by rw [hz]; exact hs), hz, List.drop_zero,
    List.drop_eq_nil_of_le (Nat.le_succ _), skip_nil, Skipped.after, Nat.zero_add, Nat.add_zero]

/-- What is ignorable is skipped, and then the rest is. -/
theorem skip_append {g : Text} (hg : Ignorable d g) (s : Text) :
    skip d (g ++ s) = (skip d s).after g.length := by
  induction hg with
  | nil => simp [Skipped.after]
  | @blank c g hc _ ih =>
    rw [List.cons_append, skip_blank hc, ih, Skipped.after_after, List.length_cons, Nat.add_comm]
  | @comment c g hc _ ih =>
    rw [List.append_assoc, skip_comment hc, ih, Skipped.after_after, List.length_append]

theorem clear_of_span? {s : Text} (hb : ∀ c ∈ s.head?, isBlank c = false)
    (h : span? d s = none) : Clear d s := by
  refine ⟨hb, fun marker hm hp => ?_⟩
  obtain ⟨s, rfl⟩ := hp
  rcases List.mem_cons.1 hm with rfl | hm
  · simp [span?_block] at h
  · simp [span?_line hm] at h

/-- Nothing is skipped in front of a clear text. -/
theorem skip_of_clear {s : Text} (h : Clear d s) : skip d s = ⟨0, none⟩ := by
  have hb := blanks_of_head h.1
  rw [skip_of_none (by rw [hb, List.drop_zero, span?_of_no_marker h.2]), hb]

/-- Nothing is skipped in front of a block that has no end. -/
theorem skip_of_unclosed {s : Text} (h : Unclosed d s) :
    skip d s = ⟨0, some (.unterminatedBlock "*/")⟩ := by
  obtain ⟨t, rfl⟩ := h.1
  have hb : blanks (['/', '*'] ++ t) = 0 := rfl
  have hs := span?_eq_error_iff.2 ⟨rfl, h⟩
  rw [skip_of_error (by rw [hb, List.drop_zero]; exact hs), hb]

/-- What skipping comes to: it stops at a clear place, which may be the end of the text, or inside
the last line, which counts one character beyond the end, or at a block that has no end. -/
inductive Skips (d : Dialect) : Text → Skipped → Prop where
  | clear {g after : Text} (hg : Ignorable d g) (ha : Clear d after) :
    Skips d (g ++ after) ⟨g.length, none⟩
  | inLine {g marker body : Text} (hg : Ignorable d g) (hm : marker ∈ lineMarkers d)
    (hb : '\n' ∉ body) :
    Skips d (g ++ (marker ++ body)) ⟨(g ++ (marker ++ body)).length + 1, none⟩
  | atBlock {g after : Text} (hg : Ignorable d g) (ha : Unclosed d after) :
    Skips d (g ++ after) ⟨g.length, some (.unterminatedBlock "*/")⟩

theorem Skips.prepend {g s : Text} {k : Skipped} (hg : Ignorable d g) (h : Skips d s k) :
    Skips d (g ++ s) (k.after g.length) := by
  cases h with
  | clear hh ha =>
    rw [← List.append_assoc, Skipped.after, ← List.length_append]
    exact .clear (hg.append hh) ha
  | @inLine h marker body hh hm hb =>
    have hl := Skips.inLine (hg.append hh) hm hb
    rw [List.append_assoc, List.length_append, Nat.add_assoc] at hl
    exact hl
  | atBlock hh ha =>
    rw [← List.append_assoc, Skipped.after, ← List.length_append]
    exact .atBlock (hg.append hh) ha

theorem clear_nil : Clear d [] :=
  ⟨nofun, fun _ hm hp => ne_nil_of_marker hm (List.prefix_nil.1 hp)⟩

theorem skips (s : Text) : Skips d s (skip d s) := by
  induction hl : s.length using Nat.strong_induction_on generalizing s with
  | _ l ih =>
    cases s with
    | nil => rw [skip_nil]; exact .clear .nil clear_nil
    | cons c s =>
      by_cases hc : isBlank c = true
      · rw [skip_blank hc]
        exact (ih s.length (by rw [← hl, List.length_cons]; omega) s rfl).prepend (.blank hc .nil)
      have hb : ∀ x ∈ (c :: s).head?, isBlank x = false := by simpa using hc
      have hz := blanks_of_head hb
      cases hs : span? d (c :: s) with
      | none =>
        have ha := clear_of_span? hb hs
        rw [skip_of_clear ha]
        exact .clear .nil ha
      | some r =>
        cases r with
        | error e =>
          obtain ⟨-, ha⟩ := span?_eq_error_iff.1 hs
          rw [skip_of_unclosed ha]
          exact .atBlock .nil ha
        | ok m =>
          rcases of_span? hs with ⟨g, after, hg, heq⟩ | ⟨marker, body, hm, hb, heq⟩
          · have hpos : 0 < g.length := span?_pos (span?_comment hg after)
            rw [heq, skip_comment hg]
            refine (ih after.length ?_ after rfl).prepend hg.ignorable
            rw [← hl, heq, List.length_append]
            omega
          · rw [heq, skip_line hm hb]
            exact .inLine (g := []) .nil hm hb

/-- How a gap of `n` characters ends that is skipped without an error: before a token, or at the
end of the text, which the last line comment may count one character beyond. -/
inductive Ends (d : Dialect) : Text → Nat → Prop where
  | beforeToken {g after : Text} (hg : Ignorable d g) (ha : Clear d after) (hne : after ≠ []) :
    Ends d (g ++ after) g.length
  | atEnd {s : Text} {n : Nat} (hs : Trailing d s) (hn : s.length ≤ n) : Ends d s n

theorem of_skip {s : Text} {n : Nat} (h : skip d s = ⟨n, none⟩) : Ends d s n := by
  have hs := skips (d := d) s
  rw [h] at hs
  cases hs with
  | @clear g after hg ha =>
    by_cases hne : after = []
    · subst hne
      rw [List.append_nil]
      exact .atEnd (.inl hg) (Nat.le_refl _)
    · exact .beforeToken hg ha hne
  | inLine hg hm hb => exact .atEnd (.inr ⟨_, _, _, hg, hm, hb, rfl⟩) (Nat.le_succ _)

end SqlLexis.Gap
