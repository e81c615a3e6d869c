import Mathlib.Order.Bounds.Basic
import SqlLexis.Cursor
import SqlLexis.Proofs.Gap

/-!
# How far a comment goes

A comment, a hint and a run of blanks end at the first place where something stands: the end of a
block, a newline, a character that is no blank. What is skipped is told here by that place.

* `block_eq_ok_iff`, `block_eq_error_iff_eq_empty`: a block ends behind the first `*/` from its
  marker on;
* `lineComment_of_isLeast`, `lineComment_of_eq_empty`: a line ends behind the first newline from its
  marker on, or one character beyond the text;
* `isLeast_takeWhile`: a run ends at the first character of another class;
* `skips_to_first`: the same for what is skipped at a cursor, in offsets of the whole text.
-/

namespace SqlLexis

namespace Gap

/-- The places from `k` on at which `m` stands in the text `s`. -/
def occurrences (m s : Text) (k : Nat) : Set Nat := {j | k ≤ j ∧ m <+: s.drop j}

variable {m s : Text} {a k n j : Nat}

theorem isLeast_add_iff {P : Nat → Prop} :
    IsLeast {j | a + k ≤ j ∧ P j} (a + n) ↔ IsLeast {i | k ≤ i ∧ P (a + i)} n := by
  constructor
  · rintro ⟨⟨hle, hP⟩, hmin⟩
    refine ⟨⟨by omega, hP⟩, fun i hi => ?_⟩
    have := hmin (a := a + i) ⟨by have := hi.1; omega, hi.2⟩
    omega
  · rintro ⟨⟨hle, hP⟩, hmin⟩
    refine ⟨⟨by omega, hP⟩, fun j hj => ?_⟩
    obtain ⟨hj, hPj⟩ := hj
    have hij : a + (j - a) = j := by omega
    have := hmin (a := j - a) ⟨by omega, hij.symm ▸ hPj⟩
    omega

/-- The first occurrence in the rest of a text is that in the text. -/
theorem isLeast_occurrences_drop :
    IsLeast (occurrences m s (a + k)) (a + n) ↔ IsLeast (occurrences m (s.drop a) k) n := by
  simp only [occurrences, isLeast_add_iff, List.drop_drop]

theorem infix_drop_iff : m <:+: s.drop k ↔ (occurrences m s k).Nonempty := by
  constructor
  · intro h
    obtain ⟨t, hm, ht⟩ := List.infix_iff_prefix_suffix.1 h
    rw [List.suffix_iff_eq_drop.1 ht, List.drop_drop] at hm
    exact ⟨_, Nat.le_add_right _ _, hm⟩
  · rintro ⟨j, hj, hm⟩
    have hd : s.drop j = (s.drop k).drop (j - k) := by
      rw [List.drop_drop]
      congr 1
      omega
    rw [hd] at hm
    exact hm.isInfix.trans (List.drop_suffix _ _).isInfix

theorem mem_occurrences_singleton {c : Char} :
    j ∈ occurrences [c] s k ↔ k ≤ j ∧ s[j]? = some c := by
  rw [← List.head?_drop]
  show k ≤ j ∧ [c] <+: s.drop j ↔ _
  cases s.drop j with
  | nil => simp
  | cons x t => simp [eq_comm]

/-! ## Blocks -/

theorem isLeast_of_beforeClose (h : beforeClose k (s.drop k) = some n) :
    IsLeast (occurrences ['*', '/'] s k) n := by
  generalize hu : s.drop k = u at h
  fun_induction beforeClose k u with
  | case1 => cases h
  | case2 k after =>
    cases h
    refine ⟨⟨Nat.le_refl _, ?_⟩, fun j hj => hj.1⟩
    rw [hu]
    exact List.prefix_append ['*', '/'] after
  | case3 k c rest hc ih =>
    have hrest : s.drop (k + 1) = rest := by
      rw [← List.drop_drop, hu]
      rfl
    obtain ⟨hn, hmin⟩ := ih hrest h
    refine ⟨⟨Nat.le_of_succ_le hn.1, hn.2⟩, fun j hj => ?_⟩
    obtain ⟨hkj, hp⟩ := hj
    -- The end of the block does not begin at `k`.
    have hne : k ≠ j := by
      rintro rfl
      rw [hu] at hp
      exact not_closes_of hc hp
    exact hmin ⟨by omega, hp⟩

/-- A block ends behind the first `*/` from its marker on. -/
theorem block_eq_ok_iff : block k s = .ok n ↔
    ∃ j, IsLeast (occurrences ['*', '/'] s k) j ∧ n = j + 2 := by
  rw [block]
  cases h : beforeClose k (s.drop k) with
  | none =>
    have hempty := beforeClose_eq_none_iff.1 h
    rw [infix_drop_iff] at hempty
    simp only [reduceCtorEq, false_iff, not_exists, not_and]
    exact fun j hj => absurd ⟨j, hj.1⟩ hempty
  | some i =>
    have hi := isLeast_of_beforeClose h
    simp only [Except.ok.injEq]
    constructor
    · rintro rfl
      exact ⟨i, hi, rfl⟩
    · rintro ⟨j, hj, rfl⟩
      rw [hi.unique hj]

theorem block_eq_error_iff_eq_empty {e : LexError} : block k s = .error e ↔
    e = .unterminatedBlock "*/" ∧ occurrences ['*', '/'] s k = ∅ := by
  rw [block_eq_error_iff, infix_drop_iff, Set.not_nonempty_iff_eq_empty]

/-! ## Runs and lines -/

/-- A run ends at the first character of another class, or where there is no character. -/
theorem isLeast_takeWhile (p : Char → Bool) (s : Text) :
    IsLeast {i | ∀ x ∈ s[i]?, p x = false} (s.takeWhile p).length := by
  induction s with
  | nil => exact ⟨nofun, fun i _ => Nat.zero_le i⟩
  | cons c s ih =>
    cases hc : p c with
    | false =>
      rw [List.takeWhile_cons_of_neg (by simp [hc])]
      refine ⟨fun x hx => ?_, fun i _ => Nat.zero_le i⟩
      cases hx
      exact hc
    | true =>
      rw [List.takeWhile_cons_of_pos hc, List.length_cons]
      refine ⟨ih.1, fun i hi => ?_⟩
      cases i with
      | zero =>
        rw [hi c rfl] at hc
        cases hc
      | succ i => exact Nat.succ_le_succ (ih.2 hi)

theorem isLeast_line (m : Nat) (s : Text) : ∃ i, lineComment m s = m + i + 1 ∧
    IsLeast {i | s[m + i]? = none ∨ s[m + i]? = some '\n'} i := by
  refine ⟨_, rfl, ?_⟩
  have h := isLeast_takeWhile (· ≠ '\n') (s.drop m)
  convert h using 3 with i
  rw [List.getElem?_drop]
  cases s[m + i]? <;> simp

/-- A line ends behind the first newline from its marker on. -/
theorem lineComment_of_isLeast (h : IsLeast (occurrences ['\n'] s k) j) :
    lineComment k s = j + 1 := by
  obtain ⟨i, hi, hmem, hmin⟩ := isLeast_line k s
  obtain ⟨hkj, hj⟩ := mem_occurrences_singleton.1 h.1
  have hsub : k + (j - k) = j := by omega
  have hij : i ≤ j - k := hmin (.inr (hsub.symm ▸ hj))
  have hnewline : s[k + i]? = some '\n' := by
    refine hmem.resolve_left fun hn => ?_
    have hlen := List.getElem?_eq_none_iff.1 hn
    have hlt := (List.getElem?_eq_some_iff.1 hj).1
    omega
  have hji : j ≤ k + i := h.2 (mem_occurrences_singleton.2 ⟨Nat.le_add_right _ _, hnewline⟩)
  omega

/-- A line without a newline ends one character beyond the text. -/
theorem lineComment_of_eq_empty (hk : k ≤ s.length) (h : occurrences ['\n'] s k = ∅) :
    lineComment k s = s.length + 1 := by
  obtain ⟨i, hi, hmem, hmin⟩ := isLeast_line k s
  have hlen : s.length ≤ k + i := by
    refine List.getElem?_eq_none_iff.1 (hmem.resolve_right fun hnewline => ?_)
    have hin : k + i ∈ occurrences ['\n'] s k :=
      mem_occurrences_singleton.2 ⟨Nat.le_add_right _ _, hnewline⟩
    rw [h] at hin
    exact hin
  have hend : s[k + (s.length - k)]? = none := List.getElem?_eq_none_iff.2 (by omega)
  have := hmin (.inl hend)
  omega

/-- Where no marker stands, nothing is skipped as a comment. -/
theorem comment_of_no_marker
    (h : ∀ marker ∈ ['/', '*'] :: lineMarkers .mySql, ¬ marker <+: s) : comment s = .ok 0 := by
  unfold comment
  split
  · exact absurd (List.prefix_append ['-', '-'] _) (h _ (by decide))
  · exact absurd (List.prefix_append ['/', '/'] _) (h _ (by decide))
  · exact absurd (List.prefix_append ['#'] _) (h _ (by decide))
  · exact absurd (List.prefix_append ['/', '*'] _) (h _ (by decide))
  · rfl

/-- What skipping a block of the text `s` comes to, if its marker ends at `k`: the place behind the
first `*/` from there on, or the error that there is none. -/
structure SkipsBlock (s : Text) (k : Nat) (r : Except LexError Nat) : Prop where
  ok (n : Nat) : r = .ok n ↔ ∃ j, IsLeast (occurrences ['*', '/'] s k) j ∧ n = j + 2
  error (e : LexError) :
    r = .error e ↔ e = .unterminatedBlock "*/" ∧ occurrences ['*', '/'] s k = ∅

/-- What skipping a line of the text `s` comes to, if its marker ends at `k`: the place behind the
first newline from there on, or one character beyond the text. -/
structure SkipsLine (s : Text) (k : Nat) (r : Except LexError Nat) : Prop where
  newline (j : Nat) : IsLeast (occurrences ['\n'] s k) j → r = .ok (j + 1)
  last : occurrences ['\n'] s k = ∅ → r = .ok (s.length + 1)
  total : ∃ n, r = .ok n

end Gap

namespace Cursor

open Gap (occurrences SkipsBlock SkipsLine)

variable {c : Cursor} {k : Nat}

theorem isLeast_rest {m : Text} {n : Nat} : IsLeast (occurrences m c.rest k) n ↔
    IsLeast (occurrences m c.input (c.offset + k)) (c.offset + n) :=
  Gap.isLeast_occurrences_drop.symm

theorem occurrences_rest_eq_empty {m : Text} :
    occurrences m c.rest k = ∅ ↔ occurrences m c.input (c.offset + k) = ∅ := by
  rw [← Set.not_nonempty_iff_eq_empty, ← Set.not_nonempty_iff_eq_empty, ← Gap.infix_drop_iff,
    ← Gap.infix_drop_iff, rest, List.drop_drop]

theorem moveOffset_eq_ok_iff {r : Except LexError Nat} {n : Nat} :
    c.moveOffset r = .ok n ↔ ∃ i, r = .ok i ∧ n = c.offset + i := by
  cases r <;> simp [moveOffset, eq_comm]

theorem moveOffset_eq_error_iff {r : Except LexError Nat} {e : LexError} :
    c.moveOffset r = .error e ↔ ∃ e', r = .error e' ∧ e = e'.shift c.offset := by
  cases r <;> simp [moveOffset, eq_comm]

theorem skipsBlock (c : Cursor) (k : Nat) :
    SkipsBlock c.input (c.offset + k) (c.moveOffset (Gap.block k c.rest)) := by
  constructor
  · intro n
    rw [moveOffset_eq_ok_iff]
    constructor
    · rintro ⟨i, hi, rfl⟩
      obtain ⟨j, hj, rfl⟩ := Gap.block_eq_ok_iff.1 hi
      exact ⟨c.offset + j, isLeast_rest.1 hj, rfl⟩
    · rintro ⟨j, hj, rfl⟩
      obtain ⟨i, rfl⟩ : ∃ i, j = c.offset + i :=
        Nat.exists_eq_add_of_le (Nat.le_of_add_right_le hj.1.1)
      exact ⟨i + 2, Gap.block_eq_ok_iff.2 ⟨i, isLeast_rest.2 hj, rfl⟩, rfl⟩
  · intro e
    rw [moveOffset_eq_error_iff]
    constructor
    · rintro ⟨e', he', rfl⟩
      obtain ⟨rfl, hempty⟩ := Gap.block_eq_error_iff_eq_empty.1 he'
      exact ⟨rfl, occurrences_rest_eq_empty.1 hempty⟩
    · rintro ⟨rfl, hempty⟩
      exact ⟨_, Gap.block_eq_error_iff_eq_empty.2 ⟨rfl, occurrences_rest_eq_empty.2 hempty⟩, rfl⟩

theorem skipsLine (hk : c.offset + k ≤ c.input.length) :
    SkipsLine c.input (c.offset + k) (c.moveOffset (.ok (Gap.lineComment k c.rest))) := by
  have hlen : c.rest.length = c.input.length - c.offset := List.length_drop
  constructor
  · intro j hj
    obtain ⟨i, rfl⟩ : ∃ i, j = c.offset + i :=
      Nat.exists_eq_add_of_le (Nat.le_of_add_right_le hj.1.1)
    rw [Gap.lineComment_of_isLeast (isLeast_rest.2 hj)]
    rfl
  · intro hempty
    rw [Gap.lineComment_of_eq_empty (by omega) (occurrences_rest_eq_empty.2 hempty)]
    have hend : c.offset + (c.rest.length + 1) = c.input.length + 1 := by omega
    exact congrArg Except.ok hend
  · exact ⟨_, rfl⟩

theorem isLeast_skipBlanks (c : Cursor) :
    IsLeast {i | c.offset ≤ i ∧ ∀ x ∈ c.input[i]?, isBlank x = false} c.skipBlanks := by
  have hget : ∀ i, c.rest[i]? = c.input[c.offset + i]? := fun i => List.getElem?_drop
  have h : IsLeast {i | ∀ x ∈ c.rest[i]?, isBlank x = false} (Gap.blanks c.rest) :=
    Gap.isLeast_takeWhile isBlank c.rest
  simp only [hget] at h
  refine Gap.isLeast_add_iff (a := c.offset) (k := 0)
    (P := fun i => ∀ x ∈ c.input[i]?, isBlank x = false) |>.2 ?_
  simpa using h

theorem le_skipComment {n : Nat} (h : c.skipComment = .ok n) : c.offset ≤ n := by
  obtain ⟨i, -, rfl⟩ := moveOffset_eq_ok_iff.1 h
  exact Nat.le_add_right _ _

/-! ## What stands at the cursor -/

theorem skipComment_of_block (hp : ['/', '*'] <+: c.rest) :
    c.skipComment = c.moveOffset (Gap.block 2 c.rest) := by
  obtain ⟨s, hs⟩ := hp
  rw [skipComment, ← hs]
  rfl

-- No dialect is asked, so `#` always begins a comment, as it does in MySQL.
theorem skipComment_of_line {marker : Text} (hm : marker ∈ Gap.lineMarkers .mySql)
    (hp : marker <+: c.rest) :
    c.skipComment = c.moveOffset (.ok (Gap.lineComment marker.length c.rest)) := by
  obtain ⟨s, hs⟩ := hp
  rw [skipComment, ← hs]
  simp only [Gap.lineMarkers, List.mem_cons, List.not_mem_nil, or_false] at hm
  rcases hm with rfl | rfl | rfl <;> rfl

theorem skipComment_of_no_marker
    (h : ∀ marker ∈ ['/', '*'] :: Gap.lineMarkers .mySql, ¬ marker <+: c.rest) :
    c.skipComment = .ok c.offset := by
  rw [skipComment, Gap.comment_of_no_marker h]
  rfl

theorem skipsLine_of_marker {marker : Text} (hm : marker ∈ Gap.lineMarkers .mySql)
    (hp : marker <+: c.rest) :
    SkipsLine c.input (c.offset + marker.length) c.skipComment := by
  have hpos := List.length_pos_iff.2 (Gap.ne_nil_of_marker (List.mem_cons_of_mem _ hm))
  have hle : marker.length ≤ c.input.length - c.offset := by
    rw [← List.length_drop]
    exact hp.length_le
  rw [skipComment_of_line hm hp]
  exact skipsLine (by omega)

end Cursor

/-- Where a block comment begins, skipping it comes to the place behind the first `*/` from the end
of its marker on, and fails if there is none; a hint is skipped in the same way, but for its marker,
which is one character longer. Where a line comment begins, skipping it comes to the place behind the
first newline from the end of its marker on, or one character beyond the text. Nothing else is
skipped as a comment. Blanks are skipped up to the first place without one. -/
theorem skips_to_first (c : Cursor) :
    (['/', '*'] <+: c.rest → Gap.SkipsBlock c.input (c.offset + 2) c.skipComment) ∧
      Gap.SkipsBlock c.input (c.offset + 3) c.skipHint ∧
      (∀ marker ∈ [['-', '-'], ['/', '/'], ['#']], marker <+: c.rest →
        Gap.SkipsLine c.input (c.offset + marker.length) c.skipComment) ∧
      ((∀ marker ∈ [['/', '*'], ['-', '-'], ['/', '/'], ['#']], ¬ marker <+: c.rest) →
        c.skipComment = .ok c.offset) ∧
      (∀ n, c.skipComment = .ok n → c.offset ≤ n) ∧
      IsLeast {i | c.offset ≤ i ∧ ∀ x ∈ c.input[i]?, isBlank x = false} c.skipBlanks := by
  refine ⟨fun hp => ?_, c.skipsBlock 3, fun _ => Cursor.skipsLine_of_marker,
    Cursor.skipComment_of_no_marker, fun n => Cursor.le_skipComment, c.isLeast_skipBlanks⟩
  rw [Cursor.skipComment_of_block hp]
  exact c.skipsBlock 2

end SqlLexis
