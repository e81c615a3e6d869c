import Mathlib.Data.Prod.Lex
import Mathlib.Order.Bounds.Basic
import SqlLexis.Proofs.Position

/-!
# Lines and offsets

A place counts the lines of a text as newlines split it, and the newline is the last column of its
line. So a line and a column belong to one offset.

* `Position.of_cons`: a place in a text by the place in the text behind its first character;
* `Position.within_of`: a place lies in a line of the text, and its offset is counted from where
  that line begins;
* `Position.identifies_offset`: what a place tells about its offset, for all offsets of a text.
-/

namespace SqlLexis

namespace Position

variable {s : Text} {c : Char} {i j n k : Nat}

/-- The lines of a text, without the newlines that end them. -/
def lines (s : Text) : List Text := s.splitOn '\n'

/-- The offset at which the line behind `n` others begins: each of these has a newline at its
end. -/
def lineStart (s : Text) (n : Nat) : Nat := (((lines s).take n).flatMap (· ++ ['\n'])).length

/-- The offset `i` has `k` characters of its line before it, and `n` lines. Behind the last
character of a line stands its newline, or the text ends. -/
def Within (s : Text) (n k i : Nat) : Prop :=
  ∃ l, (lines s)[n]? = some l ∧ k ≤ l.length ∧ lineStart s n + k = i

/-! ## Lines -/

theorem lines_ne_nil (s : Text) : lines s ≠ [] := List.splitOnP_ne_nil _ s

theorem lines_newline (s : Text) : lines ('\n' :: s) = [] :: lines s := by
  rw [lines, List.splitOn, List.splitOnP_cons_eq_if_modifyHead, if_pos (beq_self_eq_true _)]
  rfl

theorem lines_cons (hc : c ≠ '\n') (s : Text) : lines (c :: s) = (lines s).modifyHead (c :: ·) := by
  rw [lines, List.splitOn, List.splitOnP_cons_eq_if_modifyHead,
    if_neg fun h => hc (beq_iff_eq.1 h)]
  rfl

theorem within_zero (s : Text) : Within s 0 0 0 := by
  obtain ⟨l, ls, hl⟩ := List.exists_cons_of_ne_nil (lines_ne_nil s)
  exact ⟨l, by rw [hl, List.getElem?_cons_zero], Nat.zero_le _, rfl⟩

theorem Within.newline (h : Within s n k i) : Within ('\n' :: s) (n + 1) k (i + 1) := by
  obtain ⟨l, hl, hk, hi⟩ := h
  refine ⟨l, ?_, hk, ?_⟩
  · rw [lines_newline, List.getElem?_cons_succ, hl]
  · rw [lineStart] at hi ⊢
    rw [lines_newline, List.take_succ_cons, List.flatMap_cons, List.length_append]
    show 1 + _ + k = i + 1
    omega

theorem Within.cons (hc : c ≠ '\n') (h : Within s n k i) :
    Within (c :: s) n (if n = 0 then k + 1 else k) (i + 1) := by
  obtain ⟨l, hl, hk, hi⟩ := h
  obtain ⟨first, ls, hls⟩ := List.exists_cons_of_ne_nil (lines_ne_nil s)
  have hcons : lines (c :: s) = (c :: first) :: ls := by rw [lines_cons hc, hls]; rfl
  rw [hls] at hl
  cases n with
  | zero =>
    have hfirst : first = l := by simpa using hl
    rw [if_pos rfl]
    refine ⟨c :: l, by rw [hcons, hfirst, List.getElem?_cons_zero], ?_, ?_⟩
    · rw [List.length_cons]
      exact Nat.succ_le_succ hk
    · show 0 + (k + 1) = i + 1
      have : 0 + k = i := hi
      omega
  | succ n =>
    rw [if_neg (Nat.succ_ne_zero n)]
    refine ⟨l, by rw [hcons, List.getElem?_cons_succ, ← hl, List.getElem?_cons_succ], hk, ?_⟩
    rw [lineStart, hls, List.take_succ_cons, List.flatMap_cons, List.length_append] at hi
    rw [lineStart, hcons, List.take_succ_cons, List.flatMap_cons, List.length_append,
      List.cons_append, List.length_cons]
    omega

/-! ## Places -/

theorem counted_of (s : Text) (i : Nat) : (of s i).Counted := by
  rw [of_eq]
  exact ⟨Nat.le_add_right 1 _, Nat.le_add_right 1 _⟩

/-- A place in a text by the place in the text behind its first character: a newline is a line
more, and another character is a column more in the first line. -/
theorem of_cons (c : Char) (s : Text) (i : Nat) : of (c :: s) (i + 1) =
    if c = '\n' then ⟨(of s i).line + 1, (of s i).column, i + 1⟩
    else ⟨(of s i).line, if (of s i).line ≤ 1 then (of s i).column + 1 else (of s i).column,
      i + 1⟩ := by
  have h := of_append [c] s i
  rw [List.length_singleton, Nat.add_comm 1 i, List.singleton_append] at h
  obtain ⟨hline, hcolumn⟩ := counted_of s i
  rw [h, behind]
  by_cases hc : c = '\n'
  · have hp : of [c] 1 = ⟨2, 1, 1⟩ := by rw [hc]; rfl
    have hline' : 2 + (of s i).line - 1 = (of s i).line + 1 := by omega
    have hcolumn' : 1 + (of s i).column - 1 = (of s i).column := by omega
    simp only [hp, if_pos hc, hline', hcolumn', ite_self]
    rw [Nat.add_comm 1]
    rfl
  · have hp : of [c] 1 = ⟨1, 2, 1⟩ := by simp [of, advance, start, hc]
    have hline' : 1 + (of s i).line - 1 = (of s i).line := by omega
    have hcolumn' : 2 + (of s i).column - 1 = (of s i).column + 1 := by omega
    simp only [hp, if_neg hc, hline', hcolumn']
    rw [Nat.add_comm 1]
    rfl

/-- A place lies in a line of the text, and its offset is counted from where that line begins. -/
theorem within_of (hi : i ≤ s.length) : Within s ((of s i).line - 1) ((of s i).column - 1) i := by
  induction s generalizing i with
  | nil =>
    obtain rfl : i = 0 := Nat.le_zero.1 hi
    exact within_zero []
  | cons c s ih =>
    cases i with
    | zero => exact within_zero _
    | succ i =>
      have h := ih (Nat.le_of_succ_le_succ hi)
      obtain ⟨hline, hcolumn⟩ := counted_of s i
      rw [of_cons]
      generalize of s i = q at h hline hcolumn ⊢
      by_cases hc : c = '\n'
      · have hnewline := h.newline
        rw [Nat.sub_add_cancel hline] at hnewline
        rw [if_pos hc, hc]
        exact hnewline
      · have hcons := h.cons hc
        rw [Nat.sub_add_cancel hcolumn] at hcons
        have hcolumn' : (if q.line ≤ 1 then q.column + 1 else q.column) - 1 =
            if q.line - 1 = 0 then q.column else q.column - 1 := by split <;> split <;> omega
        rw [if_neg hc]
        show Within (c :: s) (q.line - 1) ((if q.line ≤ 1 then q.column + 1 else q.column) - 1) _
        rw [hcolumn']
        exact hcons

/-! ## Where a line begins -/

/-- A line begins at the start of a text and behind every newline. -/
def BeginsLine (s : Text) (j : Nat) : Prop := j = 0 ∨ ∃ k, j = k + 1 ∧ s[k]? = some '\n'

/-- The text in front of the line that an offset lies in. -/
def linesBefore (s : Text) (i : Nat) : Text := (s.take i).rdropWhile (· ≠ '\n')

/-- The part of its line in front of an offset. -/
def lineBefore (s : Text) (i : Nat) : Text := (s.take i).rtakeWhile (· ≠ '\n')

theorem linesBefore_append_lineBefore (s : Text) (i : Nat) :
    linesBefore s i ++ lineBefore s i = s.take i :=
  List.rdropWhile_append_rtakeWhile ..

theorem getElem?_of_lt (hk : k < i) : s[k]? = (linesBefore s i ++ lineBefore s i)[k]? := by
  rw [linesBefore_append_lineBefore, List.getElem?_take_of_lt hk]

theorem length_linesBefore_add (hi : i ≤ s.length) :
    (linesBefore s i).length + (lineBefore s i).length = i := by
  rw [← List.length_append, linesBefore_append_lineBefore, List.length_take, Nat.min_eq_left hi]

theorem beginsLine_linesBefore (hi : i ≤ s.length) : BeginsLine s (linesBefore s i).length := by
  by_cases hne : linesBefore s i = []
  · exact .inl (by rw [hne, List.length_nil])
  · have hpos := List.length_pos_iff.2 hne
    have hle := length_linesBefore_add hi
    have hlast : (linesBefore s i).getLast hne = '\n' := Decidable.not_not.1 fun h =>
      List.rdropWhile_last_not _ _ hne (decide_eq_true h)
    refine .inr ⟨(linesBefore s i).length - 1, by omega, ?_⟩
    rw [getElem?_of_lt (i := i) (by omega), List.getElem?_append_left (by omega),
      ← List.getLast?_eq_getElem?, List.getLast?_eq_some_getLast hne, hlast]

/-- No line begins behind that place and at or before the offset. -/
theorem BeginsLine.le (h : BeginsLine s j) (hj : j ≤ i) : j ≤ (linesBefore s i).length := by
  rcases h with rfl | ⟨k, rfl, hk⟩
  · exact Nat.zero_le _
  · by_contra hlt
    rw [getElem?_of_lt hj, List.getElem?_append_right (by omega)] at hk
    have hmem := List.mem_rtakeWhile_imp (List.mem_of_getElem? hk)
    simp at hmem

/-- The column is counted from the last place at or before the offset where a line begins. -/
theorem isGreatest_beginsLine (hi : i ≤ s.length) : ∃ start,
    IsGreatest {j | BeginsLine s j ∧ j ≤ i} start ∧ (of s i).column = 1 + (i - start) := by
  have hlength := length_linesBefore_add hi
  refine ⟨(linesBefore s i).length, ⟨⟨beginsLine_linesBefore hi, by omega⟩, ?_⟩, ?_⟩
  · exact fun j ⟨h, hj⟩ => h.le hj
  · rw [of_eq]
    show 1 + (lineBefore s i).length = _
    omega

/-! ## All offsets -/

/-- What the place of an offset tells about it. -/
structure Locates (s : Text) (i : Nat) (p : Position) : Prop where
  line : p.line = 1 + (s.take i).count '\n'
  column : ∃ start, IsGreatest {j | BeginsLine s j ∧ j ≤ i} start ∧ p.column = 1 + (i - start)
  offset : p.offset = i
  within : ∃ l, (lines s)[p.line - 1]? = some l ∧ p.column ≤ l.length + 1
  back : lineStart s (p.line - 1) + (p.column - 1) = i

theorem locates_of (hi : i ≤ s.length) : Locates s i (of s i) := by
  obtain ⟨l, hl, hk, hback⟩ := within_of hi
  constructor
  case line => rw [of_eq]
  case column => exact isGreatest_beginsLine hi
  case offset => rw [of_eq]
  case within => exact ⟨l, hl, by omega⟩
  case back => exact hback

/-- The line and the column go up with the offset. -/
theorem toLex_of_lt (hij : i < j) (hj : j ≤ s.length) :
    toLex ((of s i).line, (of s i).column) < toLex ((of s j).line, (of s j).column) := by
  have hi := locates_of (hij.le.trans hj)
  have hj := locates_of hj
  have hcount : (s.take i).count '\n' ≤ (s.take j).count '\n' :=
    (List.take_prefix_take_left hij.le).sublist.count_le _
  have hline : (of s i).line ≤ (of s j).line := by rw [hi.line, hj.line]; omega
  rw [Prod.Lex.toLex_lt_toLex]
  rcases Nat.lt_or_eq_of_le hline with hlt | heq
  · exact .inl hlt
  · refine .inr ⟨heq, ?_⟩
    have hbi := hi.back
    have hbj := hj.back
    show (of s i).column < (of s j).column
    rw [← heq] at hbj
    omega

/-- Past the end of a text the line and the column are those of the end. -/
theorem of_past (hi : s.length < i) :
    of s i = ⟨(of s s.length).line, (of s s.length).column, i⟩ := by
  rw [of_eq, of_eq, List.take_of_length_le hi.le, List.take_length]

/-- The line and the column of an offset within a text, or at its end, go up with the offset and
lead back to it. Further on they stay as they are. -/
theorem identifies_offset (s : Text) :
    (∀ i ≤ s.length, Locates s i (of s i)) ∧
      StrictMonoOn (fun i => toLex ((of s i).line, (of s i).column)) (Set.Iic s.length) ∧
      Set.InjOn (fun i => ((of s i).line, (of s i).column)) (Set.Iic s.length) ∧
      ∀ i, s.length < i → of s i = ⟨(of s s.length).line, (of s s.length).column, i⟩ := by
  have hmono : StrictMonoOn (fun i => toLex ((of s i).line, (of s i).column))
      (Set.Iic s.length) := fun i _ j hj hij => toLex_of_lt hij hj
  refine ⟨fun i hi => locates_of hi, hmono, ?_, fun i hi => of_past hi⟩
  exact fun i hi j hj h => hmono.injOn hi hj (congrArg toLex h)

end Position

end SqlLexis
