import SqlLexis.Proofs.Gap

/-!
# How far a gap goes

Skipping goes as far as it can, and it comes to an end:

* `longest_iff`: what is skipped is the longest start of the text that can be skipped;
* `rounds_skip`, `Rounds.le_length`: skipping comes to its end in rounds, and takes no more of them
  than there are characters.
-/

namespace SqlLexis.Gap

variable {d : Dialect} {s g : Text}

/-- A start of a text that can be skipped: blanks, comments and hints with their ends, or the whole
text if it ends inside a line comment. -/
def Skippable (d : Dialect) (s g : Text) : Prop :=
  g <+: s ∧ (Ignorable d g ∨ g = s ∧ Trailing d s)

/-- The longest start of a text that can be skipped. -/
def Longest (d : Dialect) (s g : Text) : Prop :=
  Skippable d s g ∧ ∀ h, Skippable d s h → h.length ≤ g.length

theorem skippable_skip (d : Dialect) (s : Text) : Skippable d s (s.take (skip d s).length) := by
  have hs := skips (d := d) s
  generalize skip d s = k at hs
  refine ⟨List.take_prefix _ _, ?_⟩
  cases hs with
  | clear hg _ => rw [List.take_left]; exact .inl hg
  | inLine hg hm hb =>
    rw [List.take_of_length_le (Nat.le_succ _)]
    exact .inr ⟨rfl, .inr ⟨_, _, _, hg, hm, hb, rfl⟩⟩
  | atBlock hg _ => rw [List.take_left]; exact .inl hg

theorem Ignorable.length_le_skip (hg : Ignorable d g) (s : Text) :
    g.length ≤ (skip d (g ++ s)).length := by
  rw [skip_append hg]
  exact Nat.le_add_right _ _

theorem Trailing.length_le_skip (hs : Trailing d s) : s.length ≤ (skip d s).length := by
  rcases hs with hs | ⟨g, marker, body, hg, hm, hb, rfl⟩
  · simpa using hs.length_le_skip []
  · rw [skip_append hg, skip_line hm hb, List.length_append]
    exact Nat.add_le_add_left (Nat.le_succ _) _

/-- What is skipped is the longest start that can be skipped. -/
theorem longest_iff : Longest d s g ↔ g = s.take (skip d s).length := by
  have hmax : ∀ h, Skippable d s h → h.length ≤ (s.take (skip d s).length).length := by
    intro h hh
    have hk : h.length ≤ (skip d s).length := by
      rcases hh with ⟨⟨t, rfl⟩, hi | ⟨hs, ht⟩⟩
      · exact hi.length_le_skip t
      · exact hs ▸ ht.length_le_skip
    rw [List.length_take]
    exact Nat.le_min.2 ⟨hk, hh.1.length_le⟩
  constructor
  · intro hg
    have hle := hg.2 _ (skippable_skip d s)
    have hp := List.prefix_of_prefix_length_le hg.1.1 (List.take_prefix _ _) (hmax g hg.1)
    exact hp.eq_of_length_le hle
  · rintro rfl
    exact ⟨skippable_skip d s, hmax⟩

/-- There is one longest start. -/
theorem Longest.unique {h : Text} (hg : Longest d s g) : Longest d s h ↔ h = g := by
  rw [longest_iff, ← longest_iff.1 hg]

/-! ## Rounds -/

/-- Skipping in rounds, `k` of them, up to a rest: each round takes the blanks in front and the span
behind them, until there is no span with an end. -/
inductive Rounds (d : Dialect) : Text → Nat → Text → Prop where
  | stop {s : Text} (h : ∀ n, span? d (s.drop (blanks s)) ≠ some (.ok n)) :
    Rounds d s 0 (s.drop (blanks s))
  | round {s rest : Text} {n k : Nat} (h : span? d (s.drop (blanks s)) = some (.ok n))
    (hr : Rounds d ((s.drop (blanks s)).drop n) k rest) : Rounds d s (k + 1) rest

/-- A span takes at least one character. -/
theorem length_drop_span_lt {n : Nat} (h : span? d (s.drop (blanks s)) = some (.ok n)) :
    ((s.drop (blanks s)).drop n).length < s.length := by
  have hpos := span?_pos h
  have hne := List.length_pos_iff.2 (ne_nil_of_span? h)
  simp only [List.length_drop] at hne ⊢
  omega

/-- There are no more rounds than characters that they take. -/
theorem Rounds.le_length {k : Nat} {rest : Text} (h : Rounds d s k rest) :
    k + rest.length ≤ s.length := by
  induction h with
  | stop => simp
  | round h _ ih =>
    have hlt := length_drop_span_lt h
    omega

/-- Skipping comes to its end in rounds. -/
theorem rounds_skip (d : Dialect) (s : Text) : ∃ k, Rounds d s k (s.drop (skip d s).length) := by
  induction s using skip.induct d with
  | case1 s _ hs =>
    rw [skip_of_none hs]
    exact ⟨0, .stop fun n hn => by rw [hs] at hn; cases hn⟩
  | case2 s _ e hs =>
    rw [skip_of_error hs]
    exact ⟨0, .stop fun n hn => by rw [hs] at hn; cases hn⟩
  | case3 s _ n hs ih =>
    obtain ⟨k, hk⟩ := ih
    refine ⟨k + 1, .round hs ?_⟩
    rwa [skip_of_ok hs, Skipped.after, ← List.drop_drop, ← List.drop_drop]

end SqlLexis.Gap
