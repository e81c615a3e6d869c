import SqlLexis.Proofs.Lexeme.Scan

/-!
# Lexemes that end before a blank

Most lexemes are as long as their characters go on: a word takes letters until one is missing. So
the end of a lexeme shows in the character behind it, and a blank there ends every one of them.

* `Settled`: a count of characters at the start of a text that they settle themselves, when
  nothing or a blank follows them (`Breaks`);
* `Scan.settled`: a count is settled if the characters of its classes show, which is so for the
  lengths of all lexemes.
-/

namespace SqlLexis

/-- Nothing follows, or a blank does. -/
def Breaks (s : Text) : Prop := ∀ c ∈ s.head?, isBlank c = true

/-- What comes after the characters that are counted does not matter, as long as it is nothing or a
blank. -/
structure Settled (f : Text → Nat) : Prop where
  cut {u x y : Text} (hu : f (u ++ x) ≤ u.length) (hy : Breaks y) : f (u ++ y) = f (u ++ x)

namespace Settled

variable {f g : Text → Nat} {p : Char → Bool}

/-- A count that goes on behind a character that shows. -/
theorem lead (hp : Visible p) (hg : Settled g) (hnil : f [] = 0)
    (hcons : ∀ c s, f (c :: s) = if p c then 1 + g s else 0) : Settled f := by
  refine ⟨fun {u x y} hu hy => ?_⟩
  cases u with
  | nil =>
    have hx : f x = 0 := Nat.le_zero.1 hu
    rw [List.nil_append, List.nil_append, hx]
    cases y with
    | nil => exact hnil
    | cons c y => rw [hcons, hp.of_isBlank (hy c rfl), if_neg Bool.false_ne_true]
  | cons c u =>
    rw [List.cons_append, hcons] at hu
    rw [List.cons_append, List.cons_append, hcons, hcons]
    cases hc : p c with
    | false => rfl
    | true =>
      rw [hc, if_pos rfl, List.length_cons] at hu
      have e : g (u ++ y) = g (u ++ x) := hg.cut (by omega) hy
      rw [if_pos rfl, if_pos rfl, e]

/-- A count of one part and then another. -/
theorem seq (hf : Settled f) (hg : Settled g) : Settled fun s => f s + g (s.drop (f s)) := by
  refine ⟨fun {u x y} hu hy => ?_⟩
  change f (u ++ x) + g ((u ++ x).drop (f (u ++ x))) ≤ u.length at hu
  have hfu : f (u ++ x) ≤ u.length := by omega
  have ef : f (u ++ y) = f (u ++ x) := hf.cut hfu hy
  simp only [ef, List.drop_append_of_le_length hfu] at hu ⊢
  have eg : g (u.drop (f (u ++ x)) ++ y) = g (u.drop (f (u ++ x)) ++ x) :=
    hg.cut (by rw [List.length_drop]; omega) hy
  rw [eg]

/-- The same for a count that begins behind `k` characters. -/
theorem cut_drop (hf : Settled f) {k : Nat} {u x y : Text}
    (hu : k + f ((u ++ x).drop k) ≤ u.length) (hy : Breaks y) :
    f ((u ++ y).drop k) = f ((u ++ x).drop k) := by
  have hk : k ≤ u.length := by omega
  rw [List.drop_append_of_le_length hk] at hu ⊢
  rw [List.drop_append_of_le_length hk]
  exact hf.cut (by rw [List.length_drop]; omega) hy

theorem takeWhile (hp : Visible p) : Settled fun s => (s.takeWhile p).length := by
  refine ⟨fun {u x y} hu hy => ?_⟩
  induction u with
  | nil =>
    have hx : (x.takeWhile p).length = 0 := Nat.le_zero.1 hu
    cases y with
    | nil => exact hx.symm
    | cons c y =>
      simp only [List.nil_append, List.takeWhile_cons, hp.of_isBlank (hy c rfl)]
      exact hx.symm
  | cons c u ih =>
    simp only [List.cons_append, List.takeWhile_cons] at hu ih ⊢
    cases hc : p c with
    | false => rfl
    | true =>
      simp only [hc, if_true, List.length_cons] at hu ⊢
      rw [ih (by omega)]

end Settled

namespace Lexeme

variable {classes : List (Char → Bool)} {f : Text → Nat}

/-- A count is settled if the characters of its classes show. -/
theorem Scan.settled (h : Scan classes f) (hp : ∀ p ∈ classes, Visible p) : Settled f := by
  induction h with
  | zero => exact ⟨fun _ _ => rfl⟩
  | lead hm _ hnil hcons ih => exact .lead (hp _ hm) ih hnil hcons
  | seq _ _ ihf ihg => exact .seq ihf ihg
  | takeWhile hm => exact .takeWhile (hp _ hm)

theorem settled_whole : Settled whole :=
  (scan_whole (by simp [numberClasses]) (by simp [numberClasses])).settled visible_numberClasses

theorem settled_numberLength : Settled numberLength :=
  scan_numberLength.settled visible_numberClasses

theorem settled_wordLength : Settled wordLength :=
  scan_wordLength.settled (by simpa using visible_isWordChar)

theorem settled_hexLength : Settled hexLength := scan_hexLength.settled visible_hexClasses

theorem settled_varLength : Settled varLength := scan_varLength.settled visible_varClasses

end Lexeme

end SqlLexis
