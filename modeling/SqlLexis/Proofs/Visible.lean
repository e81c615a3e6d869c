import SqlLexis.Character

/-!
# Characters that show

A blank is in none of the other classes, as the characters of those show:

* `Visible`: a class of characters that show, with the lemmas named `visible_` for each class;
* `Visible.of_isBlank`: a blank is in no such class.
-/

namespace SqlLexis

/-- A character that shows: of ASCII, and neither the space nor a control character. -/
def isVisible (c : Char) : Bool := ' ' < c && c < '\x7f'

/-- A class of characters that show. -/
def Visible (p : Char → Bool) : Prop := ∀ c, p c = true → isVisible c = true

variable {p q : Char → Bool}

theorem visible_between {a b : Char} (ha : isVisible a = true) (hb : isVisible b = true) :
    Visible fun c => a ≤ c && c ≤ b := by
  intro c h
  simp only [isVisible, Bool.and_eq_true, decide_eq_true_eq, Char.lt_def, Char.le_def,
    UInt32.lt_iff_toNat_lt, UInt32.le_iff_toNat_le] at ha hb h ⊢
  omega

theorem visible_beq {x : Char} (hx : isVisible x = true) : Visible (· == x) := fun _ h => by
  rwa [beq_iff_eq.1 h]

theorem Visible.or (hp : Visible p) (hq : Visible q) : Visible fun c => p c || q c := fun c h =>
  ((Bool.or_eq_true_iff ..).1 h).elim (hp c) (hq c)

theorem visible_isDigit : Visible Char.isDigit :=
  visible_between (a := '0') (b := '9') (by decide) (by decide)

theorem visible_isAlpha : Visible Char.isAlpha := by
  have hu : Visible Char.isUpper := fun c h =>
    visible_between (a := 'A') (b := 'Z') (by decide) (by decide) c
      ((Bool.decide_and ..).symm.trans h)
  have hl : Visible Char.isLower := visible_between (a := 'a') (b := 'z') (by decide) (by decide)
  exact hu.or hl

theorem visible_isWordChar : Visible isWordChar :=
  (((visible_isAlpha.or visible_isDigit).or (visible_beq (by decide))).or
    (visible_beq (by decide))).or (visible_beq (by decide))

theorem visible_isVariableChar : Visible isVariableChar :=
  visible_isWordChar.or (visible_beq (by decide))

theorem visible_isHexDigit : Visible isHexDigit :=
  (visible_isDigit.or (visible_between (by decide) (by decide))).or
    (visible_between (by decide) (by decide))

theorem visible_isOperatorChar : Visible isOperatorChar := fun c h => by
  have hall : operatorChars.all isVisible = true := by decide
  exact List.all_eq_true.1 hall c (List.contains_iff_mem.1 h)

theorem isBlank_of_isVisible {c : Char} (h : isVisible c = true) : isBlank c = false := by
  simp only [isVisible, Bool.and_eq_true, decide_eq_true_eq, Char.lt_def,
    UInt32.lt_iff_toNat_lt] at h
  simp only [isBlank, Bool.or_eq_false_iff, Bool.and_eq_false_iff, decide_eq_false_iff_not,
    Char.le_def, UInt32.le_iff_toNat_le]
  omega

/-- A blank does not show. -/
theorem Visible.of_isBlank (hp : Visible p) {c : Char} (h : isBlank c = true) : p c = false := by
  cases hc : p c with
  | false => rfl
  | true =>
    rw [isBlank_of_isVisible (hp c hc)] at h
    cases h

theorem ne_of_isBlank {c x : Char} (h : isBlank c = true) (hx : isBlank x = false) : c ≠ x := by
  rintro rfl
  rw [h] at hx
  cases hx

end SqlLexis
