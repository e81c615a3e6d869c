import SqlLexis.Proofs.Gap
import SqlLexis.Proofs.Lexeme.Cut

/-!
# Looking ahead for `BY`

`ORDER` and `GROUP` look past blanks, and past blanks alone, at the two characters behind them
(`isBeforeBy`).

* `isBeforeBy_of_front`: these are `BY` just if the next token begins with them;
* `isBeforeBy_blanks`, `isBeforeBy_hasComment`: blanks are looked through, and a gap with a comment
  hides what follows;
* `isBeforeBy_cut`: what is behind the first blank after the next token does not count.
-/

namespace SqlLexis.Lexeme

open Gap (Ignorable Comment Trailing)

variable {dialect : Dialect} {d : Dictionary} {p : Option Char} {u x y : Text} {t : Token}

/-! ## The next token -/

theorem isAlpha_of_isUpper_toUpper {c : Char} (h : c.toUpper.isUpper = true) :
    c.isAlpha = true := by
  show (c.isUpper || c.isLower) = true
  unfold Char.toUpper at h
  split at h
  · next hc =>
    have hl : c.isLower = true := (Bool.decide_and ..).symm.trans (decide_eq_true hc)
    rw [hl, Bool.or_true]
  · rw [h, Bool.true_or]

theorem isBeforeBy_of_head {u : Text} (hu : ∀ c ∈ u.head?, isBlank c = false) (y : Text) :
    2 ≤ u.length → isBeforeBy (u ++ y) = sameWord (u.take 2) Keyword.BY.text.toList := by
  intro hl
  match u, hl with
  | a :: b :: u, _ =>
    have ha : isBlank a = false := hu a rfl
    rw [isBeforeBy, List.cons_append,
      List.dropWhile_cons_of_neg (by rw [ha]; exact Bool.false_ne_true)]
    rfl

/-- Whether `BY` begins a text shows in the token in front, of which it would be a part. -/
theorem isBeforeBy_of_front (h : front dialect d p (u ++ y) = .ok t) (hne : u ≠ [])
    (hu : t.endOffset = u.length) (hb : ∀ c ∈ u.head?, isBlank c = false) :
    isBeforeBy (u ++ y) = sameWord (u.take 2) Keyword.BY.text.toList := by
  obtain ⟨a, v, rfl⟩ := List.exists_cons_of_ne_nil hne
  cases v with
  | cons b v => exact isBeforeBy_of_head hb y (by simp)
  | nil =>
    have hr : sameWord ([a].take 2) Keyword.BY.text.toList = false := by
      simp [sameWord, upper, Keyword.text]
    rw [hr]
    cases y with
    | nil => simp [isBeforeBy, hb a rfl]
    | cons b y =>
      rw [List.singleton_append] at h ⊢
      have hs := isBeforeBy_of_head (u := [a, b]) hb y (by simp)
      rw [List.cons_append, List.singleton_append] at hs
      rw [hs]
      -- A word would take both characters.
      cases hab : sameWord ([a, b].take 2) Keyword.BY.text.toList with
      | false => rfl
      | true =>
        have hw : a.toUpper = 'B' ∧ b.toUpper = 'Y' := by
          simpa [sameWord, upper, Keyword.text] using hab
        have ha : a.isAlpha = true := isAlpha_of_isUpper_toUpper (by rw [hw.1]; rfl)
        have hb : b.isAlpha = true := isAlpha_of_isUpper_toUpper (by rw [hw.2]; rfl)
        have ho : Opening.of dialect p (a :: b :: y) = .word := by
          have h1 : a ≠ '@' := by rintro rfl; cases ha
          have h2 : a ≠ 'N' := by rintro rfl; exact absurd hw.1 (by decide)
          simp [Opening.of, isWordStart, ha, h1, h2]
        rw [front, ho] at h
        have hq : a ≠ backquote := by rintro rfl; cases ha
        simp only [word, List.head?_cons, Option.some.injEq, if_neg hq] at h
        rw [plainWord_eq] at h
        cases h
        simp [wordLength, isWordChar, ha, hb] at hu

/-! ## Gaps -/

theorem isBeforeBy_blank {c : Char} (hc : isBlank c = true) (s : Text) :
    isBeforeBy (c :: s) = isBeforeBy s := by
  rw [isBeforeBy, isBeforeBy, List.dropWhile_cons_of_pos hc]

theorem isBeforeBy_of_ne {c : Char} (hb : isBlank c = false) (hc : c.toUpper ≠ 'B') (s : Text) :
    isBeforeBy (c :: s) = false := by
  rw [isBeforeBy, List.dropWhile_cons_of_neg (by rw [hb]; exact Bool.false_ne_true)]
  cases s with
  | nil => rfl
  | cons c' s => simp [sameWord, upper, Keyword.text, hc]

theorem isBeforeBy_blanks {g : Text} (hg : ∀ c ∈ g, isBlank c = true) (s : Text) :
    isBeforeBy (g ++ s) = isBeforeBy s := by
  induction g with
  | nil => rfl
  | cons c g ih =>
    rw [List.cons_append, isBeforeBy_blank (hg c List.mem_cons_self),
      ih fun x hx => hg x (List.mem_cons_of_mem _ hx)]

theorem isBeforeBy_of_blanks {s : Text} (h : ∀ c ∈ s, isBlank c = true) : isBeforeBy s = false := by
  rw [← List.append_nil s, isBeforeBy_blanks h]
  rfl

theorem isBeforeBy_marker {marker : Text} (hm : marker ∈ ['/', '*'] :: Gap.lineMarkers dialect)
    (s : Text) : isBeforeBy (marker ++ s) = false := by
  cases dialect <;>
    simp only [Gap.lineMarkers, List.mem_cons, List.not_mem_nil, or_false] at hm <;>
    rcases hm with rfl | rfl | rfl | rfl <;> exact isBeforeBy_of_ne (by decide) (by decide) _

theorem isBeforeBy_comment {c : Text} (hc : Comment dialect c) (s : Text) :
    isBeforeBy (c ++ s) = false := by
  cases hc with
  | @line marker body hm hb =>
    rw [List.append_assoc, List.append_assoc]
    exact isBeforeBy_marker (List.mem_cons_of_mem _ hm) _
  | block hb =>
    rw [List.append_assoc, List.append_assoc]
    exact isBeforeBy_marker (List.mem_cons_self (l := Gap.lineMarkers dialect)) _

/-- A gap with a comment or a hint among its parts. -/
def HasComment (dialect : Dialect) (g : Text) : Prop :=
  ∃ before c after, g = before ++ (c ++ after) ∧ Ignorable dialect before ∧ Comment dialect c ∧
    Ignorable dialect after

theorem isBeforeBy_hasComment {g : Text} (hg : HasComment dialect g) (s : Text) :
    isBeforeBy (g ++ s) = false := by
  obtain ⟨before, c, after, rfl, hb, hc, -⟩ := hg
  rw [List.append_assoc]
  induction hb with
  | nil =>
    rw [List.nil_append, List.append_assoc]
    exact isBeforeBy_comment hc _
  | blank hx _ ih => rw [List.cons_append, isBeforeBy_blank hx, ih]
  | comment hc' _ _ =>
    rw [List.append_assoc]
    exact isBeforeBy_comment hc' _

/-- A gap is made of blanks alone, or it has a comment. -/
theorem blanks_or_hasComment {g : Text} (hg : Ignorable dialect g) :
    (∀ c ∈ g, isBlank c = true) ∨ HasComment dialect g := by
  induction hg with
  | nil => exact .inl (List.forall_mem_nil _)
  | @blank c g hc _ ih =>
    rcases ih with h | ⟨before, com, after, rfl, hb, hcom, ha⟩
    · exact .inl (List.forall_mem_cons.2 ⟨hc, h⟩)
    · exact .inr ⟨c :: before, com, after, rfl, .blank hc hb, hcom, ha⟩
  | @comment c g hc hg _ => exact .inr ⟨[], c, g, rfl, .nil, hc, hg⟩

/-- A gap is looked through, or it has a comment and hides what follows. -/
theorem isBeforeBy_gap {g : Text} (hg : Ignorable dialect g) (s : Text) :
    isBeforeBy (g ++ s) = isBeforeBy s ∨ HasComment dialect g ∧ isBeforeBy (g ++ s) = false := by
  rcases blanks_or_hasComment hg with h | h
  · exact .inl (isBeforeBy_blanks h s)
  · exact .inr ⟨h, isBeforeBy_hasComment h s⟩

/-- What a text may end with has no `BY`. -/
theorem isBeforeBy_trailing {s : Text} (hs : Trailing dialect s) : isBeforeBy s = false := by
  rcases hs with hs | ⟨g, marker, body, hg, hm, -, rfl⟩
  · rcases isBeforeBy_gap hs [] with h | ⟨-, h⟩ <;> rw [List.append_nil] at h
    · exact h
    · exact h
  · rcases isBeforeBy_gap hg (marker ++ body) with h | ⟨-, h⟩
    · rw [h]
      exact isBeforeBy_marker (List.mem_cons_of_mem _ hm) _
    · exact h

/-- What follows a blank does not count, unless there are blanks alone before it. -/
theorem isBeforeBy_cut {s : Text} (hy : Breaks y) :
    isBeforeBy (s ++ y) = isBeforeBy s ∨
      (∀ c ∈ s, isBlank c = true) ∧ isBeforeBy (s ++ y) = isBeforeBy y := by
  induction s with
  | nil => exact .inr ⟨List.forall_mem_nil _, rfl⟩
  | cons c s ih =>
    rw [List.cons_append]
    by_cases hc : isBlank c = true
    · rw [isBeforeBy_blank hc, isBeforeBy_blank hc]
      rcases ih with ih | ⟨hs, ih⟩
      · exact .inl ih
      · exact .inr ⟨List.forall_mem_cons.2 ⟨hc, hs⟩, ih⟩
    · have hb : ∀ x ∈ (c :: s).head?, isBlank x = false := by simpa using hc
      left
      cases s with
      | cons c' s =>
        have h := isBeforeBy_of_head hb [] (by simp)
        rw [List.append_nil] at h
        rw [← List.cons_append, isBeforeBy_of_head hb y (by simp), h]
      | nil =>
        have hn : isBeforeBy [c] = false := by simp [isBeforeBy, hb c rfl]
        cases y with
        | nil => rfl
        | cons b y =>
          -- A blank is no second letter of `BY`.
          have hy : b.toUpper ≠ 'Y' := fun h => by
            have hu : b.toUpper.isUpper = true := by rw [h]; rfl
            have := visible_isAlpha.of_isBlank (hy b rfl)
            rw [isAlpha_of_isUpper_toUpper hu] at this
            cases this
          have h := isBeforeBy_of_head (u := [c, b]) hb y (by simp)
          rw [List.cons_append, List.singleton_append] at h
          rw [List.nil_append, h, hn]
          simp [sameWord, upper, Keyword.text, hy]

end SqlLexis.Lexeme
