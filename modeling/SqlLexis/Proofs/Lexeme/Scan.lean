import Mathlib.Data.List.TakeWhile
import SqlLexis.Lexeme.Number
import SqlLexis.Lexeme.Word
import SqlLexis.Proofs.Visible

/-!
# Lexemes part by part

A lexeme is as long as its parts together, and a part goes on while the characters are of its class.
`Scan` says so of a count of characters at the start of a text, so that a property of such counts is
proved once for each way to put one together.

* `scan_numberLength`, `scan_hexLength`, `scan_varLength`, `scan_wordLength`: the lengths of the
  lexemes, with the classes of their parts;
* `Scan.le_length`: no more characters are counted than there are;
* `Scan.of_mem_take`, `Scan.not_mem_take`: what is counted is of one of the classes;
* `Scan.isVisible`: so it shows, since all classes are of characters that show.
-/

namespace SqlLexis.Lexeme

/-- A count of characters at the start of a text, put together of parts that are of some classes. -/
inductive Scan (classes : List (Char → Bool)) : (Text → Nat) → Prop where
  /-- Nothing is counted. -/
  | zero : Scan classes fun _ => 0
  /-- One character of a class is counted, and then what follows it. -/
  | lead {f g : Text → Nat} {p : Char → Bool} (hp : p ∈ classes) (hg : Scan classes g)
    (hnil : f [] = 0) (hcons : ∀ c s, f (c :: s) = if p c then 1 + g s else 0) : Scan classes f
  /-- One part is counted, and then another. -/
  | seq {f g : Text → Nat} (hf : Scan classes f) (hg : Scan classes g) :
    Scan classes fun s => f s + g (s.drop (f s))
  /-- All characters of a class are counted. -/
  | takeWhile {p : Char → Bool} (hp : p ∈ classes) : Scan classes fun s => (s.takeWhile p).length

variable {classes : List (Char → Bool)} {f : Text → Nat}

/-- No more is counted than there is. -/
theorem Scan.le_length (h : Scan classes f) (s : Text) : f s ≤ s.length := by
  induction h generalizing s with
  | zero => exact Nat.zero_le _
  | lead hp hg hnil hcons ih =>
    cases s with
    | nil => exact Nat.le_of_eq hnil
    | cons c s =>
      have := ih s
      rw [hcons, List.length_cons]
      split <;> omega
  | @seq f g hf hg ihf ihg =>
    have := ihf s
    have := ihg (s.drop (f s))
    rw [List.length_drop] at this
    show f s + g (s.drop (f s)) ≤ s.length
    omega
  | takeWhile hp => exact (List.takeWhile_sublist _).length_le

/-- What is counted is of one of the classes. -/
theorem Scan.of_mem_take (h : Scan classes f) {s : Text} {c : Char} (hc : c ∈ s.take (f s)) :
    ∃ p ∈ classes, p c = true := by
  induction h generalizing s with
  | zero => cases hc
  | @lead f g p hp hg hnil hcons ih =>
    cases s with
    | nil => cases List.mem_of_mem_take hc
    | cons x s =>
      rw [hcons] at hc
      cases hx : p x with
      | false => simp [hx] at hc
      | true =>
        rw [hx, if_pos rfl, Nat.add_comm, List.take_succ_cons] at hc
        rcases List.mem_cons.1 hc with rfl | hc
        · exact ⟨p, hp, hx⟩
        · exact ih hc
  | @seq f g hf hg ihf ihg =>
    rw [List.take_add] at hc
    rcases List.mem_append.1 hc with hc | hc
    · exact ihf hc
    · exact ihg hc
  | @takeWhile p hp =>
    rw [← List.prefix_iff_eq_take.1 (List.takeWhile_prefix p)] at hc
    exact ⟨p, hp, List.mem_takeWhile_imp hc⟩

/-- No character is counted that is of none of the classes. -/
theorem Scan.not_mem_take (h : Scan classes f) {c : Char} (hc : ∀ p ∈ classes, p c = false)
    (s : Text) : c ∉ s.take (f s) := by
  intro hm
  obtain ⟨p, hp, hpc⟩ := h.of_mem_take hm
  rw [hc p hp] at hpc
  cases hpc

theorem Scan.not_mem_tail (h : Scan classes f) {c : Char} (hc : ∀ p ∈ classes, p c = false)
    (s : Text) : c ∉ (s.take (f s)).tail :=
  fun hm => h.not_mem_take hc s (List.mem_of_mem_tail hm)

theorem Scan.isVisible (h : Scan classes f) (hp : ∀ p ∈ classes, Visible p) (s : Text) :
    ∀ c ∈ s.take (f s), isVisible c = true := by
  intro c hc
  obtain ⟨p, hm, hpc⟩ := h.of_mem_take hc
  exact hp p hm c hpc

/-! ## Numbers -/

theorem scan_digits (h : Char.isDigit ∈ classes) : Scan classes digits := .takeWhile h

theorem scan_minus (h : (· == '-') ∈ classes) : Scan classes minus :=
  .lead h .zero rfl fun c s => by simp [minus]

theorem scan_whole (hm : (· == '-') ∈ classes) (hd : Char.isDigit ∈ classes) :
    Scan classes whole :=
  (scan_minus hm).seq (scan_digits hd)

theorem scan_fraction (hp : (· == '.') ∈ classes) (hd : Char.isDigit ∈ classes) :
    Scan classes fraction :=
  .lead hp (scan_digits hd) rfl fun c s => by
    by_cases hc : c = '.'
    · rw [hc]; rfl
    · simp [fraction, hc]

theorem scan_exponent (he : isExponentMark ∈ classes) (hs : isSign ∈ classes)
    (hd : Char.isDigit ∈ classes) : Scan classes exponent :=
  have hsign : Scan classes fun s => if s.head?.any isSign then 1 else 0 :=
    .lead hs .zero rfl fun _ _ => rfl
  .lead he (hsign.seq (scan_digits hd)) rfl fun c s => by simp only [exponent, Nat.add_assoc]

theorem scan_suffix (h : isFloatSuffix ∈ classes) : Scan classes suffix :=
  .lead h .zero rfl fun _ _ => rfl

/-- The classes of characters in a number. -/
def numberClasses : List (Char → Bool) :=
  [(· == '-'), Char.isDigit, (· == '.'), isSign, isExponentMark, isFloatSuffix]

theorem visible_numberClasses : ∀ p ∈ numberClasses, Visible p := by
  have he : Visible isExponentMark := (visible_beq (by decide)).or (visible_beq (by decide))
  have hs : Visible isSign := (visible_beq (by decide)).or (visible_beq (by decide))
  have hf : Visible isFloatSuffix :=
    (((visible_beq (by decide)).or (visible_beq (by decide))).or (visible_beq (by decide))).or
      (visible_beq (by decide))
  intro p hp
  simp only [numberClasses, List.mem_cons, List.not_mem_nil, or_false] at hp
  rcases hp with rfl | rfl | rfl | rfl | rfl | rfl
  · exact visible_beq (by decide)
  · exact visible_isDigit
  · exact visible_beq (by decide)
  · exact hs
  · exact he
  · exact hf

theorem scan_numberLength : Scan numberClasses numberLength :=
  (((scan_whole (by simp [numberClasses]) (by simp [numberClasses])).seq
    (scan_fraction (by simp [numberClasses]) (by simp [numberClasses]))).seq
      (scan_exponent (by simp [numberClasses]) (by simp [numberClasses])
        (by simp [numberClasses]))).seq (scan_suffix (by simp [numberClasses]))

/-- The length of a hexadecimal number behind its marker. -/
def hexLength (s : Text) : Nat := minus s + ((s.drop (minus s)).takeWhile isHexDigit).length

/-- The classes of characters in a hexadecimal number behind its marker. -/
def hexClasses : List (Char → Bool) := [(· == '-'), isHexDigit]

theorem visible_hexClasses : ∀ p ∈ hexClasses, Visible p := by
  intro p hp
  simp only [hexClasses, List.mem_cons, List.not_mem_nil, or_false] at hp
  rcases hp with rfl | rfl
  · exact visible_beq (by decide)
  · exact visible_isHexDigit

theorem scan_hexLength : Scan hexClasses hexLength :=
  (scan_minus (by simp [hexClasses])).seq (.takeWhile (by simp [hexClasses]))

theorem hexNumber_eq (s : Text) :
    hexNumber s = .leading (.literal .hex) s (2 + hexLength (s.drop 2)) := by
  simp only [hexNumber, hexLength, Nat.add_assoc]

/-! ## Words and variables -/

/-- The length of a word in front. -/
def wordLength (s : Text) : Nat := (s.takeWhile isWordChar).length

theorem scan_wordLength : Scan [isWordChar] wordLength := .takeWhile (List.mem_singleton_self _)

theorem take_wordLength (s : Text) : s.take (wordLength s) = s.takeWhile isWordChar :=
  (List.prefix_iff_eq_take.1 (List.takeWhile_prefix isWordChar)).symm

/-- One for a second `@` in front. -/
def secondMarker (s : Text) : Nat := if s.head? = some '@' then 1 else 0

/-- The length of a variable behind its first `@`. -/
def varLength (s : Text) : Nat :=
  secondMarker s + ((s.drop (secondMarker s)).takeWhile isVariableChar).length

/-- The classes of characters in a variable behind its first `@`. -/
def varClasses : List (Char → Bool) := [(· == '@'), isVariableChar]

theorem visible_varClasses : ∀ p ∈ varClasses, Visible p := by
  intro p hp
  simp only [varClasses, List.mem_cons, List.not_mem_nil, or_false] at hp
  rcases hp with rfl | rfl
  · exact visible_beq (by decide)
  · exact visible_isVariableChar

theorem scan_secondMarker : Scan varClasses secondMarker :=
  .lead (p := (· == '@')) (by simp [varClasses]) .zero rfl fun c s => by simp [secondMarker]

theorem scan_varLength : Scan varClasses varLength :=
  scan_secondMarker.seq (.takeWhile (by simp [varClasses]))

theorem var_eq (s : Text) : var s = .leading (.literal .var) s (1 + varLength (s.drop 1)) := by
  simp only [var, varLength, secondMarker]
  by_cases h : (s.drop 1).head? = some '@'
  · simp only [if_pos h, List.drop_drop, ← Nat.add_assoc, Nat.reduceAdd]
  · simp only [if_neg h, List.drop_drop, Nat.zero_add]

end SqlLexis.Lexeme
