import SqlLexis.Cursor
import SqlLexis.Proofs.Lexeme.Pattern
import SqlLexis.Proofs.Lexeme.Scan

/-!
# Numbers and variables as regular languages

What numbers, hexadecimal numbers and variables look like is said by three patterns, and what is read
is the longest match of one of them.

* `greedy_numberLength`, `greedy_hexLength`, `greedy_varLength`: the lengths of these lexemes are
  those of longest matches, part by part;
* `reads_longestMatch`: so are the tokens that are read at a cursor, and a number is whole if and
  only if its text is a sign and digits.
-/

namespace SqlLexis

namespace Pattern

/-- Any number of digits. -/
def digits : Pattern := (oneOf (between '0' '9')).star

/-- A whole number: `-?[0-9]*`. -/
def whole : Pattern := optional (oneOf ['-']) * digits

/-- A number: `-?[0-9]*(\.[0-9]*)?([eE][+-]?[0-9]*)?[fFdD]?`. -/
def number : Pattern :=
  whole * optional (oneOf ['.'] * digits) *
    optional (oneOf ['e', 'E'] * (optional (oneOf ['+', '-']) * digits)) *
    optional (oneOf ['f', 'F', 'd', 'D'])

/-- A hexadecimal number behind its marker: `-?[0-9a-fA-F]*`. -/
def hexBody : Pattern :=
  optional (oneOf ['-']) * (oneOf (between '0' '9' ++ between 'a' 'f' ++ between 'A' 'F')).star

/-- A hexadecimal number: `0x-?[0-9a-fA-F]*`. -/
def hexNumber : Pattern := .char '0' * (.char 'x' * hexBody)

/-- A variable behind its first marker: `@?[A-Za-z0-9_$#.]*`. -/
def varBody : Pattern :=
  optional (oneOf ['@']) * (oneOf (between 'A' 'Z' ++ between 'a' 'z' ++ between '0' '9' ++
    ['_', '$', '#', '.'])).star

/-- A variable: `@@?[A-Za-z0-9_$#.]*`. -/
def var : Pattern := .char '@' * varBody

end Pattern

namespace Lexeme

open Pattern (oneOf optional between mem_between)

variable {c : Char}

/-! ## The classes of characters -/

theorem and_le_iff_mem_between {a b : Char} (hb : b.toNat < 0xd800) :
    (decide (a ≤ c) && decide (c ≤ b)) = true ↔ c ∈ between a b := by
  rw [mem_between hb, Bool.and_eq_true_iff, decide_eq_true_iff, decide_eq_true_iff]

theorem mem_digits : c.isDigit = true ↔ c ∈ between '0' '9' :=
  and_le_iff_mem_between (by decide)

theorem mem_letters : c.isAlpha = true ↔ c ∈ between 'A' 'Z' ++ between 'a' 'z' := by
  have hupper : c.isUpper = true ↔ c ∈ between 'A' 'Z' :=
    decide_eq_true_iff.trans (mem_between (by decide)).symm
  have hlower : c.isLower = true ↔ c ∈ between 'a' 'z' := and_le_iff_mem_between (by decide)
  rw [List.mem_append, ← hupper, ← hlower]
  exact Bool.or_eq_true_iff

theorem mem_hexDigits : isHexDigit c = true ↔
    c ∈ between '0' '9' ++ between 'a' 'f' ++ between 'A' 'F' := by
  rw [List.mem_append, List.mem_append, ← mem_digits, ← and_le_iff_mem_between (by decide),
    ← and_le_iff_mem_between (by decide), isHexDigit, Bool.or_eq_true_iff, Bool.or_eq_true_iff]

theorem mem_variableChars : isVariableChar c = true ↔
    c ∈ between 'A' 'Z' ++ between 'a' 'z' ++ between '0' '9' ++ ['_', '$', '#', '.'] := by
  rw [List.mem_append, List.mem_append, ← mem_letters, ← mem_digits]
  simp [isVariableChar, isWordChar, or_assoc]

theorem mem_exponentMarks : isExponentMark c = true ↔ c ∈ ['e', 'E'] := by
  simp [isExponentMark]

theorem mem_signs : isSign c = true ↔ c ∈ ['+', '-'] := by
  simp [isSign]

theorem mem_floatSuffixes : isFloatSuffix c = true ↔ c ∈ ['f', 'F', 'd', 'D'] := by
  simp [isFloatSuffix, or_assoc]

theorem mem_singleton_iff_beq {x : Char} : (c == x) = true ↔ c ∈ [x] := by
  simp

/-! ## Part by part -/

theorem greedy_digits : Greedy Pattern.digits digits :=
  .takeWhile fun _ => mem_digits

theorem greedy_minus : Greedy (optional (oneOf ['-'])) minus :=
  .option (fun _ => mem_singleton_iff_beq) rfl fun c s => by simp [minus]

theorem greedy_whole : Greedy Pattern.whole whole :=
  greedy_minus.seq greedy_digits (by decide)

theorem greedy_fraction : Greedy (optional (oneOf ['.'] * Pattern.digits)) fraction :=
  .lead (fun _ => mem_singleton_iff_beq) greedy_digits rfl fun c s => by
    by_cases hc : c = '.'
    · rw [hc]; rfl
    · simp [fraction, hc]

theorem greedy_exponent : Greedy
    (optional (oneOf ['e', 'E'] * (optional (oneOf ['+', '-']) * Pattern.digits))) exponent :=
  have hsign : Greedy (optional (oneOf ['+', '-']))
      fun s => if s.head?.any isSign then 1 else 0 :=
    .option (fun _ => mem_signs) rfl fun _ _ => rfl
  .lead (fun _ => mem_exponentMarks) (hsign.seq greedy_digits (by decide)) rfl fun c s => by
    simp only [exponent, Nat.add_assoc]

theorem greedy_suffix : Greedy (optional (oneOf ['f', 'F', 'd', 'D'])) suffix :=
  .option (fun _ => mem_floatSuffixes) rfl fun _ _ => rfl

theorem greedy_numberLength : Greedy Pattern.number numberLength :=
  ((greedy_whole.seq greedy_fraction (by decide)).seq greedy_exponent (by decide)).seq
    greedy_suffix (by decide)

-- Every part may be empty: an exponent may end with its sign, and no second sign belongs to it.
example : numberLength ['1', 'e', '+', '-'] = 3 := by decide

theorem greedy_hexLength : Greedy Pattern.hexBody hexLength :=
  greedy_minus.seq (.takeWhile fun _ => mem_hexDigits) (by decide)

theorem greedy_varLength : Greedy Pattern.varBody varLength :=
  have hmarker : Greedy (optional (oneOf ['@'])) secondMarker :=
    .option (fun _ => mem_singleton_iff_beq) rfl fun c s => by simp [secondMarker]
  hmarker.seq (.takeWhile fun _ => mem_variableChars) (by decide)

/-- Nothing follows the digits of a number if and only if it matches without them. -/
theorem numberLength_eq_whole_iff {s : Text} :
    numberLength s = whole s ↔ s.take (numberLength s) ∈ Pattern.whole.matches' := by
  constructor
  · intro h
    rw [h]
    exact (greedy_whole s).matched
  · intro h
    have hle := greedy_whole.le (List.take_prefix _ s) h
    rw [List.length_take, Nat.min_eq_left (scan_numberLength.le_length s)] at hle
    have hge : whole s ≤ numberLength s := by
      simp only [numberLength]
      omega
    exact Nat.le_antisymm hle hge

end Lexeme

namespace Cursor

/-- The token `t` at a cursor has the text of the longest match of a pattern, and ends behind it. -/
structure Takes (c : Cursor) (r : Pattern) (t : Token) : Prop where
  longest : LongestMatch r c.rest t.value.toList
  endOffset : t.endOffset = c.offset + t.value.toList.length

variable {c : Cursor} {r : Pattern}

theorem takes_leading {n : Nat} (type : TokenType) (h : LongestMatch r c.rest (c.rest.take n))
    (hn : n ≤ c.rest.length) : c.Takes r ((Token.leading type c.rest n).shift c.offset) := by
  have hvalue : (String.ofList (c.rest.take n)).toList = c.rest.take n := String.toList_ofList
  constructor
  · show LongestMatch r c.rest (String.ofList (c.rest.take n)).toList
    rw [hvalue]
    exact h
  · show c.offset + n = c.offset + (String.ofList (c.rest.take n)).toList.length
    rw [hvalue, List.length_take, Nat.min_eq_left hn]

theorem takes_number (c : Cursor) : c.Takes .number c.number :=
  takes_leading _ (Lexeme.greedy_numberLength c.rest) (Lexeme.scan_numberLength.le_length c.rest)

theorem type_number (c : Cursor) : c.number.type =
    .literal (if Lexeme.numberLength c.rest = Lexeme.whole c.rest then .int else .float) := rfl

theorem value_number (c : Cursor) :
    c.number.value.toList = c.rest.take (Lexeme.numberLength c.rest) :=
  String.toList_ofList

theorem takes_hexNumber (h : ['0', 'x'] <+: c.rest) : c.Takes .hexNumber c.hexNumber := by
  obtain ⟨s, hs⟩ := h
  have hlen := Lexeme.scan_hexLength.le_length s
  have hn : 2 + Lexeme.hexLength s = Lexeme.hexLength s + 1 + 1 := by omega
  rw [hexNumber, Lexeme.hexNumber_eq]
  refine takes_leading _ ?_ ?_
  · rw [← hs]
    show LongestMatch _ _ (List.take (2 + Lexeme.hexLength s) ('0' :: 'x' :: s))
    rw [hn, List.take_succ_cons, List.take_succ_cons]
    exact ((Lexeme.greedy_hexLength s).cons 'x').cons '0'
  · rw [← hs]
    show 2 + Lexeme.hexLength s ≤ ('0' :: 'x' :: s).length
    rw [List.length_cons, List.length_cons]
    omega

theorem takes_var (h : c.rest.head? = some '@') : c.Takes .var c.var := by
  obtain ⟨s, hs⟩ := List.head?_eq_some_iff.1 h
  have hlen := Lexeme.scan_varLength.le_length s
  rw [var, Lexeme.var_eq]
  refine takes_leading _ ?_ ?_
  · rw [hs]
    show LongestMatch _ _ (List.take (1 + Lexeme.varLength s) ('@' :: s))
    rw [Nat.add_comm, List.take_succ_cons]
    exact (Lexeme.greedy_varLength s).cons '@'
  · rw [hs]
    show 1 + Lexeme.varLength s ≤ ('@' :: s).length
    rw [List.length_cons]
    omega

end Cursor

/-- At every place a number is the longest match of its pattern, and it is whole if and only if its
text is no more than a sign and digits. So are a hexadecimal number and a variable, where their
markers stand. -/
theorem reads_longestMatch (c : Cursor) :
    (c.Takes .number c.number ∧
      (c.number.type = .literal .int ↔ c.number.value.toList ∈ Pattern.whole.matches') ∧
      (c.number.type = .literal .float ↔ c.number.value.toList ∉ Pattern.whole.matches')) ∧
    (['0', 'x'] <+: c.rest → c.Takes .hexNumber c.hexNumber ∧ c.hexNumber.type = .literal .hex) ∧
    (c.rest.head? = some '@' → c.Takes .var c.var ∧ c.var.type = .literal .var) := by
  refine ⟨⟨c.takes_number, ?_, ?_⟩, fun h => ⟨Cursor.takes_hexNumber h, rfl⟩,
    fun h => ⟨Cursor.takes_var h, rfl⟩⟩
  · rw [c.type_number, c.value_number, ← Lexeme.numberLength_eq_whole_iff]
    split <;> simp_all
  · rw [c.type_number, c.value_number, ← Lexeme.numberLength_eq_whole_iff]
    split <;> simp_all

end SqlLexis
