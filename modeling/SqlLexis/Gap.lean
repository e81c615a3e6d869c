import SqlLexis.Dialect

/-!
# What stands between tokens

Blanks, comments and hints belong to no token. The functions here read a text from its first
character and answer with a number of characters:

* `blanks`: the blanks in front;
* `comment`, `hint`: the comment or hint in front, or the error that its end is missing;
* `span?`: the comment or hint that a dialect sees in front, if any;
* `skip`: everything up to the next token, and the error that stops it, if any.

A comment that ends with its line takes the newline along. At the end of the text it counts one
character more than there are, as if a newline followed.
-/

namespace SqlLexis.Gap

/-- How many blanks are in front. -/
def blanks (s : Text) : Nat := (s.takeWhile isBlank).length

/-- The length of a comment that ends with its line, after a marker of the given length. -/
def lineComment (marker : Nat) (s : Text) : Nat :=
  marker + ((s.drop marker).takeWhile (· ≠ '\n')).length + 1

/-- How many characters stand before the first end of a block; `n` more were counted before. -/
def beforeClose (n : Nat) : Text → Option Nat
  | [] => none
  | '*' :: '/' :: _ => some n
  | _ :: rest => beforeClose (n + 1) rest

/-- The length of a block with its end, after a marker of the given length. -/
def block (marker : Nat) (s : Text) : Except LexError Nat :=
  match beforeClose marker (s.drop marker) with
  | some n => .ok (n + 2)
  | none => .error (.unterminatedBlock "*/")

/-- The length of the comment in front, of whatever dialect; zero if there is none. -/
def comment (s : Text) : Except LexError Nat :=
  match s with
  | '-' :: '-' :: _ => .ok (lineComment 2 s)
  | '/' :: '/' :: _ => .ok (lineComment 2 s)
  | '#' :: _ => .ok (lineComment 1 s)
  | '/' :: '*' :: _ => block 2 s
  | _ => .ok 0

/-- The length of the hint in front: its marker has three characters, whatever they are. -/
def hint (s : Text) : Except LexError Nat := block 3 s

/-- Whether a dialect sees a hint in front. -/
def opensHint (d : Dialect) : Text → Bool
  | '/' :: '*' :: c :: _ => d.hintMarker? == some c
  | _ => false

/-- Whether a dialect sees a comment in front. -/
def opensComment (d : Dialect) : Text → Bool
  | '#' :: _ => d.hashComments
  | '-' :: '-' :: _ => true
  | '/' :: '/' :: _ => true
  | '/' :: '*' :: _ => true
  | _ => false

/-- The length of the hint or comment that a dialect sees in front. -/
def span? (d : Dialect) (s : Text) : Option (Except LexError Nat) :=
  if opensHint d s then some (hint s)
  else if opensComment d s then some (comment s)
  else none

/-! ## A span is never empty -/

theorem le_of_beforeClose {m n : Nat} {s : Text} (h : beforeClose m s = some n) : m ≤ n := by
  fun_induction beforeClose m s with
  | case1 => simp at h
  | case2 m => simp at h; omega
  | case3 m _ _ _ ih => have := ih h; omega

theorem lt_of_block {m n : Nat} {s : Text} (h : block m s = .ok n) : m < n := by
  unfold block at h
  split at h
  · next k hk =>
    have := le_of_beforeClose hk
    simp only [Except.ok.injEq] at h
    omega
  · cases h

theorem lineComment_pos (m : Nat) (s : Text) : 0 < lineComment m s := by
  unfold lineComment; omega

theorem comment_pos {d : Dialect} {s : Text} {n : Nat} (ho : opensComment d s = true)
    (h : comment s = .ok n) : 0 < n := by
  unfold comment at h
  split at h
  · cases h; exact lineComment_pos _ _
  · cases h; exact lineComment_pos _ _
  · cases h; exact lineComment_pos _ _
  · have := lt_of_block h; omega
  · unfold opensComment at ho
    split at ho <;> simp_all

theorem ne_nil_of_span? {d : Dialect} {s : Text} {r : Except LexError Nat}
    (h : span? d s = some r) : s ≠ [] := by
  rintro rfl
  simp [span?, opensHint, opensComment] at h

theorem span?_pos {d : Dialect} {s : Text} {n : Nat} (h : span? d s = some (.ok n)) : 0 < n := by
  unfold span? at h
  split at h
  · have := lt_of_block (Option.some.inj h); omega
  · split at h
    · next ho => exact comment_pos ho (Option.some.inj h)
    · cases h

/-! ## The whole gap -/

/-- What skipping a gap comes to: the length of the blanks and of the spans that end, and the
error of the span that does not. -/
structure Skipped where
  length : Nat
  error? : Option LexError
  deriving DecidableEq

/-- Skips everything up to the next token. -/
def skip (d : Dialect) (s : Text) : Skipped :=
  let rest := s.drop (blanks s)
  match _h : span? d rest with
  | none => ⟨blanks s, none⟩
  | some (.error e) => ⟨blanks s, some e⟩
  | some (.ok n) =>
    let after := skip d (rest.drop n)
    ⟨blanks s + n + after.length, after.error?⟩
termination_by s.length
decreasing_by
  have hn := span?_pos _h
  have hr := List.length_pos_iff.2 (ne_nil_of_span? _h)
  simp only [List.length_drop, rest] at hr ⊢
  omega

/-- Nothing is skipped at the end of a text. -/
theorem skip_nil (d : Dialect) : skip d [] = ⟨0, none⟩ := by
  rw [skip]
  simp [blanks, span?, opensHint, opensComment]

end SqlLexis.Gap
