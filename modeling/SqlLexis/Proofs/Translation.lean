import SqlLexis.Proofs.Indexed

/-!
# Scanning does not depend on where a text begins

The nine operations of a cursor, put together of loops over the indices of a text that is held in
memory. Begun at an index, each comes to what it comes to at the start of the text from there on,
with its offsets moved to that index; and that is what a cursor answers. The index may lie past the
end of the text, where nothing remains.

* `Operation.scan?`: the operations by index, for any way to tell the types of words;
* `Operation.scan?_eq`: they come to what is read in the rest of the text, as long as indices fit;
* `Operation.answer_eq`: so does a cursor;
* `Operation.translates`: so neither depends on where the text begins.
-/

namespace SqlLexis

/-- What an operation at a place in a text answers with. -/
inductive Answer where
  | offset (n : Nat)
  | token (t : Token)
  deriving DecidableEq

namespace Answer

/-- The same answer, `k` characters further on. -/
def shift (k : Nat) : Answer → Answer
  | offset n => offset (k + n)
  | token t => token (t.shift k)

/-- What comes of an operation, `k` characters further on. Of an error the offset is moved and all
else stays. -/
def moved (k : Nat) : Except LexError Answer → Except LexError Answer
  | .ok a => .ok (a.shift k)
  | .error e => .error (e.shift k)

theorem moved_offset (c : Cursor) (r : Except LexError Nat) :
    (c.moveOffset r).map .offset = moved c.offset (r.map .offset) := by
  cases r <;> rfl

theorem moved_token (c : Cursor) (r : Except LexError Token) :
    (c.moveToken r).map .token = moved c.offset (r.map .token) := by
  cases r <;> rfl

/-- What is moved by no characters stays. -/
theorem moved_zero (r : Except LexError Answer) : moved 0 r = r := by
  match r with
  | .ok (.offset n) => simp [moved, shift]
  | .ok (.token t) => simp [moved, shift, Token.shift]
  | .error e => cases e <;> simp [moved, LexError.shift]

end Answer

/-- The operations at a place in a text. -/
inductive Operation where
  | skipBlanks | skipComment | skipHint
  | var | word | hexNumber | number | quoted | operator
  deriving DecidableEq

/-- What comes of an operation at a cursor. -/
def Operation.answer (op : Operation) (d : Dictionary) (c : Cursor) : Except LexError Answer :=
  match op with
  | skipBlanks => .ok (.offset c.skipBlanks)
  | skipComment => c.skipComment.map .offset
  | skipHint => c.skipHint.map .offset
  | var => .ok (.token c.var)
  | word => (c.word d).map .token
  | hexNumber => .ok (.token c.hexNumber)
  | number => .ok (.token c.number)
  | quoted => c.quoted.map .token
  | operator => (c.operator d).map .token

namespace Indexed

/-! ## The operations by index -/

/-- The token between two indices. Of a text that ends before there is a part only. -/
def token (type : TokenType) (s : Text) (k stop : Nat) : Token :=
  ⟨type, String.ofList (s.extract k stop), stop⟩

/-- The index behind the comment at an index, or that index if there is none. -/
def comment? (s : Text) (k : Nat) : Option (Except LexError Nat) := do
  let c ← charAt? s k
  let next ← charAt? s (k + 1)
  if (c = some '/' ∧ next = some '/') ∨ (c = some '-' ∧ next = some '-') then lineEnd? s (k + 2)
  else if c = some '#' then lineEnd? s (k + 1)
  else if c = some '/' ∧ next = some '*' then blockEnd? s (k + 2)
  else return .ok k

/-- The variable at an index. -/
def var? (s : Text) (k : Nat) : Option Token := do
  let stop ← ledRunEnd? s (· == '@') isVariableChar (k + 1)
  return token (.literal .var) s k stop

/-- The hexadecimal number at an index. -/
def hexNumber? (s : Text) (k : Nat) : Option Token := do
  let stop ← ledRunEnd? s (· == '-') isHexDigit (k + 2)
  return token (.literal .hex) s k stop

/-- The number at an index. -/
def number? (s : Text) (k : Nat) : Option Token := do
  let whole ← ledRunEnd? s (· == '-') Char.isDigit k
  let fraction ← fractionEnd? s whole
  let exponent ← exponentEnd? s fraction
  let stop ← past? s isFloatSuffix exponent
  let isFloat := fraction ≠ whole ∨ exponent ≠ fraction ∨ stop ≠ exponent
  return token (.literal (if isFloat then .float else .int)) s k stop

/-- The character string at an index. -/
def quoted? (s : Text) (k : Nat) : Option (Except LexError Token) := do
  match ← charAt? s k with
  | none => return .error (.unexpectedEnd k)
  | some q =>
    return (← quoteEnd? s q (k + 1)).map fun stop =>
      ⟨.literal .chars, String.ofList (s.extract (k + 1) (stop - 1)), stop⟩

/-- The type of the unquoted word `w` before an index, where `typeOf` tells it but for the look
ahead. -/
def wordType? (typeOf : String → TokenType → TokenType) (s w : Text) (stop : Nat) :
    Option TokenType := do
  if Lexeme.awaitsBy w then
    if ← isBeforeBy? s stop then return typeOf (String.ofList w) (.literal .identifier)
    else return .literal .identifier
  else return typeOf (String.ofList w) (.literal .identifier)

/-- The word at an index. -/
def word? (typeOf : String → TokenType → TokenType) (s : Text) (k : Nat) :
    Option (Except LexError Token) := do
  if (← charAt? s k) = some backquote then
    return (← quoteEnd? s backquote (k + 1)).map (token (.literal .identifier) s k)
  else
    let stop ← runEnd? s isWordChar k
    return .ok (token (← wordType? typeOf s (s.extract k stop) stop) s k stop)

/-- The symbol at an index. -/
def operator? (symbol? : String → Option Symbol) (s : Text) (k : Nat) :
    Option (Except LexError Token) := do
  let stop ← runEnd? s isOperatorChar k
  match longestSymbol? symbol? s k (stop - k) with
  | some t => return .ok t
  | none => return .error (.unknownSymbol (← charAt? s k) k)

/-! ## What they come to -/

variable {s : Text} {i k n : Nat}

theorem token_eq (type : TokenType) (s : Text) (k n : Nat) :
    token type s k (k + n) = (Token.leading type (s.drop k) n).shift k := by
  rw [token, extract_add]
  rfl

theorem lineEnd?_eq {m : Nat} (h : k + m + s.length + 1 < wordSize) :
    lineEnd? s (k + m) = some (.ok (k + Gap.lineComment m (s.drop k))) := by
  have hle := (List.takeWhile_sublist (· ≠ '\n') (l := s.drop (k + m))).length_le
  rw [List.length_drop] at hle
  rw [lineEnd?, runEnd?_eq (by omega) (by omega), Option.bind_eq_bind, Option.bind_some,
    index?_eq (by omega), Gap.lineComment, List.drop_drop]
  simp only [Option.bind_some, Nat.add_assoc]
  rfl

theorem blockEnd?_marker {m : Nat} (hs : s.length < wordSize) (hk : k + m < wordSize) :
    blockEnd? s (k + m) = some ((⟨s, k⟩ : Cursor).moveOffset (Gap.block m (s.drop k))) := by
  rw [blockEnd?_eq hs hk rfl, Gap.block, List.drop_drop]
  cases Gap.beforeClose m (s.drop (k + m)) <;> rfl

theorem singleton_prefix_iff {a : Char} : [a] <+: s.drop k ↔ s[k]? = some a := by
  rw [← List.head?_drop]
  cases s.drop k <;> simp [eq_comm]

theorem pair_prefix_iff {a b : Char} :
    [a, b] <+: s.drop k ↔ s[k]? = some a ∧ s[k + 1]? = some b := by
  rw [← List.head?_drop, ← List.head?_drop, ← List.drop_drop]
  match s.drop k with
  | [] => simp
  | [x] => simp
  | x :: y :: rest => simp [eq_comm]

theorem lineEnd?_marker {marker : Text} (hm : marker ∈ Gap.lineMarkers .mySql)
    (hp : marker <+: s.drop k) (h : k + marker.length + s.length + 1 < wordSize) :
    lineEnd? s (k + marker.length) = some (⟨s, k⟩ : Cursor).skipComment := by
  rw [lineEnd?_eq h, Cursor.skipComment_of_line (c := ⟨s, k⟩) hm hp]
  rfl

theorem comment?_eq (h : k + s.length + 3 < wordSize) :
    comment? s k = some (⟨s, k⟩ : Cursor).skipComment := by
  rw [comment?, charAt?_eq (by omega), charAt?_eq (by omega)]
  simp only [Option.bind_eq_bind, Option.bind_some, ← pair_prefix_iff]
  split
  · next hline =>
    rcases hline with hp | hp
    · exact lineEnd?_marker (by decide) hp (by simp only [List.length_cons, List.length_nil]; omega)
    · exact lineEnd?_marker (by decide) hp (by simp only [List.length_cons, List.length_nil]; omega)
  · next hline =>
    split
    · next hhash =>
      have hp := singleton_prefix_iff.2 hhash
      exact lineEnd?_marker (by decide) hp (by simp only [List.length_cons, List.length_nil]; omega)
    · next hhash =>
      split
      · next hp =>
        rw [blockEnd?_marker (by omega) (by omega)]
        exact congrArg some (Cursor.skipComment_of_block (c := ⟨s, k⟩) hp).symm
      · next hblock =>
        rw [Cursor.skipComment_of_no_marker (c := ⟨s, k⟩)]
        · rfl
        intro marker hm hp
        simp only [Gap.lineMarkers, List.mem_cons, List.not_mem_nil, or_false] at hm
        rcases hm with rfl | rfl | rfl | rfl
        · exact hblock hp
        · exact hline (.inr hp)
        · exact hline (.inl hp)
        · exact hhash (singleton_prefix_iff.1 hp)

theorem skipBlanks?_eq (hs : s.length < wordSize) (hk : k < wordSize) :
    runEnd? s isBlank k = some (⟨s, k⟩ : Cursor).skipBlanks := runEnd?_eq hs hk

theorem hint?_eq (h : k + s.length + 3 < wordSize) :
    blockEnd? s (k + 3) = some (⟨s, k⟩ : Cursor).skipHint :=
  blockEnd?_marker (by omega) (by omega)

theorem var?_eq (h : k + s.length + 3 < wordSize) : var? s k = some (⟨s, k⟩ : Cursor).var := by
  rw [var?, ledRunEnd?_eq (by omega) (by omega), Option.bind_eq_bind, Option.bind_some,
    ← varLength_eq, Nat.add_assoc, token_eq, ← List.drop_drop, ← Lexeme.var_eq]
  rfl

theorem hexNumber?_eq (h : k + s.length + 3 < wordSize) :
    hexNumber? s k = some (⟨s, k⟩ : Cursor).hexNumber := by
  rw [hexNumber?, ledRunEnd?_eq (by omega) (by omega), Option.bind_eq_bind, Option.bind_some,
    ← hexLength_eq, Nat.add_assoc, token_eq, ← List.drop_drop, ← Lexeme.hexNumber_eq]
  rfl

/-- A number has a part behind its digits if one of the indices at which its parts end moved. -/
theorem token_number (s : Text) (k w f e x : Nat) :
    token (.literal (if k + w + f ≠ k + w ∨ k + w + f + e ≠ k + w + f ∨
      k + w + f + e + x ≠ k + w + f + e then .float else .int)) s k (k + w + f + e + x) =
    (Token.leading (.literal (if w + f + e + x = w then .int else .float)) (s.drop k)
      (w + f + e + x)).shift k := by
  have hfloat : (k + w + f ≠ k + w ∨ k + w + f + e ≠ k + w + f ∨
      k + w + f + e + x ≠ k + w + f + e) ↔ ¬ w + f + e + x = w := by omega
  simp only [hfloat, ite_not, ← token_eq, ← Nat.add_assoc]

theorem number?_eq (h : k + s.length + 3 < wordSize) :
    number? s k = some (⟨s, k⟩ : Cursor).number := by
  have hs : s.length < wordSize := by omega
  have hle := Lexeme.scan_numberLength.le_length (s.drop k)
  simp only [Lexeme.numberLength, List.drop_drop, ← Nat.add_assoc, List.length_drop] at hle
  rw [number?, ledRunEnd?_eq hs (by omega), ← whole_eq, Option.bind_eq_bind, Option.bind_some,
    fractionEnd?_eq hs (by omega), Option.bind_some, exponentEnd?_eq hs (by omega),
    Option.bind_some, past?_eq hs (by omega), Option.bind_some, Cursor.number, Lexeme.number,
    Cursor.rest, Lexeme.numberLength]
  simp only [List.drop_drop, ← Nat.add_assoc]
  exact congrArg some (token_number s k _ _ _ _)

theorem quoteEnd?_open {q : Char} (hs : s.length < wordSize) (hk : k + 1 < wordSize) :
    quoteEnd? s q (k + 1) = some (match Lexeme.beforeQuote q 0 (s.drop (k + 1)) with
      | some n => .ok (k + (n + 2))
      | none => .error (.unterminatedLiteral q)) := quoteEnd?_eq hs hk rfl

theorem quoted?_eq (h : k + s.length + 3 < wordSize) :
    quoted? s k = some (⟨s, k⟩ : Cursor).quoted := by
  rw [quoted?, charAt?_eq (by omega), Option.bind_eq_bind, Option.bind_some, Cursor.quoted,
    Cursor.rest]
  cases hc : s[k]? with
  | none => rw [drop_of_getElem?_eq_none hc]; rfl
  | some q =>
    simp only [quoteEnd?_open (by omega : s.length < wordSize) (by omega : k + 1 < wordSize),
      Option.bind_eq_bind, Option.bind_some, drop_of_getElem? hc, Lexeme.quoted]
    cases Lexeme.beforeQuote q 0 (s.drop (k + 1)) with
    | none => rfl
    | some n =>
      have hstop : k + (n + 2) - 1 = k + 1 + n := by omega
      simp only [Except.map, hstop, extract_add]
      rfl

/-- The type of the unquoted word `w` before a given text, where `typeOf` tells it but for the look
ahead. -/
def wordTypeOf (typeOf : String → TokenType → TokenType) (w rest : Text) : TokenType :=
  if Lexeme.awaitsBy w && !Lexeme.isBeforeBy rest then .literal .identifier
  else typeOf (String.ofList w) (.literal .identifier)

/-- The word in front, where `typeOf` tells the types of unquoted words but for the look ahead. -/
def wordOf (typeOf : String → TokenType → TokenType) (rest : Text) : Except LexError Token :=
  if rest.head? = some backquote then Lexeme.quotedName rest
  else
    let w := rest.takeWhile isWordChar
    .ok (.leading (wordTypeOf typeOf w (rest.drop w.length)) rest w.length)

theorem wordType?_eq (typeOf : String → TokenType → TokenType) (w : Text)
    (hs : s.length + 1 < wordSize) (hi : i + 1 < wordSize) :
    wordType? typeOf s w i = some (wordTypeOf typeOf w (s.drop i)) := by
  rw [wordType?, wordTypeOf, isBeforeBy?_eq hs hi]
  cases Lexeme.awaitsBy w <;> cases Lexeme.isBeforeBy (s.drop i) <;> rfl

theorem word?_eq (typeOf : String → TokenType → TokenType) (h : k + s.length + 3 < wordSize) :
    word? typeOf s k = some ((⟨s, k⟩ : Cursor).moveToken (wordOf typeOf (s.drop k))) := by
  rw [word?, charAt?_eq (by omega), Option.bind_eq_bind, Option.bind_some, wordOf, List.head?_drop]
  split
  · next hquote =>
    rw [quoteEnd?_open (by omega) (by omega), Option.bind_eq_bind, Option.bind_some,
      Lexeme.quotedName, List.drop_drop]
    cases Lexeme.beforeQuote backquote 0 (s.drop (k + 1)) with
    | none => rfl
    | some n => simp only [Except.map, token_eq]; rfl
  · next hquote =>
    have hle := (List.takeWhile_sublist isWordChar (l := s.drop k)).length_le
    rw [List.length_drop] at hle
    rw [runEnd?_eq (by omega) (by omega), Option.bind_eq_bind, Option.bind_some, extract_add,
      ← Lexeme.wordLength, Lexeme.take_wordLength,
      wordType?_eq typeOf _ (by omega) (by rw [Lexeme.wordLength]; omega), Option.bind_eq_bind,
      Option.bind_some, token_eq, ← List.drop_drop]
    rfl

theorem operator?_eq (d : Dictionary) (h : k + s.length + 3 < wordSize) :
    operator? d.symbol? s k = some ((⟨s, k⟩ : Cursor).operator d) := by
  rw [operator?, runEnd?_eq (by omega) (by omega), Option.bind_eq_bind, Option.bind_some,
    Nat.add_sub_cancel_left, charAt?_eq (by omega), ← longestSymbol?_run]
  cases longestSymbol? d.symbol? s k ((s.drop k).takeWhile isOperatorChar).length <;> rfl

end Indexed

namespace Operation

variable (op : Operation) (d : Dictionary) (typeOf : String → TokenType → TokenType)

/-- What comes of an operation at an index, where `typeOf` tells the types of words. -/
def scan? (s : Text) (k : Nat) : Option (Except LexError Answer) :=
  match op with
  | skipBlanks => (Indexed.runEnd? s isBlank k).map fun n => .ok (.offset n)
  | skipComment => (Indexed.comment? s k).map (·.map .offset)
  | skipHint => (Indexed.blockEnd? s (k + 3)).map (·.map .offset)
  | var => (Indexed.var? s k).map fun t => .ok (.token t)
  | word => (Indexed.word? typeOf s k).map (·.map .token)
  | hexNumber => (Indexed.hexNumber? s k).map fun t => .ok (.token t)
  | number => (Indexed.number? s k).map fun t => .ok (.token t)
  | quoted => (Indexed.quoted? s k).map (·.map .token)
  | operator => (Indexed.operator? d.symbol? s k).map (·.map .token)

/-- What an operation reads in front of a text, where `typeOf` tells the types of words. -/
def read (s : Text) : Except LexError Answer :=
  match op with
  | skipBlanks => .ok (.offset (Gap.blanks s))
  | skipComment => (Gap.comment s).map .offset
  | skipHint => (Gap.hint s).map .offset
  | var => .ok (.token (Lexeme.var s))
  | word => (Indexed.wordOf typeOf s).map .token
  | hexNumber => .ok (.token (Lexeme.hexNumber s))
  | number => .ok (.token (Lexeme.number s))
  | quoted => (Lexeme.quoted s).map .token
  | operator => (Lexeme.operator d s).map .token

/-- By index, an operation comes to what it reads from the index on. -/
theorem scan?_eq {s : Text} {k : Nat} (h : k + s.length + 3 < Indexed.wordSize) :
    op.scan? d typeOf s k = some (Answer.moved k (op.read d typeOf (s.drop k))) := by
  cases op with
  | skipBlanks => rw [scan?, Indexed.skipBlanks?_eq (by omega) (by omega)]; rfl
  | skipComment =>
    rw [scan?, Indexed.comment?_eq h, Option.map_some, Cursor.skipComment, Answer.moved_offset]
    rfl
  | skipHint =>
    rw [scan?, Indexed.hint?_eq h, Option.map_some, Cursor.skipHint, Answer.moved_offset]
    rfl
  | var => rw [scan?, Indexed.var?_eq h]; rfl
  | word => rw [scan?, Indexed.word?_eq typeOf h, Option.map_some, Answer.moved_token]; rfl
  | hexNumber => rw [scan?, Indexed.hexNumber?_eq h]; rfl
  | number => rw [scan?, Indexed.number?_eq h]; rfl
  | quoted =>
    rw [scan?, Indexed.quoted?_eq h, Option.map_some, Cursor.quoted, Answer.moved_token]
    rfl
  | operator =>
    rw [scan?, Indexed.operator?_eq d h, Option.map_some, Cursor.operator, Answer.moved_token]
    rfl

/-- A cursor answers with what is read in the rest of its text, moved to where the rest begins. -/
theorem answer_eq (c : Cursor) :
    op.answer d c = Answer.moved c.offset (op.read d d.typeOf c.rest) := by
  cases op with
  | skipBlanks => rfl
  | skipComment => exact Answer.moved_offset c _
  | skipHint => exact Answer.moved_offset c _
  | var => rfl
  | word => exact Answer.moved_token c _
  | hexNumber => rfl
  | number => rfl
  | quoted => exact Answer.moved_token c _
  | operator => exact Answer.moved_token c _

/-- Past the end of a text no character remains to stand in a token. -/
example (d : Dictionary) :
    hexNumber.answer d ⟨"ab".toList, 5⟩ = .ok (.token ⟨.literal .hex, "", 7⟩) := rfl

/-- The operations do not depend on where a text begins. At an index from which on indices fit, an
operation comes to what it comes to at the start of what remains from there on, moved to the index:
by index, whatever tells the types of words, and at a cursor, which answers the same. -/
theorem translates (s : Text) (k : Nat) (h : k + s.length + 3 < 2 ^ 64) :
    (∃ r, op.scan? d typeOf (s.drop k) 0 = some r ∧
      op.scan? d typeOf s k = some (Answer.moved k r)) ∧
    op.answer d ⟨s, k⟩ = Answer.moved k (op.answer d ⟨s.drop k, 0⟩) ∧
    op.scan? d d.typeOf s k = some (op.answer d ⟨s, k⟩) := by
  have hdrop : 0 + (s.drop k).length + 3 < Indexed.wordSize := by
    rw [List.length_drop, Indexed.wordSize]
    omega
  refine ⟨⟨op.read d typeOf (s.drop k), ?_, op.scan?_eq d typeOf h⟩, ?_, ?_⟩
  · rw [op.scan?_eq d typeOf hdrop, Answer.moved_zero]
    rfl
  · rw [op.answer_eq, op.answer_eq, Answer.moved_zero]
    rfl
  · rw [op.scan?_eq d d.typeOf h, op.answer_eq]
    rfl

/-- At the start of `order by` stands a keyword that ends at 5, so at 2 in `x order by` stands one
that ends at 7. -/
theorem translates_order :
    let d : Dictionary := ⟨fun w => if w = "order" then some .ORDER else none, fun _ => none⟩
    2 + "x order by".toList.length + 3 < 2 ^ 64 ∧
      word.answer d ⟨"order by".toList, 0⟩ = .ok (.token ⟨.keyword .ORDER, "order", 5⟩) ∧
      word.answer d ⟨"x order by".toList, 2⟩ = .ok (.token ⟨.keyword .ORDER, "order", 7⟩) ∧
      word.scan? d d.typeOf "x order by".toList 2 =
        some (.ok (.token ⟨.keyword .ORDER, "order", 7⟩)) := by
  intro d
  have hfits : 2 + "x order by".toList.length + 3 < 2 ^ 64 := by decide
  have hstart : word.answer d ⟨"order by".toList, 0⟩ =
      .ok (.token ⟨.keyword .ORDER, "order", 5⟩) := by decide
  obtain ⟨-, hmoved, hindexed⟩ := word.translates d d.typeOf "x order by".toList 2 hfits
  have hinside := hmoved.trans (congrArg (Answer.moved 2) hstart)
  exact ⟨hfits, hstart, hinside, hindexed.trans (congrArg some hinside)⟩

end Operation

end SqlLexis
