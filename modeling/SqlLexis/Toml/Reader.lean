import SqlLexis.Toml.Quoted
import SqlLexis.Toml.Scalar
import SqlLexis.Toml.Table

/-!
# Reading TOML documents

`read?` gives the entries of a document of TOML 1.1, or nothing if the text is not one. It reads
the lines as statements and has `Entries.ofStatements?` carry them out. The readers of the parts
begin at the start of a text and answer with what they read and the rest of the text:

* `keyPath?`: a key, with the parts that dots separate;
* `value?`: a value, with the arrays and tables inside it;
* `statement?`: a header or an assignment;
* `statements?`: a whole document.

A key may have eighty parts, and arrays and tables in braces may be nested eighty deep. Each other
reader that repeats itself counts down from a number that the length of the text bounds.
-/

namespace SqlLexis.Toml

/-- How many parts a key may have. -/
def partLimit : Nat := 80

/-- How deep arrays and tables in braces may be nested. -/
def depthLimit : Nat := 80

/-! ## Blanks and comments -/

/-- The text after the blanks in front. -/
def skipSpaces (s : Text) : Text := s.dropWhile isSpace

/-- The text after the comment in front, if there is one. -/
def skipComment : Text → Text
  | '#' :: rest => rest.dropWhile isPlainChar
  | s => s

/-- The text after the rest of a line on which nothing more is said. -/
def nextLine? (s : Text) : Option Text :=
  match skipComment (skipSpaces s) with
  | [] => some []
  | rest => afterNewline? rest

/-- The text after blanks and comments, and after the ends of lines, at most so many, between
them. -/
def skipLinesUpTo : Nat → Text → Text
  | 0, s => s
  | n + 1, s =>
    let rest := skipComment (skipSpaces s)
    match afterNewline? rest with
    | some next => skipLinesUpTo n next
    | none => rest

/-- The text after blanks, comments and the ends of lines. -/
def skipLines (s : Text) : Text := skipLinesUpTo (s.length + 1) s

/-- The text after the expected characters. -/
def expect? : Text → Text → Option Text
  | [], s => some s
  | _, [] => none
  | c :: cs, d :: s => if c = d then expect? cs s else none

/-! ## Keys -/

/-- A character of a key without quotes. -/
def isKeyChar (c : Char) : Bool := c.isAlpha || c.isDigit || c == '_' || c == '-'

/-- One part of a key. -/
def keyPart? (s : Text) : Option (String × Text) :=
  match s with
  | '"' :: rest => (basicBody [] rest).map fun (k, rest) => (String.ofList k, rest)
  | '\'' :: rest => (literalBody rest).map fun (k, rest) => (String.ofList k, rest)
  | _ =>
    let part := s.takeWhile isKeyChar
    if part.isEmpty then none else some (String.ofList part, s.drop part.length)

/-- A key of at most so many parts, and the rest of the text after blanks. -/
def keyPath? : Nat → Text → Option (List String × Text)
  | 0, _ => none
  | n + 1, s => do
    let (part, rest) ← keyPart? s
    match skipSpaces rest with
    | '.' :: rest =>
      let (parts, rest) ← keyPath? n (skipSpaces rest)
      return (part :: parts, rest)
    | rest => return ([part], rest)

/-- A key and the sign of equality; `skip` passes over what may stand before and after the sign. -/
def assigned? (skip : Text → Text) (s : Text) : Option (List String × Text) := do
  let (path, rest) ← keyPath? partLimit s
  return (path, skip (← expect? ['='] (skip rest)))

/-! ## Values -/

/-- A character of a value without quotes. -/
def isScalarChar (c : Char) : Bool := isKeyChar c || c == '+' || c == '.' || c == ':'

/-- A value without quotes. A time may follow its date after a space. -/
def unquoted? (s : Text) : Option (Value × Text) :=
  let first := s.takeWhile isScalarChar
  let rest := s.drop first.length
  match rest with
  | ' ' :: c :: more =>
    if c.isDigit && afterDate? first == some [] then
      let second := (c :: more).takeWhile isScalarChar
      (scalar? (first ++ 'T' :: second)).map (·, (c :: more).drop second.length)
    else (scalar? first).map (·, rest)
  | _ => (scalar? first).map (·, rest)

mutual

/-- A value in which arrays and tables are nested at most `depth` deep; the first number bounds
the steps. -/
def value? : Nat → Nat → Text → Option (Value × Text)
  | 0, _, _ => none
  | n + 1, depth, s =>
    match s, depth with
    | '[' :: rest, depth + 1 =>
      (items? n depth (skipLines rest)).map fun (vs, rest) => (.array vs, rest)
    | '[' :: _, 0 => none
    | '{' :: rest, depth + 1 => do
      let (assignments, rest) ← pairs? n depth (skipLines rest)
      return (.table .inline (← Entries.ofAssignments? assignments), rest)
    | '{' :: _, 0 => none
    | '"' :: _, _ => (quoted? s).map fun (t, rest) => (.string (String.ofList t), rest)
    | '\'' :: _, _ => (quoted? s).map fun (t, rest) => (.string (String.ofList t), rest)
    | _, _ => unquoted? s

/-- The items of an array and its end. -/
def items? : Nat → Nat → Text → Option (List Value × Text)
  | 0, _, _ => none
  | _, _, ']' :: rest => some ([], rest)
  | n + 1, depth, s => do
    let (v, rest) ← value? n depth s
    match skipLines rest with
    | ',' :: rest =>
      let (vs, rest) ← items? n depth (skipLines rest)
      return (v :: vs, rest)
    | ']' :: rest => return ([v], rest)
    | _ => none

/-- The assignments of a table in braces and its end. -/
def pairs? : Nat → Nat → Text → Option (List (List String × Value) × Text)
  | 0, _, _ => none
  | _, _, '}' :: rest => some ([], rest)
  | n + 1, depth, s => do
    let (path, rest) ← assigned? skipLines s
    let (v, rest) ← value? n depth rest
    match skipLines rest with
    | ',' :: rest =>
      let (vs, rest) ← pairs? n depth (skipLines rest)
      return ((path, v) :: vs, rest)
    | '}' :: rest => return ([(path, v)], rest)
    | _ => none

end

/-! ## Documents -/

/-- A header between brackets, of which the opening ones are past. -/
def header? (close s : Text) : Option (List String × Text) := do
  let (path, rest) ← keyPath? partLimit (skipSpaces s)
  return (path, ← expect? close rest)

/-- A header or an assignment. -/
def statement? (s : Text) : Option (Statement × Text) :=
  match s with
  | '[' :: '[' :: rest => (header? [']', ']'] rest).map fun (path, rest) => (.item path, rest)
  | '[' :: rest => (header? [']'] rest).map fun (path, rest) => (.header path, rest)
  | _ => do
    let (path, rest) ← assigned? skipSpaces s
    let (v, rest) ← value? (2 * rest.length + 2) depthLimit rest
    return (.assign path v, rest)

/-- The statements of a document of at most so many lines. -/
def statements? : Nat → Text → Option (List Statement)
  | 0, _ => none
  | n + 1, s =>
    match nextLine? s with
    | some [] => some []
    | some rest => statements? n rest
    | none => do
      let (statement, rest) ← statement? (skipSpaces s)
      return statement :: (← statements? n (← nextLine? rest))

/-- The text without the mark that may tell its encoding. -/
def withoutMark : Text → Text
  | '\ufeff' :: rest => rest
  | s => s

/-- The entries of a document. -/
def read? (s : Text) : Option Entries := do
  let text := withoutMark s
  Entries.ofStatements? (← statements? (text.length + 1) text)

end SqlLexis.Toml
