import SqlLexis.Character

/-!
# Strings of a TOML document

A string stands in double quotes, where a backslash begins an escape, or in single quotes, where
every character is itself; in three quotes of either kind it may run over several lines, and the
ends of the lines are part of it as they stand. Each reader below begins just past the opening
quotes and answers with the string and the rest of the text.

* `afterNewline?`: the text after the end of a line;
* `basicBody`, `basicLines`: after one and after three double quotes;
* `literalBody`, `literalLines`: after one and after three single quotes;
* `written`: a string in quotes.
-/

namespace SqlLexis.Toml

/-- A character that may stand in a string or a comment: any but control characters, of which only
the tab is one. -/
def isPlainChar (c : Char) : Bool := c == '\t' || (' ' ≤ c && c ≠ '\x7f')

/-- A blank within a line. -/
def isSpace (c : Char) : Bool := c == ' ' || c == '\t'

/-- The text after the end of a line: a newline, or a carriage return and a newline. -/
def afterNewline? : Text → Option Text
  | '\n' :: rest => some rest
  | '\r' :: '\n' :: rest => some rest
  | _ => none

/-- Whether a character, before a text, belongs to the end of a line. -/
def isNewline (c : Char) (rest : Text) : Bool := (afterNewline? (c :: rest)).isSome

/-- The character whose number the first `n` characters of a text give in hexadecimal. -/
def numbered? (n : Nat) (s : Text) : Option Char :=
  let digits := s.take n
  let code := baseValue 16 digits
  if digits.length = n && digits.all isHexDigit && code.isValidChar then some (Char.ofNat code)
  else none

/-- The character that an escape stands for, given the text after the backslash, and how many
characters of that text the escape takes. -/
def escape? : Text → Option (Char × Nat)
  | 'b' :: _ => some ('\x08', 1)
  | 't' :: _ => some ('\t', 1)
  | 'n' :: _ => some ('\n', 1)
  | 'f' :: _ => some ('\x0c', 1)
  | 'r' :: _ => some ('\r', 1)
  | 'e' :: _ => some ('\x1b', 1)
  | '"' :: _ => some ('"', 1)
  | '\\' :: _ => some ('\\', 1)
  | 'x' :: rest => (numbered? 2 rest).map (·, 3)
  | 'u' :: rest => (numbered? 4 rest).map (·, 5)
  | 'U' :: rest => (numbered? 8 rest).map (·, 9)
  | _ => none

/-- The rest of a string in double quotes; `read` came before, in reverse. -/
def basicBody (read : Text) : Text → Option (Text × Text)
  | [] => none
  | c :: rest =>
    if c = '"' then some (read.reverse, rest)
    else if c = '\\' then
      match escape? rest with
      | some (e, n) => basicBody (e :: read) (rest.drop n)
      | none => none
    else if isPlainChar c then basicBody (c :: read) rest
    else none
termination_by s => s.length
decreasing_by all_goals simp only [List.length_drop, List.length_cons]; omega

/-- The rest of a string in single quotes. -/
def literalBody (s : Text) : Option (Text × Text) :=
  let body := s.takeWhile fun c => isPlainChar c && c ≠ '\''
  match s.drop body.length with
  | '\'' :: rest => some (body, rest)
  | _ => none

/-- Whether nothing but blanks stands before the end of the line. -/
def isLineEnd (s : Text) : Bool := (afterNewline? (s.dropWhile isSpace)).isSome

/-- How many characters the blanks and the ends of lines in front take. -/
def gapLength : Text → Nat
  | [] => 0
  | c :: rest => if isSpace c || isNewline c rest then gapLength rest + 1 else 0

/-- The end of a string in three quotes, where `n` quotes stand in a row: the three that close it
come last, and up to two before them belong to the string. -/
def closingQuotes? (q : Char) (n : Nat) (read : Text) : Option Text :=
  if n ≤ 5 then some (read.reverse ++ List.replicate (n - 3) q) else none

/-- The rest of a string in three double quotes. A backslash at the end of a line takes the blanks
and newlines that follow out of the string. -/
def basicLines (read : Text) : Text → Option (Text × Text)
  | [] => none
  | c :: rest =>
    if c = '"' then
      let more := (rest.takeWhile (· = '"')).length
      if 2 ≤ more then
        (closingQuotes? '"' (more + 1) read).map (·, rest.drop more)
      else basicLines (List.replicate (more + 1) '"' ++ read) (rest.drop more)
    else if c = '\\' then
      if isLineEnd rest then basicLines read (rest.drop (gapLength rest))
      else
        match escape? rest with
        | some (e, n) => basicLines (e :: read) (rest.drop n)
        | none => none
    else if isPlainChar c || isNewline c rest then basicLines (c :: read) rest
    else none
termination_by s => s.length
decreasing_by all_goals simp only [List.length_drop, List.length_cons]; omega

/-- The rest of a string in three single quotes. -/
def literalLines (read : Text) : Text → Option (Text × Text)
  | [] => none
  | c :: rest =>
    if c = '\'' then
      let more := (rest.takeWhile (· = '\'')).length
      if 2 ≤ more then
        (closingQuotes? '\'' (more + 1) read).map (·, rest.drop more)
      else literalLines (List.replicate (more + 1) '\'' ++ read) (rest.drop more)
    else if isPlainChar c || isNewline c rest then literalLines (c :: read) rest
    else none
termination_by s => s.length
decreasing_by all_goals simp only [List.length_drop, List.length_cons]; omega

/-- The end of a line right after the opening quotes is no part of the string. -/
def afterOpening (s : Text) : Text := (afterNewline? s).getD s

/-- The string at the start of a text, in whatever quotes. -/
def quoted? : Text → Option (Text × Text)
  | '"' :: '"' :: '"' :: rest => basicLines [] (afterOpening rest)
  | '\'' :: '\'' :: '\'' :: rest => literalLines [] (afterOpening rest)
  | '"' :: rest => basicBody [] rest
  | '\'' :: rest => literalBody rest
  | _ => none

/-! ## Writing -/

/-- A character as it is written between double quotes. -/
def escaped (c : Char) : Text :=
  match c with
  | '\x08' => ['\\', 'b']
  | '\t' => ['\\', 't']
  | '\n' => ['\\', 'n']
  | '\x0c' => ['\\', 'f']
  | '\r' => ['\\', 'r']
  | '"' => ['\\', '"']
  | '\\' => ['\\', '\\']
  | _ => if isPlainChar c then [c] else ['\\', 'u'] ++ upper (fourHexDigits c.toNat)

/-- A string in double quotes, or in single ones where that saves it all its escapes. -/
def written (s : Text) : Text :=
  if s.any (fun c => c == '"' || c == '\\') && s.all (fun c => isPlainChar c && c ≠ '\'') then
    ['\''] ++ s ++ ['\'']
  else ['"'] ++ s.flatMap escaped ++ ['"']

end SqlLexis.Toml
