import SqlLexis.Character
import SqlLexis.Toml.Value

/-!
# Unquoted values of a TOML document

Booleans, numbers, dates and times are written without quotes. `scalar?` reads a run of characters
that is one of them.

* An integer has no leading zeros, unless `0x`, `0o` or `0b` comes first; underscores may separate
  its digits.
* A float has a fraction or an exponent or both, or is `inf` or `nan`.
* A date has four, two and two digits and is a day of the calendar; a time has an hour and a
  minute, perhaps a second, and perhaps a fraction of one. After a date and a time may come the
  distance from universal time.
-/

namespace SqlLexis.Toml

/-! ## Numbers -/

/-- The digits of a number that underscores may separate, each from the next. -/
def digitRun? (isDigit : Char → Bool) (w : Text) : Option Text :=
  let parts := w.splitOn '_'
  if parts.all fun p => !p.isEmpty && p.all isDigit then some parts.flatten else none

/-- The sign in front of a number, if there is one, and the number. -/
def splitSign : Text → Option Char × Text
  | '+' :: rest => (some '+', rest)
  | '-' :: rest => (some '-', rest)
  | w => (none, w)

/-- The digits of a decimal number without leading zeros. -/
def plainDigits? (w : Text) : Option Text :=
  match w with
  | '0' :: _ :: _ => none
  | _ => digitRun? Char.isDigit w

/-- An integer in a base other than ten, after its mark. -/
def based? : Text → Option Nat
  | '0' :: 'x' :: w => (digitRun? isHexDigit w).map (baseValue 16)
  | '0' :: 'o' :: w => (digitRun? (fun c => '0' ≤ c && c ≤ '7') w).map (baseValue 8)
  | '0' :: 'b' :: w => (digitRun? (fun c => c = '0' || c = '1') w).map (baseValue 2)
  | _ => none

/-- An integer. -/
def integer? (w : Text) : Option Int :=
  match based? w with
  | some n => some n
  | none =>
    let (sign, body) := splitSign w
    (plainDigits? body).map fun digits =>
      let n : Int := baseValue 10 digits
      if sign = some '-' then -n else n

/-- An exponent, with its sign. -/
def exponent? (w : Text) : Option Int :=
  let (sign, body) := splitSign w
  (digitRun? Char.isDigit body).map fun digits =>
    let n : Int := baseValue 10 digits
    if sign = some '-' then -n else n

/-- A fraction's digits, after the point; there have to be some, unless there is no point. -/
def fraction? : Text → Option Text
  | '.' :: w => digitRun? Char.isDigit w
  | [] => some []
  | _ => none

/-- A float. -/
def float? (w : Text) : Option Number :=
  let (_, body) := splitSign w
  if body = "inf".toList then some .infinity
  else if body = "nan".toList then some .nan
  else do
    let (significand, mark) := body.span fun c => !isExponentMark c
    let (whole, point) := significand.span (· ≠ '.')
    if mark.isEmpty && point.isEmpty then none
    let whole ← plainDigits? whole
    let places ← fraction? point
    let exponent ← if mark.isEmpty then some 0 else exponent? (mark.drop 1)
    return .decimal (baseValue 10 (whole ++ places)) (exponent - places.length)

/-! ## Dates and times -/

/-- The number that exactly `n` digits give, and the rest. -/
def fixed? (n : Nat) (w : Text) : Option (Nat × Text) :=
  let digits := w.take n
  if digits.length = n && digits.all Char.isDigit then some (baseValue 10 digits, w.drop n)
  else none

/-- What comes after an expected character. -/
def after? (c : Char) : Text → Option Text
  | [] => none
  | d :: rest => if c = d then some rest else none

/-- The number of days of a month. -/
def daysOfMonth (year month : Nat) : Nat :=
  if month = 2 then
    if year % 4 = 0 && (year % 100 ≠ 0 || year % 400 = 0) then 29 else 28
  else if month = 4 || month = 6 || month = 9 || month = 11 then 30
  else 31

/-- What comes after a date. -/
def afterDate? (w : Text) : Option Text := do
  let (year, w) ← fixed? 4 w
  let (month, w) ← fixed? 2 (← after? '-' w)
  let (day, w) ← fixed? 2 (← after? '-' w)
  if 1 ≤ month && month ≤ 12 && 1 ≤ day && day ≤ daysOfMonth year month then some w else none

/-- What comes after the seconds, if any, and their fraction, if any. A minute may have a leap
second. -/
def afterSeconds? (w : Text) : Option Text :=
  match w with
  | ':' :: rest => do
    let (second, rest) ← fixed? 2 rest
    if 60 < second then none
    match rest with
    | '.' :: places =>
      let digits := places.takeWhile Char.isDigit
      if digits.isEmpty then none else some (places.drop digits.length)
    | _ => some rest
  | _ => some w

/-- What comes after an hour and a minute. -/
def afterMinutes? (w : Text) : Option Text := do
  let (hour, w) ← fixed? 2 w
  let (minute, w) ← fixed? 2 (← after? ':' w)
  if hour ≤ 23 && minute ≤ 59 then some w else none

/-- What comes after a time. -/
def afterTime? (w : Text) : Option Text := do afterSeconds? (← afterMinutes? w)

/-- Whether a text is a distance from universal time, or empty. -/
def isZone : Text → Bool
  | [] => true
  | ['Z'] => true
  | ['z'] => true
  | '+' :: w => afterMinutes? w == some []
  | '-' :: w => afterMinutes? w == some []
  | _ => false

/-- Whether a text is a date, perhaps with a time, which a letter `T` joins to it. -/
def isDateTime (w : Text) : Bool :=
  match afterDate? w with
  | some [] => true
  | some (c :: time) => (c == 'T' || c == 't') && (afterTime? time).any isZone
  | none => afterTime? w == some []

/-! ## Any of them -/

/-- A boolean, a number, a date or a time. -/
def scalar? (w : Text) : Option Value :=
  if w = "true".toList then some (.boolean true)
  else if w = "false".toList then some (.boolean false)
  else if isDateTime w then some (.dateTime (String.ofList w))
  else match integer? w with
    | some n => some (.number (.integer n))
    | none => (float? w).map .number

end SqlLexis.Toml
