/-!
# Values of a TOML document

What a document comes to. Numbers keep the value that was written; `Number.isReadable` says which
of them fit a machine number, and `Value.isReadable` that all of a value's numbers do. A table
remembers how it was made, because that decides what may be added to it later on.
-/

namespace SqlLexis.Toml

/-- A number as it was written. -/
inductive Number where
  | integer (n : Int)
  /-- The number `mantissa * 10 ^ exponent`, up to its sign. -/
  | decimal (mantissa : Nat) (exponent : Int)
  | infinity
  | nan
  deriving DecidableEq

namespace Number

/-- Half a step above the largest double: from here on rounding leads to infinity. -/
def doubleBound : Nat := Nat.pow 2 1024 - Nat.pow 2 970

/-- Whether `mantissa * 10 ^ exponent` rounds to a finite double. The number of digits settles it
far from the bound, so no large power is computed there. -/
def isFiniteDouble (mantissa : Nat) (exponent : Int) : Bool :=
  let size := (Nat.toDigits 10 mantissa).length + exponent
  if mantissa = 0 || size < 300 then true
  else if 310 < size then false
  else if 0 ≤ exponent then mantissa * Nat.pow 10 exponent.toNat < doubleBound
  else mantissa < doubleBound * Nat.pow 10 (-exponent).toNat

/-- Whether the number fits 128 bits, signed or unsigned, or rounds to a finite double. -/
def isReadable : Number → Bool
  | integer n => -Int.ofNat (Nat.pow 2 127) ≤ n && n < Int.ofNat (Nat.pow 2 128)
  | decimal mantissa exponent => isFiniteDouble mantissa exponent
  | infinity => true
  | nan => true

end Number

/-- How a table was made. -/
inductive Origin where
  /-- By a header of its own; so is the document itself. -/
  | header
  /-- On the way to the table of a header. -/
  | implied
  /-- On the way to the last part of a dotted key. -/
  | dotted
  /-- In braces. -/
  | inline
  deriving DecidableEq

/-- A value of a document. -/
inductive Value where
  | string (s : String)
  | number (n : Number)
  | boolean (b : Bool)
  /-- A date, a time or both. -/
  | dateTime (written : String)
  | array (items : List Value)
  /-- The tables of an array of headers, the latest first. -/
  | tables (items : List Value)
  | table (origin : Origin) (entries : List (String × Value))

namespace Value

mutual

/-- Whether every number in a value is readable. -/
def isReadable : Value → Bool
  | string _ => true
  | number n => n.isReadable
  | boolean _ => true
  | dateTime _ => true
  | array items => areReadable items
  | tables items => areReadable items
  | table _ entries => entriesReadable entries

/-- Whether every number in some values is readable. -/
def areReadable : List Value → Bool
  | [] => true
  | v :: vs => v.isReadable && areReadable vs

/-- Whether every number in the values of some entries is readable. -/
def entriesReadable : List (String × Value) → Bool
  | [] => true
  | (_, v) :: rest => v.isReadable && entriesReadable rest

end

end Value

/-- The entries of a table, in the order in which they were made. -/
abbrev Entries := List (String × Value)

end SqlLexis.Toml
