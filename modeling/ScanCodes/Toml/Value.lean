/-!
# TOML values

What a TOML document says, with the numbers as they are written: whether a number is out of range,
or its digits are none, matters only to whoever reads it as a number.

## Main definitions

* `Toml.Value`: texts, numbers, booleans, dates and times, arrays and tables.
* `Toml.Real.isFinite`: is a decimal number in the range of binary floating point of 64 bits?
* `Toml.Value.inRange`: are all numbers in a value in their range?
-/

namespace ScanCodes.Toml

/-- A number with a point or an exponent, without its sign. -/
inductive Real
  | infinite
  | undefined
  /-- `mantissa * 10 ^ exponent`. -/
  | decimal (mantissa : Nat) (exponent : Int)
deriving DecidableEq

/-- What a key can stand for. -/
inductive Value
  | text (s : String)
  /-- A whole number, if its digits denote one. -/
  | integer (n : Option Int)
  | real (x : Real)
  | boolean (b : Bool)
  /-- A date, a time, or both. -/
  | moment
  | array (items : List Value)
  | table (entries : List (String × Value))

/-- The entries of a table. -/
abbrev Entries := List (String × Value)

/-- The least number that rounds to no finite number of 64 bits. -/
def Real.bound : Nat := (Nat.pow 2 54 - 1) * Nat.pow 2 970

/-- Does the number round to a finite number of 64 bits? Numbers far off the bound are told by their
number of digits. -/
def Real.isFinite : Real → Bool
  | .infinite | .undefined => true
  | .decimal mantissa exponent =>
    let magnitude := (Nat.toDigits 10 mantissa).length + exponent
    mantissa = 0 || magnitude ≤ 308 ||
      (magnitude ≤ 309 &&
        mantissa * Nat.pow 10 exponent.toNat < Real.bound * Nat.pow 10 (-exponent).toNat)

/-- Does the number fit 128 bits, with or without a sign? -/
def fitsInteger (n : Int) : Bool :=
  -(Int.pow 2 127) ≤ n && n < Int.pow 2 128

mutual

/-- Are all numbers in the value in their range? What denotes no number is in none. -/
def Value.inRange : Value → Bool
  | .integer n => n.any fitsInteger
  | .real x => x.isFinite
  | .array items => itemsInRange items
  | .table entries => entriesInRange entries
  | .text _ | .boolean _ | .moment => true

/-- Are all numbers in the items in their range? -/
def itemsInRange : List Value → Bool
  | [] => true
  | v :: vs => v.inRange && itemsInRange vs

/-- Are all numbers in the entries in their range? -/
def entriesInRange : List (String × Value) → Bool
  | [] => true
  | (_, v) :: es => v.inRange && entriesInRange es

end

end ScanCodes.Toml
