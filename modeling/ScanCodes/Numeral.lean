/-!
# English cardinal numbers

Numbers as words: `21` is `twenty-one`, `1005` is `one thousand and five`. A number is read in
groups of three digits; every group that is not zero is one phrase, and the phrases are joined by
single spaces.

## Main definitions

* `Numeral.cardinal`: the words of a number.
* `Numeral.ofDigits`: the words of a run of digits. A run is read as one number as long as that
  number fits 64 bits, and digit by digit otherwise.

## Implementation notes

The scale names reach a thousand to the sixth power, which is enough for every number below
`1000 ^ 7` and so for every number of 64 bits.
-/

namespace ScanCodes.Numeral

/-- The names of the numbers below twenty. -/
def units : List String :=
  ["zero", "one", "two", "three", "four", "five", "six", "seven", "eight", "nine", "ten", "eleven",
    "twelve", "thirteen", "fourteen", "fifteen", "sixteen", "seventeen", "eighteen", "nineteen"]

/-- The names of the multiples of ten, from twenty on at their place. -/
def tens : List String :=
  ["", "", "twenty", "thirty", "forty", "fifty", "sixty", "seventy", "eighty", "ninety"]

/-- The names of a thousand and its powers, ascending. -/
def scales : List String :=
  ["thousand", "million", "billion", "trillion", "quadrillion", "quintillion"]

/-- The name of a number below twenty. -/
def unit (n : Nat) : String :=
  units.getD n ""

/-- The words of a number below a hundred. -/
def belowHundred (n : Nat) : String :=
  if n < 20 then unit n
  else if n % 10 = 0 then tens.getD (n / 10) ""
  else tens.getD (n / 10) "" ++ "-" ++ unit (n % 10)

/-- The words of a number below a thousand. -/
def belowThousand (n : Nat) : String :=
  if n < 100 then belowHundred n
  else if n % 100 = 0 then unit (n / 100) ++ " hundred"
  else unit (n / 100) ++ " hundred and " ++ belowHundred (n % 100)

/-- The phrases of the groups of a number, each with its scale, the largest first. -/
def scaled : List String → Nat → List String
  | [], _ => []
  | scale :: larger, n =>
    scaled larger (n / 1000) ++
      if n % 1000 = 0 then [] else [belowThousand (n % 1000) ++ " " ++ scale]

/-- The phrase of the last group. After larger groups a number below a hundred is linked by
`and`. -/
def lastPhrase (linked : Bool) (n : Nat) : List String :=
  if n = 0 then []
  else if linked && n < 100 then ["and " ++ belowHundred n]
  else [belowThousand n]

/-- The phrases of a number, the largest first. -/
def phrases (n : Nat) : List String :=
  scaled scales (n / 1000) ++ lastPhrase (1000 ≤ n) (n % 1000)

/-- The words of a number. -/
def cardinal (n : Nat) : String :=
  if n = 0 then unit 0 else " ".intercalate (phrases n)

/-! ### Runs of digits -/

/-- The value of a decimal digit. -/
def digitValue (c : Char) : Nat :=
  c.toNat - '0'.toNat

/-- The number that a run of decimal digits denotes. -/
def value (digits : List Char) : Nat :=
  digits.foldl (fun n c => 10 * n + digitValue c) 0

/-- The number of 64 bits that a text denotes: decimal digits, with or without a plus sign in front
of them. -/
def parse? (text : List Char) : Option Nat :=
  let digits := match text with
    | '+' :: rest => rest
    | _ => text
  if digits ≠ [] ∧ digits.all Char.isDigit ∧ value digits < UInt64.size then some (value digits)
  else none

/-- The digits of a text, each by its name. -/
def digitByDigit (text : List Char) : String :=
  " ".intercalate ((text.filter Char.isDigit).map fun c => unit (digitValue c))

/-- The words of a run of digits: the cardinal if the number fits 64 bits, else digit by digit. -/
def ofDigits (text : List Char) : String :=
  match parse? text with
  | some n => cardinal n
  | none => digitByDigit text

end ScanCodes.Numeral
