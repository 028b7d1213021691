import ScanCodes.Toml.Text
import ScanCodes.Toml.Value

/-!
# TOML scalars

Numbers, booleans, dates and times. All of them are written without quotes, and a space may part a
date from a time. Whether a scalar is an integer is told by how it begins, so there are integers
that denote no number: `0x` is one, and `1_000km` another.

## Main definitions

* `Toml.integer?`, `Toml.real?`: numbers; underscores may stand between digits.
* `Toml.isDate`, `Toml.isTime`, `Toml.isMoment`: dates and times that exist.
* `Toml.unquoted?`: a scalar of any of these kinds.
-/

namespace ScanCodes.Toml

/-! ### Numbers -/

/-- Is the character a digit of a base up to sixteen? -/
def isDigitOf (base : Nat) (c : Char) : Bool :=
  (hexValue? c).any (· < base)

/-- The number that digits of a base denote. -/
def digitsValue (base : Nat) (digits : List Char) : Nat :=
  digits.foldl (fun n c => base * n + (hexValue? c).getD 0) 0

/-- The number that the characters denote in a base, if all of them are digits of it. -/
def digits? (base : Nat) (cs : List Char) : Option Nat :=
  if cs ≠ [] && cs.all (isDigitOf base) then some (digitsValue base cs) else none

/-- Does every underscore stand between two digits? In front of the characters is one if
`behindDigit` is set. -/
def isSpaced (isDigit : Char → Bool) (behindDigit : Bool) : List Char → Bool
  | [] => true
  | c :: cs =>
    if c = '_' then behindDigit && cs.head?.any isDigit && isSpaced isDigit false cs
    else isSpaced isDigit (isDigit c) cs

/-- The characters without the underscores. -/
def unspaced (cs : List Char) : List Char :=
  cs.filter (· ≠ '_')

/-- The sign in front, if there is one, and what follows it. -/
def splitSign : List Char → Option Char × List Char
  | '+' :: cs => (some '+', cs)
  | '-' :: cs => (some '-', cs)
  | cs => (none, cs)

/-- A number under a sign. -/
def withSign (sign : Option Char) (n : Nat) : Int :=
  if sign = some '-' then -n else n

/-- An integer in a base that is named in front of it, from behind the name. Nothing at all is an
integer, but denotes none. -/
def basedInteger? (base : Nat) (cs : List Char) : Option (Option Nat) :=
  if cs.all (fun c => isDigitOf base c || c = '_') && isSpaced (isDigitOf base) false cs then
    some (digits? base (unspaced cs))
  else none

/-- Does the character rule out an integer? A space does, though no tab. -/
def isNoInteger (c : Char) : Bool :=
  c = ' ' || c = '.' || c = 'e' || c = 'E'

/-- A decimal integer, from behind its sign. No zero stands in front of other digits. What stands
behind the first underscore belongs to the integer even if it is no digit; then the integer denotes
nothing. -/
def decimalInteger? (cs : List Char) : Option (Option Nat) :=
  let rest := cs.dropWhile Char.isDigit
  if (cs = ['0'] || cs.head?.any (· ≠ '0')) && (rest = [] || rest.head? = some '_') &&
      !rest.any isNoInteger && isSpaced (isDigitOf 16) false cs then
    some (digits? 10 (unspaced cs))
  else none

/-- An integer, decimal or in base sixteen, eight or two, and what it denotes. -/
def integer? (cs : List Char) : Option (Option Int) :=
  match cs with
  | '0' :: 'x' :: ds => (basedInteger? 16 ds).map (·.map Int.ofNat)
  | '0' :: 'o' :: ds => (basedInteger? 8 ds).map (·.map Int.ofNat)
  | '0' :: 'b' :: ds => (basedInteger? 2 ds).map (·.map Int.ofNat)
  | cs =>
    let (sign, ds) := splitSign cs
    (decimalInteger? ds).map (·.map (withSign sign))

/-- Is the character a digit or an underscore? -/
def isRunChar (c : Char) : Bool :=
  c.isDigit || c = '_'

/-- The digits at the front, of which there is one at least, and what follows them. -/
def digitRun? (cs : List Char) : Option (List Char × List Char) :=
  match unspaced (cs.takeWhile isRunChar) with
  | [] => none
  | ds => some (ds, cs.dropWhile isRunChar)

/-- The power of ten behind the digits of a number, if there is nothing else behind them. -/
def power? : List Char → Option Int
  | [] => some 0
  | c :: cs =>
    if c = 'e' || c = 'E' then
      let (sign, cs) := splitSign cs
      match digitRun? cs with
      | some (ds, []) => some (withSign sign (digitsValue 10 ds))
      | _ => none
    else none

/-- A number with a point, an exponent or both, from behind its sign. No zero stands in front of
other digits of its whole part. -/
def decimalReal? (cs : List Char) : Option Real :=
  if isSpaced Char.isDigit false cs then do
    let (whole, rest) ← digitRun? cs
    if cs.head? = some '0' && whole.length ≠ 1 then none
    else
      match rest with
      | [] => none
      | '.' :: rest => do
        let (part, rest) ← digitRun? rest
        return .decimal (digitsValue 10 (whole ++ part)) ((← power? rest) - (part.length : Int))
      | rest => return .decimal (digitsValue 10 whole) (← power? rest)
  else none

/-- A number with a point, an exponent or both; infinity; or no number. -/
def real? (cs : List Char) : Option Real :=
  let cs := (splitSign cs).2
  if cs = ['i', 'n', 'f'] then some .infinite
  else if cs = ['n', 'a', 'n'] then some .undefined
  else decimalReal? cs

/-! ### Dates and times -/

/-- The value of two digits. -/
def twoDigits? (a b : Char) : Option Nat :=
  if a.isDigit && b.isDigit then some (digitsValue 10 [a, b]) else none

/-- Does the year have a twenty-ninth of February? -/
def isLeapYear (year : Nat) : Bool :=
  year % 4 = 0 && (year % 100 ≠ 0 || year % 400 = 0)

/-- The number of days of a month. -/
def monthLength (year month : Nat) : Nat :=
  if month = 2 then if isLeapYear year then 29 else 28
  else if month = 4 || month = 6 || month = 9 || month = 11 then 30
  else 31

/-- A day that exists, as in `1979-05-27`. -/
def isDate : List Char → Bool
  | [a, b, c, d, '-', e, f, '-', g, h] =>
    match twoDigits? a b, twoDigits? c d, twoDigits? e f, twoDigits? g h with
    | some century, some year, some month, some day =>
      1 ≤ month && month ≤ 12 && 1 ≤ day && day ≤ monthLength (100 * century + year) month
    | _, _, _, _ => false
  | _ => false

/-- A fraction of a second, or nothing. -/
def isFraction : List Char → Bool
  | [] => true
  | '.' :: d :: ds => d.isDigit && ds.all Char.isDigit
  | _ => false

/-- Seconds with or without a fraction, or nothing. -/
def isSeconds : List Char → Bool
  | [] => true
  | ':' :: a :: b :: rest => (twoDigits? a b).any (· ≤ 60) && isFraction rest
  | _ => false

/-- A time of day, as in `07:32`, `07:32:00` or `07:32:00.5`. -/
def isTime : List Char → Bool
  | a :: b :: ':' :: c :: d :: rest =>
    (twoDigits? a b).any (· ≤ 23) && (twoDigits? c d).any (· ≤ 59) && isSeconds rest
  | _ => false

/-- A distance from universal time. -/
def isOffset : List Char → Bool
  | ['Z'] | ['z'] => true
  | [sign, a, b, ':', c, d] =>
    (sign = '+' || sign = '-') && (twoDigits? a b).any (· ≤ 23) && (twoDigits? c d).any (· ≤ 59)
  | _ => false

/-- Does an offset begin with the character? -/
def isOffsetMark (c : Char) : Bool :=
  c = 'Z' || c = 'z' || c = '+' || c = '-'

/-- A time of day, with or without an offset behind it. -/
def isOffsetTime (cs : List Char) : Bool :=
  isTime (cs.takeWhile (fun c => !isOffsetMark c)) &&
    match cs.dropWhile (fun c => !isOffsetMark c) with
    | [] => true
    | offset => isOffset offset

/-- A date, a time of day, or a date and a time with a letter or a space between them. -/
def isMoment (cs : List Char) : Bool :=
  isDate cs || isTime cs ||
    (isDate (cs.take 10) &&
      match cs.drop 10 with
      | 'T' :: time | 't' :: time | ' ' :: time => isOffsetTime time
      | _ => false)

/-! ### Scalars -/

/-- The value of a scalar that is written so, without quotes. -/
def unquoted? (cs : List Char) : Option Value :=
  if cs = ['t', 'r', 'u', 'e'] then some (.boolean true)
  else if cs = ['f', 'a', 'l', 's', 'e'] then some (.boolean false)
  else
    match integer? cs with
    | some n => some (.integer n)
    | none =>
      match real? cs with
      | some x => some (.real x)
      | none => if isMoment cs then some .moment else none

end ScanCodes.Toml
