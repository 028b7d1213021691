import ScanCodes.Identifier
import ScanCodes.Numeral
import ScanCodes.Symbol
import ScanCodes.Text.Blank
import ScanCodes.Text.Upper

/-!
# Key names

The free text that a table gives as the name of a key, and the identifier that is made from it.
Five things happen to a name, in this order: notes in parentheses are dropped, symbols are spelled,
digits are spelled, letters become capital and the blanks at the ends go, and dashes and spaces
become underscores.

## Main definitions

* `KeyName.withoutNotes`: drops each group from an opening parenthesis to the next closing one.
* `KeyName.spellSymbols`: writes each symbol as its words.
* `KeyName.spellNumbers`: writes each run of digits as its words.
* `KeyName.toCase`: the capital letters and underscores of an identifier.
* `KeyName.identifier`: all of it, behind the stem.
-/

namespace ScanCodes.KeyName

/-! ### Notes -/

/-- Drops the notes of a name. Inside a note (`inNote`) everything goes up to the first closing
parenthesis, opening ones as well; an opening parenthesis that is never closed opens no note. -/
def dropNotes (inNote : Bool) : List Char → List Char
  | [] => []
  | c :: cs =>
    if inNote then dropNotes (c != ')') cs
    else if c = '(' ∧ ')' ∈ cs then dropNotes true cs
    else c :: dropNotes false cs

/-- A name without its notes. -/
def withoutNotes (name : List Char) : List Char :=
  dropNotes false name

/-! ### Symbols -/

/-- A symbol as its words; any other character as it is. -/
def spellSymbol (c : Char) : List Char :=
  match Symbol.words? c with
  | some words => words.toList
  | none => [c]

/-- A name with its symbols spelled. -/
def spellSymbols (name : List Char) : List Char :=
  name.flatMap spellSymbol

/-! ### Numbers -/

/-- The words of a run of digits, given last digit first. A space parts them from a letter in front
of the run. -/
def spellRun (afterLetter : Bool) (run : List Char) : List Char :=
  if run = [] then []
  else
    let words := (Numeral.ofDigits run.reverse).toList
    if afterLetter then ' ' :: words else words

/-- Spells the runs of digits of a name. `run` is the open run, last digit first, and `afterLetter`
says whether a letter stands in front of it. -/
def spellRuns (afterLetter : Bool) (run : List Char) : List Char → List Char
  | [] => spellRun afterLetter run
  | c :: cs =>
    if c.isDigit then spellRuns afterLetter (c :: run) cs
    else spellRun afterLetter run ++ c :: spellRuns c.isAlpha [] cs

/-- A name with its runs of digits spelled. -/
def spellNumbers (name : List Char) : List Char :=
  spellRuns false [] name

/-! ### Identifiers -/

/-- A dash or a space as an underscore. -/
def underscore (c : Char) : Char :=
  if c = '-' ∨ c = ' ' then '_' else c

/-- Capital letters, no blanks at the ends, underscores for dashes and spaces. -/
def toCase (name : List Char) : List Char :=
  (Text.trim (Text.upper name)).map underscore

/-- What follows the stem in the identifier of a name. -/
def body (name : List Char) : List Char :=
  toCase (spellNumbers (spellSymbols (withoutNotes name)))

/-- The identifier of a key name. -/
def identifier (name : String) : Identifier :=
  ⟨Identifier.stem ++ String.ofList (body name.toList)⟩

end ScanCodes.KeyName
