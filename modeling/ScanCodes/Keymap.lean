import ScanCodes.KeyName
import ScanCodes.Row
import ScanCodes.SortedMap
import ScanCodes.Warning

/-!
# Keymaps

What the rows of a table amount to: which identifier each scan code has, which character each
identifier types, and a report of what was left out and what was odd.

Only rows with exactly one scan code take part. The last row with a scan code gives its identifier,
and the last row with an identifier and a character gives its character.

## Main definitions

* `KeyMap`, `CharMap`: the two maps, in the order of their keys.
* `Report`: the rows counted, and the warnings in the order of the rows.
* `Keymap.ofRows`: the keymap of a list of rows.
* `Keymap.warningsFor`: what one row gives rise to, after the rows before it.
-/

namespace ScanCodes

/-- From scan codes to identifiers, in code point order of the scan codes. -/
abbrev KeyMap := SortedMap String Identifier

/-- From identifiers to the characters they type, in the order of the identifiers. -/
abbrev CharMap := SortedMap Identifier String

/-- What was seen while the maps were made. -/
structure Report where
  /-- All rows. -/
  rows : Nat := 0
  /-- Rows left out because they list several scan codes. -/
  skippedMultiCode : Nat := 0
  /-- Rows left out because they list none. -/
  skippedEmpty : Nat := 0
  /-- Defects, in the order of the rows. -/
  warnings : List Warning := []
deriving DecidableEq

/-- The number of rows that were left out. -/
def Report.skippedRows (r : Report) : Nat :=
  r.skippedMultiCode + r.skippedEmpty

/-- The maps of a table and the report on it. -/
structure Keymap where
  /-- The identifier of each scan code. -/
  keys : KeyMap := .empty
  /-- The character of each identifier that types one. -/
  chars : CharMap := .empty
  /-- The scan code that had each identifier first. -/
  firstCodes : SortedMap Identifier String := .empty
  /-- What was seen on the way. -/
  report : Report := {}

namespace Keymap

/-- Warns of an identifier that is unfit for use. -/
def degenerateWarning (code name : String) (identifier : Identifier) : List Warning :=
  if identifier.isBare then [.emptyIdentifier code name]
  else if identifier.isValid then []
  else [.invalidIdentifier code identifier]

/-- Warns of an identifier that another scan code had first. -/
def duplicateIdentifierWarning (m : Keymap) (code : String) (identifier : Identifier) :
    List Warning :=
  match m.firstCodes.get? identifier with
  | none => []
  | some firstCode =>
    if firstCode = code then [] else [.duplicateIdentifier identifier firstCode code]

/-- Warns of a scan code that has an identifier already, be it the same one. -/
def duplicateCodeWarning (m : Keymap) (code : String) (identifier : Identifier) : List Warning :=
  match m.keys.get? code with
  | none => []
  | some previous => [.duplicateCode code previous identifier]

/-- The warnings about a row with one scan code, after the rows that made `m`. -/
def warningsFor (m : Keymap) (code name : String) (identifier : Identifier) : List Warning :=
  degenerateWarning code name identifier ++ m.duplicateIdentifierWarning code identifier ++
    m.duplicateCodeWarning code identifier

/-- Adds a row with one scan code. -/
def addKey (m : Keymap) (code : String) (row : Row) : Keymap :=
  let identifier := KeyName.identifier row.name
  { keys := m.keys.insert code identifier
    chars := if row.literal = "" then m.chars else m.chars.insert identifier row.literal
    firstCodes :=
      match m.firstCodes.get? identifier with
      | none => m.firstCodes.insert identifier code
      | some _ => m.firstCodes
    report :=
      { m.report with
        rows := m.report.rows + 1
        warnings := m.report.warnings ++ m.warningsFor code row.name identifier } }

/-- Counts a row that is left out. -/
def skip (m : Keymap) (row : Row) : Keymap :=
  { m with
    report :=
      if row.codes = [] then
        { m.report with rows := m.report.rows + 1, skippedEmpty := m.report.skippedEmpty + 1 }
      else
        { m.report with
          rows := m.report.rows + 1, skippedMultiCode := m.report.skippedMultiCode + 1 } }

/-- Adds a row. -/
def add (m : Keymap) (row : Row) : Keymap :=
  match row.singleCode? with
  | some code => m.addKey code row
  | none => m.skip row

/-- The keymap of a list of rows. -/
def ofRows (rows : List Row) : Keymap :=
  rows.foldl add {}

@[simp]
theorem ofRows_nil : ofRows [] = {} := rfl

theorem ofRows_concat (rows : List Row) (row : Row) :
    ofRows (rows ++ [row]) = (ofRows rows).add row := by
  simp [ofRows]

end Keymap

end ScanCodes
