import ScanCodes.Csv.Record
import ScanCodes.Row
import ScanCodes.Text.Utf8

/-!
# Scan code tables

A table is comma-separated values in UTF-8. The first record is a header and may hold anything;
every other record is a row of three fields. Blank lines are not allowed, neither before the header
nor after the last row.

## Main definitions

* `TableError`: what can be wrong with a table, with its wording.
* `Table.rows`: the rows of a table.

## Implementation notes

Records are judged in order, and of one record first whether it is text. A blank line is judged
together with the next record behind it: if that one is not text, this is what is reported.

A byte order mark is not part of the first line. Blank lines between the mark and the first record
are passed over.
-/

namespace ScanCodes

/-- What can be wrong with a table. -/
inductive TableError
  /-- There is no header. -/
  | empty
  /-- A row without three fields; a blank line has none. -/
  | malformed (line found : Nat)
  /-- A field that is not text from its byte `index` on. The record is counted from the header as
  zero, and `start` is the place after the record before it. -/
  | undecodable (record : Nat) (start : Csv.Position) (field index : Nat)
deriving DecidableEq

/-- The wording of a table error. -/
def TableError.message : TableError → String
  | .empty => "Scan code table is empty: expected a header row"
  | .malformed line found =>
    s!"Malformed row at line {line}: expected 3 fields (codes, name, char), found {found}"
  | .undecodable record start field index =>
    "Failed to read scan code table row: CSV parse error: " ++
      s!"record {record} (line {start.line}, field: {field}, byte: {start.offset}): " ++
      s!"invalid utf-8: invalid UTF-8 in field {field} near byte index {index}"

namespace Table

/-- The text of the fields of a record; or else the first field that is not text, counted on from
`field`, and the number of its bytes that are. -/
def decodeFields (field : Nat) : List (List UInt8) → Except (Nat × Nat) (List String)
  | [] => .ok []
  | bytes :: rest =>
    match Text.Utf8.decode? bytes with
    | none => .error (field, Text.Utf8.validLength bytes)
    | some text => (decodeFields (field + 1) rest).map (text :: ·)

/-- The error of a blank line, given what follows it. -/
def blankError (record : Nat) (start : Csv.Position) (blank : Csv.Record)
    (rest : List Csv.Record) : TableError :=
  match rest.find? (fun r => !r.isBlank) with
  | none => .malformed blank.start.line 0
  | some next =>
    match decodeFields 0 next.fields with
    | .error (field, index) => .undecodable record start field index
    | .ok _ => .malformed blank.start.line 0

/-- The rows of the records from number `record` on, the one before them having stopped at
`start`. -/
def rowsFrom (record : Nat) (start : Csv.Position) : List Csv.Record → Except TableError (List Row)
  | [] => .ok []
  | r :: rest =>
    if r.isBlank then .error (blankError record start r rest)
    else
      match decodeFields 0 r.fields with
      | .error (field, index) => .error (.undecodable record start field index)
      | .ok fields =>
        if record = 0 then rowsFrom 1 r.stop rest
        else
          match fields with
          | [codes, name, literal] =>
            (rowsFrom (record + 1) r.stop rest).map (Row.ofFields codes name literal :: ·)
          | _ => .error (.malformed r.start.line fields.length)

/-- The byte order mark of UTF-8. -/
def mark : List UInt8 := [0xEF, 0xBB, 0xBF]

/-- The records of a table, without a mark in front of them. -/
def records (bytes : List UInt8) : List Csv.Record :=
  if mark.isPrefixOf bytes then
    (Csv.scan (.between false) ⟨mark.length, 1⟩ (bytes.drop mark.length)).dropWhile (·.isBlank)
  else Csv.scan (.between false) .first bytes

/-- The rows of a table, the header left out. -/
def rows (bytes : List UInt8) : Except TableError (List Row) :=
  match records bytes with
  | [] => .error .empty
  | rs => rowsFrom 0 .first rs

end Table

end ScanCodes
