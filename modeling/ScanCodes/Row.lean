import ScanCodes.Text.Blank

/-!
# Rows of a scan code table

One row says which scan codes a key sends, what the key is called and which character it types.

## Main definitions

* `Row.ofFields`: the row of three fields; the first lists scan codes parted by blanks.
* `Row.singleCode?`: the scan code of a row that has exactly one.
-/

namespace ScanCodes

/-- One row of a table. -/
structure Row where
  /-- The scan codes. More than one is a chord. -/
  codes : List String
  /-- The name of the key as the table gives it. -/
  name : String
  /-- The character that the key types, empty if it types none. -/
  literal : String
deriving DecidableEq

namespace Row

/-- The row of three fields. -/
def ofFields (codes name literal : String) : Row :=
  ⟨(Text.words codes.toList).map String.ofList, name, literal⟩

/-- The scan code of a row that has exactly one. -/
def singleCode? (row : Row) : Option String :=
  match row.codes with
  | [code] => some code
  | _ => none

theorem singleCode?_eq_some {row : Row} {code : String} :
    row.singleCode? = some code ↔ row.codes = [code] := by
  unfold singleCode?
  split <;> simp_all

end Row

end ScanCodes
