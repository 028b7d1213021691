import ScanCodes.Keymap

/-!
# The generated header

The C header declares an enumeration with one enumerator for each scan code, and the function that
looks characters up.

## Main definitions

* `Artifact.Header.enumerator`: the line of one scan code.
* `Artifact.Header.render`: the text of the header.
-/

namespace ScanCodes.Artifact.Header

/-- What stands before the enumerators. -/
def opening : String :=
  "#pragma once\n\nenum KeyCode \x7b\n"

/-- What stands after the enumerators. -/
def closing : String :=
  "\x7d;\nchar scan_code_to_char(enum KeyCode scan_code);\n"

/-- The line of one scan code. -/
def enumerator (entry : String × Identifier) : String :=
  "    " ++ entry.2.text ++ " = " ++ entry.1 ++ ",\n"

/-- The header of a key map: one enumerator for each scan code, in their order. -/
def render (keys : KeyMap) : String :=
  opening ++ String.join (keys.entries.map enumerator) ++ closing

end ScanCodes.Artifact.Header
