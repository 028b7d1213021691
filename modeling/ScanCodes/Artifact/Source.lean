import ScanCodes.Keymap

/-!
# The generated source

The C source defines the function that gives the character of an enumerator, as a switch with one
case for each identifier that types a character.

## Main definitions

* `Artifact.Source.escape`: a character literal as it stands between single quotes.
* `Artifact.Source.caseBlock`: the case of one identifier.
* `Artifact.Source.render`: the text of the source.
-/

namespace ScanCodes.Artifact.Source

/-- Must the character be escaped between single quotes, in front of `rest`? A quote or a backslash
must, unless a small letter follows: then a backslash is the beginning of an escape that the table
has written out. -/
def needsBackslash (c : Char) (rest : List Char) : Bool :=
  (c = '\x27' || c = '\\') && !(rest.head?.any Char.isLower)

/-- The characters of a literal as they stand between single quotes. -/
def escapeChars : List Char → List Char
  | [] => []
  | c :: cs => if needsBackslash c cs then '\\' :: c :: escapeChars cs else c :: escapeChars cs

/-- A literal as it stands between single quotes. -/
def escape (literal : String) : String :=
  String.ofList (escapeChars literal.toList)

/-- What stands before the cases. -/
def opening : String :=
  "#include \"keycodes.h\"\n\n" ++
    "char scan_code_to_char(enum KeyCode scan_code) \x7b\n  switch (scan_code) \x7b\n"

/-- What stands after the cases. -/
def closing : String :=
  "\n  default:\n    return '\\0';\n  \x7d\n\x7d\n"

/-- The case of one identifier. -/
def caseBlock (entry : Identifier × String) : String :=
  "  case " ++ entry.1.text ++ ":\n    return '" ++ escape entry.2 ++ "';\n"

/-- The source of a character map: one case for each identifier, in their order. -/
def render (chars : CharMap) : String :=
  opening ++ String.join (chars.entries.map caseBlock) ++ closing

end ScanCodes.Artifact.Source
