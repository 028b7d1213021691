/-!
# JSON

JSON values and how they are laid out: one entry or item a line, two spaces for each level.

## Main definitions

* `Json`: texts, counts, lists and objects.
* `Json.pretty`: the layout of a value.
-/

namespace ScanCodes

/-- A JSON value. -/
inductive Json
  | text (s : String)
  | count (n : Nat)
  | list (items : List Json)
  | object (entries : List (String × Json))

namespace Json

/-- A hexadecimal digit. -/
def hexDigit (n : Nat) : Char :=
  Nat.digitChar n

/-- How a character is written in a text: quotes, backslashes and controls are escaped. -/
def escape (c : Char) : List Char :=
  if c = '"' then ['\\', '"']
  else if c = '\\' then ['\\', '\\']
  else if c = '\x08' then ['\\', 'b']
  else if c = '\x0c' then ['\\', 'f']
  else if c = '\n' then ['\\', 'n']
  else if c = '\r' then ['\\', 'r']
  else if c = '\t' then ['\\', 't']
  else if c.toNat < 0x20 then
    ['\\', 'u', '0', '0', hexDigit (c.toNat / 16), hexDigit (c.toNat % 16)]
  else [c]

/-- A text between quotes. -/
def quote (s : String) : String :=
  String.ofList ('"' :: s.toList.flatMap escape ++ ['"'])

/-- A new line at a level. -/
def newLine (level : Nat) : String :=
  String.ofList ('\n' :: List.replicate (2 * level) ' ')

/-- Lines between brackets; nothing stands between the brackets of an empty value. -/
def block (opening closing : String) (level : Nat) (lines : List String) : String :=
  if lines = [] then opening ++ closing
  else
    opening ++ newLine (level + 1) ++ ("," ++ newLine (level + 1)).intercalate lines ++
      newLine level ++ closing

mutual

/-- The layout of a value at a level. -/
def render (level : Nat) : Json → String
  | .text s => quote s
  | .count n => toString n
  | .list items => block "[" "]" level (renderItems (level + 1) items)
  | .object entries => block "\x7b" "\x7d" level (renderEntries (level + 1) entries)

/-- The layout of items at a level. -/
def renderItems (level : Nat) : List Json → List String
  | [] => []
  | v :: vs => render level v :: renderItems level vs

/-- The layout of entries at a level. -/
def renderEntries (level : Nat) : List (String × Json) → List String
  | [] => []
  | (key, v) :: es => (quote key ++ ": " ++ render level v) :: renderEntries level es

end

/-- The layout of a value. -/
def pretty (v : Json) : String :=
  render 0 v

end Json

end ScanCodes
