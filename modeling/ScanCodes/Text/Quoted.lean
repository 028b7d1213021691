import ScanCodes.Text.Visible.Table

/-!
# Quoted text

A text between double quotes in which every character can be told apart: characters without a shape
of their own, and those that would be drawn onto the quote or the letter before them, are written as
their code point.

## Main definitions

* `Text.Visible.isHidden`, `Text.Visible.isExtending`: the two properties.
* `Text.Quoted.escape`: how one character is written.
* `Text.quoted`: the text with its quotes.
-/

namespace ScanCodes.Text

namespace Visible

/-- Has the character no shape of its own? -/
def isHidden (c : Char) : Bool :=
  hidden.any (fun (first, last) => first ≤ c.toNat && c.toNat ≤ last)

/-- Is the character drawn onto the one before it? -/
def isExtending (c : Char) : Bool :=
  extending.any (fun (first, last) => first ≤ c.toNat && c.toNat ≤ last)

end Visible

namespace Quoted

/-- A character as its code point: the lower-case hexadecimal digits in braces. -/
def codePoint (c : Char) : List Char :=
  ['\\', 'u', '\x7b'] ++ Nat.toDigits 16 c.toNat ++ ['\x7d']

/-- How a character is written between the quotes. -/
def escape (c : Char) : List Char :=
  if c = '\x00' then ['\\', '0']
  else if c = '\t' then ['\\', 't']
  else if c = '\n' then ['\\', 'n']
  else if c = '\r' then ['\\', 'r']
  else if c = '"' then ['\\', '"']
  else if c = '\\' then ['\\', '\\']
  else if Visible.isExtending c || Visible.isHidden c then codePoint c
  else [c]

end Quoted

/-- A text between double quotes. -/
def quoted (cs : List Char) : List Char :=
  '"' :: cs.flatMap Quoted.escape ++ ['"']

end ScanCodes.Text
