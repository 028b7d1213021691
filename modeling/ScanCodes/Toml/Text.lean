/-!
# TOML texts

The characters of a TOML document: blanks, comments, ends of lines, and the four ways to write a
text. Each reader takes the characters from where it stands and gives what it read together with
what follows, or nothing if the document is malformed there.

## Main definitions

* `Toml.skipBlanks`, `Toml.endLine?`, `Toml.skipFiller?`: what stands between the parts of a
  document.
* `Toml.basic`, `Toml.literal`: texts between quotes, on one line or on several.
* `Toml.text?`: a text in any of the four ways.
-/

namespace ScanCodes.Toml

/-- A space or a tab. -/
def isBlank (c : Char) : Bool :=
  c = ' ' || c = '\t'

/-- The characters that may stand anywhere on a line: no controls but the tab. -/
def isPlain (c : Char) : Bool :=
  c = '\t' || (' ' ≤ c && c ≠ '\x7f')

/-- The single quote. -/
def apostrophe : Char := '\x27'

/-! ### Between the parts -/

/-- What follows the blanks. -/
def skipBlanks (cs : List Char) : List Char :=
  cs.dropWhile isBlank

/-- Does a line break begin with the character, in front of the others? -/
def isBreak (c : Char) (cs : List Char) : Bool :=
  c = '\n' || (c = '\r' && cs.head? = some '\n')

/-- What follows the end of a line: blanks, a comment, and a line break or the end of the
document. -/
def endLine? (cs : List Char) : Option (List Char) :=
  let cs := skipBlanks cs
  let cs := if cs.head? = some '#' then cs.dropWhile isPlain else cs
  match cs with
  | [] => some []
  | '\n' :: rest => some rest
  | '\r' :: '\n' :: rest => some rest
  | _ => none

/-- What follows blanks, line breaks and comments. -/
def skipFiller? (inComment : Bool) : List Char → Option (List Char)
  | [] => some []
  | c :: cs =>
    if isBreak c cs then skipFiller? (inComment && c = '\r') cs
    else if inComment then if isPlain c then skipFiller? true cs else none
    else if isBlank c then skipFiller? false cs
    else if c = '#' then skipFiller? true cs
    else some (c :: cs)

/-- Passes over a line break right behind the opening quotes. -/
def skipFirstBreak : List Char → List Char
  | '\n' :: rest => rest
  | '\r' :: '\n' :: rest => rest
  | cs => cs

/-! ### Texts -/

/-- The text before the closing quotes of a text on several lines, given what follows one quote. Up
to two quotes in front of the closing three belong to the text. -/
def closing? (q : Char) : List Char → Option (List Char × List Char)
  | a :: b :: c :: d :: rest =>
    if a = q && b = q then
      if c = q then if d = q then some ([q, q], rest) else some ([q], d :: rest)
      else some ([], c :: d :: rest)
    else none
  | [a, b, c] =>
    if a = q && b = q then if c = q then some ([q], []) else some ([], [c]) else none
  | [a, b] => if a = q && b = q then some ([], []) else none
  | _ => none

/-- Puts a character in front of what was read. -/
def prepend (c : Char) (r : List Char × List Char) : List Char × List Char :=
  (c :: r.1, r.2)

/-- The character that a one-letter escape stands for. -/
def escaped? (c : Char) : Option Char :=
  match c with
  | 'b' => some '\x08'
  | 't' => some '\t'
  | 'n' => some '\n'
  | 'f' => some '\x0c'
  | 'r' => some '\r'
  | 'e' => some '\x1b'
  | '"' => some '"'
  | '\\' => some '\\'
  | _ => none

/-- The number of hexadecimal digits that an escape takes. -/
def codeLength? (c : Char) : Option Nat :=
  match c with
  | 'x' => some 2
  | 'u' => some 4
  | 'U' => some 8
  | _ => none

/-- The value of a hexadecimal digit. -/
def hexValue? (c : Char) : Option Nat :=
  if c.isDigit then some (c.toNat - '0'.toNat)
  else if 'a' ≤ c && c ≤ 'f' then some (c.toNat - 'a'.toNat + 10)
  else if 'A' ≤ c && c ≤ 'F' then some (c.toNat - 'A'.toNat + 10)
  else none

/-- The character with a code point. Surrogates are no characters. -/
def codePoint? (n : Nat) : Option Char :=
  if n.isValidChar then some (Char.ofNat n) else none

/-- What the reader of a text expects. -/
inductive Expect
  /-- Text. -/
  | plain
  /-- The character behind a backslash. -/
  | escape
  /-- So many more digits of a code point, the digits before them having this value. -/
  | code (digits value : Nat)
  /-- Blanks and line breaks behind a backslash at the end of a line; has a line break been seen? -/
  | fold (seen : Bool)

/-- A backslash at the end of a line takes the white space behind it along, up to the first
character that is none. -/
def Expect.settle (e : Expect) (c : Char) (cs : List Char) : Expect :=
  match e with
  | .fold true => if isBlank c || c = '\n' || isBreak c cs then .fold true else .plain
  | e => e

/-- A text between double quotes, from behind the opening ones; on several lines if `long`. -/
def basic (long : Bool) (e : Expect) : List Char → Option (List Char × List Char)
  | [] => none
  | c :: cs =>
    match e.settle c cs with
    | .plain =>
      if c = '"' then
        if long then
          match closing? '"' cs with
          | some r => some r
          | none => (basic long .plain cs).map (prepend c)
        else some ([], cs)
      else if c = '\\' then basic long .escape cs
      else if isPlain c || (long && isBreak c cs) then (basic long .plain cs).map (prepend c)
      else none
    | .escape =>
      match escaped? c with
      | some d => (basic long .plain cs).map (prepend d)
      | none =>
        match codeLength? c with
        | some n => basic long (.code n 0) cs
        | none =>
          if long && (isBlank c || isBreak c cs) then basic long (.fold (c = '\n')) cs else none
    | .code digits value =>
      match hexValue? c with
      | none => none
      | some d =>
        if digits ≤ 1 then
          match codePoint? (16 * value + d) with
          | some x => (basic long .plain cs).map (prepend x)
          | none => none
        else basic long (.code (digits - 1) (16 * value + d)) cs
    | .fold seen =>
      if isBlank c || isBreak c cs then basic long (.fold (seen || c = '\n')) cs else none

/-- A text between single quotes, from behind the opening ones; on several lines if `long`. -/
def literal (long : Bool) : List Char → Option (List Char × List Char)
  | [] => none
  | c :: cs =>
    if c = apostrophe then
      if long then
        match closing? apostrophe cs with
        | some r => some r
        | none => (literal long cs).map (prepend c)
      else some ([], cs)
    else if isPlain c || (long && isBreak c cs) then (literal long cs).map (prepend c)
    else none

/-- A text on one line, in either kind of quotes. -/
def lineText? : List Char → Option (List Char × List Char)
  | c :: cs =>
    if c = '"' then basic false .plain cs
    else if c = apostrophe then literal false cs
    else none
  | [] => none

/-- A text in any of the four ways. -/
def text? : List Char → Option (List Char × List Char)
  | a :: b :: c :: cs =>
    if a = '"' && b = '"' && c = '"' then basic true .plain (skipFirstBreak cs)
    else if a = apostrophe && b = apostrophe && c = apostrophe then literal true (skipFirstBreak cs)
    else lineText? (a :: b :: c :: cs)
  | cs => lineText? cs

end ScanCodes.Toml
