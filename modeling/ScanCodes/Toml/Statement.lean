import ScanCodes.Toml.Text

/-!
# TOML statements

What a document says line by line, before it is asked what that means: headers and entries, with
names and scalars just as they are written. A document that falls into statements may still be
meaningless. What cannot be told from the marks between names and scalars is left open here, such as
whether a name is a proper name, a scalar is any at all, and a key is given twice.

## Main definitions

* `Toml.Key`, `Toml.Expr`, `Toml.Statement`: the parts of a document.
* `Toml.quotedText?`, `Toml.scalarText`: how far the writing of a name or a scalar goes.
* `Toml.key?`, `Toml.expr?`, `Toml.statement?`: one part, from where it stands.
* `Toml.statements?`: all statements of a document.

## Implementation notes

Expressions are read with fuel, more than the characters that are left: every second step takes a
character away. Arrays and tables may be nested `maxDepth` deep.
-/

namespace ScanCodes.Toml

/-- A path of names parted by dots, each as it is written. -/
structure Key where
  /-- The names in front of the last one. -/
  path : List (List Char)
  last : List Char
deriving DecidableEq

/-- What can stand behind an equals sign. -/
inductive Expr
  /-- A text, a number, a boolean, a date or a time, as it is written. -/
  | scalar (text : List Char)
  | array (items : List Expr)
  /-- A table between braces. -/
  | table (entries : List (Key × Expr))

/-- A line, possibly going on over several, that is neither blank nor a mere comment. -/
inductive Statement
  /-- A line `[key]`, which opens a table, or `[[key]]`, which opens an element of a list. -/
  | header (isElement : Bool) (key : Key)
  | entry (key : Key) (e : Expr)

/-! ### Names and scalars as they are written -/

/-- Does the character open a text between quotes? -/
def isQuote (c : Char) : Bool :=
  c = '"' || c = apostrophe

/-- The rest of a text on one line, from behind the opening quote, and what follows it. It goes as
far as the closing quote or, if there is none, the end of the line. A quote behind a backslash does
not close a text between double quotes. -/
def lineQuoted (q : Char) (escaped : Bool) : List Char → List Char × List Char
  | [] => ([], [])
  | c :: cs =>
    if escaped && (c = q || c = '\\') then prepend c (lineQuoted q false cs)
    else if c = q then ([c], cs)
    else if c = '\n' then ([], c :: cs)
    else prepend c (lineQuoted q (q = '"' && c = '\\') cs)

/-- The rest of a text on several lines, from behind the opening quotes, and what follows it. -/
def blockQuoted (q : Char) (escaped : Bool) : List Char → List Char × List Char
  | [] => ([], [])
  | c :: cs =>
    if escaped && (c = q || c = '\\') then prepend c (blockQuoted q false cs)
    else
      match if c = q then closing? q cs else none with
      | some (more, rest) => (q :: q :: q :: more, rest)
      | none => prepend c (blockQuoted q (q = '"' && c = '\\') cs)

/-- A text between quotes with its quotes, and what follows it. -/
def quotedText? : List Char → Option (List Char × List Char)
  | [] => none
  | q :: cs =>
    if isQuote q then
      match cs with
      | a :: b :: rest =>
        if a = q && b = q then
          some (prepend q (prepend q (prepend q (blockQuoted q false rest))))
        else some (prepend q (lineQuoted q false cs))
      | cs => some (prepend q (lineQuoted q false cs))
    else none

/-- The characters of scalars, blanks apart. Most of them are of no use in any scalar. -/
def isScalarChar (c : Char) : Bool :=
  !(isBlank c || c ∈ ['=', ',', '[', ']', '\x7b', '\x7d', '#', '\r', '\n'])

/-- A scalar without quotes. Blanks belong to it if more of it follows them; but behind blanks, and
behind a dot, a quote begins a text of its own. -/
def scalarText : List Char → List Char
  | [] => []
  | c :: cs =>
    if c = '.' || isBlank c then
      match scalarText cs with
      | [] => if c = '.' then [c] else []
      | d :: ds => if isQuote d then (if c = '.' then [c] else []) else c :: d :: ds
    else if isScalarChar c then c :: scalarText cs
    else []

/-- A name, with or without quotes, and what follows it. -/
def nameText (cs : List Char) : List Char × List Char :=
  match quotedText? cs with
  | some r => r
  | none =>
    let isPart (c : Char) : Bool := isScalarChar c && c ≠ '.'
    (cs.takeWhile isPart, cs.dropWhile isPart)

/-- A key, and what follows the blanks behind it. Each of its names takes a dot away. -/
def keyParts? : Nat → List Char → Option (Key × List Char)
  | 0, _ => none
  | fuel + 1, cs =>
    let (name, rest) := nameText (skipBlanks cs)
    match skipBlanks rest with
    | '.' :: rest => (keyParts? fuel rest).map fun (k, rest) => (⟨name :: k.path, k.last⟩, rest)
    | rest => some (⟨[], name⟩, rest)

/-- A key, from where it stands, and what follows the blanks behind it. -/
def key? (cs : List Char) : Option (Key × List Char) :=
  keyParts? (cs.length + 1) cs

/-! ### Expressions -/

/-- How deep arrays and tables may be nested. A key has at most as many names. -/
def maxDepth : Nat := 80

mutual

/-- An expression at a depth, from where it stands, and what follows it. -/
def exprAt? (fuel depth : Nat) (cs : List Char) : Option (Expr × List Char) :=
  match fuel with
  | 0 => none
  | fuel + 1 =>
    match cs with
    | '[' :: rest => if depth < maxDepth then items? fuel (depth + 1) [] rest else none
    | '\x7b' :: rest => if depth < maxDepth then inline? fuel (depth + 1) [] rest else none
    | cs =>
      match quotedText? cs with
      | some (text, rest) => some (.scalar text, rest)
      | none =>
        match scalarText cs with
        | [] => none
        | text => some (.scalar text, cs.drop text.length)

/-- The items of an array up to its closing bracket, after those in `done`, last first. -/
def items? (fuel depth : Nat) (done : List Expr) (cs : List Char) : Option (Expr × List Char) :=
  match fuel with
  | 0 => none
  | fuel + 1 => do
    match ← skipFiller? false cs with
    | ']' :: rest => return (.array done.reverse, rest)
    | cs =>
      let (e, rest) ← exprAt? fuel depth cs
      match ← skipFiller? false rest with
      | ',' :: rest => items? fuel depth (e :: done) rest
      | ']' :: rest => return (.array (e :: done).reverse, rest)
      | _ => none

/-- The entries of a table between braces up to the closing one, after those in `done`, last first.
Lines may end anywhere but inside a key. -/
def inline? (fuel depth : Nat) (done : List (Key × Expr)) (cs : List Char) :
    Option (Expr × List Char) :=
  match fuel with
  | 0 => none
  | fuel + 1 => do
    match ← skipFiller? false cs with
    | '\x7d' :: rest => return (.table done.reverse, rest)
    | cs =>
      let (key, rest) ← key? cs
      match ← skipFiller? false rest with
      | '=' :: rest =>
        let (e, rest) ← exprAt? fuel depth (← skipFiller? false rest)
        match ← skipFiller? false rest with
        | ',' :: rest => inline? fuel depth ((key, e) :: done) rest
        | '\x7d' :: rest => return (.table ((key, e) :: done).reverse, rest)
        | _ => none
      | _ => none

end

/-- The expression of an entry, from behind the equals sign and the blanks, and what follows it. If
there is none, an empty scalar stands for it. -/
def expr? (cs : List Char) : Option (Expr × List Char) :=
  match cs.head? with
  | none | some '#' | some '\n' | some '\r' => some (.scalar [], cs)
  | _ => exprAt? (2 * cs.length + 2) 0 cs

/-! ### Statements -/

/-- A statement, from where it stands, and what follows its line. -/
def statement? (cs : List Char) : Option (Statement × List Char) := do
  match cs with
  | '[' :: '[' :: cs =>
    match ← key? cs with
    | (key, ']' :: ']' :: rest) => return (.header true key, ← endLine? rest)
    | _ => none
  | '[' :: cs =>
    match ← key? cs with
    | (key, ']' :: rest) => return (.header false key, ← endLine? rest)
    | _ => none
  | cs =>
    match ← key? cs with
    | (key, '=' :: rest) =>
      let (e, rest) ← expr? (skipBlanks rest)
      return (.entry key e, ← endLine? rest)
    | _ => none

/-- The statements of some characters. Each takes a character away. -/
def statementsFrom? : Nat → List Char → Option (List Statement)
  | 0, _ => none
  | fuel + 1, cs => do
    match ← skipFiller? false cs with
    | [] => return []
    | cs =>
      let (s, rest) ← statement? cs
      return s :: (← statementsFrom? fuel rest)

/-- The statements of a document. A byte order mark in front of it is passed over. -/
def statements? (document : String) : Option (List Statement) :=
  let cs := match document.toList with
    | '\ufeff' :: cs => cs
    | cs => cs
  statementsFrom? (cs.length + 1) cs

end ScanCodes.Toml
