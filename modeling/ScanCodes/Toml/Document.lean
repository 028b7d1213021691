import ScanCodes.Toml.Scalar
import ScanCodes.Toml.Statement
import ScanCodes.Toml.Tree

/-!
# TOML documents

What the statements of a document mean: the table that it stands for as a whole.

## Main definitions

* `Toml.Error`: why a document means nothing.
* `Toml.Key.names`, `Toml.Expr.value`: what keys and expressions mean.
* `Toml.Draft.add`: what a statement adds to those before it.
* `Toml.parse`: the entries of a document.

## Implementation notes

Of several errors the first one counts, in the order of the text; but a document that does not even
fall into statements is malformed, wherever that shows. A table is put in its place when its section
ends. Whether it may be there is asked for `[key]` when the section begins, and for `[[key]]` not
before it ends.
-/

namespace ScanCodes.Toml

/-- Why a document means nothing. -/
inductive Error
  /-- Something in it is not TOML. -/
  | malformed
  /-- A key has more than `maxDepth` names. -/
  | longKey
deriving DecidableEq

/-- A result, or else the error that something is not TOML. -/
def orMalformed {α : Type} : Option α → Except Error α
  | some a => .ok a
  | none => .error .malformed

/-! ### Keys -/

/-- The characters of names without quotes. -/
def isNameChar (c : Char) : Bool :=
  c.isAlphanum || c = '_' || c = '-'

/-- The name that is written so. -/
def name? (text : List Char) : Option String :=
  match lineText? text with
  | some (s, []) => some (String.ofList s)
  | _ => if text ≠ [] && text.all isNameChar then some (String.ofList text) else none

/-- The names of a key: those in front of the last one, and the last one. -/
def Key.names (k : Key) : Except Error (List String × String) := do
  let path ← orMalformed (k.path.mapM name?)
  let last ← orMalformed (name? k.last)
  if path.length < maxDepth then return (path, last) else throw .longKey

/-! ### Values -/

/-- The value of a scalar that is written so. -/
def scalar? (text : List Char) : Option Value :=
  if text.head?.any isQuote then
    match text? text with
    | some (s, []) => some (.text (String.ofList s))
    | _ => none
  else unquoted? text

mutual

/-- The value of an expression. -/
def Expr.value : Expr → Except Error Value
  | .scalar text => orMalformed (scalar? text)
  | .array items => (itemValues items).map .array
  | .table entries => (inlineBranches [] entries).map fun branches => .table (branchValues branches)

/-- The values of the items of an array. -/
def itemValues : List Expr → Except Error (List Value)
  | [] => .ok []
  | e :: es => do return (← e.value) :: (← itemValues es)

/-- The entries of a table between braces, added to some others. -/
def inlineBranches (branches : Branches) : List (Key × Expr) → Except Error Branches
  | [] => .ok branches
  | (key, e) :: rest => do
    let (path, name) ← key.names
    let v ← e.value
    inlineBranches (← orMalformed (define? path name v branches)) rest

end

/-! ### Sections -/

/-- The header of a section. -/
structure Header where
  /-- Does it open an element of a list of tables? -/
  isElement : Bool
  path : List String
  name : String

/-- What has been read of a document. -/
structure Draft where
  /-- The tables of all sections but the last. -/
  root : Branches := []
  /-- The header of the last section, unless it is the one in front of all headers. -/
  header : Option Header := none
  /-- The entries of the last section. -/
  entries : Branches := []

/-- The tables of all sections. -/
def Draft.close? (d : Draft) : Option Branches :=
  match d.header with
  | none => some d.entries
  | some h =>
    if h.isElement then placeElement? h.path h.name d.entries d.root
    else placeTable? h.path h.name d.entries d.root

/-- Adds a statement. -/
def Draft.add (d : Draft) : Statement → Except Error Draft
  | .header isElement key => do
    let root ← orMalformed d.close?
    let (path, name) ← key.names
    let entries ← if isElement then pure [] else orMalformed (openTable? path name root)
    return { root, header := some ⟨isElement, path, name⟩, entries }
  | .entry key e => do
    let (path, name) ← key.names
    let v ← e.value
    return { d with entries := ← orMalformed (define? path name v d.entries) }

/-- The entries of a document. -/
def parse (document : String) : Except Error Entries := do
  let statements ← orMalformed (statements? document)
  let d ← statements.foldlM Draft.add {}
  return branchValues (← orMalformed d.close?)

end ScanCodes.Toml
