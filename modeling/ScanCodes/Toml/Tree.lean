import ScanCodes.Toml.Value

/-!
# Tables under construction

The tables of a document while its lines are read. How a table came about decides what may still be
said about it: a table that a header has named is complete but for its subtables, a table that only
stands on the way to another may still be named, and one that dotted keys have made may grow by
dotted keys alone.

## Main definitions

* `Toml.Tree`: a value that is complete, a table, or a list of tables.
* `Toml.define?`: what a line `path = value` does to the table it stands in.
* `Toml.openTable?`: what a header `[path]` finds.
* `Toml.placeTable?`, `Toml.placeElement?`: what the sections under the headers `[path]` and
  `[[path]]` do to the document.
* `Toml.Tree.value`: the value of a finished tree.
-/

namespace ScanCodes.Toml

/-- How a table came about. -/
inductive Origin
  /-- A header has named it. -/
  | named
  /-- It lies on the way to a table that a header has named. -/
  | passed
  /-- A dotted key has made it. -/
  | dotted
deriving DecidableEq

/-- A part of a document under construction. -/
inductive Tree
  /-- A value that nothing can be added to. -/
  | complete (v : Value)
  | table (origin : Origin) (entries : List (String × Tree))
  /-- The tables of one name, the newest first. -/
  | tables (newest : List (String × Tree)) (older : List (List (String × Tree)))

/-- The entries of a table under construction. -/
abbrev Branches := List (String × Tree)

/-- Replaces the entry of a key, or adds one. -/
def setBranch (key : String) (t : Tree) : Branches → Branches
  | [] => [(key, t)]
  | (k, u) :: rest => if k = key then (key, t) :: rest else (k, u) :: setBranch key t rest

/-- Does what `change` does in the table at the end of the path, making the tables on the way. With
`byKey` the way is that of a dotted key, which may not enter a table that a header has named. The
change is told how its table came about. -/
def alter? (byKey : Bool) (change : Origin → Branches → Option Branches) (origin : Origin) :
    List String → Branches → Option Branches
  | [], branches => change origin branches
  | key :: path, branches => do
    let t ←
      match branches.lookup key with
      | none =>
        let made := if byKey then Origin.dotted else .passed
        (alter? byKey change made path []).map (Tree.table made)
      | some (.complete _) => none
      | some (.table origin entries) =>
        if byKey && origin = .named then none
        else (alter? byKey change origin path entries).map (Tree.table origin)
      | some (.tables newest older) =>
        (alter? byKey change .named path newest).map (Tree.tables · older)
    return setBranch key t branches

/-- Adds the entry of a line whose key has the path in front of it. -/
def define? (path : List String) (key : String) (v : Value) (branches : Branches) :
    Option Branches :=
  alter? true (fun origin entries =>
    if path ≠ [] && origin ≠ .dotted then none
    else if (entries.lookup key).isSome then none
    else some (setBranch key (.complete v) entries)) .named path branches

/-- The entries of the table at the end of a path of headers. A table that is not there yet has
none. -/
def entriesAt? : List String → Branches → Option Branches
  | [], branches => some branches
  | key :: path, branches =>
    match branches.lookup key with
    | none => some []
    | some (.complete _) => none
    | some (.table _ entries) => entriesAt? path entries
    | some (.tables newest _) => entriesAt? path newest

/-- The entries that a table has before a header names it, which happens once. It may lie on the
way to tables that have been named before. -/
def openTable? (path : List String) (key : String) (root : Branches) : Option Branches := do
  match (← entriesAt? path root).lookup key with
  | none => some []
  | some (.table .passed entries) => some entries
  | _ => none

/-- Puts a table that a header has named in its place, where nothing else can be. -/
def placeTable? (path : List String) (key : String) (entries : Branches) (root : Branches) :
    Option Branches :=
  alter? false (fun _ branches => some (setBranch key (.table .named entries) branches))
    .named path root

/-- Puts another table in a list of tables. -/
def placeElement? (path : List String) (key : String) (entries : Branches) (root : Branches) :
    Option Branches :=
  alter? false (fun _ branches =>
    match branches.lookup key with
    | none => some (setBranch key (.tables entries []) branches)
    | some (.tables newest older) =>
      some (setBranch key (.tables entries (newest :: older)) branches)
    | _ => none) .named path root

mutual

/-- The value of a finished tree. -/
def Tree.value : Tree → Value
  | .complete v => v
  | .table _ entries => .table (branchValues entries)
  | .tables newest older => .array (elementValues older ++ [.table (branchValues newest)])

/-- The values of the entries of a finished table. -/
def branchValues : List (String × Tree) → List (String × Value)
  | [] => []
  | (key, t) :: rest => (key, t.value) :: branchValues rest

/-- The values of the tables of one name, given newest first. -/
def elementValues : List (List (String × Tree)) → List Value
  | [] => []
  | entries :: older => elementValues older ++ [.table (branchValues entries)]

end

end ScanCodes.Toml
