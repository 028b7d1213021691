import ScanCodes.Files
import ScanCodes.SortedMap

/-!
# Disks

A disk as a value: which locations hold files, with what content, and which are directories. Calls
on files become functions from disks to disks, so what a program leaves behind can be computed and
compared.

A path is followed from the root or from the working directory, one step at a time. Every step but
the last has to be a directory, also in front of dots. Then the last step decides: a name leads to
what the directory holds, dots lead to a directory, and a slash behind a name demands one.

## Main definitions

* `Location`, `Entry`, `Disk`: where something is, what it is, and all of it.
* `Disk.walk`, `Disk.route`: how the steps of a path are followed.
* `Disk.find`, `Disk.read`, `Disk.write`, `Disk.rename`, `Disk.remove`: the calls.
* `Disk.perform`: a program that makes such calls, carried out on a disk.

## Implementation notes

There are no links and no permissions. Only files are moved. The first thing that is wrong decides
how a call fails: the bytes of the path, then the way to the last step, then the last step.
-/

namespace ScanCodes

/-- The names on the way from the root. -/
abbrev Location := List Name

/-- What is at a location. -/
inductive Entry
  | file (content : List UInt8)
  | directory
deriving DecidableEq

/-- All files and directories, and the directory in which relative paths begin. The root is a
directory without an entry. -/
structure Disk where
  workingDirectory : Location := []
  entries : SortedMap Location Entry := .empty

namespace Disk

/-- What is at a location, if anything. -/
def entry? (d : Disk) (l : Location) : Option Entry :=
  if l = [] then some .directory else d.entries.get? l

/-- The disk with an entry set. -/
def set (d : Disk) (l : Location) (e : Entry) : Disk :=
  { d with entries := d.entries.insert l e }

/-- The disk with an entry removed. -/
def unset (d : Disk) (l : Location) : Disk :=
  { d with entries := d.entries.erase l }

/-! ### Following paths -/

/-- How many bytes a name may have. -/
def maxName : Nat := 255

/-- How many bytes a path may have. -/
def maxPath : Nat := 4095

/-- Is the path one that can be followed? -/
def checkLength (p : Path) : Except Failure Unit :=
  if p.bytes = [] then .error .notFound
  else if maxPath < p.bytes.length then .error .nameTooLong
  else .ok ()

/-- Is the name one that an entry can have? -/
def checkName (name : Name) : Except Failure Unit :=
  if maxName < name.length then .error .nameTooLong else .ok ()

/-- One step from a directory into another. -/
def enter (d : Disk) (l : Location) (step : Name) : Except Failure Location := do
  if step = [Path.dot] then return l
  if step = [Path.dot, Path.dot] then return l.dropLast
  checkName step
  match d.entry? (l ++ [step]) with
  | none => throw .notFound
  | some (.file _) => throw .notDirectory
  | some .directory => return l ++ [step]

/-- Several steps from a directory into another. -/
def walk (d : Disk) (l : Location) : List Name → Except Failure Location
  | [] => .ok l
  | step :: steps => do d.walk (← d.enter l step) steps

/-- The steps of a path. -/
def steps (p : Path) : List Name :=
  p.pieces.filter (· ≠ [])

/-- Where the last step of a path leads. -/
inductive Target
  /-- To a directory that has no name here: the root, or dots. -/
  | dots (l : Location)
  /-- To a name in a directory. With `slash` it has to be that of a directory. -/
  | name (parent : Location) (name : Name) (slash : Bool)
deriving DecidableEq

/-- Follows a path up to its last step. -/
def route (d : Disk) (p : Path) : Except Failure Target := do
  checkLength p
  let start := if p.isAbsolute then [] else d.workingDirectory
  match (steps p).getLast? with
  | none => return .dots start
  | some last =>
    let parent ← d.walk start (steps p).dropLast
    if last = [Path.dot] || last = [Path.dot, Path.dot] then return .dots (← d.enter parent last)
    else return .name parent last p.endsInSlash

/-- A path with a null byte is refused before it is followed. -/
def checkNull (p : Path) : Except Failure Unit :=
  if p.hasNull then .error .nullInPath else .ok ()

/-! ### Calls -/

/-- The location that a path leads to, and what is there. -/
def find (d : Disk) (p : Path) : Except Failure (Location × Entry) := do
  checkNull p
  match ← d.route p with
  | .dots l => return (l, .directory)
  | .name parent name slash =>
    checkName name
    match d.entry? (parent ++ [name]) with
    | none => throw .notFound
    | some (.file content) =>
      if slash then throw .notDirectory else return (parent ++ [name], .file content)
    | some .directory => return (parent ++ [name], .directory)

/-- Is there a file or a directory? -/
def isPresent (d : Disk) (p : Path) : Bool :=
  match d.find p with
  | .ok _ => true
  | .error _ => false

/-- Is there a file? -/
def isFile (d : Disk) (p : Path) : Bool :=
  match d.find p with
  | .ok (_, .file _) => true
  | _ => false

/-- The content of a file. -/
def read (d : Disk) (p : Path) : Except Failure (List UInt8) := do
  match ← d.find p with
  | (_, .file content) => return content
  | (_, .directory) => throw .isDirectory

/-- Makes a file or replaces its content. -/
def write (d : Disk) (p : Path) (content : List UInt8) : Except Failure Disk := do
  checkNull p
  match ← d.route p with
  | .dots _ => throw .isDirectory
  | .name parent name slash =>
    if slash then throw .isDirectory
    checkName name
    match d.entry? (parent ++ [name]) with
    | some .directory => throw .isDirectory
    | _ => return d.set (parent ++ [name]) (.file content)

/-- Removes a file. -/
def remove (d : Disk) (p : Path) : Except Failure Disk := do
  checkNull p
  match ← d.route p with
  | .dots _ => throw .isDirectory
  | .name parent name slash =>
    checkName name
    match d.entry? (parent ++ [name]) with
    | none => throw .notFound
    | some .directory => throw .isDirectory
    | some (.file _) => if slash then throw .notDirectory else return d.unset (parent ++ [name])

/-- Moves a file, replacing the one that is there. -/
def rename (d : Disk) (p q : Path) : Except Failure Disk := do
  checkNull p
  checkNull q
  match ← d.route p, ← d.route q with
  | .name parent name slash, .name parent' name' slash' =>
    checkName name
    match d.entry? (parent ++ [name]) with
    | none => throw .notFound
    | some .directory => throw .isDirectory
    | some (.file content) =>
      checkName name'
      if slash || slash' then throw .notDirectory
      match d.entry? (parent' ++ [name']) with
      | some .directory => throw .isDirectory
      | _ => return (d.unset (parent ++ [name])).set (parent' ++ [name']) (.file content)
  | _, _ => throw .busy

/-- The outcome of a call that may change the disk; one that is refused leaves it as it is. -/
def outcome (d : Disk) : Except Failure Disk → Except Failure Unit × Disk
  | .ok d' => (.ok (), d')
  | .error why => (.error why, d)

instance : Files (StateM Disk) where
  read p := fun d => (d.read p, d)
  write p content := fun d => d.outcome (d.write p content)
  rename p q := fun d => d.outcome (d.rename p q)
  remove p := fun d => d.outcome (d.remove p)
  isPresent p := fun d => (d.isPresent p, d)
  isFile p := fun d => (d.isFile p, d)

/-- The result of a program that makes calls, and the disk that it leaves behind. -/
def perform {α : Type} (d : Disk) (program : StateM Disk α) : α × Disk :=
  program.run d

end Disk

end ScanCodes
