import ScanCodes.Text.Utf8

/-!
# Paths

A path is a string of bytes, which need not be those of a text. Two paths are taken for the same
when they have the same components: doubled and trailing slashes and dots that name the directory
they stand in make no difference, save for a dot at the very front.

Nothing here looks at a disk. What a path leads to is a matter of `ScanCodes.Disk`.

## Main definitions

* `Path.text?`, `Path.shown`: the path as a text, if it is one, and as it is shown in any case.
* `Path.components`, `Path.same`: the components, and equality by them.
* `Path.fileName?`, `Path.parent`: the last component if it is a name, and the bytes before it.
* `Path.sibling`: the path next to this one with a word added to the name.
-/

namespace ScanCodes

/-- A name on a path, as its bytes. -/
abbrev Name := List UInt8

/-- A text stands for its bytes. -/
instance : Coe String Name := ⟨Text.Utf8.encode⟩

/-- A path as it was written. -/
structure Path where
  bytes : List UInt8
deriving DecidableEq, Inhabited

namespace Path

/-- The path as a text, if it is one. -/
def text? (p : Path) : Option String :=
  Text.Utf8.decode? p.bytes

/-- The path as it is shown. -/
def shown (p : Path) : String :=
  String.ofList (Text.Utf8.lossy p.bytes)

/-- The byte of a slash. -/
def separator : UInt8 := 0x2F

/-- The byte of a dot. -/
def dot : UInt8 := 0x2E

/-- Splits at the slashes. There is one piece more than there are slashes. -/
def splitSlashes : List UInt8 → List Name
  | [] => [[]]
  | b :: bs =>
    if b = separator then [] :: splitSlashes bs
    else
      match splitSlashes bs with
      | [] => [[b]]
      | p :: ps => (b :: p) :: ps

/-- The pieces between the slashes of a path. -/
def pieces (p : Path) : List Name :=
  splitSlashes p.bytes

/-- Does the path begin at the root? -/
def isAbsolute (p : Path) : Bool :=
  p.bytes.head? = some separator

/-- Does the path end in a slash? Then it can only lead to a directory. -/
def endsInSlash (p : Path) : Bool :=
  p.bytes.getLast? = some separator

/-- Does the path hold a null byte? No file can have such a path. -/
def hasNull (p : Path) : Bool :=
  0 ∈ p.bytes

/-! ### Components -/

/-- A component of a path. -/
inductive Component
  | root
  /-- A dot at the front. -/
  | here
  /-- Two dots. -/
  | up
  | name (n : Name)
deriving DecidableEq

/-- Is the piece none of the components? -/
def isSkipped (piece : Name) : Bool :=
  piece = [] || piece = [dot]

/-- The component of a piece. Empty pieces and dots are none. -/
def component? (piece : Name) : Option Component :=
  if isSkipped piece then none
  else if piece = [dot, dot] then some .up
  else some (.name piece)

/-- The components of a path. -/
def components (p : Path) : List Component :=
  let front :=
    if p.isAbsolute then [.root]
    else if p.pieces.head? = some [dot] then [.here]
    else []
  front ++ p.pieces.filterMap component?

/-- Do the paths have the same components? -/
def same (p q : Path) : Bool :=
  p.components = q.components

/-- The last component, if it is a name. -/
def fileName? (p : Path) : Option Name :=
  match p.components.getLast? with
  | some (.name n) => some n
  | _ => none

/-! ### Siblings -/

/-- A list of pieces without the last component and what is skipped behind and before it. -/
def dropLastComponent (pieces : List Name) : List Name :=
  ((pieces.reverse.dropWhile isSkipped).tail.dropWhile isSkipped).reverse

/-- The bytes of a path before its last component, without slashes behind them. The slash of the
root and a dot at the front stay. -/
def parent (p : Path) : List UInt8 :=
  let without (bs : List UInt8) : List UInt8 :=
    [separator].intercalate (dropLastComponent (splitSlashes bs))
  match p.bytes with
  | b :: bs =>
    if b = separator then b :: without bs
    else if b = dot && bs.head? = some separator then b :: without bs
    else without (b :: bs)
  | [] => without []

/-- A path with a name behind it. -/
def join (front : List UInt8) (name : Name) : Path :=
  if front = [] || front.getLast? = some separator then ⟨front ++ name⟩
  else ⟨front ++ separator :: name⟩

/-- A name made longer by a dot and a word. -/
def longer (name word : Name) : Name :=
  name ++ dot :: word

/-- The path next to this one whose name is longer by a dot and a word. A path that does not end in
a name gets one of its own. -/
def sibling (p : Path) (word : Name) : Path :=
  match p.fileName? with
  | some name => join p.parent (longer name word)
  | none => join p.bytes (longer [] word)

end Path

end ScanCodes
