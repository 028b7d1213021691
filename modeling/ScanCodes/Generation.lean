import ScanCodes.Artifact.Header
import ScanCodes.Artifact.Source
import ScanCodes.Table

/-!
# Generation

From the text of a table to the text of the two files, without a file being touched.

## Main definitions

* `Artifacts`: the two texts, and `Artifacts.ofMaps`, which renders them.
* `Generation`: the texts with the counts and the report.
* `Generation.ofTable`: what a table generates.
-/

namespace ScanCodes

/-- The texts of the generated files. -/
structure Artifacts where
  header : String
  source : String
deriving DecidableEq

/-- The files of a key map and a character map. -/
def Artifacts.ofMaps (keys : KeyMap) (chars : CharMap) : Artifacts :=
  ⟨Artifact.Header.render keys, Artifact.Source.render chars⟩

/-- What a table generates. -/
structure Generation where
  artifacts : Artifacts
  /-- The number of enumerators. -/
  keycodes : Nat
  /-- The number of cases. -/
  characters : Nat
  report : Report
deriving DecidableEq

namespace Generation

/-- What a keymap generates. -/
def ofKeymap (m : Keymap) : Generation :=
  ⟨.ofMaps m.keys m.chars, m.keys.size, m.chars.size, m.report⟩

/-- What a table generates. -/
def ofTable (table : String) : Except TableError Generation :=
  (Table.rows (Text.Utf8.encode table)).map fun rows => ofKeymap (.ofRows rows)

end Generation

end ScanCodes
