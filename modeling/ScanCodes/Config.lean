import ScanCodes.Files
import ScanCodes.Toml.Document

/-!
# Configuration

Where the outputs go when the command line does not say, and which warnings are shown. A
configuration is a TOML document with the tables `paths` and `diagnostics`; whatever else it holds
is passed over, as long as it can be read. Nothing in it has any bearing on the generated text.

## Main definitions

* `Config`: the settings, and `Config.shows`, which warnings they let through.
* `Config.ofEntries?`: the settings of a document.
* `ConfigError`: why there are none, with its wording.
* `Config.load`: the settings of a file, of the default file, or the default settings.
-/

namespace ScanCodes

/-- Default outputs and switches. -/
structure Config where
  header : Option Path := none
  source : Option Path := none
  warnDuplicates : Bool := true
  warnDegenerate : Bool := true
deriving DecidableEq

/-- Why there is no configuration. -/
inductive ConfigError
  | missing (path : Path)
  | unreadable (path : Path) (why : Failure)
  /-- The document is not TOML, or a setting is of the wrong kind. -/
  | unparsable (path : Path)
  /-- A key of the document leads too deep. -/
  | tooDeep (path : Path)
  /-- Both outputs are the same file. -/
  | clash (header : Path)
deriving DecidableEq

/-- The wording of a configuration error. -/
def ConfigError.message : ConfigError → String
  | .missing path => s!"Config file not found: {path.shown}"
  | .unreadable path why => s!"Failed to read config file: {path.shown}: {why.message}"
  | .unparsable path | .tooDeep path => s!"Failed to parse config file: {path.shown}"
  | .clash header =>
    s!"Header and source outputs must be different files (both are {header.shown})"

/-- The wording of a configuration error with all that is to be said about it. -/
def ConfigError.report (e : ConfigError) : String :=
  match e with
  | .tooDeep _ => e.message ++ ": recursion limit\n"
  | e => e.message

namespace Config

/-! ### Settings in a document -/

/-- The values of the named settings in a table. A list gives them in the order of the names, a
date no value at all; in a table, numbers under other names must still be numbers in range. -/
def settings? (names : List String) : Toml.Value → Option (List (Option Toml.Value))
  | .table entries =>
    if entries.all (fun (key, v) => key ∈ names || v.inRange) then
      some (names.map (List.lookup · entries))
    else none
  | .array items => some (names.zipIdx.map fun (_, i) => items[i]?)
  | .moment => some (names.map fun _ => none)
  | _ => none

/-- A path, or none. -/
def path? : Option Toml.Value → Option (Option Path)
  | none => some none
  | some (.text s) => some (some ⟨s⟩)
  | some _ => none

/-- A switch, on unless it is turned off. -/
def switch? : Option Toml.Value → Option Bool
  | none => some true
  | some (.boolean b) => some b
  | some _ => none

/-- The two paths. -/
def paths? : Option Toml.Value → Option (Option Path × Option Path)
  | none => some (none, none)
  | some v => do
    match ← settings? ["header", "source"] v with
    | [header, source] => return (← path? header, ← path? source)
    | _ => none

/-- The two switches. -/
def switches? : Option Toml.Value → Option (Bool × Bool)
  | none => some (true, true)
  | some v => do
    match ← settings? ["warn_duplicates", "warn_degenerate"] v with
    | [duplicates, degenerate] => return (← switch? duplicates, ← switch? degenerate)
    | _ => none

/-- The settings of a document. -/
def ofEntries? (entries : Toml.Entries) : Option Config := do
  match ← settings? ["paths", "diagnostics"] (.table entries) with
  | [paths, diagnostics] =>
    let (header, source) ← paths? paths
    let (warnDuplicates, warnDegenerate) ← switches? diagnostics
    return { header, source, warnDuplicates, warnDegenerate }
  | _ => none

/-! ### Use -/

/-- Refuses settings that would write both outputs to one file. -/
def validate (c : Config) : Except ConfigError Config :=
  match c.header, c.source with
  | some header, some source => if header.same source then .error (.clash header) else .ok c
  | _, _ => .ok c

/-- The header's path: the one asked for, or else the one that is set. -/
def headerPath? (c : Config) (asked : Option Path) : Option Path :=
  asked.or c.header

/-- The source's path: the one asked for, or else the one that is set. -/
def sourcePath? (c : Config) (asked : Option Path) : Option Path :=
  asked.or c.source

variable {m : Type → Type} [Monad m] [Files m]

/-- The settings of a file. -/
def loadFrom (path : Path) : m (Except ConfigError Config) := do
  match ← Files.readText path with
  | .error why => return .error (.unreadable path why)
  | .ok document =>
    match Toml.parse document with
    | .error .longKey => return .error (.tooDeep path)
    | .error .malformed => return .error (.unparsable path)
    | .ok entries =>
      match ofEntries? entries with
      | none => return .error (.unparsable path)
      | some c => return c.validate

/-- The file that is looked for when none is asked for. -/
def defaultPath : Path := ⟨"keymapgen.toml"⟩

/-- The settings of the file that is asked for, which has to be there; or else of the default file
if it is there; or else the default settings. -/
def load (asked : Option Path) : m (Except ConfigError Config) := do
  match asked with
  | some path => if ← Files.isPresent path then loadFrom path else return .error (.missing path)
  | none => if ← Files.isPresent defaultPath then loadFrom defaultPath else return .ok {}

end Config

end ScanCodes
