import ScanCodes.Commit
import ScanCodes.Config
import ScanCodes.Summary

/-!
# Runs

A run of the generator: it loads the configuration, decides on the outputs, reads the table, commits
what the table generates, and prints a summary. Nothing is written before everything has been read.

## Main definitions

* `Request`: what a run is asked to do.
* `RunError`: why it failed, with its wording and its exit code.
* `Outcome`: how it ended, what it printed, and which warnings were shown.
* `Run.execute`: the run.
-/

namespace ScanCodes

/-- What a run is asked to do. -/
structure Request where
  /-- The table. -/
  input : Path
  header : Option Path := none
  source : Option Path := none
  /-- The configuration. -/
  config : Option Path := none
  /-- Is the summary to be JSON? -/
  json : Bool := false
deriving DecidableEq

/-- Why nothing was generated from a file. -/
inductive InputError
  | unreadable (path : Path) (why : Failure)
  | invalid (path : Path) (why : TableError)
deriving DecidableEq

/-- The wording of an input error. -/
def InputError.message : InputError → String
  | .unreadable path why => s!"Failed to read scan code table: {path.shown}: {why.message}"
  | .invalid path why => s!"Invalid scan code table: {path.shown}: {why.message}"

/-- Why a run failed. -/
inductive RunError
  | config (e : ConfigError)
  | noHeader
  | noSource
  /-- Both outputs are the same file. -/
  | clash (header : Path)
  | input (e : InputError)
  | commit (e : CommitError)
  /-- The summary is to be JSON, but one of its paths is no text. -/
  | unprintable
deriving DecidableEq

/-- The wording of a run error. -/
def RunError.message : RunError → String
  | .config e => s!"Failed to load configuration: {e.report}"
  | .noHeader => "Header output not specified. Use --header or set paths.header"
  | .noSource => "Source output not specified. Use --output or set paths.source"
  | .clash header => (ConfigError.clash header).message
  | .input e => e.message
  | .commit e => s!"Failed to write artifacts: {e.message}"
  | .unprintable => "Failed to serialize JSON: path contains invalid UTF-8 characters"

/-- The exit code of a failed run: 2 if the table could not be read, the outputs not be written or
the summary not be printed, and 1 for all else. -/
def RunError.exitCode : RunError → Nat
  | .input (.unreadable ..) | .commit _ | .unprintable => 2
  | _ => 1

/-- How a run ended. -/
structure Outcome where
  /-- The warnings that were shown, in the order of the rows. They are logged as warnings; what is
  logged at lower levels, how far the run has got, is left out. -/
  shown : List Warning := []
  /-- What the run has printed. -/
  output : String := ""
  result : Except RunError Summary

/-- The exit code of the run. -/
def Outcome.exitCode (o : Outcome) : Nat :=
  match o.result with
  | .ok _ => 0
  | .error e => e.exitCode

/-- Is the warning one that the configuration shows? -/
def Config.shows (c : Config) (w : Warning) : Bool :=
  if w.isDuplicate then c.warnDuplicates else c.warnDegenerate

namespace Run

variable {m : Type → Type} [Monad m] [Files m]

/-- What the table in a file generates. How much that is, is logged as information only, and is left
out here. -/
def readTable (input : Path) : m (Except InputError Generation) := do
  match ← Files.readText input with
  | .error why => return .error (.unreadable input why)
  | .ok table =>
    match Generation.ofTable table with
    | .error why => return .error (.invalid input why)
    | .ok g => return .ok g

/-- The outputs of a run, which have to be two files. -/
def outputs (c : Config) (r : Request) : Except RunError (Path × Path) := do
  let some header := c.headerPath? r.header | throw .noHeader
  let some source := c.sourcePath? r.source | throw .noSource
  if header.same source then throw (.clash header)
  return (header, source)

/-- The summary of a run. -/
def summary (r : Request) (header source : Path) (g : Generation) : Summary where
  input := r.input
  header := header
  source := source
  keycodes := g.keycodes
  characters := g.characters
  skippedRows := g.report.skippedRows
  warnings := g.report.warnings

/-- How a run ends once its outputs have been replaced: it prints the summary, or fails if there is
none in the form that is asked for. -/
def conclude (c : Config) (r : Request) (header source : Path) (g : Generation) : Outcome :=
  let shown := g.report.warnings.filter c.shows
  let s := summary r header source g
  match s.render? r.json with
  | none => { shown, result := .error .unprintable }
  | some output => { shown, output, result := .ok s }

/-- Reads the table, commits what it generates, and prints the summary. -/
def generate (c : Config) (r : Request) (header source : Path) : m Outcome := do
  match ← readTable r.input with
  | .error e => return { result := .error (.input e) }
  | .ok g =>
    match ← Commit.run g.artifacts header source with
    | .error e =>
      return { shown := g.report.warnings.filter c.shows, result := .error (.commit e) }
    | .ok () => return conclude c r header source g

/-- A run of the generator. -/
def execute (r : Request) : m Outcome := do
  match ← Config.load r.config with
  | .error e => return { result := .error (.config e) }
  | .ok c =>
    match outputs c r with
    | .error e => return { result := .error e }
    | .ok (header, source) => generate c r header source

end Run

end ScanCodes
