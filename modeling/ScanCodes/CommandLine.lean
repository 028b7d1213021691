import ScanCodes.Run

/-!
# Command lines

The arguments of the program, `INFILE [-d FILE] [-o FILE] [--config FILE] [--json] [-v]`, and what
is asked for with them. They are strings of bytes, as the paths among them are.

An option takes its value from the same argument, behind an equals sign or, for a short option,
also right behind its letter, or else from the next argument, which then may not look like an
option. Short flags can share a dash. Two dashes end the options. No option may be given twice, and
no value may be empty.

## Main definitions

* `Arguments`: what has been read of a command line.
* `Command`: a run, the version, or the usage.
* `Command.parse?`: what a command line asks for, if it can be understood.
-/

namespace ScanCodes

/-- What a command line asks for. -/
inductive Command
  | run (r : Request) (verbose : Bool)
  | version
  | help
deriving DecidableEq

/-- The options with a value. -/
inductive ValueOption
  | header
  | source
  | config
deriving DecidableEq

/-- What has been read of a command line. -/
structure Arguments where
  input : Option (List UInt8) := none
  header : Option (List UInt8) := none
  source : Option (List UInt8) := none
  config : Option (List UInt8) := none
  json : Bool := false
  verbose : Bool := false

namespace Arguments

/-- Sets something that may be set once, and not to nothing. -/
def once? (old : Option (List UInt8)) (value : List UInt8) : Option (Option (List UInt8)) :=
  if old.isSome || value = [] then none else some (some value)

/-- Sets the value of an option. -/
def set? (a : Arguments) (o : ValueOption) (value : List UInt8) : Option Arguments :=
  match o with
  | .header => do return { a with header := ← once? a.header value }
  | .source => do return { a with source := ← once? a.source value }
  | .config => do return { a with config := ← once? a.config value }

/-- Sets the table. -/
def setInput? (a : Arguments) (value : List UInt8) : Option Arguments := do
  return { a with input := ← once? a.input value }

/-- Turns JSON on. -/
def setJson? (a : Arguments) : Option Arguments :=
  if a.json then none else some { a with json := true }

/-- Turns logging on. -/
def setVerbose? (a : Arguments) : Option Arguments :=
  if a.verbose then none else some { a with verbose := true }

/-- The run that the arguments ask for. -/
def command? (a : Arguments) : Option Command :=
  a.input.map fun input =>
    let request : Request :=
      { input := ⟨input⟩
        header := a.header.map Path.mk
        source := a.source.map Path.mk
        config := a.config.map Path.mk
        json := a.json }
    .run request a.verbose

end Arguments

namespace Command

/-- What has been read so far: a command that needs no more arguments, or the arguments, possibly
with an option that waits for its value. -/
inductive Progress
  | finished (c : Command)
  | reading (a : Arguments) (waiting : Option ValueOption)

/-- The byte of a dash. -/
def dash : UInt8 := 0x2D

/-- The byte of an equals sign. -/
def equals : UInt8 := 0x3D

/-- The option with a value that a letter stands for. -/
def shortOption? (letter : UInt8) : Option ValueOption :=
  match Char.ofUInt8 letter with
  | 'd' => some .header
  | 'o' => some .source
  | _ => none

/-- The option with a value that a word stands for. -/
def longOption? (word : String) : Option ValueOption :=
  match word with
  | "header" => some .header
  | "output" => some .source
  | "config" => some .config
  | _ => none

/-- Reads letters behind one dash. -/
def letters? (a : Arguments) : List UInt8 → Option Progress
  | [] => some (.reading a none)
  | letter :: rest =>
    match shortOption? letter with
    | some o =>
      match rest with
      | [] => some (.reading a (some o))
      | b :: value =>
        (a.set? o (if b = equals then value else b :: value)).map (.reading · none)
    | none =>
      match Char.ofUInt8 letter with
      | 'v' => (a.setVerbose?).bind fun a => letters? a rest
      | 'V' => some (.finished .version)
      | 'h' => some (.finished .help)
      | _ => none

/-- Reads a word behind two dashes. -/
def word? (a : Arguments) (argument : List UInt8) : Option Progress := do
  let word ← Text.Utf8.decode? (argument.takeWhile (· ≠ equals))
  match argument.dropWhile (· ≠ equals) with
  | [] =>
    match longOption? word with
    | some o => some (.reading a (some o))
    | none =>
      match word with
      | "json" => a.setJson?.map (.reading · none)
      | "verbose" => a.setVerbose?.map (.reading · none)
      | "version" => some (.finished .version)
      | "help" => some (.finished .help)
      | _ => none
  | _ :: value =>
    match longOption? word with
    | some o => (a.set? o value).map (.reading · none)
    | none => none

/-- Reads the arguments behind two dashes that stand alone. -/
def operands? (a : Arguments) : List (List UInt8) → Option Arguments
  | [] => some a
  | value :: rest => (a.setInput? value).bind fun a => operands? a rest

/-- Reads an argument that is not the value of an option before it. -/
def argument? (a : Arguments) (argument : List UInt8) : Option Progress :=
  match argument with
  | b :: c :: rest =>
    if b = dash then
      if c = dash then word? a rest else letters? a (c :: rest)
    else (a.setInput? argument).map (.reading · none)
  | _ => (a.setInput? argument).map (.reading · none)

/-- Does an argument look like an option? -/
def isOption (argument : List UInt8) : Bool :=
  argument.head? = some dash && argument ≠ [dash]

/-- Reads the arguments from the left, up to one that needs no more of them. -/
def read? (a : Arguments) (waiting : Option ValueOption) : List (List UInt8) → Option Command
  | [] => if waiting.isSome then none else a.command?
  | argument :: rest =>
    match waiting with
    | some o =>
      if isOption argument then none
      else (a.set? o argument).bind fun a => read? a none rest
    | none =>
      if argument = [dash, dash] then (operands? a rest).bind Arguments.command?
      else
        match argument? a argument with
        | none => none
        | some (.finished c) => some c
        | some (.reading a waiting) => read? a waiting rest

/-- What a command line asks for, if it can be understood. -/
def parse? (arguments : List (List UInt8)) : Option Command :=
  read? {} none arguments

/-- The text that answers the question for the version. -/
def versionText : String := "keymapgen 0.3.0\n"

/-- The text that answers the question for the usage. -/
def helpText : String :=
  "Generate C keycode definitions from a scan code table\n\n" ++
  "Usage: keymapgen [OPTIONS] <INFILE>\n\n" ++
  "Arguments:\n" ++
  "  <INFILE>  Scan code table (CSV: codes,name,char)\n\n" ++
  "Options:\n" ++
  "  -d, --header <FILE>  Output header file (enum KeyCode)\n" ++
  "  -o, --output <FILE>  Output source file (scan_code_to_char)\n" ++
  "      --config <FILE>  Configuration file (defaults to ./keymapgen.toml if present)\n" ++
  "      --json           Print a JSON summary instead of text\n" ++
  "  -v, --verbose        Enable verbose logging\n" ++
  "  -h, --help           Print help\n" ++
  "  -V, --version        Print version\n"

end Command

/-- What the program leaves behind, files apart. -/
structure Completion where
  exitCode : Nat
  /-- What it has printed. -/
  output : String := ""
  /-- The warnings that were shown. -/
  shown : List Warning := []
  /-- What went wrong. A command line that cannot be understood gets no message. -/
  message : Option String := none
deriving DecidableEq

variable {m : Type → Type} [Monad m] [Files m]

/-- Runs the program with its arguments. -/
def Command.perform (arguments : List (List UInt8)) : m Completion := do
  match Command.parse? arguments with
  | none => return { exitCode := 2 }
  | some .version => return { exitCode := 0, output := Command.versionText }
  | some .help => return { exitCode := 0, output := Command.helpText }
  | some (.run r _) =>
    let o ← Run.execute r
    let message :=
      match o.result with
      | .ok _ => none
      | .error e => some s!"Error: {e.message}"
    return { exitCode := o.exitCode, output := o.output, shown := o.shown, message }

end ScanCodes
