import ScanCodes.CommandLine

/-!
# The program

Calls on real files, and the program itself: it prints what its run has left to say and exits with
its code.
-/

namespace ScanCodes

/-- The code of the operating system and its wording, if the error is one of the system's. -/
def systemError? : IO.Error → Option (UInt32 × String)
  | .alreadyExists _ code details | .inappropriateType _ code details
  | .interrupted _ code details | .invalidArgument _ code details
  | .noFileOrDirectory _ code details | .noSuchThing _ code details
  | .permissionDenied _ code details | .resourceExhausted _ code details
  | .hardwareFault code details | .illegalOperation code details | .otherError code details
  | .protocolError code details | .resourceBusy code details | .resourceVanished code details
  | .timeExpired code details | .unsatisfiedConstraints code details
  | .unsupportedOperation code details => some (code, details)
  | .unexpectedEof | .userError _ => none

/-- The failure that an error stands for. -/
def Failure.ofError (e : IO.Error) : Failure :=
  match systemError? e with
  | some (2, _) => .notFound
  | some (16, _) => .busy
  | some (20, _) => .notDirectory
  | some (21, _) => .isDirectory
  | some (36, _) => .nameTooLong
  | some (code, details) => .other s!"{details} (os error {code})"
  | none => .other (toString e)

/-- Makes a call on a path, unless it holds a null byte. The runtime takes nothing but texts for
paths, so all others are refused. -/
def attempt {α : Type} (p : Path) (call : String → IO α) : IO (Except Failure α) := do
  if p.hasNull then return .error .nullInPath
  match p.text? with
  | none => return .error (.other "Path is not a text")
  | some path =>
    try
      return .ok (← call path)
    catch e =>
      return .error (.ofError e)

/-- Opens a file and reads a byte of it. -/
def probe (p : Path) : IO (Except Failure Unit) :=
  attempt p fun path => do
    let handle ← IO.FS.Handle.mk path .read
    let _ ← handle.read 1

instance : Files IO where
  read p := attempt p fun path => do
    let handle ← IO.FS.Handle.mk path .read
    return (← handle.readBinToEnd).data.toList
  write p content := attempt p fun path => IO.FS.writeBinFile path ⟨content.toArray⟩
  rename p q := return (← attempt p fun path => attempt q (IO.FS.rename path ·)).bind id
  remove p := attempt p fun path => IO.FS.removeFile path
  isPresent p := do
    match ← probe p with
    | .error .notFound | .error .notDirectory | .error .nameTooLong | .error .nullInPath =>
      return false
    | _ => return true
  isFile p := do
    match ← probe p with
    | .ok () => return true
    | .error _ => return false

end ScanCodes

open ScanCodes in
/-- Runs the program. -/
def main (arguments : List String) : IO UInt32 := do
  let c ← (Command.perform (arguments.map Text.Utf8.encode) : IO Completion)
  for w in c.shown do
    IO.eprintln s!"WARN {w.message}"
  IO.print c.output
  match c.message with
  | some message => IO.eprintln message
  | none => if c.exitCode ≠ 0 then IO.eprint Command.helpText
  return c.exitCode.toUInt32
