import ScanCodes.Path
import ScanCodes.Text.Utf8

/-!
# Files

What the rest of the library asks of files, whatever they are kept on, and the reasons for which it
may be refused.

## Main definitions

* `Failure`: why a call was refused, with its wording.
* `Files`: the calls.
* `Files.readText`: the content of a file as text.
-/

namespace ScanCodes

/-- Why a call was refused. -/
inductive Failure
  | notFound
  | notDirectory
  | isDirectory
  /-- The path ends in dots where a name is needed. -/
  | busy
  | nameTooLong
  /-- The path holds a null byte. -/
  | nullInPath
  /-- The content is not UTF-8. -/
  | notText
  /-- A reason of which the library knows nothing but the wording. -/
  | other (wording : String)
deriving DecidableEq

/-- The wording of a failure. -/
def Failure.message : Failure → String
  | .notFound => "No such file or directory (os error 2)"
  | .notDirectory => "Not a directory (os error 20)"
  | .isDirectory => "Is a directory (os error 21)"
  | .busy => "Device or resource busy (os error 16)"
  | .nameTooLong => "File name too long (os error 36)"
  | .nullInPath => "file name contained an unexpected NUL byte"
  | .notText => "stream did not contain valid UTF-8"
  | .other wording => wording

/-- Calls on files. A call that is refused changes nothing. -/
class Files (m : Type → Type) where
  /-- The content of a file. -/
  read : Path → m (Except Failure (List UInt8))
  /-- Makes a file or replaces its content. -/
  write : Path → List UInt8 → m (Except Failure Unit)
  /-- Moves a file, replacing the one that is there. -/
  rename : Path → Path → m (Except Failure Unit)
  /-- Removes a file. -/
  remove : Path → m (Except Failure Unit)
  /-- Is there a file or a directory? -/
  isPresent : Path → m Bool
  /-- Is there a file? -/
  isFile : Path → m Bool

/-- The content of a file as text. -/
def Files.readText {m : Type → Type} [Monad m] [Files m] (p : Path) :
    m (Except Failure String) := do
  match ← Files.read p with
  | .error why => return .error why
  | .ok bytes =>
    match Text.Utf8.decode? bytes with
    | some text => return .ok text
    | none => return .error .notText

end ScanCodes
