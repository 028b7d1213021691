import ScanCodes.Files
import ScanCodes.Generation

/-!
# Commits

Header and source are replaced together. Both are first written in full beside their targets; then
the old header is set aside and the two are moved into place. If one of them cannot be moved, the
old header comes back, or the new one goes if there was none.

## Main definitions

* `CommitError`: the step that was refused, with its wording.
* `Commit.stage`, `Commit.setAside`, `Commit.replace`: the three steps.
* `Commit.discard`, `Commit.restore`: what undoes them.
* `Commit.run`: the commit.

## Implementation notes

What undoes a step may itself be refused; there is nothing left to do about that, so the outcome is
passed over.
-/

namespace ScanCodes

/-- The step of a commit that was refused. -/
inductive CommitError
  | staging (temporary : Path) (why : Failure)
  | settingAside (header : Path) (why : Failure)
  | replacing (target : Path) (why : Failure)
deriving DecidableEq

/-- The wording of a commit error. -/
def CommitError.message : CommitError → String
  | .staging temporary why =>
    s!"Failed to write to temporary file: {temporary.shown}: {why.message}"
  | .settingAside header why =>
    s!"Failed to move existing header aside: {header.shown}: {why.message}"
  | .replacing target why => s!"Failed to rename temporary file to: {target.shown}: {why.message}"

namespace Commit

variable {m : Type → Type} [Monad m] [Files m]

/-- The place where the text of a target is prepared. -/
def temporary (target : Path) : Path :=
  target.sibling "tmp"

/-- The place where an old header is kept. -/
def backup (header : Path) : Path :=
  header.sibling "bak"

/-- Writes both texts beside their targets. -/
def stage (a : Artifacts) (header source : Path) : m (Except CommitError Unit) := do
  match ← Files.write (temporary header) (Text.Utf8.encode a.header) with
  | .error why => return .error (.staging (temporary header) why)
  | .ok () =>
    match ← Files.write (temporary source) (Text.Utf8.encode a.source) with
    | .error why => return .error (.staging (temporary source) why)
    | .ok () => return .ok ()

/-- Removes what has been prepared and not moved. -/
def discard (header source : Path) : m Unit := do
  let _ ← Files.remove (temporary header)
  let _ ← Files.remove (temporary source)

/-- Sets the old header aside, if there is one. -/
def setAside (hadHeader : Bool) (header : Path) : m (Except CommitError Unit) := do
  if hadHeader then
    match ← Files.rename header (backup header) with
    | .error why => return .error (.settingAside header why)
    | .ok () => return .ok ()
  else return .ok ()

/-- Moves both texts into place. -/
def replace (header source : Path) : m (Except CommitError Unit) := do
  match ← Files.rename (temporary header) header with
  | .error why => return .error (.replacing header why)
  | .ok () =>
    match ← Files.rename (temporary source) source with
    | .error why => return .error (.replacing source why)
    | .ok () => return .ok ()

/-- Brings the old header back, or removes the new one if there was none. -/
def restore (hadHeader : Bool) (header : Path) : m Unit := do
  if hadHeader then
    let _ ← Files.rename (backup header) header
  else
    let _ ← Files.remove header

/-- Removes the old header. -/
def dropBackup (hadHeader : Bool) (header : Path) : m Unit := do
  if hadHeader then
    let _ ← Files.remove (backup header)

/-- Replaces header and source. -/
def run (a : Artifacts) (header source : Path) : m (Except CommitError Unit) := do
  match ← stage a header source with
  | .error e =>
    discard header source
    return .error e
  | .ok () =>
    let hadHeader ← Files.isFile header
    match ← setAside hadHeader header with
    | .error e =>
      discard header source
      return .error e
    | .ok () =>
      match ← replace header source with
      | .error e =>
        discard header source
        restore hadHeader header
        return .error e
      | .ok () =>
        dropBackup hadHeader header
        return .ok ()

end Commit

end ScanCodes
