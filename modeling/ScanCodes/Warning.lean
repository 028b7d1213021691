import ScanCodes.Identifier
import ScanCodes.Text.Quoted

/-!
# Warnings

What is noticed about a table that is not wrong enough to refuse it. Warnings never change what is
generated.

## Main definitions

* `Warning`: the four kinds.
* `Warning.isDuplicate`, `Warning.isDegenerate`: the two classes that can be switched off.
* `Warning.message`: the wording.
-/

namespace ScanCodes

/-- A defect of a table that does not stop it from being used. -/
inductive Warning
  /-- A later row has used a scan code again. -/
  | duplicateCode (code : String) (previous replacement : Identifier)
  /-- Two scan codes have the same identifier. -/
  | duplicateIdentifier (identifier : Identifier) (firstCode code : String)
  /-- Nothing of the name is left in the identifier. -/
  | emptyIdentifier (code name : String)
  /-- C does not accept the identifier. -/
  | invalidIdentifier (code : String) (identifier : Identifier)
deriving DecidableEq

namespace Warning

/-- Is something used twice? -/
def isDuplicate : Warning → Bool
  | .duplicateCode .. | .duplicateIdentifier .. => true
  | .emptyIdentifier .. | .invalidIdentifier .. => false

/-- Is an identifier unfit for use? -/
def isDegenerate (w : Warning) : Bool :=
  !w.isDuplicate

/-- The wording of a warning. -/
def message : Warning → String
  | .duplicateCode code previous replacement =>
    s!"scan code {code} appears more than once; {replacement.text} replaces {previous.text}"
  | .duplicateIdentifier identifier firstCode code =>
    s!"scan codes {firstCode} and {code} both normalize to {identifier.text}"
  | .emptyIdentifier code name =>
    s!"name {String.ofList (Text.quoted name.toList)} for scan code {code} " ++
      "normalizes to an empty identifier"
  | .invalidIdentifier code identifier =>
    s!"identifier {identifier.text} for scan code {code} is not a valid C identifier"

end Warning

end ScanCodes
