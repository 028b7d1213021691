import ScanCodes.Json
import ScanCodes.Path
import ScanCodes.Warning

/-!
# Summaries

What a successful run says about itself: two lines of text for people, or one JSON object for
programs. The object lists every warning, whether it is shown or not. It holds the paths as texts,
so there is none if one of them is no text; in the lines for people such a path is shown as far as
it can be.

## Main definitions

* `Summary`: the files, the counts and the warnings of a run.
* `Warning.toJson`, `Summary.toJson?`: the JSON forms.
* `Summary.render?`: the summary in the form that is asked for, if there is one.
-/

namespace ScanCodes

/-- What a run did. -/
structure Summary where
  input : Path
  header : Path
  source : Path
  keycodes : Nat
  characters : Nat
  skippedRows : Nat
  /-- All warnings, also those that are not shown. -/
  warnings : List Warning
deriving DecidableEq

/-- A warning as JSON. -/
def Warning.toJson : Warning → Json
  | .duplicateCode code previous replacement =>
    .object [("kind", .text "duplicate_code"), ("code", .text code),
      ("previous", .text previous.text), ("replacement", .text replacement.text)]
  | .duplicateIdentifier identifier firstCode code =>
    .object [("kind", .text "duplicate_identifier"), ("identifier", .text identifier.text),
      ("first_code", .text firstCode), ("code", .text code)]
  | .emptyIdentifier code name =>
    .object [("kind", .text "empty_identifier"), ("code", .text code), ("name", .text name)]
  | .invalidIdentifier code identifier =>
    .object [("kind", .text "invalid_identifier"), ("code", .text code),
      ("identifier", .text identifier.text)]

namespace Summary

/-- The summary as two lines of text. -/
def toText (s : Summary) : String :=
  s!"✓ Generated {s.header.shown} and {s.source.shown}\n" ++
    s!"  {s.keycodes} keycodes, {s.characters} characters, {s.skippedRows} rows skipped\n"

/-- The summary as JSON, if its paths are texts. -/
def toJson? (s : Summary) : Option Json := do
  let input ← s.input.text?
  let header ← s.header.text?
  let source ← s.source.text?
  return .object [("input", .text input), ("header", .text header), ("source", .text source),
    ("keycodes", .count s.keycodes), ("characters", .count s.characters),
    ("skipped_rows", .count s.skippedRows), ("warnings", .list (s.warnings.map Warning.toJson))]

/-- The summary in the form that is asked for. -/
def render? (json : Bool) (s : Summary) : Option String :=
  if json then s.toJson?.map (·.pretty ++ "\n") else some s.toText

end Summary

end ScanCodes
