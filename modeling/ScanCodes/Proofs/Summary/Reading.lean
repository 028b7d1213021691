import ScanCodes.Proofs.Json.Reading
import ScanCodes.Proofs.Text.Utf8
import ScanCodes.Summary

/-!
# Reading summaries

A program that is handed the JSON summary of a run reads the text as JSON and looks up the keys that
it knows, in whatever order they stand. It is told all that the run knows: the summary it reads is
the one that was printed, with every warning in its place.

## Main definitions

* `Json.get?`, `Json.textAt?`, `Json.countAt?`: what stands under a key.
* `Warning.ofJson?`, `Summary.ofJson?`: a warning and a summary from their keys.
* `Summary.read?`: the summary that a text is the JSON form of.

## Main results

* `Warning.ofJson?_toJson`, `Warning.toJson_injective`: warnings are told apart by their forms.
* `Summary.read?_of_render?`: a summary that is printed as JSON is read back.
-/

namespace ScanCodes

namespace Json

/-- What stands under a key of an object. -/
def get? (v : Json) (key : String) : Option Json :=
  match v with
  | .object entries => entries.lookup key
  | _ => none

/-- The text under a key. -/
def textAt? (v : Json) (key : String) : Option String :=
  match v.get? key with
  | some (.text s) => some s
  | _ => none

/-- The count under a key. -/
def countAt? (v : Json) (key : String) : Option Nat :=
  match v.get? key with
  | some (.count n) => some n
  | _ => none

/-- The list under a key. -/
def listAt? (v : Json) (key : String) : Option (List Json) :=
  match v.get? key with
  | some (.list items) => some items
  | _ => none

/-- The path whose text is under a key. -/
def pathAt? (v : Json) (key : String) : Option Path :=
  (v.textAt? key).map fun s => ⟨s⟩

/-- The identifier under a key. -/
def identifierAt? (v : Json) (key : String) : Option Identifier :=
  (v.textAt? key).map Identifier.mk

end Json

namespace Warning

/-- The warning with these keys. One of them names its kind. -/
def ofJson? (v : Json) : Option Warning := do
  let kind ← v.textAt? "kind"
  let code ← v.textAt? "code"
  if kind = "duplicate_code" then
    return duplicateCode code (← v.identifierAt? "previous") (← v.identifierAt? "replacement")
  else if kind = "duplicate_identifier" then
    return duplicateIdentifier (← v.identifierAt? "identifier") (← v.textAt? "first_code") code
  else if kind = "empty_identifier" then
    return emptyIdentifier code (← v.textAt? "name")
  else if kind = "invalid_identifier" then
    return invalidIdentifier code (← v.identifierAt? "identifier")
  else none

/-- A warning is found again under the keys of its form. -/
theorem ofJson?_toJson (w : Warning) : ofJson? w.toJson = some w := by
  cases w <;> rfl

/-- No two warnings have one form. -/
theorem toJson_injective : Function.Injective toJson := by
  intro w w' h
  exact Option.some.inj ((ofJson?_toJson w).symm.trans (h ▸ ofJson?_toJson w'))

theorem mapM_ofJson?_map_toJson (ws : List Warning) :
    (ws.map toJson).mapM ofJson? = some ws := by
  induction ws with
  | nil => rfl
  | cons w ws ih =>
    rw [List.map_cons, List.mapM_cons, ofJson?_toJson, ih]
    rfl

end Warning

namespace Summary

/-- The warnings under their key. -/
def warningsAt? (v : Json) : Option (List Warning) :=
  (v.listAt? "warnings").bind (·.mapM Warning.ofJson?)

/-- The summary with these keys. -/
def ofJson? (v : Json) : Option Summary := do
  return {
    input := ← v.pathAt? "input"
    header := ← v.pathAt? "header"
    source := ← v.pathAt? "source"
    keycodes := ← v.countAt? "keycodes"
    characters := ← v.countAt? "characters"
    skippedRows := ← v.countAt? "skipped_rows"
    warnings := ← warningsAt? v }

/-- The summary that a text is the JSON form of. -/
def read? (text : String) : Option Summary := do
  ofJson? (← Json.read? text)

/-- A summary is found again under the keys of its form. -/
theorem ofJson?_of_toJson? {s : Summary} {v : Json} (h : s.toJson? = some v) :
    ofJson? v = some s := by
  simp only [toJson?, Option.bind_eq_bind, Option.bind_eq_some_iff, Path.text?,
    Text.Utf8.decode?_eq_some_iff] at h
  obtain ⟨input, hinput, header, hheader, source, hsource, hv⟩ := h
  have hwarnings : warningsAt? v = some s.warnings := by
    rw [← Option.some.inj hv]
    exact Warning.mapM_ofJson?_map_toJson s.warnings
  rw [ofJson?, hwarnings, ← Option.some.inj hv]
  obtain ⟨⟨_⟩, ⟨_⟩, ⟨_⟩, _⟩ := s
  subst hinput hheader hsource
  rfl

/-- **A summary that is printed as JSON is read back.** -/
theorem read?_of_render? {s : Summary} {output : String} (h : s.render? true = some output) :
    read? output = some s := by
  rw [render?, if_pos rfl] at h
  obtain ⟨v, hv, rfl⟩ := Option.map_eq_some_iff.1 h
  have hspace : ∀ c ∈ "\n".toList, Json.isSpace c := by simp [Json.isSpace]
  rw [read?, Json.read?_pretty_append v hspace]
  exact ofJson?_of_toJson? hv

end Summary

end ScanCodes
