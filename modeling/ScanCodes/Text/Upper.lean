import ScanCodes.Text.Upper.Table

/-!
# Upper case

Full upper-casing, character by character: a character becomes one or several characters, and what
stands around it plays no part.

## Main definitions

* `Text.upperChar`: the upper case of one character.
* `Text.upper`: the upper case of a text.
-/

namespace ScanCodes.Text

namespace Upper

/-- Does the run hold the code point? -/
def Run.covers (r : Run) (n : Nat) : Bool :=
  r.first ≤ n && n ≤ r.last && (n - r.first) % r.step = 0

/-- The code point that the run sends another one to. -/
def Run.target (r : Run) (n : Nat) : Nat :=
  (n + r.shift).toNat

end Upper

/-- The upper case of one character; a character without one stays as it is. -/
def upperChar (c : Char) : List Char :=
  match Upper.expansions.lookup c.toNat with
  | some ns => ns.map Char.ofNat
  | none =>
    match Upper.runs.find? (·.covers c.toNat) with
    | some r => [Char.ofNat (r.target c.toNat)]
    | none => [c]

/-- The upper case of a text. -/
def upper (cs : List Char) : List Char :=
  cs.flatMap upperChar

@[simp]
theorem upper_nil : upper [] = [] := rfl

@[simp]
theorem upper_append (cs ds : List Char) : upper (cs ++ ds) = upper cs ++ upper ds :=
  List.flatMap_append

end ScanCodes.Text
