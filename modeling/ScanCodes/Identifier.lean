/-!
# Identifiers

The names that stand for scan codes in the generated files. An identifier is a text; whether it is
one that C accepts is a property that is checked and reported, not one that is assumed.

## Main definitions

* `Identifier`: the text, ordered by code points.
* `Identifier.stem`: what every generated identifier begins with.
* `Identifier.isBare`: nothing follows the stem.
* `Identifier.isValid`: only capital letters, digits and underscores of ASCII.
-/

namespace ScanCodes

/-- The symbolic name of a scan code. -/
structure Identifier where
  text : String
deriving DecidableEq, Inhabited

namespace Identifier

/-- Identifiers are ordered by their text, code point by code point. -/
instance : Ord Identifier := ⟨fun a b => compare a.text b.text⟩

instance : Std.TransOrd Identifier where
  eq_swap {a b} := @Std.OrientedCmp.eq_swap String compare _ a.text b.text
  isLE_trans {a b c} := @Std.TransCmp.isLE_trans String compare _ a.text b.text c.text

instance : Std.LawfulEqOrd Identifier where
  compare_self {a} := @Std.ReflCmp.compare_self String compare _ a.text
  eq_of_compare {a b} h := by
    obtain ⟨s⟩ := a
    obtain ⟨t⟩ := b
    exact congrArg mk (@Std.LawfulEqOrd.eq_of_compare String _ _ s t h)

/-- What every generated identifier begins with. -/
def stem : String := "KEYCODE_"

/-- Does nothing follow the stem? -/
def isBare (i : Identifier) : Bool :=
  i.text = stem

/-- The characters that C allows in a name, small letters left out. -/
def isNameChar (c : Char) : Bool :=
  c.isUpper || c.isDigit || c = '_'

/-- Is the text made of capital letters, digits and underscores? -/
def isValid (i : Identifier) : Bool :=
  i.text.toList.all isNameChar

end Identifier

end ScanCodes
