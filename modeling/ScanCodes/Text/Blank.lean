/-!
# Blank characters

White space in the sense of Unicode's `White_Space` property: what is trimmed from the ends of a
name and what separates the scan codes of a row.

## Main definitions

* `Text.isBlank`: the property.
* `Text.trim`: drops the blanks at both ends.
* `Text.words`: the maximal pieces without a blank.
-/

namespace ScanCodes.Text

/-- The characters with Unicode's `White_Space` property. -/
def isBlank (c : Char) : Bool :=
  let n := c.toNat
  (0x09 ≤ n && n ≤ 0x0D) || n = 0x20 || n = 0x85 || n = 0xA0 || n = 0x1680 ||
    (0x2000 ≤ n && n ≤ 0x200A) || n = 0x2028 || n = 0x2029 || n = 0x202F || n = 0x205F || n = 0x3000

/-- Drops the blanks at both ends. -/
def trim (cs : List Char) : List Char :=
  ((cs.dropWhile isBlank).reverse.dropWhile isBlank).reverse

/-- Puts a character in front of the first word. -/
def joinFirst (c : Char) : List (List Char) → List (List Char)
  | [] => [[c]]
  | w :: ws => (c :: w) :: ws

/-- The words of a text: its maximal pieces without a blank, in order. -/
def words : List Char → List (List Char)
  | [] => []
  | [c] => if isBlank c then [] else [[c]]
  | c :: d :: cs =>
    if isBlank c then words (d :: cs)
    else if isBlank d then [c] :: words (d :: cs)
    else joinFirst c (words (d :: cs))

theorem words_of_isBlank {c : Char} (h : isBlank c) (cs : List Char) :
    words (c :: cs) = words cs := by
  cases cs <;> simp [words, h]

end ScanCodes.Text
