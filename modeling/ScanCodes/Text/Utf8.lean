/-!
# UTF-8

Bytes as text, and where bytes stop being text.

## Main definitions

* `Text.Utf8.decode?`: the text that the bytes encode, if they encode one.
* `Text.Utf8.validLength`: the length of the longest front part made of whole characters.
* `Text.Utf8.lossy`: the characters of bytes that need not be a text.
-/

namespace ScanCodes.Text.Utf8

/-- The bytes of a text. -/
def encode (s : String) : List UInt8 :=
  s.toUTF8.data.toList

/-- The text that the bytes encode. -/
def decode? (bytes : List UInt8) : Option String :=
  String.fromUTF8? ⟨bytes.toArray⟩

/-- The character that the bytes begin with. A character takes at most four bytes. -/
def firstChar? (bytes : List UInt8) : Option Char :=
  ByteArray.utf8DecodeChar? ⟨(bytes.take 4).toArray⟩ 0

/-- The number of bytes in front of the first one that neither is nor continues a character. -/
def validLength (bytes : List UInt8) : Nat :=
  match bytes with
  | [] => 0
  | b :: bs =>
    match firstChar? (b :: bs) with
    | none => 0
    | some c => c.utf8Size + validLength (bs.drop (c.utf8Size - 1))
termination_by bytes.length
decreasing_by simp only [List.length_drop, List.length_cons]; omega

/-! ### Bytes that are no text -/

/-- Does the byte continue a character? -/
def isContinuation (b : UInt8) : Bool :=
  0x80 ≤ b && b ≤ 0xBF

/-- Are there characters of three or four bytes that begin with these two? -/
def opens (lead second : UInt8) : Bool :=
  if lead = 0xE0 then 0xA0 ≤ second && second ≤ 0xBF
  else if lead = 0xED then 0x80 ≤ second && second ≤ 0x9F
  else if lead = 0xF0 then 0x90 ≤ second && second ≤ 0xBF
  else if lead = 0xF4 then 0x80 ≤ second && second ≤ 0x8F
  else 0xE1 ≤ lead && lead ≤ 0xF3 && isContinuation second

/-- Where bytes do not begin with a character, how many of them begin one that is not finished; at
least one. -/
def brokenLength : List UInt8 → Nat
  | lead :: second :: bs =>
    if opens lead second then
      if 0xF0 ≤ lead && bs.head?.any isContinuation then 3 else 2
    else 1
  | _ => 1

/-- The characters of bytes. Where they are no text, a replacement character stands for as many
bytes as begin one character. -/
def lossy (bytes : List UInt8) : List Char :=
  match bytes with
  | [] => []
  | b :: bs =>
    match firstChar? (b :: bs) with
    | some c => c :: lossy (bs.drop (c.utf8Size - 1))
    | none => '\uFFFD' :: lossy (bs.drop (brokenLength (b :: bs) - 1))
termination_by bytes.length
decreasing_by all_goals simp only [List.length_drop, List.length_cons]; omega

end ScanCodes.Text.Utf8
