import ScanCodes.Text.Utf8

/-!
# The bytes of a text

A text and its bytes, character by character. The bytes of a text can be taken apart wherever the
text can, and a byte of ASCII among them is a character of its own: it is never part of a longer
one. So what looks at nothing but ASCII bytes sees the characters of the text.

## Main definitions

* `Text.Utf8.bytes`: the bytes of a list of characters.
* `Text.Utf8.IsText`: the bytes are those of a text.

## Main results

* `Text.Utf8.decode?_bytes`: the bytes of a text are decoded to it.
* `Text.Utf8.decode?_eq_some_iff`: no other bytes are.
* `Text.Utf8.mem_of_mem_bytes`: an ASCII byte stands for its character.
* `Text.Utf8.lossy_bytes`: bytes of a text are shown as the text.
* `Text.Utf8.head?_eq_some_iff`: a text begins with a character if its bytes begin with those of the
  character.
-/

namespace ScanCodes.Text.Utf8

/-- The bytes of a list of characters. -/
def bytes (cs : List Char) : List UInt8 :=
  cs.flatMap String.utf8EncodeChar

theorem bytes_cons (c : Char) (cs : List Char) :
    bytes (c :: cs) = String.utf8EncodeChar c ++ bytes cs := rfl

@[simp]
theorem bytes_append (cs ds : List Char) : bytes (cs ++ ds) = bytes cs ++ bytes ds :=
  List.flatMap_append

theorem bytes_ne_nil {cs : List Char} (h : cs ≠ []) : bytes cs ≠ [] := by
  cases cs with
  | nil => exact absurd rfl h
  | cons c cs => simp [bytes_cons]

theorem encode_ofList (cs : List Char) : encode (String.ofList cs) = bytes cs := by
  rw [encode, String.toUTF8_eq_toByteArray, String.toByteArray_ofList]
  exact List.toList_data_toByteArray

theorem encode_eq (s : String) : encode s = bytes s.toList := by
  rw [← encode_ofList, String.ofList_toList]

private theorem mk_toArray (bs : List UInt8) : (⟨bs.toArray⟩ : ByteArray) = bs.toByteArray := by
  apply ByteArray.ext
  rw [← Array.toList_inj]
  exact List.toList_data_toByteArray.symm

/-- The bytes of a text are decoded to it. -/
theorem decode?_bytes (cs : List Char) : decode? (bytes cs) = some (String.ofList cs) := by
  have harray : (⟨(bytes cs).toArray⟩ : ByteArray) = (String.ofList cs).toByteArray := by
    rw [mk_toArray, String.toByteArray_ofList]
    rfl
  rw [decode?, harray, String.fromUTF8?, dif_pos (String.ofList cs).isValidUTF8]
  rfl

theorem decode?_eq_some_iff {bytes : List UInt8} {s : String} :
    decode? bytes = some s ↔ encode s = bytes := by
  constructor
  · intro h
    rw [decode?, String.fromUTF8?] at h
    split at h
    · obtain rfl := Option.some.inj h
      rfl
    · cases h
  · rintro rfl
    rw [encode_eq, decode?_bytes, String.ofList_toList]

theorem encode_injective : Function.Injective encode := by
  intro s t h
  exact Option.some.inj ((decode?_eq_some_iff.2 h).symm.trans (decode?_eq_some_iff.2 rfl))

/-- The bytes are those of a text. -/
def IsText (bytes : List UInt8) : Prop :=
  ∃ s, encode s = bytes

theorem isText_iff {bytes : List UInt8} : IsText bytes ↔ (decode? bytes).isSome := by
  simp only [IsText, Option.isSome_iff_exists, decode?_eq_some_iff]

instance (bytes : List UInt8) : Decidable (IsText bytes) :=
  decidable_of_iff _ isText_iff.symm

theorem decode?_eq_none_iff {bytes : List UInt8} : decode? bytes = none ↔ ¬ IsText bytes := by
  rw [isText_iff, Bool.not_eq_true, Option.isSome_eq_false_iff, Option.isNone_iff_eq_none]

/-- A byte of a character is its code point, or it lies beyond ASCII. -/
theorem toNat_of_mem_utf8EncodeChar {c : Char} {b : UInt8} (h : b ∈ String.utf8EncodeChar c) :
    b.toNat = c.toNat ∨ 128 ≤ b.toNat := by
  have hval : c.toNat = c.val.toNat := rfl
  revert b
  -- one to four bytes, of which only the single one is below 128
  fun_cases String.utf8EncodeChar c <;>
    simp only [List.mem_cons, List.not_mem_nil, or_false, forall_eq_or_imp, forall_eq,
      UInt8.toNat_ofNat'] <;>
    omega

/-- A byte of ASCII among the bytes of a text stands for its character. -/
theorem mem_of_mem_bytes {cs : List Char} {c : Char} {b : UInt8} (h : b ∈ bytes cs)
    (hbyte : b.toNat = c.toNat) (hascii : c.toNat < 128) : c ∈ cs := by
  obtain ⟨d, hd, hb⟩ := List.mem_flatMap.1 h
  have hdc : d.toNat = c.toNat := by
    rcases toNat_of_mem_utf8EncodeChar hb with hb | hb <;> omega
  exact Char.toNat_inj.1 hdc ▸ hd

/-- Bytes that begin with those of a character begin with the character. -/
theorem firstChar?_append (c : Char) (bs : List UInt8) :
    firstChar? (String.utf8EncodeChar c ++ bs) = some c := by
  have hshort : (String.utf8EncodeChar c).length ≤ 4 := by
    rw [String.length_utf8EncodeChar]
    exact c.utf8Size_le_four
  rw [firstChar?, List.take_append, List.take_of_length_le hshort, mk_toArray,
    List.toByteArray_append, ← List.utf8Encode_singleton]
  exact List.utf8DecodeChar?_utf8Encode_singleton_append

/-- No character's bytes are the beginning of another one's. -/
theorem eq_of_utf8EncodeChar_append {c d : Char} {bs ds : List UInt8}
    (h : String.utf8EncodeChar c ++ bs = String.utf8EncodeChar d ++ ds) : c = d := by
  have hc := firstChar?_append c bs
  rw [h, firstChar?_append d ds] at hc
  exact (Option.some.inj hc).symm

/-- Where bytes are those of a text, no character of it is replaced. -/
theorem lossy_bytes (cs : List Char) : lossy (bytes cs) = cs := by
  induction cs with
  | nil => simp [bytes, lossy]
  | cons c cs ih =>
    obtain ⟨b, bs, hbytes⟩ := List.exists_cons_of_ne_nil (String.utf8EncodeChar_ne_nil (c := c))
    have hfirst := firstChar?_append c (bytes cs)
    have hrest : (bs ++ bytes cs).drop (c.utf8Size - 1) = bytes cs := by
      have hlength := String.length_utf8EncodeChar c
      rw [hbytes, List.length_cons] at hlength
      rw [← hlength, Nat.add_sub_cancel, List.drop_left]
    rw [hbytes, List.cons_append] at hfirst
    rw [bytes_cons, hbytes, List.cons_append, lossy]
    simp only [hfirst]
    rw [hrest, ih]

theorem head?_eq_some_iff {cs : List Char} {d : Char} :
    cs.head? = some d ↔ String.utf8EncodeChar d <+: bytes cs := by
  constructor
  · intro h
    obtain ⟨cs, rfl⟩ := List.head?_eq_some_iff.1 h
    exact ⟨bytes cs, rfl⟩
  · rintro ⟨ds, h⟩
    cases cs with
    | nil => exact absurd (List.append_eq_nil_iff.1 h).1 String.utf8EncodeChar_ne_nil
    | cons c cs => rw [eq_of_utf8EncodeChar_append h, List.head?_cons]

end ScanCodes.Text.Utf8
