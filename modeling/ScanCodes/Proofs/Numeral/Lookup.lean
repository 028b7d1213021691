import ScanCodes.Proofs.KeyName.Alphabet
import ScanCodes.Proofs.Numeral.Reading
import Mathlib.Data.Nat.Digits.Lemmas

/-!
# Spelling stays inside its tables

The words of a number are looked up in three tables, and a look-up past the end of one would give
no word at all. Here every look-up is checked: a single one that finds nothing leaves the number
without words. The groups of three digits are met one by one, as the digits to the base of a
thousand, each with the place that its scale is looked up at.

No number below `1000 ^ 7` looks past the end of a table, and every larger one does, at the scale of
its first group. The numbers of 64 bits have seven groups at most and stay below.

## Main definitions

* `Numeral.Checked.cardinal`: the words of a number, if every look-up finds one.
* `Numeral.InWords`: is a text made of words of small letters, with single joints between them?

## Main results

* `Numeral.Checked.cardinal_eq`: which numbers are spelled without looking past the end of a table.
* `Numeral.cardinal_tells`: every number of 64 bits is, and its words tell which number it is.
-/

namespace ScanCodes.Numeral

/-! ### Checked look-ups -/

namespace Checked

/-- The words of a number below a hundred. -/
def belowHundred (n : Nat) : Option String :=
  if n < 20 then units[n]?
  else do
    let ten ← tens[n / 10]?
    if n % 10 = 0 then return ten
    let one ← units[n % 10]?
    return ten ++ "-" ++ one

/-- The words of a number below a thousand. -/
def belowThousand (n : Nat) : Option String :=
  if n < 100 then belowHundred n
  else do
    let hundreds ← units[n / 100]?
    if n % 100 = 0 then return hundreds ++ " hundred"
    let rest ← belowHundred (n % 100)
    return hundreds ++ " hundred and " ++ rest

/-- The phrase of the group at a place, the last group being at place zero. That one has no scale,
and with other groups in front of it (`linked`) a number below a hundred is linked by `and`. -/
def phrase (linked : Bool) (place group : Nat) : Option String := do
  let words ← belowThousand group
  let scale ← ("" :: scales)[place]?
  let words := if place = 0 ∧ group < 100 ∧ linked then "and " ++ words else words
  return if scale = "" then words else words ++ " " ++ scale

/-- The phrases of groups, given last group first, from a place on. A group of zero has none. -/
def phrases (linked : Bool) (place : Nat) : List Nat → Option (List String)
  | [] => some []
  | group :: larger => do
    let front ← phrases linked (place + 1) larger
    if group = 0 then return front
    let last ← phrase linked place group
    return front ++ [last]

/-- The words of a number, if every look-up finds one. -/
def cardinal (n : Nat) : Option String :=
  if n = 0 then units[0]?
  else
    let groups := Nat.digits 1000 n
    (phrases (1 < groups.length) 0 groups).map (" ".intercalate ·)

theorem units_getElem? {n : Nat} (hn : n < 20) : units[n]? = some (unit n) := by
  have hbound : n < units.length := hn
  rw [unit, List.getD_eq_getElem?_getD, List.getElem?_eq_getElem hbound, Option.getD_some]

theorem tens_getElem? {n : Nat} (hn : n < 10) : tens[n]? = some (tens.getD n "") := by
  have hbound : n < tens.length := hn
  rw [List.getD_eq_getElem?_getD, List.getElem?_eq_getElem hbound, Option.getD_some]

theorem belowHundred_eq {n : Nat} (hn : n < 100) :
    belowHundred n = some (Numeral.belowHundred n) := by
  rw [belowHundred, Numeral.belowHundred]
  split
  · next hsmall => exact units_getElem? hsmall
  · rw [tens_getElem? (by omega), units_getElem? (by omega)]
    simp only [Option.bind_eq_bind, Option.bind_some]
    split <;> rfl

theorem belowThousand_eq {n : Nat} (hn : n < 1000) :
    belowThousand n = some (Numeral.belowThousand n) := by
  rw [belowThousand, Numeral.belowThousand]
  split
  · next hsmall => exact belowHundred_eq hsmall
  · rw [units_getElem? (by omega), belowHundred_eq (by omega)]
    simp only [Option.bind_eq_bind, Option.bind_some]
    split <;> rfl

/-- Behind the last group every place has a scale, as far as the names reach. -/
theorem phrase_scale {k : Nat} (hk : k < scales.length) (linked : Bool) {group : Nat}
    (hgroup : group < 1000) :
    phrase linked (k + 1) group = some (Numeral.belowThousand group ++ " " ++ scales[k]) := by
  have hnamed : ∀ k, (hk : k < scales.length) → scales[k] ≠ "" := by
    decide
  rw [phrase, belowThousand_eq hgroup, List.getElem?_cons_succ, List.getElem?_eq_getElem hk]
  simp [hnamed k hk]

theorem phrase_last (linked : Bool) {group : Nat} (hgroup : group < 1000) (hpos : group ≠ 0) :
    (phrase linked 0 group).map ([·]) = some (lastPhrase linked group) := by
  rw [phrase, belowThousand_eq hgroup, lastPhrase, if_neg hpos]
  simp only [Option.bind_eq_bind, Option.bind_some, List.getElem?_cons_zero, true_and, if_true]
  cases linked with
  | false => simp
  | true =>
    by_cases hsmall : group < 100
    · simp [hsmall, Numeral.belowThousand]
    · simp [hsmall]

/-- The last group comes behind the others, if it is not zero. -/
theorem phrases_last (linked : Bool) {group : Nat} (hgroup : group < 1000) (larger : List Nat) :
    phrases linked 0 (group :: larger) =
      (phrases linked 1 larger).map (· ++ lastPhrase linked group) := by
  rw [phrases]
  cases phrases linked (0 + 1) larger with
  | none => rfl
  | some front =>
    simp only [Option.bind_eq_bind, Option.bind_some]
    split
    · next hzero => simp [lastPhrase, hzero]
    · next hpos =>
      obtain ⟨last, hlast, hsome⟩ := Option.map_eq_some_iff.1 (phrase_last linked hgroup hpos)
      rw [hlast, ← hsome]
      rfl

/-- The groups in front of the last one. -/
theorem phrases_eq_scaled {k n : Nat} (linked : Bool) (hn : n < 1000 ^ (scales.drop k).length) :
    phrases linked (k + 1) (Nat.digits 1000 n) = some (scaled (scales.drop k) n) := by
  refine scales_induction (P := fun k n =>
    phrases linked (k + 1) (Nat.digits 1000 n) = some (scaled (scales.drop k) n)) ?_ ?_ hn
  · intro k
    rw [scaled_zero]
    rfl
  · intro k hk n hpos hlarger
    rw [Nat.digits_def' (by omega) (by omega), phrases, hlarger, scaled_drop hk]
    simp only [Option.bind_eq_bind, Option.bind_some]
    split
    · rw [List.append_nil]
      rfl
    · rw [phrase_scale hk linked (Nat.mod_lt n (by omega))]
      rfl

/-- A first group past the last scale has no phrase. -/
theorem phrases_eq_none (linked : Bool) (place : Nat) {groups : List Nat} (hne : groups ≠ [])
    (hfirst : groups.getLast hne ≠ 0) (hlong : scales.length + 1 < place + groups.length) :
    phrases linked place groups = none := by
  induction groups generalizing place with
  | nil => exact absurd rfl hne
  | cons group larger ih =>
    rw [phrases]
    by_cases hnil : larger = []
    · subst hnil
      have hscale : ("" :: scales)[place]? = none := List.getElem?_eq_none (by simpa using hlong)
      rw [List.getLast_singleton] at hfirst
      simp [phrases, phrase, hfirst, hscale]
    · rw [List.getLast_cons hnil] at hfirst
      rw [List.length_cons] at hlong
      rw [ih (place + 1) hnil hfirst (by omega)]
      rfl

theorem cardinal_of_lt {n : Nat} (hn : n < 1000 ^ 7) : cardinal n = some (Numeral.cardinal n) := by
  rw [cardinal, Numeral.cardinal]
  split
  · exact units_getElem? (by omega)
  · next hpos =>
    have hscales : n / 1000 < 1000 ^ (scales.drop 0).length :=
      Nat.div_lt_of_lt_mul (hn.trans_eq (by rfl))
    have hlinked : decide (1 < (Nat.digits 1000 n).length) = decide (1000 ≤ n) := by
      rw [decide_eq_decide, Nat.lt_digits_length_iff (by omega), pow_one]
    have hlarger := phrases_eq_scaled (decide (1000 ≤ n)) hscales
    have hphrases : phrases (1000 ≤ n) 0 (Nat.digits 1000 n) = some (Numeral.phrases n) := by
      rw [Nat.digits_def' (by omega) (by omega), phrases_last _ (Nat.mod_lt n (by omega)), hlarger]
      rfl
    simp only [hlinked, hphrases, Option.map_some]

/-- **Which numbers are spelled without looking past the end of a table.** -/
theorem cardinal_eq (n : Nat) :
    cardinal n = if n < 1000 ^ 7 then some (Numeral.cardinal n) else none := by
  split
  · next hn => exact cardinal_of_lt hn
  · next hn =>
    have hpos : n ≠ 0 := by omega
    have hlong : 7 < (Nat.digits 1000 n).length :=
      (Nat.lt_digits_length_iff (by omega) n).2 (Nat.le_of_not_lt hn)
    have hne : Nat.digits 1000 n ≠ [] := List.ne_nil_of_length_pos (by omega)
    have hnone := phrases_eq_none (decide (1 < (Nat.digits 1000 n).length)) 0 hne
      (Nat.getLast_digit_ne_zero 1000 hpos) (by rwa [Nat.zero_add])
    simp only [cardinal, if_neg hpos, hnone, Option.map_none]

end Checked

/-! ### Words of small letters -/

/-- Is the text made of words of small letters, with single joints between them and none at the
ends? A joint too many would leave an empty word. -/
def InWords (text : String) : Prop :=
  ∀ word ∈ splitWords text, word ≠ "" ∧ ∀ c ∈ word.toList, c.isLower = true

/-- Joints apart, number words are letters. -/
theorem isLower_of_isWordChar {c : Char} (h : isWordChar c) (hclear : isJoint c = false) :
    c.isLower = true := by
  rw [isWordChar, Bool.or_assoc, Bool.or_eq_true] at h
  exact h.resolve_right (Bool.eq_false_iff.1 hclear)

/-- What parts the pieces of a list is in none of them, and all else in them is from the list. -/
theorem of_mem_splitOnP {p : Char → Bool} {cs piece : List Char} (h : piece ∈ cs.splitOnP p) :
    ∀ c ∈ piece, c ∈ cs ∧ p c = false := by
  induction cs generalizing piece with
  | nil =>
    rw [List.splitOnP_nil, List.mem_singleton] at h
    simp [h]
  | cons d cs ih =>
    rw [List.splitOnP_cons_eq_if_modifyHead] at h
    obtain ⟨first, more, hpieces⟩ := List.exists_cons_of_ne_nil (List.splitOnP_ne_nil p cs)
    rw [hpieces, List.modifyHead_cons] at h
    rw [hpieces] at ih
    cases hd : p d with
    | true =>
      rw [hd, if_pos rfl] at h
      rcases List.mem_cons.1 h with rfl | h
      · simp
      · exact fun c hc => (ih h c hc).imp_left (List.mem_cons_of_mem d)
    | false =>
      rw [hd, if_neg Bool.false_ne_true] at h
      rcases List.mem_cons.1 h with rfl | h
      · intro c hc
        rcases List.mem_cons.1 hc with rfl | hc
        · exact ⟨List.mem_cons_self, hd⟩
        · exact (ih List.mem_cons_self c hc).imp_left (List.mem_cons_of_mem d)
      · exact fun c hc => (ih (List.mem_cons_of_mem first h) c hc).imp_left (List.mem_cons_of_mem d)

theorem inWords_cardinal {n : Nat} (hn : n < 1000 ^ 7) : InWords (cardinal n) := by
  intro word hword
  refine ⟨?_, fun c hc => ?_⟩
  · rintro rfl
    exact empty_not_mem_of_told? (told?_cardinal hn) hword
  · obtain ⟨piece, hpiece, rfl⟩ := List.mem_map.1 hword
    rw [String.toList_ofList] at hc
    obtain ⟨hmem, hclear⟩ := of_mem_splitOnP hpiece c hc
    exact isLower_of_isWordChar (isWordChar_of_mem_cardinal hmem) hclear

/-! ### Numbers of 64 bits -/

/-- **The words of a number say which number it is.** -/
theorem cardinal_tells :
    (∀ n : UInt64, Checked.cardinal n.toNat = some (cardinal n.toNat) ∧
      InWords (cardinal n.toNat) ∧ cardinal? (cardinal n.toNat) = some n.toNat) ∧
    Function.Injective fun n : UInt64 => cardinal n.toNat := by
  have hread : ∀ n : UInt64, cardinal? (cardinal n.toNat) = some n.toNat :=
    fun n => cardinal?_cardinal (n.toNat_lt.trans (by decide))
  refine ⟨fun n => ?_, fun m n heq => ?_⟩
  · have hn : n.toNat < 1000 ^ 7 := n.toNat_lt.trans (by decide)
    have hlookup := (Checked.cardinal_eq n.toNat).trans (if_pos hn)
    exact ⟨hlookup, inWords_cardinal hn, hread n⟩
  · have htold := congrArg cardinal? heq
    simp only [hread, Option.some.injEq] at htold
    exact UInt64.toNat_inj.1 htold

end ScanCodes.Numeral
