import ScanCodes.Text.Blank
import ScanCodes.Text.Upper
import Mathlib.Data.List.Basic

/-!
# Which characters upper-casing can produce

Upper-casing produces no blank and no ASCII character that was not there before, capital letters
apart. These facts are about every character of Unicode and are read off the two tables, entry by
entry: the characters that it moves others to lie in a few ranges. Inside ASCII, upper-casing is the
familiar one.

## Main definitions

* `Text.lower`: a text in small letters, those of ASCII.

## Main results

* `Text.eq_of_mem_upperChar`: the ASCII characters that upper-casing can produce.
* `Text.eq_of_mem_upperChar_of_isBlank`, `Text.upperChar_of_isBlank`: what it does about blanks.
* `Text.upper_of_ascii`: what it makes of an ASCII text.
* `Text.upper_lower`: it does not tell small letters from capital ones.
-/

namespace ScanCodes.Text

/-! ### Letters and digits -/

theorem isAlpha_of_isUpper {c : Char} (h : c.isUpper = true) : c.isAlpha = true :=
  Bool.or_eq_true_iff.2 (Or.inl h)

theorem isAlpha_of_isLower {c : Char} (h : c.isLower = true) : c.isAlpha = true :=
  Bool.or_eq_true_iff.2 (Or.inr h)

theorem isAlphanum_of_isAlpha {c : Char} (h : c.isAlpha = true) : c.isAlphanum = true :=
  Bool.or_eq_true_iff.2 (Or.inl h)

theorem isAlphanum_of_isDigit {c : Char} (h : c.isDigit = true) : c.isAlphanum = true :=
  Bool.or_eq_true_iff.2 (Or.inr h)

theorem toNat_lt_of_isAlpha {c : Char} (h : c.isAlpha = true) : c.toNat < 128 := by
  rcases Bool.or_eq_true_iff.1 h with h | h
  · have hle : c.toNat ≤ 90 := (of_decide_eq_true h).2
    omega
  · have hle : c.toNat ≤ 122 := of_decide_eq_true (Bool.and_eq_true_iff.1 h).2
    omega

theorem toNat_lt_of_isAlphanum {c : Char} (h : c.isAlphanum = true) : c.toNat < 128 := by
  rcases Bool.or_eq_true_iff.1 h with h | h
  · exact toNat_lt_of_isAlpha h
  · have hle : c.toNat ≤ 57 := of_decide_eq_true (Bool.and_eq_true_iff.1 h).2
    omega

/-! ### Upper case -/

/-- The ranges that upper-casing moves characters into. None of them holds a blank or a surrogate,
and none holds an ASCII character, capital letters apart. -/
private def Upper.targets : List (Nat × Nat) :=
  [(65, 90), (0xA1, 0x167F), (0x1681, 0x1FFF), (0x2060, 0x2FFF), (0x3001, 0xD7FF),
    (0xE000, 0x10FFFF)]

/-- Is the code point one that a character can be moved to? -/
private def Upper.IsTarget (n : Nat) : Prop :=
  ∃ range ∈ targets, range.1 ≤ n ∧ n ≤ range.2

private instance (n : Nat) : Decidable (Upper.IsTarget n) :=
  inferInstanceAs (Decidable (∃ range ∈ Upper.targets, range.1 ≤ n ∧ n ≤ range.2))

/-- Does the run send all of its characters into one of the ranges? -/
private def Upper.Run.isTame (r : Run) : Bool :=
  targets.any fun range => range.1 ≤ r.first + r.shift && r.last + r.shift ≤ range.2

private theorem Upper.isTame_of_mem_runs : ∀ r ∈ runs, r.isTame := by
  decide +kernel

private theorem Upper.tame_of_mem_expansions :
    ∀ e ∈ expansions, e.2 ≠ [] ∧ ∀ n ∈ e.2, IsTarget n := by
  decide +kernel

private theorem toNat_ofNat {n : Nat} (h : n.isValidChar) : (Char.ofNat n).toNat = n := by
  rw [Char.ofNat, dif_pos h]
  rfl

private theorem isUpper_of_toNat {c : Char} (h : 65 ≤ c.toNat ∧ c.toNat ≤ 90) : c.isUpper := by
  have hbetween : 'A'.val ≤ c.val ∧ c.val ≤ 'Z'.val := h
  exact decide_eq_true hbetween

private theorem Upper.IsTarget.isValidChar {n : Nat} (h : IsTarget n) : n.isValidChar := by
  simp only [IsTarget, targets, List.mem_cons, List.not_mem_nil, or_false, exists_eq_or_imp,
    exists_eq_left] at h
  simp only [Nat.isValidChar]
  omega

/-- What upper-casing moves a character to is a capital letter of ASCII or else no ASCII character
at all, and it is no blank. -/
private theorem Upper.IsTarget.tame {c : Char} (h : IsTarget c.toNat) :
    (c.isUpper ∨ 128 ≤ c.toNat) ∧ isBlank c = false := by
  simp only [IsTarget, targets, List.mem_cons, List.not_mem_nil, or_false, exists_eq_or_imp,
    exists_eq_left] at h
  constructor
  · by_cases hascii : c.toNat < 128
    · exact Or.inl (isUpper_of_toNat (by omega))
    · exact Or.inr (by omega)
  · simp only [isBlank, Bool.or_eq_false_iff, Bool.and_eq_false_iff, decide_eq_false_iff_not]
    omega

private theorem Upper.Run.isTarget_target {r : Run} (hr : r.isTame) {n : Nat} (hn : r.covers n) :
    IsTarget (r.target n) := by
  simp only [covers, Bool.and_eq_true, decide_eq_true_eq] at hn
  obtain ⟨range, hmem, hrange⟩ := List.any_eq_true.1 hr
  simp only [Bool.and_eq_true, decide_eq_true_eq] at hrange
  refine ⟨range, hmem, ?_⟩
  simp only [target]
  omega

/-- A character that comes out of upper-casing went in, or it was moved to. -/
private theorem eq_or_isTarget_of_mem_upperChar {c d : Char} (h : d ∈ upperChar c) :
    d = c ∨ Upper.IsTarget d.toNat := by
  have htarget : ∀ n, Upper.IsTarget n → Upper.IsTarget (Char.ofNat n).toNat := by
    intro n hn
    rwa [toNat_ofNat hn.isValidChar]
  rw [upperChar] at h
  split at h
  · next ns hns =>
    obtain ⟨n, hn, rfl⟩ := List.mem_map.1 h
    obtain ⟨before, after, heq, -⟩ := List.lookup_eq_some_iff.1 hns
    have hmem : (c.toNat, ns) ∈ Upper.expansions := by simp [heq]
    exact Or.inr (htarget n ((Upper.tame_of_mem_expansions _ hmem).2 n hn))
  · split at h
    · next r hr =>
      obtain rfl := List.mem_singleton.1 h
      have htame := Upper.isTame_of_mem_runs r (List.mem_of_find?_eq_some hr)
      have hcovers : r.covers c.toNat := by simpa using List.find?_some hr
      exact Or.inr (htarget _ (Upper.Run.isTarget_target htame hcovers))
    · exact Or.inl (List.mem_singleton.1 h)

/-- An ASCII character that is no capital letter comes out of upper-casing only if it went in. -/
theorem eq_of_mem_upperChar {c d : Char} (h : d ∈ upperChar c) (hascii : d.toNat < 128)
    (hupper : d.isUpper = false) : d = c := by
  refine (eq_or_isTarget_of_mem_upperChar h).resolve_right fun htarget => ?_
  rcases htarget.tame.1 with hd | hd
  · rw [hupper] at hd
    cases hd
  · omega

/-- So does a blank. -/
theorem eq_of_mem_upperChar_of_isBlank {c d : Char} (h : d ∈ upperChar c)
    (hblank : isBlank d = true) : d = c := by
  refine (eq_or_isTarget_of_mem_upperChar h).resolve_right fun htarget => ?_
  rw [htarget.tame.2] at hblank
  cases hblank

/-- Upper-casing leaves something of every character. -/
theorem upperChar_ne_nil (c : Char) : upperChar c ≠ [] := by
  rw [upperChar]
  split
  · next ns hns =>
    obtain ⟨before, after, heq, -⟩ := List.lookup_eq_some_iff.1 hns
    have hmem : (c.toNat, ns) ∈ Upper.expansions := by simp [heq]
    simpa using (Upper.tame_of_mem_expansions _ hmem).1
  · split <;> exact List.cons_ne_nil _ _

/-- The same of a whole text. -/
theorem mem_of_mem_upper {cs : List Char} {d : Char} (h : d ∈ upper cs) (hascii : d.toNat < 128)
    (hupper : d.isUpper = false) : d ∈ cs := by
  obtain ⟨c, hc, hd⟩ := List.mem_flatMap.1 h
  rwa [eq_of_mem_upperChar hd hascii hupper]

/-- What holds of the first 128 code points holds of the ASCII characters. -/
theorem forall_ascii {p : Char → Prop} (h : ∀ n < 128, p (Char.ofNat n)) :
    ∀ c : Char, c.toNat < 128 → p c := by
  intro c hc
  have hp := h c.toNat hc
  rwa [Char.ofNat_toNat] at hp

/-- The run of the small letters of ASCII. -/
private def Upper.letters : Run :=
  ⟨0x61, 0x7A, 1, -32⟩

private theorem Upper.runs_eq : runs = letters :: runs.tail := rfl

/-- All else in the two tables is about characters beyond ASCII. -/
private theorem Upper.beyond_ascii :
    (∀ e ∈ expansions, 128 ≤ e.1) ∧ ∀ r ∈ runs.tail, 128 ≤ r.first := by
  decide +kernel

private theorem Upper.target_letters : ∀ c : Char, c.toNat < 128 →
    c.toUpper = if letters.covers c.toNat then Char.ofNat (letters.target c.toNat) else c :=
  forall_ascii (by decide +kernel)

/-- Upper-casing an ASCII character. -/
theorem upperChar_of_ascii {c : Char} (h : c.toNat < 128) : upperChar c = [c.toUpper] := by
  have hexpansions : Upper.expansions.lookup c.toNat = none := by
    rw [List.lookup_eq_none_iff]
    intro e he
    have hbeyond := Upper.beyond_ascii.1 e he
    exact bne_iff_ne.2 (by omega)
  have htail : Upper.runs.tail.find? (·.covers c.toNat) = none := by
    rw [List.find?_eq_none]
    intro r hr hcovers
    have hbeyond := Upper.beyond_ascii.2 r hr
    simp only [Upper.Run.covers, Bool.and_eq_true, decide_eq_true_eq] at hcovers
    omega
  rw [upperChar, hexpansions, Upper.runs_eq, List.find?_cons, htail, Upper.target_letters c h]
  cases Upper.letters.covers c.toNat <;> rfl

private theorem toUpper_of_ascii : ∀ c : Char, c.toNat < 128 →
    c.toUpper.isLower = false ∧ (c.isLower = true → c.isUpper = false) :=
  forall_ascii (by decide +kernel)

/-- Upper-casing leaves no small letter of ASCII. -/
theorem isLower_of_mem_upperChar {c d : Char} (h : d ∈ upperChar c) : d.isLower = false := by
  by_contra hlower
  rw [Bool.not_eq_false] at hlower
  have hascii : d.toNat < 128 := toNat_lt_of_isAlpha (isAlpha_of_isLower hlower)
  obtain ⟨hupper, hnot⟩ := toUpper_of_ascii d hascii
  obtain rfl := eq_of_mem_upperChar h hascii (hnot hlower)
  rw [upperChar_of_ascii hascii, List.mem_singleton] at h
  rw [← h, hlower] at hupper
  cases hupper

/-- Upper-casing an ASCII text. -/
theorem upper_of_ascii {cs : List Char} (h : ∀ c ∈ cs, c.toNat < 128) :
    upper cs = cs.map Char.toUpper := by
  rw [upper, List.map_eq_flatMap]
  exact List.flatMap_congr fun c hc => upperChar_of_ascii (h c hc)

/-! ### Small letters -/

/-- A text in small letters. Only the capital letters of ASCII are changed. -/
def lower (cs : List Char) : List Char :=
  cs.map Char.toLower

theorem toLower_of_isUpper {c : Char} (h : c.isUpper = false) : c.toLower = c :=
  dif_neg (of_decide_eq_false h)

/-- That a function does not tell small letters from capital ones has only to be looked up in
ASCII. -/
theorem apply_toLower {α : Type} (f : Char → α)
    (h : ∀ n < 128, f (Char.ofNat n).toLower = f (Char.ofNat n)) (c : Char) :
    f c.toLower = f c := by
  cases hupper : c.isUpper with
  | false => rw [toLower_of_isUpper hupper]
  | true =>
    have hall : ∀ c : Char, c.toNat < 128 → f c.toLower = f c := forall_ascii h
    exact hall c (toNat_lt_of_isAlpha (isAlpha_of_isUpper hupper))

theorem isDigit_toLower : ∀ c : Char, c.toLower.isDigit = c.isDigit :=
  apply_toLower Char.isDigit (by decide +kernel)

theorem isAlpha_toLower : ∀ c : Char, c.toLower.isAlpha = c.isAlpha :=
  apply_toLower Char.isAlpha (by decide +kernel)

theorem toLower_toLower : ∀ c : Char, c.toLower.toLower = c.toLower :=
  apply_toLower Char.toLower (by decide +kernel)

theorem upperChar_toLower (c : Char) : upperChar c.toLower = upperChar c := by
  cases hupper : c.isUpper with
  | false => rw [toLower_of_isUpper hupper]
  | true =>
    have halpha := isAlpha_of_isUpper hupper
    rw [upperChar_of_ascii (toNat_lt_of_isAlpha halpha),
      upperChar_of_ascii (toNat_lt_of_isAlpha ((isAlpha_toLower c).trans halpha)),
      apply_toLower Char.toUpper (by decide +kernel)]

/-- Upper-casing does not tell small letters from capital ones. -/
theorem upper_lower (cs : List Char) : upper (lower cs) = upper cs := by
  rw [upper, lower, List.flatMap_map]
  exact List.flatMap_congr fun c _ => upperChar_toLower c

/-! ### Blanks -/

/-- The code points of the blanks. -/
private def blanks : List Nat :=
  [0x09, 0x0A, 0x0B, 0x0C, 0x0D, 0x20, 0x85, 0xA0, 0x1680, 0x2000, 0x2001, 0x2002, 0x2003, 0x2004,
    0x2005, 0x2006, 0x2007, 0x2008, 0x2009, 0x200A, 0x2028, 0x2029, 0x202F, 0x205F, 0x3000]

private theorem toNat_mem_blanks {c : Char} (h : isBlank c = true) : c.toNat ∈ blanks := by
  simp only [isBlank, Bool.or_eq_true, Bool.and_eq_true, decide_eq_true_eq] at h
  simp only [blanks, List.mem_cons, List.not_mem_nil, or_false]
  omega

private theorem upperChar_of_mem_blanks : ∀ n ∈ blanks,
    upperChar (Char.ofNat n) = [Char.ofNat n] := by
  decide +kernel

/-- A blank has no upper case. -/
theorem upperChar_of_isBlank {c : Char} (h : isBlank c = true) : upperChar c = [c] := by
  have hc := upperChar_of_mem_blanks c.toNat (toNat_mem_blanks h)
  rwa [Char.ofNat_toNat] at hc

theorem upper_of_isBlank {cs : List Char} (h : ∀ c ∈ cs, isBlank c = true) : upper cs = cs := by
  rw [upper, List.flatMap_congr fun c hc => upperChar_of_isBlank (h c hc), List.flatMap_singleton']

end ScanCodes.Text
