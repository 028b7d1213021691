import ScanCodes.Proofs.Numeral.Reading

/-!
# Leading zeros

Zeros in front of a run of digits do not change its number. A number of 64 bits is told by its
cardinal, which knows nothing of the digits, so there they are not to be heard. A larger number is
told digit by digit, and there every one of them is: `018446744073709551616` begins with `zero`,
and `18446744073709551616` begins with `one`.

## Main results

* `Numeral.value_zeros_append`: zeros in front do not change the number.
* `Numeral.ofDigits_zeros_append`: what they add to the words.
* `Numeral.ofDigits_zeros_append_eq_iff`: they are ignored up to 64 bits, and not beyond.
-/

namespace ScanCodes.Numeral

/-! ### The number -/

theorem value_zero_cons (digits : List Char) : value ('0' :: digits) = value digits :=
  rfl

/-- Zeros in front of a run of digits do not change its number. -/
theorem value_zeros_append (k : Nat) (digits : List Char) :
    value (List.replicate k '0' ++ digits) = value digits := by
  induction k with
  | zero => rfl
  | succ k ih => rw [List.replicate_succ, List.cons_append, value_zero_cons, ih]

theorem isRun_zeros_append (k : Nat) {digits : List Char} (hrun : IsRun digits) :
    IsRun (List.replicate k '0' ++ digits) := by
  refine ⟨List.append_ne_nil_of_right_ne_nil _ hrun.1, fun c hc => ?_⟩
  rcases List.mem_append.1 hc with hzero | hc
  · rw [List.eq_of_mem_replicate hzero]
    rfl
  · exact hrun.2 c hc

/-! ### The words -/

/-- The words of a run of digits, by what its number is. -/
theorem ofDigits_of_isRun {digits : List Char} (hrun : IsRun digits) :
    ofDigits digits =
      if value digits < UInt64.size then cardinal (value digits) else digitByDigit digits := by
  rw [ofDigits, parse?_of_isRun hrun]
  by_cases hfits : value digits < UInt64.size
  · simp only [if_pos hfits]
  · simp only [if_neg hfits]

/-- Digit by digit, a zero in front is a word of its own. -/
theorem digitByDigit_zero_cons {digits : List Char} (hrun : IsRun digits) :
    digitByDigit ('0' :: digits) = "zero " ++ digitByDigit digits := by
  have hne : (digits.filter Char.isDigit).map (fun c => unit (digitValue c)) ≠ [] := by
    rw [List.filter_eq_self.2 hrun.2]
    simpa using hrun.1
  rw [digitByDigit, digitByDigit, List.filter_cons_of_pos rfl, List.map_cons,
    String.intercalate_cons_of_ne_nil hne]
  rfl

theorem digitByDigit_zeros_append (k : Nat) {digits : List Char} (hrun : IsRun digits) :
    digitByDigit (List.replicate k '0' ++ digits) =
      String.join (List.replicate k "zero ") ++ digitByDigit digits := by
  induction k with
  | zero => simp
  | succ k ih =>
    rw [List.replicate_succ, List.cons_append, digitByDigit_zero_cons (isRun_zeros_append k hrun),
      ih, List.replicate_succ, String.join_cons, String.append_assoc]

/-- **What zeros in front add to the words of a run of digits.** Nothing, as long as the number fits
64 bits; and a word for each of them otherwise. -/
theorem ofDigits_zeros_append (k : Nat) {digits : List Char} (hrun : IsRun digits) :
    ofDigits (List.replicate k '0' ++ digits) =
      if value digits < UInt64.size then ofDigits digits
      else String.join (List.replicate k "zero ") ++ ofDigits digits := by
  rw [ofDigits_of_isRun (isRun_zeros_append k hrun), ofDigits_of_isRun hrun, value_zeros_append]
  split
  · rfl
  · exact digitByDigit_zeros_append k hrun

/-- **Leading zeros are ignored exactly up to 64 bits.** Beyond that each of them is a word, so the
words are those of the run without its zeros only if there are none. -/
theorem ofDigits_zeros_append_eq_iff (k : Nat) {digits : List Char} (hrun : IsRun digits) :
    ofDigits (List.replicate k '0' ++ digits) = ofDigits digits ↔
      k = 0 ∨ value digits < UInt64.size := by
  rw [ofDigits_zeros_append k hrun]
  by_cases hfits : value digits < UInt64.size
  · simp [hfits]
  · rw [if_neg hfits, or_iff_left hfits]
    constructor
    · intro heq
      have hnil : (String.join (List.replicate k "zero ")).toList = [] := by
        have htexts := congrArg String.toList heq
        rwa [String.toList_append, List.append_left_eq_self] at htexts
      cases k with
      | zero => rfl
      | succ k => simp [List.replicate_succ, String.join_cons] at hnil
    · rintro rfl
      simp

/-- The largest number of 64 bits is told alike behind zeros, though the run has more digits then
than such a number can have. -/
theorem ofDigits_zeros_append_eq_iff_largest :
    IsRun "18446744073709551615".toList ∧
      (ofDigits (List.replicate 3 '0' ++ "18446744073709551615".toList) =
          ofDigits "18446744073709551615".toList ↔
        3 = 0 ∨ value "18446744073709551615".toList < UInt64.size) :=
  ⟨by decide, ofDigits_zeros_append_eq_iff 3 (by decide)⟩

/-- The number after it is told with its zero. -/
theorem ofDigits_zeros_append_ne :
    IsRun "18446744073709551616".toList ∧
      ofDigits (List.replicate 1 '0' ++ "18446744073709551616".toList) ≠
        ofDigits "18446744073709551616".toList := by
  have hrun : IsRun "18446744073709551616".toList := by decide
  have hlarge : ¬ value "18446744073709551616".toList < UInt64.size := by decide
  refine ⟨hrun, fun heq => ?_⟩
  rw [ofDigits_zeros_append 1 hrun, if_neg hlarge] at heq
  have hlength := congrArg String.length heq
  simp at hlength

end ScanCodes.Numeral
