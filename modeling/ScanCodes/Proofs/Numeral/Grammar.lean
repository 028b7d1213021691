import ScanCodes.Proofs.Numeral.Reading
import Mathlib.Data.Nat.Log
import Mathlib.Order.Bounds.Basic

/-!
# The grammar of cardinals

The words of a number are made of its groups of three digits: every group that is not zero is told
with its scale, and whether `and` stands in front of the last one depends on that group and on there
being larger ones. Spoken language knows of no groups. A number is so many of its largest scale, and
what remains is told like any other number, with `and` in front of it if it is below a hundred. Both
come to the same words, whichever groups are zero.

## Main definitions

* `Numeral.following`: the phrases of what remains behind a scale.
* `Numeral.remainder`: what remains behind a scale, in a speaker's words.
* `Numeral.FollowsGrammar`: every number is told by its largest scale and what remains.

## Main results

* `Numeral.scaled_eq_cons`, `Numeral.phrases_eq_cons`: the first phrase is that of the largest
  scale.
* `Numeral.cardinal_followsGrammar`: the cardinals follow the grammar, and no other way of telling
  the numbers from a hundred on does.
-/

namespace ScanCodes.Numeral

/-! ### Numbers of one group -/

theorem cardinal_of_lt_thousand {n : Nat} (hn : n < 1000) : cardinal n = belowThousand n := by
  rw [cardinal]
  split
  · next hzero =>
    rw [hzero]
    rfl
  · next hpos =>
    have hunlinked : (decide (1000 ≤ n) && decide (n < 100)) = false := by
      rw [decide_eq_false (by omega), Bool.false_and]
    rw [phrases, Nat.div_eq_of_lt hn, Nat.mod_eq_of_lt hn, scaled_zero, lastPhrase, if_neg hpos,
      hunlinked, if_neg Bool.false_ne_true, List.nil_append, String.intercalate_singleton]

theorem cardinal_of_lt_hundred {n : Nat} (hn : n < 100) : cardinal n = belowHundred n := by
  rw [cardinal_of_lt_thousand (by omega), belowThousand, if_pos hn]

theorem cardinal_of_lt_twenty {n : Nat} (hn : n < 20) : cardinal n = unit n := by
  rw [cardinal_of_lt_hundred (by omega), belowHundred, if_pos hn]

/-! ### The largest scale -/

section LargestScale

variable {n k : Nat}

/-- Without its last group a number has the next smaller scale. -/
theorem pow_le_div_thousand (hlow : 1000 ^ (k + 1) ≤ n) : 1000 ^ k ≤ n / 1000 := by
  rwa [Nat.le_div_iff_mul_le (by omega), ← pow_succ]

theorem div_thousand_lt_pow (hhigh : n < 1000 ^ (k + 1)) : n / 1000 < 1000 ^ k :=
  Nat.div_lt_of_lt_mul (by rwa [← pow_succ'])

theorem div_thousand_div_pow (n k : Nat) : n / 1000 / 1000 ^ k = n / 1000 ^ (k + 1) := by
  rw [Nat.div_div_eq_div_mul, ← pow_succ']

/-- What remains behind a scale, without its last group. -/
theorem mod_pow_div_thousand (n k : Nat) : n % 1000 ^ (k + 1) / 1000 = n / 1000 % 1000 ^ k := by
  rw [pow_succ', Nat.mod_mul_right_div_self]

theorem mod_pow_mod_thousand (n k : Nat) : n % 1000 ^ (k + 1) % 1000 = n % 1000 :=
  Nat.mod_mod_of_dvd n (dvd_pow_self 1000 (Nat.succ_ne_zero k))

/-- Of the scaled phrases the first is that of the largest scale. -/
theorem scaled_eq_cons {names : List String} (hk : k < names.length) (hlow : 1000 ^ k ≤ n)
    (hhigh : n < 1000 ^ (k + 1)) :
    scaled names n =
      (belowThousand (n / 1000 ^ k) ++ " " ++ names[k]) :: scaled names (n % 1000 ^ k) := by
  induction names generalizing n k with
  | nil => cases hk
  | cons name larger ih =>
    cases k with
    | zero =>
      rw [pow_zero] at hlow
      rw [Nat.zero_add, pow_one] at hhigh
      have hpos : n % 1000 ≠ 0 := by omega
      rw [pow_zero, Nat.div_one, Nat.mod_one, scaled_zero, scaled, Nat.div_eq_of_lt hhigh,
        scaled_zero, if_neg hpos, Nat.mod_eq_of_lt hhigh]
      rfl
    | succ k =>
      have hlarger := ih (Nat.lt_of_succ_lt_succ hk) (pow_le_div_thousand hlow)
        (div_thousand_lt_pow hhigh)
      rw [scaled, hlarger, scaled, div_thousand_div_pow, mod_pow_div_thousand,
        mod_pow_mod_thousand]
      rfl

/-- The phrases of what remains of a number behind a scale. -/
def following (r : Nat) : List String :=
  scaled scales (r / 1000) ++ lastPhrase true (r % 1000)

/-- The first phrase is that of the largest scale. -/
theorem phrases_eq_cons (hk : k < scales.length) (hlow : 1000 ^ (k + 1) ≤ n)
    (hhigh : n < 1000 ^ (k + 2)) :
    phrases n = (belowThousand (n / 1000 ^ (k + 1)) ++ " " ++ scales[k]) ::
      following (n % 1000 ^ (k + 1)) := by
  have hlinked : decide (1000 ≤ n) = true :=
    decide_eq_true ((Nat.le_self_pow (Nat.succ_ne_zero k) 1000).trans hlow)
  rw [phrases, scaled_eq_cons hk (pow_le_div_thousand hlow) (div_thousand_lt_pow hhigh), hlinked,
    following, div_thousand_div_pow, mod_pow_div_thousand, mod_pow_mod_thousand]
  rfl

end LargestScale

/-! ### What remains -/

/-- What remains of a number behind a scale, as it is told on. -/
def remainder (spell : Nat → String) (r : Nat) : String :=
  if r = 0 then "" else if r < 100 then " and " ++ spell r else " " ++ spell r

theorem following_zero : following 0 = [] := by
  rw [following, Nat.zero_div, scaled_zero]
  rfl

theorem following_of_lt_hundred {r : Nat} (hpos : r ≠ 0) (hr : r < 100) :
    following r = ["and " ++ cardinal r] := by
  have hlinked : (true && decide (r < 100)) = true := by
    rw [decide_eq_true hr, Bool.true_and]
  rw [following, Nat.div_eq_of_lt (by omega), Nat.mod_eq_of_lt (by omega), scaled_zero, lastPhrase,
    if_neg hpos, hlinked, if_pos rfl, List.nil_append, cardinal_of_lt_hundred hr]

/-- From a hundred on, what remains is told as if nothing stood in front of it. -/
theorem following_of_le {r : Nat} (hr : 100 ≤ r) : following r = phrases r := by
  rw [following, phrases]
  by_cases hlarge : 1000 ≤ r
  · rw [decide_eq_true hlarge]
  · have hlast : r % 1000 = r := Nat.mod_eq_of_lt (by omega)
    have hlow : decide (r < 100) = false := decide_eq_false (by omega)
    rw [hlast, lastPhrase, lastPhrase, hlow, Bool.and_false, Bool.and_false]

theorem intercalate_cons_following (first : String) {r : Nat} (hr : r < 1000 ^ 7) :
    " ".intercalate (first :: following r) = first ++ remainder cardinal r := by
  rw [remainder]
  split
  · next hzero =>
    rw [hzero, following_zero, String.intercalate_singleton, String.append_empty]
  · next hpos =>
    split
    · next hsmall =>
      have htext : " and " ++ cardinal r = " " ++ ("and " ++ cardinal r) := by
        rw [← String.append_assoc]
        rfl
      rw [following_of_lt_hundred hpos hsmall,
        String.intercalate_cons_of_ne_nil (List.cons_ne_nil _ _), String.intercalate_singleton,
        String.append_assoc, htext]
    · rw [following_of_le (by omega), String.intercalate_cons_of_ne_nil (phrases_ne_nil hr hpos),
        String.append_assoc, cardinal, if_neg hpos]

/-! ### The grammar -/

/-- The way of telling numbers follows the grammar of English cardinals, for numbers of 64 bits. -/
structure FollowsGrammar (spell : Nat → String) : Prop where
  /-- Below a thousand a number is so many hundreds, and what remains. -/
  hundred : ∀ n, 100 ≤ n → n < 1000 →
    spell n = spell (n / 100) ++ " hundred" ++ remainder spell (n % 100)
  /-- From a thousand on it is so many of the largest scale, and what remains. -/
  scale : ∀ n, 1000 ≤ n → n < UInt64.size → ∃ k, IsGreatest {k | 1000 ^ k ≤ n} k ∧
    ∃ name, ("" :: scales)[k]? = some name ∧
      spell n = spell (n / 1000 ^ k) ++ " " ++ name ++ remainder spell (n % 1000 ^ k)

theorem isGreatest_of_lt_pow {n k : Nat} (hlow : 1000 ^ k ≤ n) (hhigh : n < 1000 ^ (k + 1)) :
    IsGreatest {k | 1000 ^ k ≤ n} k :=
  ⟨hlow, fun _ hj => Nat.lt_succ_iff.1 ((Nat.pow_lt_pow_iff_right (by omega)).1
    (Nat.lt_of_le_of_lt hj hhigh))⟩

theorem cardinal_eq_hundreds {n : Nat} (hlow : 100 ≤ n) (hn : n < 1000) :
    cardinal n = cardinal (n / 100) ++ " hundred" ++ remainder cardinal (n % 100) := by
  rw [cardinal_of_lt_thousand hn, belowThousand, if_neg (by omega), remainder,
    cardinal_of_lt_twenty (by omega)]
  split
  · rw [String.append_empty]
  · have htext : " hundred and " = " hundred" ++ " and " := rfl
    rw [if_pos (Nat.mod_lt n (by omega)), cardinal_of_lt_hundred (Nat.mod_lt n (by omega)), htext]
    simp only [String.append_assoc]

theorem cardinal_eq_scale {n k : Nat} (hk : k < scales.length) (hlow : 1000 ^ (k + 1) ≤ n)
    (hhigh : n < 1000 ^ (k + 2)) :
    cardinal n = cardinal (n / 1000 ^ (k + 1)) ++ " " ++ scales[k] ++
      remainder cardinal (n % 1000 ^ (k + 1)) := by
  have hpos : n ≠ 0 := (Nat.lt_of_lt_of_le (Nat.pow_pos (by omega)) hlow).ne'
  have hquotient : n / 1000 ^ (k + 1) < 1000 :=
    Nat.div_lt_of_lt_mul (by rwa [← pow_succ])
  have hremainder : n % 1000 ^ (k + 1) < 1000 ^ 7 :=
    (Nat.mod_lt n (Nat.pow_pos (by omega))).trans
      (Nat.pow_lt_pow_right (by omega) (Nat.succ_lt_succ hk))
  rw [cardinal, if_neg hpos, phrases_eq_cons hk hlow hhigh, intercalate_cons_following _ hremainder,
    cardinal_of_lt_thousand hquotient]

theorem exists_cardinal_eq_scale {n : Nat} (hlow : 1000 ≤ n) (hn : n < 1000 ^ 7) :
    ∃ k, IsGreatest {k | 1000 ^ k ≤ n} k ∧ ∃ name, ("" :: scales)[k]? = some name ∧
      cardinal n = cardinal (n / 1000 ^ k) ++ " " ++ name ++ remainder cardinal (n % 1000 ^ k) := by
  obtain ⟨k, hk⟩ := Nat.exists_eq_succ_of_ne_zero (Nat.log_pos (by omega) hlow).ne'
  have hle := Nat.pow_log_le_self 1000 (by omega : n ≠ 0)
  have hlt := Nat.lt_pow_succ_log_self (by omega : 1 < 1000) n
  rw [hk] at hle hlt
  have hscale : k < scales.length :=
    Nat.lt_of_succ_lt_succ ((Nat.pow_lt_pow_iff_right (by omega)).1 (Nat.lt_of_le_of_lt hle hn))
  exact ⟨k + 1, isGreatest_of_lt_pow hle hlt, scales[k], List.getElem?_eq_getElem hscale,
    cardinal_eq_scale hscale hle hlt⟩

/-- Ways of telling numbers that agree below a hundred and follow the grammar agree. -/
theorem FollowsGrammar.eq {spell spell' : Nat → String} (h : FollowsGrammar spell)
    (h' : FollowsGrammar spell') (hsmall : ∀ n < 100, spell n = spell' n) {n : Nat}
    (hn : n < UInt64.size) : spell n = spell' n := by
  induction n using Nat.strong_induction_on with
  | _ n ih =>
    have hremainder : ∀ r, r < n → remainder spell r = remainder spell' r := by
      intro r hr
      rw [remainder, remainder, ih r hr (hr.trans hn)]
    by_cases hhundred : n < 100
    · exact hsmall n hhundred
    · by_cases hthousand : n < 1000
      · rw [h.hundred n (by omega) hthousand, h'.hundred n (by omega) hthousand,
          ih (n / 100) (by omega) (by omega), hremainder _ (by omega)]
      · obtain ⟨k, hk, name, hname, heq⟩ := h.scale n (by omega) hn
        obtain ⟨k', hk', name', hname', heq'⟩ := h'.scale n (by omega) hn
        obtain rfl := hk.unique hk'
        obtain rfl := Option.some.inj (hname.symm.trans hname')
        have hpos : 1 ≤ k := hk.2 (by simpa using (by omega : 1000 ≤ n))
        have hquotient : n / 1000 ^ k < n :=
          Nat.div_lt_self (by omega) (Nat.one_lt_pow (by omega) (by omega))
        rw [heq, heq', ih _ hquotient (hquotient.trans hn),
          hremainder _ ((Nat.mod_lt n (Nat.pow_pos (by omega))).trans_le hk.1)]

/-- **The cardinals follow the grammar**, and no other words for the numbers from a hundred on
do. -/
theorem cardinal_followsGrammar :
    FollowsGrammar cardinal ∧
      ∀ spell, FollowsGrammar spell → (∀ n < 100, spell n = cardinal n) →
        ∀ n < UInt64.size, spell n = cardinal n := by
  have hcardinal : FollowsGrammar cardinal :=
    ⟨fun _ => cardinal_eq_hundreds,
      fun _ hlow hn => exists_cardinal_eq_scale hlow (hn.trans (by decide))⟩
  exact ⟨hcardinal, fun spell hspell hsmall n hn => hspell.eq hcardinal hsmall hn⟩

/-- Between five trillion and seventeen there are three groups of zero. -/
theorem cardinal_followsGrammar_trillion :
    1000 ≤ 5000000000017 ∧ 5000000000017 < UInt64.size ∧
      IsGreatest {k | 1000 ^ k ≤ 5000000000017} 4 ∧
      cardinal 5000000000017 = cardinal 5 ++ " trillion" ++ (" and " ++ cardinal 17) := by
  have hlow : 1000 ≤ 5000000000017 := by decide
  have hn : 5000000000017 < UInt64.size := by decide
  have hgreatest : IsGreatest {k | 1000 ^ k ≤ 5000000000017} 4 :=
    isGreatest_of_lt_pow (by decide) (by decide)
  obtain ⟨k, hk, name, hname, heq⟩ := cardinal_followsGrammar.1.scale _ hlow hn
  obtain rfl := hk.unique hgreatest
  cases hname
  exact ⟨hlow, hn, hgreatest, heq⟩

end ScanCodes.Numeral
