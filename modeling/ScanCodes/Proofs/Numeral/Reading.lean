import ScanCodes.Numeral
import Mathlib.Algebra.Order.Group.Nat
import Mathlib.Data.List.Basic
import Mathlib.Data.List.Flatten
import Mathlib.Tactic.Ring

/-!
# Number words can be read back

Numbers are told in two ways. A number of 64 bits is told as a cardinal, in groups of three digits;
a longer one digit by digit. A listener who knows both ways always finds out the number: words that
are all names of digits are digits, as no cardinal from ten on is made of such words alone, and any
other words are a cardinal.

A cardinal is read word by word. The names below twenty and those of the tens add to the open group,
`hundred` multiplies it, and the name of a scale closes it. What the words mean is written down for
the listener apart from the names that a speaker has for the numbers.

## Main definitions

* `Numeral.splitWords`: the words of a text, parted by spaces or dashes.
* `Numeral.dictionary`, `Numeral.powers`: what the words for numbers and for scales mean.
* `Numeral.Tally`, `Numeral.Tally.hear?`: what has been heard of a cardinal, and one word more.
* `Numeral.cardinal?`, `Numeral.digits?`: the number that words tell, in either way.
* `Numeral.told?`: the number that a text tells.

## Main results

* `Numeral.cardinal?_cardinal`: a cardinal is read back.
* `Numeral.digits?_digitByDigit`: so is a run of digits.
* `Numeral.told?_ofDigits`: so are the words of any run of digits, however long.
* `Numeral.splitOnP_map`: words can be parted by other joints, they are heard all the same.
-/

namespace ScanCodes.Numeral

/-! ### Words -/

/-- What parts the words of a number. -/
def isJoint (c : Char) : Bool :=
  c = ' ' || c = '-'

/-- The words of a text. -/
def splitWords (text : String) : List String :=
  (text.toList.splitOnP isJoint).map String.ofList

/-- A joint parts the words in front of it from those behind it. -/
theorem splitWords_append {c : Char} (hc : isJoint c = true) (s t : String) :
    splitWords (s ++ String.ofList [c] ++ t) = splitWords s ++ splitWords t := by
  rw [splitWords, String.toList_append, String.toList_append, String.toList_ofList,
    List.append_assoc, List.singleton_append, List.splitOnP_append_cons _ _ hc, List.map_append]
  rfl

theorem splitWords_space (s t : String) :
    splitWords (s ++ " " ++ t) = splitWords s ++ splitWords t :=
  splitWords_append (c := ' ') rfl s t

theorem splitWords_dash (s t : String) :
    splitWords (s ++ "-" ++ t) = splitWords s ++ splitWords t :=
  splitWords_append (c := '-') rfl s t

theorem splitWords_intercalate {ss : List String} (h : ss ≠ []) :
    splitWords (" ".intercalate ss) = ss.flatMap splitWords := by
  induction ss with
  | nil => exact absurd rfl h
  | cons s ss ih =>
    by_cases hnil : ss = []
    · simp [hnil]
    · rw [String.intercalate_cons_of_ne_nil hnil, splitWords_space, ih hnil, List.flatMap_cons]

/-! ### Names of numbers -/

/-- What the words for the numbers below twenty and for the tens mean, with those for the digits in
front. -/
def dictionary : List (String × Nat) :=
  [("zero", 0), ("one", 1), ("two", 2), ("three", 3), ("four", 4), ("five", 5), ("six", 6),
    ("seven", 7), ("eight", 8), ("nine", 9), ("ten", 10), ("eleven", 11), ("twelve", 12),
    ("thirteen", 13), ("fourteen", 14), ("fifteen", 15), ("sixteen", 16), ("seventeen", 17),
    ("eighteen", 18), ("nineteen", 19), ("twenty", 20), ("thirty", 30), ("forty", 40),
    ("fifty", 50), ("sixty", 60), ("seventy", 70), ("eighty", 80), ("ninety", 90)]

/-- Which power of a thousand the word for a scale means. -/
def powers : List (String × Nat) :=
  [("thousand", 1), ("million", 2), ("billion", 3), ("trillion", 4), ("quadrillion", 5),
    ("quintillion", 6)]

/-- The number below twenty, or the multiple of ten, that a word stands for. -/
def named? (word : String) : Option Nat :=
  dictionary.lookup word

/-- The digit that a word stands for. -/
def digit? (word : String) : Option Nat :=
  (dictionary.take 10).lookup word

theorem named?_unit : ∀ n < 20, named? (unit n) = some n := by
  decide

theorem named?_tens : ∀ n < 10, 2 ≤ n → named? (tens.getD n "") = some (10 * n) := by
  decide

theorem digit?_unit : ∀ n < 10, digit? (unit n) = some n := by
  decide

theorem digit?_unit_eq_none : ∀ n < 20, 10 ≤ n → digit? (unit n) = none := by
  decide

theorem digit?_tens : ∀ n < 10, 2 ≤ n → digit? (tens.getD n "") = none := by
  decide

theorem splitWords_unit : ∀ n < 20, splitWords (unit n) = [unit n] := by
  decide

theorem splitWords_tens : ∀ n < 10, 2 ≤ n → splitWords (tens.getD n "") = [tens.getD n ""] := by
  decide

/-! ### Reading a cardinal -/

/-- What has been heard of a cardinal: what the closed groups amount to, and the open one. -/
structure Tally where
  total : Nat
  group : Nat

/-- What has been heard with one word more, if it is the word of a number. -/
def Tally.hear? (t : Tally) (word : String) : Option Tally :=
  match named? word with
  | some n => some ⟨t.total, t.group + n⟩
  | none =>
    if word = "and" then some t
    else if word = "hundred" then some ⟨t.total, 100 * t.group⟩
    else (powers.lookup word).map fun k => ⟨t.total + t.group * 1000 ^ k, 0⟩

/-- After the words `ws` the tally is another one. -/
def Tally.Hears (t : Tally) (ws : List String) (t' : Tally) : Prop :=
  ws.foldlM Tally.hear? t = some t'

/-- The number that a text tells as a cardinal. -/
def cardinal? (text : String) : Option Nat :=
  ((splitWords text).foldlM Tally.hear? ⟨0, 0⟩).map fun t => t.total + t.group

namespace Tally

theorem Hears.append {t t' t'' : Tally} {ws ws' : List String} (h : t.Hears ws t')
    (h' : t'.Hears ws' t'') : t.Hears (ws ++ ws') t'' := by
  rw [Hears] at h h' ⊢
  rw [List.foldlM_append, h]
  exact h'

theorem hears_nil (t : Tally) : t.Hears [] t := rfl

theorem hears_singleton {t t' : Tally} {word : String} (h : t.hear? word = some t') :
    t.Hears [word] t' := by
  rw [Hears, List.foldlM_cons, h]
  rfl

/-- The name of a number adds to the open group. -/
theorem hears_named (t : Tally) {word : String} {n : Nat} (h : named? word = some n) :
    t.Hears [word] ⟨t.total, t.group + n⟩ :=
  hears_singleton (by rw [hear?, h])

theorem hears_and (t : Tally) : t.Hears ["and"] t := rfl

theorem hears_hundred (t : Tally) : t.Hears ["hundred"] ⟨t.total, 100 * t.group⟩ := rfl

/-- The name of a scale closes the open group. -/
theorem hears_scale (t : Tally) {k : Nat} (hk : k < scales.length) :
    t.Hears [scales[k]] ⟨t.total + t.group * 1000 ^ (k + 1), 0⟩ := by
  have hscale : ∀ k, (hk : k < scales.length) → named? scales[k] = none ∧ scales[k] ≠ "and" ∧
      scales[k] ≠ "hundred" ∧ powers.lookup scales[k] = some (k + 1) := by
    decide
  obtain ⟨hnamed, hand, hhundred, hpower⟩ := hscale k hk
  refine hears_singleton ?_
  rw [hear?, hnamed]
  simp only [if_neg hand, if_neg hhundred, hpower, Option.map_some]

end Tally

open Tally

theorem hears_belowHundred (t : Tally) {n : Nat} (hn : n < 100) :
    t.Hears (splitWords (belowHundred n)) ⟨t.total, t.group + n⟩ := by
  rw [belowHundred]
  split
  · next h =>
    rw [splitWords_unit n h]
    exact t.hears_named (named?_unit n h)
  · next h =>
    have hlt : n / 10 < 10 := by omega
    have hle : 2 ≤ n / 10 := by omega
    have htens := t.hears_named (named?_tens (n / 10) hlt hle)
    split
    · next hmod =>
      have hsum : t.group + n = t.group + 10 * (n / 10) := by omega
      rw [splitWords_tens _ hlt hle, hsum]
      exact htens
    · have hdigit : n % 10 < 20 := by omega
      have hsum : t.group + n = t.group + 10 * (n / 10) + n % 10 := by omega
      rw [splitWords_dash, splitWords_tens _ hlt hle, splitWords_unit _ hdigit, hsum]
      exact htens.append (hears_named _ (named?_unit _ hdigit))

/-- The words of a number below a thousand, from its hundreds on. -/
theorem splitWords_belowThousand {n : Nat} (hn : 100 ≤ n) :
    splitWords (belowThousand n) = splitWords (unit (n / 100)) ++ "hundred" ::
      if n % 100 = 0 then [] else "and" :: splitWords (belowHundred (n % 100)) := by
  rw [belowThousand, if_neg (by omega)]
  split
  · have htext : unit (n / 100) ++ " hundred" = unit (n / 100) ++ " " ++ "hundred" := by
      rw [String.append_assoc]
      rfl
    rw [htext, splitWords_space]
    rfl
  · have htext : unit (n / 100) ++ " hundred and " ++ belowHundred (n % 100) =
        unit (n / 100) ++ " " ++
          ("hundred" ++ " " ++ ("and" ++ " " ++ belowHundred (n % 100))) := by
      simp only [String.append_assoc]
      rfl
    rw [htext, splitWords_space, splitWords_space, splitWords_space]
    rfl

theorem hears_belowThousand (total : Nat) {n : Nat} (hn : n < 1000) :
    Hears ⟨total, 0⟩ (splitWords (belowThousand n)) ⟨total, n⟩ := by
  by_cases hsmall : n < 100
  · have h := hears_belowHundred ⟨total, 0⟩ hsmall
    rw [Nat.zero_add] at h
    rwa [belowThousand, if_pos hsmall]
  · have hlt : n / 100 < 20 := by omega
    have hunit := hears_named ⟨total, 0⟩ (named?_unit (n / 100) hlt)
    have hhundreds := hunit.append (hears_hundred _)
    rw [splitWords_belowThousand (by omega), splitWords_unit _ hlt]
    split
    · have hsum : 100 * (0 + n / 100) = n := by omega
      rwa [hsum] at hhundreds
    · have hrest := hears_belowHundred ⟨total, 100 * (0 + n / 100)⟩ (Nat.mod_lt n (by omega))
      have hsum : 100 * (0 + n / 100) + n % 100 = n := by omega
      rw [hsum] at hrest
      exact hhundreds.append ((hears_and _).append hrest)

theorem scaled_zero (names : List String) : scaled names 0 = [] := by
  induction names with
  | nil => rfl
  | cons name larger ih =>
    rw [scaled, Nat.zero_div, ih]
    rfl

theorem scaled_drop {k : Nat} (hk : k < scales.length) (n : Nat) :
    scaled (scales.drop k) n = scaled (scales.drop (k + 1)) (n / 1000) ++
      if n % 1000 = 0 then [] else [belowThousand (n % 1000) ++ " " ++ scales[k]] := by
  rw [List.drop_eq_getElem_cons hk, scaled]

/-- Induction over the groups of a number from a scale on, as long as there are scales for all of
them. -/
theorem scales_induction {P : Nat → Nat → Prop} (zero : ∀ k, P k 0)
    (step : ∀ k, k < scales.length → ∀ n, n ≠ 0 → P (k + 1) (n / 1000) → P k n) {k n : Nat}
    (hn : n < 1000 ^ (scales.drop k).length) : P k n := by
  rw [List.length_drop] at hn
  induction hlength : scales.length - k generalizing k n with
  | zero =>
    rw [hlength] at hn
    rw [Nat.lt_one_iff.1 hn]
    exact zero k
  | succ m ih =>
    by_cases hzero : n = 0
    · rw [hzero]
      exact zero k
    · have hrest : scales.length - (k + 1) = m := by omega
      rw [hlength, pow_succ, Nat.mul_comm] at hn
      refine step k (by omega) n hzero (ih ?_ hrest)
      rw [hrest]
      exact Nat.div_lt_of_lt_mul hn

/-- The phrases of the scales from one on. Each closes its group at its own power of a thousand. -/
theorem hears_scaled {k n : Nat} (total : Nat) (hn : n < 1000 ^ (scales.drop k).length) :
    Hears ⟨total, 0⟩ ((scaled (scales.drop k) n).flatMap splitWords)
      ⟨total + n * 1000 ^ (k + 1), 0⟩ := by
  refine scales_induction (P := fun k n => Hears ⟨total, 0⟩
    ((scaled (scales.drop k) n).flatMap splitWords) ⟨total + n * 1000 ^ (k + 1), 0⟩) ?_ ?_ hn
  · intro k
    rw [scaled_zero, Nat.zero_mul]
    exact hears_nil _
  · intro k hk n _ hlarger
    have hsplit : n * 1000 ^ (k + 1) =
        n / 1000 * 1000 ^ (k + 1 + 1) + n % 1000 * 1000 ^ (k + 1) :=
      calc n * 1000 ^ (k + 1)
          = (1000 * (n / 1000) + n % 1000) * 1000 ^ (k + 1) := by rw [Nat.div_add_mod]
        _ = n / 1000 * 1000 ^ (k + 1 + 1) + n % 1000 * 1000 ^ (k + 1) := by ring
    rw [scaled_drop hk, List.flatMap_append, hsplit, ← Nat.add_assoc]
    refine hlarger.append ?_
    split
    · next hmod =>
      rw [hmod, Nat.zero_mul, Nat.add_zero]
      exact hears_nil _
    · have hgroup := hears_belowThousand (total + n / 1000 * 1000 ^ (k + 1 + 1))
        (Nat.mod_lt n (by omega : 1000 > 0))
      have hclear : ∀ k, (hk : k < scales.length) → splitWords scales[k] = [scales[k]] := by
        decide
      rw [List.flatMap_singleton, splitWords_space, hclear k hk]
      exact hgroup.append (hears_scale _ hk)

theorem hears_lastPhrase (total : Nat) (linked : Bool) {n : Nat} (hn : n < 1000) :
    Hears ⟨total, 0⟩ ((lastPhrase linked n).flatMap splitWords) ⟨total, n⟩ := by
  rw [lastPhrase]
  split
  · next hzero =>
    rw [hzero]
    exact hears_nil _
  · split
    · next hlinked =>
      have hsmall : n < 100 := by simpa using (Bool.and_eq_true_iff.1 hlinked).2
      have htext : "and " ++ belowHundred n = "and" ++ " " ++ belowHundred n := rfl
      have hrest := hears_belowHundred ⟨total, 0⟩ hsmall
      rw [Nat.zero_add] at hrest
      rw [List.flatMap_singleton, htext, splitWords_space]
      exact (hears_and _).append hrest
    · rw [List.flatMap_singleton]
      exact hears_belowThousand total hn

theorem hears_phrases {n : Nat} (hn : n < 1000 ^ 7) :
    Hears ⟨0, 0⟩ ((phrases n).flatMap splitWords) ⟨n / 1000 * 1000, n % 1000⟩ := by
  have hscales : n / 1000 < 1000 ^ (scales.drop 0).length :=
    Nat.div_lt_of_lt_mul (hn.trans_eq (by rfl))
  have hlarge := hears_scaled 0 hscales
  rw [Nat.zero_add, Nat.zero_add, pow_one] at hlarge
  rw [phrases, List.flatMap_append]
  exact hlarge.append (hears_lastPhrase _ _ (Nat.mod_lt n (by omega)))

theorem phrases_ne_nil {n : Nat} (hn : n < 1000 ^ 7) (hpos : n ≠ 0) : phrases n ≠ [] := by
  intro hnil
  have h := hears_phrases hn
  rw [hnil] at h
  -- nothing has been heard, so the tally is empty
  obtain ⟨htotal, hgroup⟩ := Tally.mk.inj (Option.some.inj h)
  omega

/-- **A cardinal is read back.** -/
theorem cardinal?_cardinal {n : Nat} (hn : n < 1000 ^ 7) : cardinal? (cardinal n) = some n := by
  rw [cardinal]
  split
  · next hzero =>
    rw [hzero]
    rfl
  · next hpos =>
    have h := hears_phrases hn
    rw [Hears] at h
    rw [cardinal?, splitWords_intercalate (phrases_ne_nil hn hpos), h, Option.map_some]
    exact congrArg some (Nat.div_add_mod' n 1000)

/-! ### Reading digits -/

/-- A run of decimal digits. -/
def IsRun (digits : List Char) : Prop :=
  digits ≠ [] ∧ ∀ c ∈ digits, c.isDigit = true

-- Not by running through all characters there are, as another instance would.
instance (digits : List Char) : Decidable (IsRun digits) :=
  decidable_of_iff (digits ≠ [] ∧ digits.all Char.isDigit = true)
    (and_congr_right fun _ => List.all_eq_true)

/-- The number that words tell digit by digit. -/
def digits? (words : List String) : Option Nat :=
  words.foldlM (fun n word => (digit? word).map (10 * n + ·)) 0

theorem digitValue_lt {c : Char} (h : c.isDigit = true) : digitValue c < 10 := by
  rw [Char.isDigit, Bool.and_eq_true, decide_eq_true_eq, decide_eq_true_eq] at h
  have hle : c.toNat ≤ 57 := h.2
  have hzero : '0'.toNat = 48 := rfl
  rw [digitValue]
  omega

/-- The words of a run of digits are the names of its digits. -/
theorem splitWords_digitByDigit {run : List Char} (hrun : IsRun run) :
    splitWords (digitByDigit run) = run.map fun c => unit (digitValue c) := by
  obtain ⟨hne, hdigits⟩ := hrun
  rw [digitByDigit, List.filter_eq_self.2 hdigits, splitWords_intercalate (by simpa using hne),
    List.flatMap_map, List.map_eq_flatMap]
  refine List.flatMap_congr fun c hc => ?_
  have hlt := digitValue_lt (hdigits c hc)
  exact splitWords_unit _ (by omega)

/-- **A run of digits is read back.** -/
theorem digits?_digitByDigit {run : List Char} (hrun : IsRun run) :
    digits? (splitWords (digitByDigit run)) = some (value run) := by
  rw [splitWords_digitByDigit hrun, digits?, value]
  have hdigits := hrun.2
  clear hrun
  generalize 0 = n
  induction run generalizing n with
  | nil => rfl
  | cons c run ih =>
    have hdigit := digit?_unit _ (digitValue_lt (hdigits c List.mem_cons_self))
    rw [List.map_cons, List.foldlM_cons, hdigit, List.foldl_cons]
    exact ih (fun d hd => hdigits d (List.mem_cons_of_mem c hd)) _

/-- One word that no step accepts spoils them all. -/
private theorem foldlM_eq_none {α β : Type} {f : β → α → Option β} {l : List α} {a : α}
    (hmem : a ∈ l) (hnone : ∀ b, f b a = none) (b : β) : l.foldlM f b = none := by
  induction l generalizing b with
  | nil => cases hmem
  | cons first l ih =>
    rw [List.foldlM_cons]
    cases hfirst : f b first with
    | none => rfl
    | some b' =>
      have hne : a ≠ first := by
        rintro rfl
        rw [hnone] at hfirst
        cases hfirst
      exact ih (List.mem_of_ne_of_mem hne hmem) b'

theorem digits?_eq_none {words : List String} {word : String} (hmem : word ∈ words)
    (hnone : digit? word = none) : digits? words = none :=
  foldlM_eq_none hmem (fun n => by rw [hnone, Option.map_none]) 0

/-! ### Cardinals are not told in digits -/

theorem exists_not_digit_belowHundred {n : Nat} (hlow : 10 ≤ n) (hn : n < 100) :
    ∃ word ∈ splitWords (belowHundred n), digit? word = none := by
  rw [belowHundred]
  split
  · next h =>
    rw [splitWords_unit n h]
    exact ⟨_, List.mem_singleton_self _, digit?_unit_eq_none n h hlow⟩
  · have hlt : n / 10 < 10 := by omega
    have hle : 2 ≤ n / 10 := by omega
    refine ⟨tens.getD (n / 10) "", ?_, digit?_tens _ hlt hle⟩
    split
    · rw [splitWords_tens _ hlt hle]
      exact List.mem_singleton_self _
    · rw [splitWords_dash, splitWords_tens _ hlt hle]
      exact List.mem_append_left _ (List.mem_singleton_self _)

theorem exists_not_digit_belowThousand {n : Nat} (hlow : 10 ≤ n) :
    ∃ word ∈ splitWords (belowThousand n), digit? word = none := by
  by_cases hsmall : n < 100
  · rw [belowThousand, if_pos hsmall]
    exact exists_not_digit_belowHundred hlow hsmall
  · rw [splitWords_belowThousand (by omega)]
    exact ⟨"hundred", List.mem_append_right _ List.mem_cons_self, by decide⟩

theorem exists_not_digit_scaled {names : List String}
    (hnames : ∀ name ∈ names, splitWords name = [name] ∧ digit? name = none) {n : Nat}
    (hpos : n ≠ 0) (hn : n < 1000 ^ names.length) :
    ∃ word ∈ (scaled names n).flatMap splitWords, digit? word = none := by
  induction names generalizing n with
  | nil => exact absurd (Nat.lt_one_iff.1 hn) hpos
  | cons name larger ih =>
    obtain ⟨hword, hnone⟩ := hnames name List.mem_cons_self
    rw [List.length_cons, pow_succ, Nat.mul_comm] at hn
    rw [scaled, List.flatMap_append]
    by_cases hmod : n % 1000 = 0
    · obtain ⟨word, hmem, hdigit⟩ := ih
        (fun other hother => hnames other (List.mem_cons_of_mem name hother))
        (n := n / 1000) (by omega) (Nat.div_lt_of_lt_mul hn)
      exact ⟨word, List.mem_append_left _ hmem, hdigit⟩
    · refine ⟨name, List.mem_append_right _ ?_, hnone⟩
      rw [if_neg hmod, List.flatMap_singleton, splitWords_space, hword]
      exact List.mem_append_right _ (List.mem_singleton_self _)

/-- A cardinal from ten on has a word that is no digit. -/
theorem exists_not_digit_phrases {n : Nat} (hlow : 10 ≤ n) (hn : n < 1000 ^ 7) :
    ∃ word ∈ (phrases n).flatMap splitWords, digit? word = none := by
  rw [phrases, List.flatMap_append]
  by_cases hsmall : n / 1000 = 0
  · have hlt : n < 1000 := by omega
    obtain ⟨word, hmem, hnone⟩ := exists_not_digit_belowThousand hlow
    refine ⟨word, List.mem_append_right _ ?_, hnone⟩
    have hlinked : (decide (1000 ≤ n) && decide (n < 100)) = false := by
      rw [decide_eq_false (by omega), Bool.false_and]
    rw [Nat.mod_eq_of_lt hlt, lastPhrase, if_neg (by omega), hlinked,
      if_neg Bool.false_ne_true, List.flatMap_singleton]
    exact hmem
  · have hscales : ∀ name ∈ scales, splitWords name = [name] ∧ digit? name = none := by
      decide
    obtain ⟨word, hmem, hnone⟩ := exists_not_digit_scaled hscales hsmall
      (Nat.div_lt_of_lt_mul (hn.trans_eq (by rfl)))
    exact ⟨word, List.mem_append_left _ hmem, hnone⟩

/-! ### Reading both -/

/-- The number that a text tells, digit by digit or else as a cardinal. -/
def told? (text : String) : Option Nat :=
  (digits? (splitWords text)).or (cardinal? text)

theorem told?_congr {text text' : String} (h : splitWords text = splitWords text') :
    told? text = told? text' := by
  rw [told?, told?, cardinal?, cardinal?, h]

theorem told?_cardinal {n : Nat} (hn : n < 1000 ^ 7) : told? (cardinal n) = some n := by
  rw [told?, cardinal?_cardinal hn]
  by_cases hlow : n < 10
  · -- both ways agree on a single digit
    have hdigit : ∀ n < 10, digits? (splitWords (cardinal n)) = some n := by
      decide
    rw [hdigit n hlow, Option.some_or]
  · obtain ⟨word, hmem, hnone⟩ := exists_not_digit_phrases (by omega) hn
    rw [cardinal, if_neg (by omega), splitWords_intercalate (phrases_ne_nil hn (by omega)),
      digits?_eq_none hmem hnone, Option.none_or]

/-- A run of digits is read as one number as long as that fits. -/
theorem parse?_of_isRun {digits : List Char} (hrun : IsRun digits) :
    parse? digits = if value digits < UInt64.size then some (value digits) else none := by
  have hunsigned : ∀ rest, digits ≠ '+' :: rest := by
    rintro rest rfl
    cases hrun.2 '+' List.mem_cons_self
  rw [parse?]
  · simp only [List.all_eq_true.2 hrun.2, ne_eq, hrun.1, not_false_eq_true, true_and]
  · exact hunsigned

/-- **The words of a run of digits tell its number**, however long the run is. -/
theorem told?_ofDigits {digits : List Char} (hrun : IsRun digits) :
    told? (ofDigits digits) = some (value digits) := by
  rw [ofDigits, parse?_of_isRun hrun]
  by_cases hfits : value digits < UInt64.size
  · rw [if_pos hfits]
    exact told?_cardinal (hfits.trans (by decide))
  · rw [if_neg hfits, told?, digits?_digitByDigit hrun, Option.some_or]

/-- No word is empty where a number is told: joints stand between words, one at a time. -/
theorem empty_not_mem_of_told? {text : String} {n : Nat} (h : told? text = some n) :
    "" ∉ splitWords text := by
  intro hmem
  have hcardinal : cardinal? text = none := by
    rw [cardinal?, foldlM_eq_none hmem (fun _ => rfl), Option.map_none]
  rw [told?, digits?_eq_none hmem rfl, hcardinal] at h
  cases h

/-! ### The ends of a text -/

section Ends

variable {text : String} (h : "" ∉ splitWords text)

include h

theorem toList_ne_nil_of_splitWords : text.toList ≠ [] := by
  intro hnil
  rw [splitWords, hnil] at h
  exact h List.mem_cons_self

theorem not_isJoint_of_head? {c : Char} (hc : text.toList.head? = some c) : isJoint c = false := by
  obtain ⟨cs, hcs⟩ := List.head?_eq_some_iff.1 hc
  by_contra hjoint
  rw [Bool.not_eq_false] at hjoint
  refine h (List.mem_map.2 ⟨[], ?_, rfl⟩)
  rw [hcs, ← List.nil_append (c :: cs), List.splitOnP_append_cons _ _ hjoint]
  exact List.mem_cons_self

theorem not_isJoint_of_getLast? {c : Char} (hc : text.toList.getLast? = some c) :
    isJoint c = false := by
  obtain ⟨cs, hcs⟩ := List.getLast?_eq_some_iff.1 hc
  by_contra hjoint
  rw [Bool.not_eq_false] at hjoint
  refine h (List.mem_map.2 ⟨[], ?_, rfl⟩)
  rw [hcs, List.splitOnP_append_cons _ _ hjoint]
  exact List.mem_append_right _ List.mem_cons_self

end Ends

/-- What a function does to the joints, as long as it makes joints of them, is not to be heard. -/
theorem splitOnP_map {f : Char → Char} {cs : List Char}
    (hjoint : ∀ c ∈ cs, isJoint c = true → isJoint (f c) = true)
    (hclear : ∀ c ∈ cs, isJoint c = false → f c = c) :
    (cs.map f).splitOnP isJoint = cs.splitOnP isJoint := by
  induction cs with
  | nil => rfl
  | cons c cs ih =>
    have hrest := ih (fun d hd => hjoint d (List.mem_cons_of_mem c hd))
      (fun d hd => hclear d (List.mem_cons_of_mem c hd))
    rw [List.map_cons, List.splitOnP_cons_eq_if_modifyHead, List.splitOnP_cons_eq_if_modifyHead,
      hrest]
    cases hc : isJoint c with
    | true => rw [hjoint c List.mem_cons_self hc, if_pos rfl, if_pos rfl]
    | false => rw [hclear c List.mem_cons_self hc, hc]

end ScanCodes.Numeral
