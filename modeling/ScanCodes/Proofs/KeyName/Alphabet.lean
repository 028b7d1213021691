import ScanCodes.KeyName
import ScanCodes.Proofs.Text.Alphabet

/-!
# The alphabet of identifiers

An identifier is put between the fixed words of a line of C, and the line can be taken apart again
because of what no identifier holds: spaces, which become underscores in the end, and colons, which
are spelled early on and which no later stage brings back.

## Main definitions

* `Numeral.isWordChar`: the characters of number words.
* `Symbol.IsSymbol`: the characters that are symbols.

## Main results

* `Numeral.isWordChar_of_mem_ofDigits`: number words are small letters, spaces and dashes.
* `KeyName.space_not_mem_identifier`, `KeyName.colon_not_mem_identifier`.
-/

namespace ScanCodes

/-! ### Number words -/

namespace Numeral

/-- A small letter, a space or a dash. -/
def isWordChar (c : Char) : Bool :=
  c.isLower || c = ' ' || c = '-'

/-- Is the text made of small letters, spaces and dashes? -/
private def Worded (s : String) : Prop :=
  ∀ c ∈ s.toList, isWordChar c

-- Not by running through all characters there are, as another instance would.
private instance (s : String) : Decidable (Worded s) :=
  decidable_of_iff (s.toList.all isWordChar) List.all_eq_true

private theorem worded_append {s t : String} (hs : Worded s) (ht : Worded t) :
    Worded (s ++ t) := by
  intro c hc
  rw [String.toList_append, List.mem_append] at hc
  exact hc.elim (hs c) (ht c)

private theorem worded_intercalate {ss : List String} (h : ∀ s ∈ ss, Worded s) :
    Worded (" ".intercalate ss) := by
  induction ss with
  | nil => simp [Worded]
  | cons s ss ih =>
    have hs : Worded s := h s List.mem_cons_self
    have hss := ih fun t ht => h t (List.mem_cons_of_mem s ht)
    by_cases hnil : ss = []
    · simpa [hnil] using hs
    · rw [String.intercalate_cons_of_ne_nil hnil]
      exact worded_append (worded_append hs (by decide)) hss

private theorem worded_getD {names : List String} (h : ∀ s ∈ names, Worded s) (n : Nat) :
    Worded (names.getD n "") := by
  rw [List.getD_eq_getElem?_getD]
  cases hn : names[n]? with
  | none => simp [Worded]
  | some s => exact h s (List.mem_of_getElem? hn)

private theorem worded_unit (n : Nat) : Worded (unit n) :=
  worded_getD (by decide) n

private theorem worded_tens (n : Nat) : Worded (tens.getD n "") :=
  worded_getD (by decide) n

private theorem worded_belowHundred (n : Nat) : Worded (belowHundred n) := by
  rw [belowHundred]
  split
  · exact worded_unit n
  · split
    · exact worded_tens _
    · exact worded_append (worded_append (worded_tens _) (by decide)) (worded_unit _)

private theorem worded_belowThousand (n : Nat) : Worded (belowThousand n) := by
  rw [belowThousand]
  split
  · exact worded_belowHundred n
  · split
    · exact worded_append (worded_unit _) (by decide)
    · exact worded_append (worded_append (worded_unit _) (by decide)) (worded_belowHundred _)

private theorem worded_scaled {names : List String} (h : ∀ s ∈ names, Worded s) (n : Nat) :
    ∀ s ∈ scaled names n, Worded s := by
  induction names generalizing n with
  | nil => simp [scaled]
  | cons name names ih =>
    intro s hs
    rw [scaled, List.mem_append] at hs
    rcases hs with hs | hs
    · exact ih (fun t ht => h t (List.mem_cons_of_mem name ht)) _ s hs
    · split at hs
      · cases hs
      · obtain rfl := List.mem_singleton.1 hs
        exact worded_append (worded_append (worded_belowThousand _) (by decide))
          (h name List.mem_cons_self)

private theorem worded_lastPhrase (linked : Bool) (n : Nat) :
    ∀ s ∈ lastPhrase linked n, Worded s := by
  intro s hs
  rw [lastPhrase] at hs
  split at hs
  · cases hs
  · split at hs <;> obtain rfl := List.mem_singleton.1 hs
    · exact worded_append (by decide) (worded_belowHundred n)
    · exact worded_belowThousand n

private theorem worded_cardinal (n : Nat) : Worded (cardinal n) := by
  rw [cardinal]
  split
  · exact worded_unit 0
  · refine worded_intercalate fun s hs => ?_
    rw [phrases, List.mem_append] at hs
    exact hs.elim (worded_scaled (by decide) _ s) (worded_lastPhrase _ _ s)

/-- The words of a number are small letters, spaces and dashes. -/
theorem isWordChar_of_mem_cardinal {n : Nat} {c : Char} (h : c ∈ (cardinal n).toList) :
    isWordChar c :=
  worded_cardinal n c h

/-- So are the words of a run of digits. -/
theorem isWordChar_of_mem_ofDigits {digits : List Char} {c : Char}
    (h : c ∈ (ofDigits digits).toList) : isWordChar c := by
  rw [ofDigits] at h
  split at h
  · exact isWordChar_of_mem_cardinal h
  · refine worded_intercalate (fun s hs => ?_) c h
    obtain ⟨d, -, rfl⟩ := List.mem_map.1 hs
    exact worded_unit _

end Numeral

/-! ### Symbols -/

namespace Symbol

/-- Is the character one that is spelled? -/
def IsSymbol (c : Char) : Prop :=
  c ∈ table.map Prod.fst

instance (c : Char) : Decidable (IsSymbol c) :=
  inferInstanceAs (Decidable (c ∈ table.map Prod.fst))

theorem words?_eq_none_iff {c : Char} : words? c = none ↔ ¬ IsSymbol c := by
  rw [words?, List.lookup_eq_none_iff, IsSymbol, List.mem_map, not_exists]
  refine forall_congr' fun e => ?_
  rw [not_and, bne_iff_ne, ne_comm]

theorem mem_table_of_words? {c : Char} {words : String} (h : words? c = some words) :
    (c, words) ∈ table := by
  obtain ⟨before, after, heq, -⟩ := List.lookup_eq_some_iff.1 h
  simp [heq]

/-- A symbol is an ASCII character, but no letter, no digit and no blank. -/
private theorem tame_of_mem_table : ∀ e ∈ table, e.1.toNat < 128 ∧ e.1.isAlpha = false ∧
    e.1.isDigit = false ∧ Text.isBlank e.1 = false := by
  decide

private theorem tame_of_isSymbol {c : Char} (h : IsSymbol c) :
    c.toNat < 128 ∧ c.isAlpha = false ∧ c.isDigit = false ∧ Text.isBlank c = false := by
  obtain ⟨e, he, rfl⟩ := List.mem_map.1 h
  exact tame_of_mem_table e he

theorem toNat_lt_of_isSymbol {c : Char} (h : IsSymbol c) : c.toNat < 128 :=
  (tame_of_isSymbol h).1

theorem isAlpha_of_isSymbol {c : Char} (h : IsSymbol c) : c.isAlpha = false :=
  (tame_of_isSymbol h).2.1

theorem isDigit_of_isSymbol {c : Char} (h : IsSymbol c) : c.isDigit = false :=
  (tame_of_isSymbol h).2.2.1

theorem isBlank_of_isSymbol {c : Char} (h : IsSymbol c) : Text.isBlank c = false :=
  (tame_of_isSymbol h).2.2.2

private theorem all_words : ∀ e ∈ table,
    e.2.toList.all (fun c => c.isUpper || c = ' ') = true := by
  decide

/-- A symbol is spelled in capital letters and spaces. -/
theorem isUpper_or_eq_space {e : Char × String} (he : e ∈ table) {c : Char} (hc : c ∈ e.2.toList) :
    c.isUpper = true ∨ c = ' ' := by
  have hword := List.all_eq_true.1 (all_words e he) c hc
  rwa [Bool.or_eq_true, decide_eq_true_eq] at hword

theorem not_isSymbol_of_mem_words {e : Char × String} (he : e ∈ table) {c : Char}
    (hc : c ∈ e.2.toList) : ¬ IsSymbol c := by
  intro hsymbol
  rcases isUpper_or_eq_space he hc with hupper | rfl
  · have halpha := isAlpha_of_isSymbol hsymbol
    rw [Text.isAlpha_of_isUpper hupper] at halpha
    cases halpha
  · cases isBlank_of_isSymbol hsymbol

end Symbol

/-! ### Identifiers -/

namespace KeyName

/-- Dashes and spaces become underscores at the end. -/
theorem not_mem_toCase {c : Char} (hc : c = '-' ∨ c = ' ') (name : List Char) :
    c ∉ toCase name := by
  intro h
  obtain ⟨d, -, rfl⟩ := List.mem_map.1 h
  rw [underscore] at hc
  split at hc
  · exact absurd hc (by decide)
  · next hd => exact hd hc

theorem mem_of_mem_trim {cs : List Char} {c : Char} (h : c ∈ Text.trim cs) : c ∈ cs := by
  rw [Text.trim, List.mem_reverse] at h
  have h' := (List.dropWhile_sublist _).mem h
  rw [List.mem_reverse] at h'
  exact (List.dropWhile_sublist _).mem h'

/-- A character that `toCase` leaves alone comes out of it only if it went in. -/
theorem mem_of_mem_toCase {name : List Char} {c : Char} (h : c ∈ toCase name)
    (hascii : c.toNat < 128) (hupper : c.isUpper = false) (hline : c ≠ '_') : c ∈ name := by
  obtain ⟨d, hd, rfl⟩ := List.mem_map.1 h
  have hkeep : underscore d = d := by
    rw [underscore] at hline ⊢
    split at hline
    · exact absurd rfl hline
    · next hd' => exact if_neg hd'
  rw [hkeep] at hascii hupper ⊢
  exact Text.mem_of_mem_upper (mem_of_mem_trim hd) hascii hupper

theorem isWordChar_of_mem_spellRun {afterLetter : Bool} {run : List Char} {c : Char}
    (h : c ∈ spellRun afterLetter run) : Numeral.isWordChar c := by
  rw [spellRun] at h
  split at h
  · cases h
  · split at h
    · rcases List.mem_cons.1 h with rfl | h
      · decide
      · exact Numeral.isWordChar_of_mem_ofDigits h
    · exact Numeral.isWordChar_of_mem_ofDigits h

/-- Spelling the runs of digits adds number words and takes the digits away. -/
theorem isWordChar_or_mem_of_mem_spellRuns {afterLetter : Bool} {run name : List Char} {c : Char}
    (h : c ∈ spellRuns afterLetter run name) :
    Numeral.isWordChar c ∨ c ∈ name ∧ c.isDigit = false := by
  induction name generalizing afterLetter run with
  | nil => exact Or.inl (isWordChar_of_mem_spellRun h)
  | cons d name ih =>
    rw [spellRuns] at h
    split at h
    · exact (ih h).imp_right fun hc => ⟨List.mem_cons_of_mem d hc.1, hc.2⟩
    · next hd =>
      rcases List.mem_append.1 h with h | h
      · exact Or.inl (isWordChar_of_mem_spellRun h)
      · rcases List.mem_cons.1 h with rfl | h
        · exact Or.inr ⟨List.mem_cons_self, Bool.eq_false_iff.2 hd⟩
        · exact (ih h).imp_right fun hc => ⟨List.mem_cons_of_mem d hc.1, hc.2⟩

theorem mem_of_mem_spellRuns {afterLetter : Bool} {run name : List Char} {c : Char}
    (h : c ∈ spellRuns afterLetter run name) (hword : Numeral.isWordChar c = false) : c ∈ name :=
  ((isWordChar_or_mem_of_mem_spellRuns h).resolve_left (Bool.eq_false_iff.1 hword)).1

/-- It takes nothing else away. -/
theorem mem_spellRuns_of_mem {afterLetter : Bool} {run name : List Char} {c : Char} (h : c ∈ name)
    (hc : c.isDigit = false) : c ∈ spellRuns afterLetter run name := by
  induction name generalizing afterLetter run with
  | nil => cases h
  | cons d name ih =>
    rw [spellRuns]
    rcases List.mem_cons.1 h with rfl | h
    · rw [if_neg (Bool.eq_false_iff.1 hc)]
      exact List.mem_append_right _ List.mem_cons_self
    · split
      · exact ih h
      · exact List.mem_append_right _ (List.mem_cons_of_mem d (ih h))

theorem spellSymbol_of_not_isSymbol {c : Char} (h : ¬ Symbol.IsSymbol c) :
    spellSymbol c = [c] := by
  rw [spellSymbol, Symbol.words?_eq_none_iff.2 h]

theorem spellSymbol_of_isSymbol {c : Char} (h : Symbol.IsSymbol c) :
    ∃ words, (c, words) ∈ Symbol.table ∧ spellSymbol c = words.toList := by
  cases hwords : Symbol.words? c with
  | none => exact absurd h (Symbol.words?_eq_none_iff.1 hwords)
  | some words => exact ⟨words, Symbol.mem_table_of_words? hwords, by rw [spellSymbol, hwords]⟩

/-- No symbol is left when symbols are spelled. -/
theorem not_isSymbol_of_mem_spellSymbols {name : List Char} {c : Char}
    (h : c ∈ spellSymbols name) : ¬ Symbol.IsSymbol c := by
  obtain ⟨d, -, hc⟩ := List.mem_flatMap.1 h
  by_cases hd : Symbol.IsSymbol d
  · obtain ⟨words, hmem, hwords⟩ := spellSymbol_of_isSymbol hd
    rw [hwords] at hc
    exact Symbol.not_isSymbol_of_mem_words hmem hc
  · rw [spellSymbol_of_not_isSymbol hd] at hc
    rwa [List.mem_singleton.1 hc]

/-- The identifier of a name holds no space. -/
theorem space_not_mem_identifier (name : String) : ' ' ∉ (identifier name).text.toList := by
  rw [identifier, String.toList_append, String.toList_ofList, List.mem_append, not_or]
  exact ⟨by decide, not_mem_toCase (Or.inr rfl) _⟩

/-- The identifier of a name holds no colon. -/
theorem colon_not_mem_identifier (name : String) : ':' ∉ (identifier name).text.toList := by
  rw [identifier, String.toList_append, String.toList_ofList, List.mem_append, not_or]
  refine ⟨by decide, fun h => ?_⟩
  have hspelled := mem_of_mem_toCase h (by decide) (by decide) (by decide)
  exact not_isSymbol_of_mem_spellSymbols (mem_of_mem_spellRuns hspelled (by decide)) (by decide)

end KeyName

end ScanCodes
