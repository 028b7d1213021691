import ScanCodes.Proofs.KeyName.Ends

/-!
# Which names give identifiers that C accepts

A name can be judged character by character, before anything is done to it but to drop the notes and
to trim it. Letters, digits, spaces and symbols turn into capital letters and underscores, and so
does any other character whose upper case is made of capital letters of ASCII. Whatever else is in a
name comes through all the stages and spoils the identifier.

Of the printable characters of ASCII just one is neither a letter nor a digit nor a space and has no
words among the symbols: the percent sign.

## Main definitions

* `KeyName.IsUsable`: does the character turn into capital letters and underscores?
* `KeyName.IsPrintable`: is the name made of printable characters of ASCII?

## Main results

* `KeyName.isValid_identifier_iff`: the names whose identifiers are valid.
* `KeyName.isValid_iff_percent_not_mem`: of the names in printable ASCII, those without a percent
  sign.
-/

namespace ScanCodes.KeyName

open Text

/-- May the character stand in a name whose identifier is to be valid? -/
def IsUsable (c : Char) : Prop :=
  c.isAlpha = true ∨ c.isDigit = true ∨ c = ' ' ∨ Symbol.IsSymbol c ∨
    ∀ d ∈ upperChar c, d.isUpper = true

-- Not by running through all characters there are, as another instance would.
instance (c : Char) : Decidable (IsUsable c) :=
  decidable_of_iff (c.isAlpha = true ∨ c.isDigit = true ∨ c = ' ' ∨ Symbol.IsSymbol c ∨
    (upperChar c).all Char.isUpper = true) (by rw [IsUsable, List.all_eq_true])

/-- Is the character one of an identifier that C accepts, after upper-casing? -/
def Fits (c : Char) : Prop :=
  ∀ d ∈ upperChar c, Identifier.isNameChar (underscore d) = true

/-! ### One character -/

theorem isNameChar_underscore_of_isUpper {c : Char} (h : c.isUpper = true) :
    Identifier.isNameChar (underscore c) = true := by
  have hkeep : underscore c = c := underscore_of_isEdge (isEdge_of_isUpper h)
  rw [hkeep, Identifier.isNameChar, h]
  rfl

/-- What comes to be allowed is a capital letter, a digit, or it becomes an underscore. -/
theorem cases_of_isNameChar_underscore {c : Char}
    (h : Identifier.isNameChar (underscore c) = true) :
    c.isUpper = true ∨ c.isDigit = true ∨ c = '_' ∨ c = '-' ∨ c = ' ' := by
  rw [underscore] at h
  split at h
  · next hjoint => exact Or.inr (Or.inr (Or.inr hjoint))
  · rw [Identifier.isNameChar, Bool.or_eq_true, Bool.or_eq_true, decide_eq_true_eq] at h
    rcases h with (hupper | hdigit) | hline
    · exact Or.inl hupper
    · exact Or.inr (Or.inl hdigit)
    · exact Or.inr (Or.inr (Or.inl hline))

private theorem isNameChar_of_ascii : ∀ c : Char, c.toNat < 128 →
    (c.isAlphanum || Numeral.isWordChar c) = true →
    Identifier.isNameChar (underscore c.toUpper) = true :=
  forall_ascii (by decide +kernel)

private theorem fits_of_ascii {c : Char} (hascii : c.toNat < 128)
    (h : (c.isAlphanum || Numeral.isWordChar c) = true) : Fits c := by
  intro d hd
  rw [upperChar_of_ascii hascii, List.mem_singleton] at hd
  rw [hd]
  exact isNameChar_of_ascii c hascii h

theorem fits_of_isAlphanum {c : Char} (h : c.isAlphanum = true) : Fits c :=
  fits_of_ascii (toNat_lt_of_isAlphanum h) (by rw [h, Bool.true_or])

theorem fits_of_isWordChar {c : Char} (h : Numeral.isWordChar c = true) : Fits c :=
  fits_of_ascii (toNat_lt_of_isWordChar h) (by rw [h, Bool.or_true])

theorem isUsable_of_fits {c : Char} (h : Fits c) : IsUsable c := by
  by_cases hcapital : ∀ d ∈ upperChar c, d.isUpper = true
  · exact Or.inr (Or.inr (Or.inr (Or.inr hcapital)))
  · -- what is no capital letter is ASCII nevertheless, so that it is the character itself
    simp only [not_forall] at hcapital
    obtain ⟨d, hd, hupper⟩ := hcapital
    rw [Bool.not_eq_true] at hupper
    have hcases := (cases_of_isNameChar_underscore (h d hd)).resolve_left (by rw [hupper]; decide)
    have hascii : d.toNat < 128 := by
      rcases hcases with hdigit | rfl | rfl | rfl
      · exact toNat_lt_of_isAlphanum (isAlphanum_of_isDigit hdigit)
      all_goals decide
    obtain rfl := eq_of_mem_upperChar hd hascii hupper
    rcases hcases with hdigit | rfl | rfl | rfl
    · exact Or.inr (Or.inl hdigit)
    all_goals decide +kernel

/-- A character that is no symbol fits if it is usable, and only then. -/
theorem fits_iff {c : Char} (hsymbol : ¬ Symbol.IsSymbol c) : Fits c ↔ IsUsable c := by
  refine ⟨isUsable_of_fits, ?_⟩
  rintro (hletter | hdigit | rfl | hspelled | hcapital)
  · exact fits_of_isAlphanum (isAlphanum_of_isAlpha hletter)
  · exact fits_of_isAlphanum (isAlphanum_of_isDigit hdigit)
  · exact fits_of_isWordChar rfl
  · exact absurd hspelled hsymbol
  · exact fun d hd => isNameChar_underscore_of_isUpper (hcapital d hd)

/-! ### A whole name -/

theorem forall_mem_spellNumbers_fits {name : List Char} :
    (∀ c ∈ spellNumbers name, Fits c) ↔ ∀ c ∈ name, Fits c := by
  constructor
  · intro h c hc
    cases hdigit : c.isDigit with
    | true => exact fits_of_isAlphanum (isAlphanum_of_isDigit hdigit)
    | false => exact h c (mem_spellRuns_of_mem hc hdigit)
  · intro h c hc
    rcases isWordChar_or_mem_of_mem_spellRuns hc with hword | ⟨hmem, -⟩
    · exact fits_of_isWordChar hword
    · exact h c hmem

theorem forall_mem_spellSymbol_fits {c : Char} : (∀ d ∈ spellSymbol c, Fits d) ↔ IsUsable c := by
  by_cases hsymbol : Symbol.IsSymbol c
  · obtain ⟨words, hmem, hwords⟩ := spellSymbol_of_isSymbol hsymbol
    refine iff_of_true (fun d hd => ?_) (Or.inr (Or.inr (Or.inr (Or.inl hsymbol))))
    rw [hwords] at hd
    rcases Symbol.isUpper_or_eq_space hmem hd with hupper | rfl
    · exact fits_of_isAlphanum (isAlphanum_of_isAlpha (isAlpha_of_isUpper hupper))
    · exact fits_of_isWordChar rfl
  · rw [spellSymbol_of_not_isSymbol hsymbol, List.forall_mem_singleton, fits_iff hsymbol]

/-- A body is valid if every character of the trimmed name is usable, and only then. -/
theorem forall_mem_body_iff (name : List Char) :
    (∀ c ∈ body name, Identifier.isNameChar c = true) ↔
      ∀ c ∈ trim (withoutNotes name), IsUsable c :=
  calc (∀ c ∈ body name, Identifier.isNameChar c = true)
      ↔ ∀ c ∈ spellNumbers (spellSymbols (trim (withoutNotes name))), Fits c := by
        rw [body_eq, List.forall_mem_map, speak, upper, List.forall_mem_flatMap]
        rfl
    _ ↔ ∀ c ∈ spellSymbols (trim (withoutNotes name)), Fits c := forall_mem_spellNumbers_fits
    _ ↔ ∀ c ∈ trim (withoutNotes name), ∀ d ∈ spellSymbol c, Fits d := by
        rw [spellSymbols, List.forall_mem_flatMap]
    _ ↔ ∀ c ∈ trim (withoutNotes name), IsUsable c := by
        simp only [forall_mem_spellSymbol_fits]

theorem isValid_iff_forall_mem_body (name : String) : (identifier name).isValid = true ↔
    ∀ c ∈ body name.toList, Identifier.isNameChar c = true := by
  rw [Identifier.isValid, identifier, String.toList_append, String.toList_ofList, List.all_append,
    Bool.and_eq_true, List.all_eq_true (l := body _)]
  exact and_iff_right (by decide)

/-- **Which names give valid identifiers.** -/
theorem isValid_identifier_iff (name : String) : (identifier name).isValid = true ↔
    ∀ c ∈ trim (withoutNotes name.toList), IsUsable c :=
  (isValid_iff_forall_mem_body name).trans (forall_mem_body_iff name.toList)

example : IsUsable 'ß' ∧ IsUsable 'ı' ∧ ¬ IsUsable 'é' ∧ ¬ IsUsable '\t' := by
  decide +kernel

/-! ### Printable names -/

/-- Is the name made of printable characters of ASCII? -/
def IsPrintable (name : List Char) : Prop :=
  ∀ c ∈ name, 0x20 ≤ c.toNat ∧ c.toNat ≤ 0x7E

-- Not by running through all characters there are, as another instance would.
instance (name : List Char) : Decidable (IsPrintable name) :=
  decidable_of_iff (name.all (fun c => 0x20 ≤ c.toNat ∧ c.toNat ≤ 0x7E) = true)
    (by simp only [IsPrintable, List.all_eq_true, decide_eq_true_eq])

theorem isUsable_iff_ne_percent : ∀ c : Char, c.toNat < 128 → 0x20 ≤ c.toNat ∧ c.toNat ≤ 0x7E →
    (IsUsable c ↔ c ≠ '%') :=
  forall_ascii (by decide +kernel)

/-- **A percent sign outside a note spoils a printable name**, and nothing else does. -/
theorem isValid_iff_percent_not_mem (name : String) (h : IsPrintable name.toList) :
    (identifier name).isValid = true ↔ '%' ∉ withoutNotes name.toList := by
  have husable : ∀ c ∈ trim (withoutNotes name.toList), IsUsable c ↔ c ≠ '%' := by
    intro c hc
    have hprintable := h c (mem_of_mem_dropNotes (mem_of_mem_trim hc))
    exact isUsable_iff_ne_percent c (Nat.lt_of_le_of_lt hprintable.2 (by decide)) hprintable
  calc (identifier name).isValid = true
      ↔ ∀ c ∈ trim (withoutNotes name.toList), IsUsable c := by
        rw [isValid_iff_forall_mem_body, forall_mem_body_iff]
    _ ↔ ∀ c ∈ trim (withoutNotes name.toList), c ≠ '%' := forall₂_congr husable
    _ ↔ '%' ∉ trim (withoutNotes name.toList) := by
        rw [List.forall_mem_ne']
    _ ↔ '%' ∉ withoutNotes name.toList := not_congr (mem_trim_iff (by decide))

theorem isValid_of_percent_in_note :
    IsPrintable "Zoom (100%)".toList ∧ (identifier "Zoom (100%)").isValid = true :=
  ⟨by decide, (isValid_iff_percent_not_mem "Zoom (100%)" (by decide)).2 (by decide)⟩

/-- The percent sign has no words. -/
theorem not_isValid_percent :
    IsPrintable "%".toList ∧ (identifier "%").isValid = false :=
  ⟨by decide, by decide +kernel⟩

end ScanCodes.KeyName
