import ScanCodes.Proofs.KeyName.Ends

/-!
# The shape of identifiers

Whatever a name is made of, its identifier is the stem and a body of a fixed shape. Each stage takes
some characters away for good: symbols and digits are spelled in letters, spaces and dashes, small
letters become capital, and the blanks at the ends go before spaces and dashes become underscores.
What may be left over are underscores and capital letters, and any character that no stage knows of.

## Main definitions

* `KeyName.IsBody`: the shape of what follows the stem.

## Main results

* `KeyName.isBody`: what follows the stem has that shape.
* `KeyName.body_eq_nil_iff`: nothing follows the stem when nothing but notes and blanks is there.
* `KeyName.shape_identifier`: both, of the identifier of a name.
-/

namespace ScanCodes.KeyName

open Text

/-- What may follow the stem of an identifier. -/
structure IsBody (cs : List Char) : Prop where
  isLower : ∀ c ∈ cs, c.isLower = false
  isDigit : ∀ c ∈ cs, c.isDigit = false
  not_space : ' ' ∉ cs
  not_dash : '-' ∉ cs
  /-- The only symbol is the underscore. -/
  eq_underscore : ∀ c ∈ cs, Symbol.IsSymbol c → c = '_'
  /-- It begins with no underscore and with no blank. -/
  head : ∀ c ∈ cs.head?, c ≠ '_' ∧ isBlank c = false
  /-- It ends with no underscore and with no blank. -/
  last : ∀ c ∈ cs.getLast?, c ≠ '_' ∧ isBlank c = false

/-! ### What is taken away -/

theorem isLower_of_mem_toCase {name : List Char} {c : Char} (h : c ∈ toCase name) :
    c.isLower = false := by
  obtain ⟨d, hd, rfl⟩ := List.mem_map.1 h
  rw [underscore]
  split
  · rfl
  · obtain ⟨e, -, he⟩ := List.mem_flatMap.1 (mem_of_mem_trim hd)
    exact isLower_of_mem_upperChar he

private theorem tame_of_isDigit : ∀ c : Char, c.toNat < 128 → c.isDigit = true →
    c.isUpper = false ∧ Numeral.isWordChar c = false :=
  forall_ascii (by decide +kernel)

theorem isDigit_of_mem_body {name : List Char} {c : Char} (h : c ∈ body name) :
    c.isDigit = false := by
  by_contra hdigit
  rw [Bool.not_eq_false] at hdigit
  have hascii : c.toNat < 128 := toNat_lt_of_isAlphanum (isAlphanum_of_isDigit hdigit)
  obtain ⟨hupper, hword⟩ := tame_of_isDigit c hascii hdigit
  have hmem := mem_of_mem_toCase h hascii hupper (by rintro rfl; cases hdigit)
  rcases isWordChar_or_mem_of_mem_spellRuns hmem with hspelled | ⟨-, hclear⟩
  · rw [hword] at hspelled
    cases hspelled
  · rw [hdigit] at hclear
    cases hclear

/-- The only symbol in number words is the dash. -/
theorem eq_dash_of_isWordChar {c : Char} (h : Numeral.isWordChar c = true)
    (hsymbol : Symbol.IsSymbol c) : c = '-' := by
  rw [Numeral.isWordChar, Bool.or_eq_true, Bool.or_eq_true, decide_eq_true_eq,
    decide_eq_true_eq] at h
  rcases h with (hlower | rfl) | hdash
  · have halpha := Symbol.isAlpha_of_isSymbol hsymbol
    rw [isAlpha_of_isLower hlower] at halpha
    cases halpha
  · cases Symbol.isBlank_of_isSymbol hsymbol
  · exact hdash

theorem eq_underscore_of_mem_body {name : List Char} {c : Char} (h : c ∈ body name)
    (hsymbol : Symbol.IsSymbol c) : c = '_' := by
  by_contra hline
  have hupper : c.isUpper = false := (Bool.or_eq_false_iff.1 (Symbol.isAlpha_of_isSymbol hsymbol)).1
  have hmem := mem_of_mem_toCase h (Symbol.toNat_lt_of_isSymbol hsymbol) hupper hline
  rcases isWordChar_or_mem_of_mem_spellRuns hmem with hword | ⟨hmem, -⟩
  · exact not_mem_toCase (Or.inl (eq_dash_of_isWordChar hword hsymbol)) _ h
  · exact not_isSymbol_of_mem_spellSymbols hmem hsymbol

/-! ### What stands at the ends -/

theorem IsEdge.ne_underscore {c : Char} (h : IsEdge c) : c ≠ '_' := by
  rintro rfl
  exact h.2 (by decide)

theorem flanked_body {name : List Char} (h : body name ≠ []) : Flanked IsEdge (body name) := by
  rw [body_eq, ne_eq, List.map_eq_nil_iff] at h
  have htrim : trim (withoutNotes name) ≠ [] := by
    intro hnil
    rw [hnil] at h
    exact h rfl
  rw [body_eq]
  refine (flanked_speak (isTrimmed_trim htrim)).map fun c hc => ?_
  rwa [underscore_of_isEdge hc]

/-- Nothing follows the stem if nothing but notes and blanks is there, and only then. -/
theorem body_eq_nil_iff {name : List Char} :
    body name = [] ↔ ∀ c ∈ withoutNotes name, isBlank c = true := by
  rw [body_eq, List.map_eq_nil_iff, ← trim_eq_nil_iff]
  constructor
  · intro hnil
    by_contra htrim
    exact (flanked_speak (isTrimmed_trim htrim)).ne_nil hnil
  · intro htrim
    rw [htrim]
    rfl

theorem isBody (name : List Char) : IsBody (body name) where
  isLower c := isLower_of_mem_toCase
  isDigit c := isDigit_of_mem_body
  not_space := not_mem_toCase (Or.inr rfl) _
  not_dash := not_mem_toCase (Or.inl rfl) _
  eq_underscore c := eq_underscore_of_mem_body
  head c hc := by
    have hedge := (flanked_body (List.ne_nil_of_mem (List.mem_of_mem_head? hc))).head c hc
    exact ⟨hedge.ne_underscore, hedge.1⟩
  last c hc := by
    have hedge := (flanked_body (List.ne_nil_of_mem (List.mem_of_mem_getLast? hc))).last c hc
    exact ⟨hedge.ne_underscore, hedge.1⟩

/-- **The shape of an identifier.** -/
theorem shape_identifier (name : String) : ∃ body : List Char,
    (identifier name).text = "KEYCODE_" ++ String.ofList body ∧ IsBody body ∧
      ((identifier name).isBare = true ↔ body = []) ∧
      (body = [] ↔ ∀ c ∈ withoutNotes name.toList, isBlank c = true) := by
  refine ⟨body name.toList, rfl, isBody _, ?_, body_eq_nil_iff⟩
  simp [Identifier.isBare, identifier]

end ScanCodes.KeyName
