import ScanCodes.Proofs.Keymap.History

/-!
# What is lost is warned of

A row that takes part can lose its scan code to a later row, and its identifier can get the
character of a later row. The warnings do not look for such losses: they compare each row with the
scan code that had its identifier first, and with the identifier that its scan code has just then.
All the same none escapes them.

The argument follows one row through the rows behind it. What is said of it is true as soon as the
row has been added (`ofRows_of_mem`), and every later row that makes it untrue adds the warning that
is needed.

## Main definitions

* `Report.Shares`: a warning says that two scan codes have the identifier.
* `Report.Overwrites`, `Report.Reuses`: a warning says that the scan code has lost the identifier,
  or got it in place of another or of itself.
* `Keymap.Accounts`: what a row says is in the maps, or a warning tells of its loss.

## Main results

* `Keymap.get?_firstCodes_or_shares`: an identifier has one scan code, or it is shared.
* `Keymap.shares_of_mem`: two scan codes of one identifier are warned of.
* `Keymap.accounts_of_mem`: nothing is lost without a warning.
-/

namespace ScanCodes

/-! ### Warnings of a report -/

namespace Report

/-- The report warns that two scan codes have the identifier. -/
def Shares (r : Report) (i : Identifier) : Prop :=
  ∃ firstCode code, Warning.duplicateIdentifier i firstCode code ∈ r.warnings

/-- The report warns that a later row has used the scan code of the identifier. -/
def Overwrites (r : Report) (code : String) (i : Identifier) : Prop :=
  ∃ replacement, Warning.duplicateCode code i replacement ∈ r.warnings

/-- The report warns that a later row has used the scan code for the identifier. -/
def Reuses (r : Report) (code : String) (i : Identifier) : Prop :=
  ∃ previous, Warning.duplicateCode code previous i ∈ r.warnings

variable {r r' : Report} {code : String} {i : Identifier}

theorem Shares.mono (hsub : r.warnings ⊆ r'.warnings) : r.Shares i → r'.Shares i :=
  fun ⟨firstCode, code, hw⟩ => ⟨firstCode, code, hsub hw⟩

theorem Overwrites.mono (hsub : r.warnings ⊆ r'.warnings) :
    r.Overwrites code i → r'.Overwrites code i :=
  fun ⟨replacement, hw⟩ => ⟨replacement, hsub hw⟩

theorem Reuses.mono (hsub : r.warnings ⊆ r'.warnings) : r.Reuses code i → r'.Reuses code i :=
  fun ⟨previous, hw⟩ => ⟨previous, hsub hw⟩

end Report

namespace Keymap

variable {m : Keymap} {rows : List Row} {row last : Row} {code : String} {i : Identifier}

/-! ### Adding one row -/

/-- No warning is ever taken back. -/
theorem warnings_subset_add (m : Keymap) (row : Row) :
    m.report.warnings ⊆ (m.add row).report.warnings := by
  rw [warnings_add]
  exact List.subset_append_left _ _

theorem warningsFor_subset_add (m : Keymap) (hkey : row.key? = some (code, i)) :
    m.warningsFor code row.name i ⊆ (m.add row).report.warnings := by
  rw [warnings_add, hkey]
  exact List.subset_append_right _ _

/-- A scan code other than the first one of an identifier is warned of. -/
theorem shares_add {firstCode : String} (hkey : row.key? = some (code, i))
    (hfirst : m.firstCodes.get? i = some firstCode) (hne : firstCode ≠ code) :
    (m.add row).report.Shares i := by
  have hw : Warning.duplicateIdentifier i firstCode code ∈
      m.duplicateIdentifierWarning code i := by
    simp [duplicateIdentifierWarning, hfirst, hne]
  exact ⟨firstCode, code, warningsFor_subset_add m hkey
    (List.mem_append_left _ (List.mem_append_right _ hw))⟩

/-- A scan code that is in use is warned of. -/
theorem duplicateCode_mem_add {previous : Identifier} (hkey : row.key? = some (code, i))
    (hget : m.keys.get? code = some previous) :
    Warning.duplicateCode code previous i ∈ (m.add row).report.warnings := by
  have hw : Warning.duplicateCode code previous i ∈ m.duplicateCodeWarning code i := by
    simp [duplicateCodeWarning, hget]
  exact warningsFor_subset_add m hkey (List.mem_append_right _ hw)

theorem get?_keys_add_self (m : Keymap) (hkey : row.key? = some (code, i)) :
    (m.add row).keys.get? code = some i := by
  rw [keys_add, hkey, Option.elim_some, SortedMap.get?_insert_self]

theorem get?_keys_add_of_ne (m : Keymap) (hne : ∀ i, row.key? ≠ some (code, i)) :
    (m.add row).keys.get? code = m.keys.get? code := by
  rw [keys_add]
  cases hkey : row.key? with
  | none => rfl
  | some key =>
    refine SortedMap.get?_insert_of_ne m.keys (fun hcode => hne key.2 ?_) key.2
    rw [hkey, hcode]

theorem get?_chars_add_self (m : Keymap) {literal : String}
    (hchar : row.char? = some (i, literal)) : (m.add row).chars.get? i = some literal := by
  rw [chars_add, hchar, Option.elim_some, SortedMap.get?_insert_self]

theorem get?_chars_add_of_ne (m : Keymap) (hne : ∀ literal, row.char? ≠ some (i, literal)) :
    (m.add row).chars.get? i = m.chars.get? i := by
  rw [chars_add]
  cases hchar : row.char? with
  | none => rfl
  | some char =>
    refine SortedMap.get?_insert_of_ne m.chars (fun hi => hne char.2 ?_) char.2
    rw [hchar, hi]

/-- The first scan code of an identifier stays the first. -/
theorem get?_firstCodes_add_of_some {firstCode : String}
    (hfirst : m.firstCodes.get? i = some firstCode) (row : Row) :
    (m.add row).firstCodes.get? i = some firstCode := by
  rw [firstCodes_add]
  cases row.key? with
  | none => exact hfirst
  | some key =>
    rw [Option.elim_some]
    split
    · next hnone =>
      have hne : i ≠ key.2 := by
        rintro rfl
        rw [hnone] at hfirst
        cases hfirst
      rw [SortedMap.get?_insert_of_ne _ hne, hfirst]
    · exact hfirst

theorem get?_firstCodes_add_of_none (hkey : row.key? = some (code, i))
    (hnone : m.firstCodes.get? i = none) : (m.add row).firstCodes.get? i = some code := by
  rw [firstCodes_add, hkey, Option.elim_some, if_pos hnone, SortedMap.get?_insert_self]

theorem get?_firstCodes_add_of_ne (m : Keymap) (hne : ∀ code, row.key? ≠ some (code, i)) :
    (m.add row).firstCodes.get? i = m.firstCodes.get? i := by
  rw [firstCodes_add]
  cases hkey : row.key? with
  | none => rfl
  | some key =>
    rw [Option.elim_some]
    split
    · refine SortedMap.get?_insert_of_ne m.firstCodes (fun hi => hne key.1 ?_) key.1
      rw [hkey, hi]
    · rfl

/-! ### Following a row -/

/-- What is true once a row has been added, and is kept up by the rows behind it. -/
theorem ofRows_of_mem {motive : Keymap → Prop} (hrow : row ∈ rows)
    (hadd : ∀ m : Keymap, motive (m.add row))
    (hkeep : ∀ before last, row ∈ before → motive (ofRows before) →
      motive ((ofRows before).add last)) :
    motive (ofRows rows) := by
  induction rows using List.reverseRecOn with
  | nil => cases hrow
  | append_singleton rows last ih =>
    rw [ofRows_concat]
    rcases List.mem_append.1 hrow with hrow | hrow
    · exact hkeep rows last hrow (ih hrow)
    · rw [← List.mem_singleton.1 hrow]
      exact hadd (ofRows rows)

/-- A scan code is in use from its first row on. -/
theorem exists_get?_keys_of_mem (hrow : row ∈ rows) (hkey : row.key? = some (code, i)) :
    ∃ j, (ofRows rows).keys.get? code = some j := by
  refine ofRows_of_mem (motive := fun m => ∃ j, m.keys.get? code = some j) hrow
    (fun m => ⟨i, get?_keys_add_self m hkey⟩) fun before last _ ⟨j, hget⟩ => ?_
  by_cases hlast : ∃ k, last.key? = some (code, k)
  · obtain ⟨k, hlast⟩ := hlast
    exact ⟨k, get?_keys_add_self _ hlast⟩
  · rw [not_exists] at hlast
    exact ⟨j, (get?_keys_add_of_ne _ hlast).trans hget⟩

/-- An identifier has the scan code of its first row in all its rows, or it is shared. -/
theorem get?_firstCodes_or_shares (hrow : row ∈ rows) (hkey : row.key? = some (code, i)) :
    (ofRows rows).firstCodes.get? i = some code ∨ (ofRows rows).report.Shares i := by
  refine ofRows_of_mem
    (motive := fun m => m.firstCodes.get? i = some code ∨ m.report.Shares i) hrow
    (fun m => ?_) fun before last _ h => ?_
  · cases hfirst : m.firstCodes.get? i with
    | none => exact Or.inl (get?_firstCodes_add_of_none hkey hfirst)
    | some firstCode =>
      by_cases hcode : firstCode = code
      · exact Or.inl (get?_firstCodes_add_of_some (hcode ▸ hfirst) row)
      · exact Or.inr (shares_add hkey hfirst hcode)
  · rcases h with hfirst | hshares
    · exact Or.inl (get?_firstCodes_add_of_some hfirst last)
    · exact Or.inr (hshares.mono (warnings_subset_add _ last))

/-- **Two scan codes of one identifier are warned of**, wherever their rows are. -/
theorem shares_of_mem {row' : Row} {code' : String} (hrow : row ∈ rows)
    (hkey : row.key? = some (code, i)) (hrow' : row' ∈ rows) (hkey' : row'.key? = some (code', i))
    (hne : code ≠ code') : (ofRows rows).report.Shares i := by
  rcases get?_firstCodes_or_shares hrow hkey with hfirst | hshares
  · rcases get?_firstCodes_or_shares hrow' hkey' with hfirst' | hshares
    · rw [hfirst] at hfirst'
      exact absurd (Option.some.inj hfirst') hne
    · exact hshares
  · exact hshares

/-! ### Losses -/

/-- What a row says is in the maps, or else a warning tells what has become of it. -/
structure Accounts (m : Keymap) (code : String) (i : Identifier) (literal : String) : Prop where
  /-- The scan code has the identifier, or a later row has used the scan code. -/
  key : m.keys.get? code = some i ∨ m.report.Overwrites code i
  /-- The identifier types the character; or it has another scan code too, or a later row has used
  the scan code for it. -/
  char : literal ≠ "" →
    m.chars.get? i = some literal ∨ m.report.Shares i ∨ m.report.Reuses code i

theorem get?_keys_or_overwrites (hrow : row ∈ rows) (hkey : row.key? = some (code, i)) :
    (ofRows rows).keys.get? code = some i ∨ (ofRows rows).report.Overwrites code i := by
  refine ofRows_of_mem
    (motive := fun m => m.keys.get? code = some i ∨ m.report.Overwrites code i) hrow
    (fun m => Or.inl (get?_keys_add_self m hkey)) fun before last _ h => ?_
  rcases h with hget | hoverwrites
  · by_cases hlast : ∃ j, last.key? = some (code, j)
    · obtain ⟨j, hlast⟩ := hlast
      exact Or.inr ⟨j, duplicateCode_mem_add hlast hget⟩
    · rw [not_exists] at hlast
      exact Or.inl ((get?_keys_add_of_ne _ hlast).trans hget)
  · exact Or.inr (hoverwrites.mono (warnings_subset_add _ last))

theorem get?_chars_or_shares_or_reuses {literal : String} (hrow : row ∈ rows)
    (hkey : row.key? = some (code, i)) (hchar : row.char? = some (i, literal)) :
    (ofRows rows).chars.get? i = some literal ∨ (ofRows rows).report.Shares i ∨
      (ofRows rows).report.Reuses code i := by
  refine ofRows_of_mem
    (motive := fun m => m.chars.get? i = some literal ∨ m.report.Shares i ∨ m.report.Reuses code i)
    hrow (fun m => Or.inl (get?_chars_add_self m hchar)) fun before last hmem h => ?_
  have hsub := warnings_subset_add (ofRows before) last
  rcases h with hget | hshares | hreuses
  · by_cases hlast : ∃ literal', last.char? = some (i, literal')
    · -- The identifier gets another character: from a row with the same scan code, which is
      -- then in use, or from one with another, which is then not the first.
      obtain ⟨literal', hlast⟩ := hlast
      obtain ⟨⟨code', hlastkey⟩, -⟩ := Row.char?_eq_some.1 hlast
      by_cases hcode : code = code'
      · subst hcode
        obtain ⟨previous, hused⟩ := exists_get?_keys_of_mem hmem hkey
        exact Or.inr (Or.inr ⟨previous, duplicateCode_mem_add hlastkey hused⟩)
      · rcases get?_firstCodes_or_shares hmem hkey with hfirst | hshares
        · exact Or.inr (Or.inl (shares_add hlastkey hfirst hcode))
        · exact Or.inr (Or.inl (hshares.mono hsub))
    · rw [not_exists] at hlast
      exact Or.inl ((get?_chars_add_of_ne _ hlast).trans hget)
  · exact Or.inr (Or.inl (hshares.mono hsub))
  · exact Or.inr (Or.inr (hreuses.mono hsub))

/-- **Nothing is lost without a warning.** For every row with one scan code, the scan code and the
character are in the maps as the row says, or the report tells of the row that has taken their
place. -/
theorem accounts_of_mem (hrow : row ∈ rows) (hcode : row.singleCode? = some code) :
    (ofRows rows).Accounts code (KeyName.identifier row.name) row.literal := by
  have hkey : row.key? = some (code, KeyName.identifier row.name) :=
    Row.key?_eq_some.2 ⟨hcode, rfl⟩
  refine ⟨get?_keys_or_overwrites hrow hkey, fun hliteral => ?_⟩
  exact get?_chars_or_shares_or_reuses hrow hkey
    (Row.char?_eq_some.2 ⟨⟨code, hkey⟩, rfl, hliteral⟩)

/-- The row `1,A,a` loses its scan code to `1,B,`, and its identifier gets the character of
`2,A,b`. -/
theorem accounts_of_mem_displaced :
    ⟨["1"], "A", "a"⟩ ∈ [(⟨["1"], "A", "a"⟩ : Row), ⟨["1"], "B", ""⟩, ⟨["2"], "A", "b"⟩] ∧
      Row.singleCode? ⟨["1"], "A", "a"⟩ = some "1" ∧
      (ofRows [⟨["1"], "A", "a"⟩, ⟨["1"], "B", ""⟩, ⟨["2"], "A", "b"⟩]).Accounts "1"
        (KeyName.identifier "A") "a" := by
  have hrow : ⟨["1"], "A", "a"⟩ ∈
      [(⟨["1"], "A", "a"⟩ : Row), ⟨["1"], "B", ""⟩, ⟨["2"], "A", "b"⟩] := List.mem_cons_self
  have hcode : Row.singleCode? ⟨["1"], "A", "a"⟩ = some "1" := rfl
  have haccounts := accounts_of_mem hrow hcode
  exact ⟨hrow, hcode, haccounts⟩

end Keymap

end ScanCodes
