import ScanCodes.Proofs.Generation.Link
import ScanCodes.Proofs.Keymap.Losses

/-!
# What is wrong is warned of

Warnings are given row by row, against what has been seen so far. What is wrong with the generated
files is a matter of the maps that are left at the end: a name that two enumerators share, a name
that C does not accept or that says nothing, a case without an enumerator. Each of these has left
its warning on the way, whatever has been overwritten since, so a report without warnings vouches
for the files.

## Main definitions

* `Keymap.Names`: the identifiers in the maps.
* `Keymap.Reports`: each defect of the maps has its warning.
* `Keymap.IsSound`: the maps have no defect, and every row that takes part has its enumerator.

## Main results

* `Keymap.reports_ofRows`: every defect is reported, and where nothing is reported there is none.
-/

namespace ScanCodes

/-- An identifier without anything behind the stem is one that C accepts. -/
theorem Identifier.isValid_of_isBare {i : Identifier} (h : i.isBare = true) : i.isValid = true := by
  rw [isBare, decide_eq_true_eq] at h
  rw [isValid, h]
  decide

namespace Keymap

/-- The identifier stands in one of the maps. -/
def Names (m : Keymap) (i : Identifier) : Prop :=
  (∃ code, m.keys.get? code = some i) ∨ ∃ literal, m.chars.get? i = some literal

/-- Each defect of the maps has its warning. -/
structure Reports (m : Keymap) : Prop where
  /-- An identifier with two scan codes is shared. -/
  shared : ∀ code code' i, m.keys.get? code = some i → m.keys.get? code' = some i →
    code ≠ code' → m.report.Shares i
  /-- An identifier with nothing behind the stem has a name of which nothing is left. -/
  bare : ∀ i, m.Names i → i.isBare = true → ∃ code name, KeyName.identifier name = i ∧
    Warning.emptyIdentifier code name ∈ m.report.warnings
  /-- An identifier that C does not accept is reported itself. -/
  invalid : ∀ i, m.Names i → i.isValid = false →
    ∃ code, Warning.invalidIdentifier code i ∈ m.report.warnings
  /-- An identifier that types a character and has no scan code has been displaced. -/
  displaced : ∀ i literal, m.chars.get? i = some literal → (∀ code, m.keys.get? code ≠ some i) →
    m.report.Displaces i

/-- Nothing is wrong with what the maps generate. -/
structure IsSound (m : Keymap) : Prop where
  /-- No two enumerators share a name. -/
  nodup : (m.keys.entries.map Prod.snd).Nodup
  /-- C accepts the name of every enumerator, and it says something. -/
  fit : ∀ i ∈ m.keys.entries.map Prod.snd, i.isValid = true ∧ i.isBare = false
  /-- Every case is that of an enumerator. -/
  linked : ∀ i ∈ m.chars.entries.map Prod.fst, i ∈ m.keys.entries.map Prod.snd
  /-- Every row has its enumerator, unless it is left out. -/
  counted : m.report.rows = (Generation.ofKeymap m).keycodes + m.report.skippedRows

/-! ### Unfit identifiers -/

/-- The warnings of an unfit identifier do not depend on the rows before it. -/
theorem degenerateWarning_subset_of_mem {rows : List Row} {row : Row} {code : String}
    {i : Identifier} (hrow : row ∈ rows) (hkey : row.key? = some (code, i)) :
    degenerateWarning code row.name i ⊆ (ofRows rows).report.warnings :=
  ofRows_of_mem (motive := fun m => degenerateWarning code row.name i ⊆ m.report.warnings) hrow
    (fun m _ hw => warningsFor_subset_add m hkey
      (List.mem_append_left _ (List.mem_append_left _ hw)))
    fun _ last _ hsub => List.Subset.trans hsub (warnings_subset_add _ last)

/-- The identifiers in the maps are those of rows. -/
theorem exists_row_of_names {rows : List Row} {i : Identifier} (h : (ofRows rows).Names i) :
    ∃ row ∈ rows, ∃ code, row.key? = some (code, i) := by
  rcases h with ⟨code, hget⟩ | ⟨literal, hget⟩
  · obtain ⟨row, hrow, hkey⟩ := exists_row_of_key hget
    exact ⟨row, hrow, code, hkey⟩
  · obtain ⟨row, hrow, hchar⟩ := exists_row_of_char hget
    exact ⟨row, hrow, (Row.char?_eq_some.1 hchar).1⟩

/-! ### Counts -/

theorem rows_add (m : Keymap) (row : Row) : (m.add row).report.rows = m.report.rows + 1 := by
  rw [add]
  split
  · rfl
  · rw [skip]
    split <;> rfl

theorem skippedRows_add (m : Keymap) (row : Row) :
    (m.add row).report.skippedRows =
      m.report.skippedRows + if row.key?.isSome then 0 else 1 := by
  cases hkey : row.key? with
  | some key => rw [add_of_key? hkey]; rfl
  | none =>
    rw [add_of_key?_none hkey, skip]
    split <;> simp only [Report.skippedRows, Option.isSome_none, Bool.false_eq_true, if_false] <;>
      omega

/-- Every row takes part or is left out. -/
theorem report_rows_ofRows (rows : List Row) :
    (ofRows rows).report.rows =
      (rows.filterMap Row.key?).length + (ofRows rows).report.skippedRows := by
  induction rows using List.reverseRecOn with
  | nil => rfl
  | append_singleton rows row ih =>
    rw [ofRows_concat, rows_add, skippedRows_add, ih, List.filterMap_append, List.length_append]
    cases hkey : row.key? with
    | none => simp [hkey, Nat.add_assoc]
    | some key => simp [hkey, Nat.add_right_comm]

/-! ### The report as a whole -/

private theorem reports (rows : List Row) : (ofRows rows).Reports where
  shared code code' i hget hget' hne := by
    obtain ⟨row, hrow, hkey⟩ := exists_row_of_key hget
    obtain ⟨row', hrow', hkey'⟩ := exists_row_of_key hget'
    exact shares_of_mem hrow hkey hrow' hkey' hne
  bare i hnames hbare := by
    obtain ⟨row, hrow, code, hkey⟩ := exists_row_of_names hnames
    refine ⟨code, row.name, (Row.key?_eq_some.1 hkey).2,
      degenerateWarning_subset_of_mem hrow hkey ?_⟩
    rw [degenerateWarning, if_pos hbare]
    exact List.mem_singleton_self _
  invalid i hnames hinvalid := by
    obtain ⟨row, hrow, code, hkey⟩ := exists_row_of_names hnames
    have hbare : i.isBare ≠ true := fun h => by
      rw [Identifier.isValid_of_isBare h] at hinvalid
      cases hinvalid
    refine ⟨code, degenerateWarning_subset_of_mem hrow hkey ?_⟩
    rw [degenerateWarning, if_neg hbare, if_neg (Bool.eq_false_iff.1 hinvalid)]
    exact List.mem_singleton_self _
  displaced i literal hget hnone := by
    obtain ⟨row, hrow, code, hkey⟩ := exists_row_of_names (Or.inr ⟨literal, hget⟩)
    exact (exists_code_or_displaces hrow hkey).resolve_left fun ⟨code, hcode⟩ => hnone code hcode

private theorem isSound {rows : List Row} (h : (ofRows rows).report.warnings = []) :
    (ofRows rows).IsSound := by
  have hreports := reports rows
  have hnone : ∀ w, w ∉ (ofRows rows).report.warnings := by simp [h]
  obtain ⟨hcodes, hids⟩ := nodup_of_no_duplicate fun w hw => absurd hw (hnone w)
  have hperm := perm_entries_keys hcodes
  have hnames : ∀ i ∈ (ofRows rows).keys.entries.map Prod.snd, (ofRows rows).Names i := by
    intro i hi
    obtain ⟨⟨code, i⟩, hmem, rfl⟩ := List.mem_map.1 hi
    exact Or.inl ⟨code, SortedMap.mem_entries_iff.1 hmem⟩
  refine ⟨(hperm.map Prod.snd).nodup_iff.2 hids, fun i hi => ⟨?_, ?_⟩, fun i hi => ?_, ?_⟩
  · by_contra hinvalid
    obtain ⟨code, hw⟩ := hreports.invalid i (hnames i hi) (Bool.eq_false_iff.2 hinvalid)
    exact hnone _ hw
  · by_contra hbare
    obtain ⟨code, name, -, hw⟩ :=
      hreports.bare i (hnames i hi) (eq_true_of_ne_false hbare)
    exact hnone _ hw
  · obtain ⟨⟨i, literal⟩, hmem, rfl⟩ := List.mem_map.1 hi
    by_contra hunlinked
    obtain ⟨code, replacement, -, hw⟩ := hreports.displaced i literal
      (SortedMap.mem_entries_iff.1 hmem) fun code hcode =>
        hunlinked (List.mem_map.2 ⟨(code, i), SortedMap.mem_entries_iff.2 hcode, rfl⟩)
    exact hnone _ hw
  · rw [report_rows_ofRows, ← hperm.length_eq]
    rfl

/-- **Every defect is reported**, for any list of rows; so where nothing is reported nothing is
wrong. -/
theorem reports_ofRows (rows : List Row) :
    (ofRows rows).Reports ∧ ((ofRows rows).report.warnings = [] → (ofRows rows).IsSound) :=
  ⟨reports rows, isSound⟩

/-- Two keys and a chord that nothing is to be said about. -/
theorem reports_ofRows_two_keys :
    (ofRows [⟨["1"], "A", "a"⟩, ⟨["2", "1"], "A", "b"⟩, ⟨["2"], "F1", ""⟩]).report.warnings = [] ∧
      (ofRows [⟨["1"], "A", "a"⟩, ⟨["2", "1"], "A", "b"⟩, ⟨["2"], "F1", ""⟩]).IsSound := by
  have hnone : (ofRows [⟨["1"], "A", "a"⟩, ⟨["2", "1"], "A", "b"⟩,
      ⟨["2"], "F1", ""⟩]).report.warnings = [] := by
    decide
  exact ⟨hnone, (reports_ofRows _).2 hnone⟩

end Keymap

end ScanCodes
