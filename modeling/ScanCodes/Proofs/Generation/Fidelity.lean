import ScanCodes.Generation
import ScanCodes.Proofs.Artifact.Reading
import ScanCodes.Proofs.KeyName.Alphabet
import ScanCodes.Proofs.Keymap.Distinct
import ScanCodes.Proofs.Table.Lines
import Mathlib.Data.List.Pairwise

/-!
# What the generated files hold

A table goes in as text and two files come out as text. Read back, the two files hold what the rows
of the table say, and these are the rows that its lines list: that the reader finds every entry is a
matter of what codes and identifiers are made of, and that every row has its entry is a matter of no
row having displaced another.

## Main definitions

* `Row.IsSplit`: the scan codes of a row are free of blanks, as those of a table are.
* `Generation.Faithful`: two lists of entries hold what a list of rows says.

## Main results

* `Keymap.read?_header`, `Keymap.read?_source`: the files of any keymap can be read back.
* `Generation.faithful_of_no_duplicate`: the files of a table without duplicates say what its rows
  say.
-/

namespace ScanCodes

/-! ### The rows of a table -/

/-- No scan code of the row holds a blank. -/
def Row.IsSplit (row : Row) : Prop :=
  ∀ code ∈ row.codes, ∀ c ∈ code.toList, Text.isBlank c = false

theorem Row.HasFields.isSplit {row : Row} {codes name literal : List Char}
    (h : row.HasFields codes name literal) : row.IsSplit := fun _ hcode c hc =>
  Text.isBlank_eq_false_iff.2 (h.codes.not_mem_whiteSpace (List.mem_map_of_mem hcode) c hc)

theorem Row.isSplit_ofFields (codes name literal : String) :
    (Row.ofFields codes name literal).IsSplit :=
  (Row.hasFields_iff.2 rfl).isSplit

theorem Table.isSplit_of_forall₂_holds {ls : List Csv.Line} {rows : List Row}
    (h : List.Forall₂ Holds ls rows) : ∀ row ∈ rows, row.IsSplit := by
  induction h with
  | nil => simp
  | cons hrow _ ih =>
    obtain ⟨codes, name, literal, -, hfields⟩ := hrow
    exact List.forall_mem_cons.2 ⟨hfields.isSplit, ih⟩

theorem Table.Lists.isSplit {cs : List Char} {rows : List Row} (h : Lists cs rows) :
    ∀ row ∈ rows, row.IsSplit := by
  cases h with
  | plain _ _ _ hrows => exact isSplit_of_forall₂_holds hrows
  | marked _ _ _ hrows => exact isSplit_of_forall₂_holds hrows

/-- The rows of a table have been made from fields. -/
theorem Table.isSplit_of_mem_rows {table : String} {rows : List Row}
    (h : Table.rows (Text.Utf8.encode table) = .ok rows) : ∀ row ∈ rows, row.IsSplit :=
  (rows_eq_ok_iff_lists.1 h).isSplit

/-- What a table generates is what the keymap of its rows generates. -/
theorem Generation.exists_rows_of_ofTable {table : String} {g : Generation}
    (h : ofTable table = .ok g) :
    ∃ rows, Table.rows (Text.Utf8.encode table) = .ok rows ∧ g = ofKeymap (.ofRows rows) := by
  rw [ofTable] at h
  cases hrows : Table.rows (Text.Utf8.encode table) with
  | error e =>
    rw [hrows] at h
    cases h
  | ok rows =>
    rw [hrows] at h
    cases h
    exact ⟨rows, rfl, rfl⟩

/-! ### The entries of a keymap can be read back -/

namespace Keymap

/-- What is read back from the header of a list of rows. -/
theorem read?_header {rows : List Row} (h : ∀ row ∈ rows, row.IsSplit) :
    Artifact.Header.read? (Artifact.Header.render (ofRows rows).keys)
      = some (ofRows rows).keys.entries := by
  refine Artifact.Header.read?_render fun key hkey => ?_
  obtain ⟨code, i⟩ := key
  obtain ⟨row, hrow, hrowkey⟩ := exists_row_of_key (SortedMap.mem_entries_iff.1 hkey)
  obtain ⟨hcode, rfl⟩ := Row.key?_eq_some.1 hrowkey
  refine ⟨KeyName.space_not_mem_identifier row.name, fun hmem => ?_⟩
  have hsplit := h row hrow code (by simp [Row.singleCode?_eq_some.1 hcode]) '\n' hmem
  cases hsplit

/-- What is read back from the source of a list of rows. -/
theorem read?_source (rows : List Row) :
    Artifact.Source.read? (Artifact.Source.render (ofRows rows).chars)
      = some (ofRows rows).chars.entries := by
  refine Artifact.Source.read?_render fun char hchar => ?_
  obtain ⟨i, literal⟩ := char
  obtain ⟨row, -, hrowchar⟩ := exists_row_of_char (SortedMap.mem_entries_iff.1 hchar)
  obtain ⟨⟨code, hkey⟩, -⟩ := Row.char?_eq_some.1 hrowchar
  obtain ⟨-, rfl⟩ := Row.key?_eq_some.1 hkey
  exact KeyName.colon_not_mem_identifier row.name

end Keymap

/-! ### Fidelity -/

namespace Generation

/-- The entries read back from the two files of a table are what its rows say, where no row has
displaced another. -/
structure Faithful (rows : List Row) (enumerators : List (String × Identifier))
    (cases : List (Identifier × String)) : Prop where
  /-- There is one enumerator for each row with one scan code. -/
  enumerators_perm : enumerators.Perm (rows.filterMap Row.key?)
  /-- The scan codes ascend. -/
  enumerators_ascending : enumerators.Pairwise (fun a b => a.1 < b.1)
  /-- There is one case for each such row that types a character. -/
  cases_perm : cases.Perm (rows.filterMap Row.char?)
  /-- The identifiers ascend. -/
  cases_ascending : cases.Pairwise (fun a b => a.1.text < b.1.text)
  /-- From the scan code of a row to its identifier, and from there to its character or nothing. -/
  lookup_eq : ∀ row ∈ rows, ∀ code, row.singleCode? = some code →
    enumerators.lookup code = some (KeyName.identifier row.name) ∧
      cases.lookup (KeyName.identifier row.name)
        = if row.literal = "" then none else some row.literal

/-- The identifiers in use are those of the rows that take part. -/
private theorem map_snd_filterMap_key? (rows : List Row) :
    (rows.filterMap Row.key?).map Prod.snd
      = (rows.filter fun row => row.key?.isSome).map fun row => KeyName.identifier row.name := by
  induction rows with
  | nil => rfl
  | cons row rows ih =>
    cases hkey : row.key? with
    | none => simpa [hkey] using ih
    | some key =>
      obtain ⟨code, i⟩ := key
      obtain ⟨-, rfl⟩ := Row.key?_eq_some.1 hkey
      simpa [hkey] using ih

/-- Where no identifier is used twice, two rows that take part with one identifier are the same
row. -/
private theorem eq_of_key?_snd_eq {rows : List Row}
    (h : ((rows.filterMap Row.key?).map Prod.snd).Nodup) {row row' : Row} (hrow : row ∈ rows)
    (hrow' : row' ∈ rows) {code code' : String} {i : Identifier} (hkey : row.key? = some (code, i))
    (hkey' : row'.key? = some (code', i)) : row = row' := by
  rw [map_snd_filterMap_key?] at h
  obtain ⟨-, rfl⟩ := Row.key?_eq_some.1 hkey
  have hname := (Row.key?_eq_some.1 hkey').2
  exact List.inj_on_of_nodup_map h (List.mem_filter.2 ⟨hrow, by rw [hkey]; rfl⟩)
    (List.mem_filter.2 ⟨hrow', by rw [hkey']; rfl⟩) hname.symm

private theorem faithful_ofRows {rows : List Row}
    (h : ∀ w ∈ (Keymap.ofRows rows).report.warnings, w.isDuplicate = false) :
    Faithful rows (Keymap.ofRows rows).keys.entries (Keymap.ofRows rows).chars.entries := by
  obtain ⟨hcodes, hids⟩ := Keymap.nodup_of_no_duplicate h
  have hkeys := Keymap.perm_entries_keys hcodes
  have hchars := Keymap.perm_entries_chars hids
  refine ⟨hkeys, SortedMap.pairwise_of_compare (r := fun (k l : String) => k < l)
    (fun k l => ?_) _, hchars, SortedMap.pairwise_of_compare
    (r := fun (k l : Identifier) => k.text < l.text) (fun k l => ?_) _, ?_⟩
  · exact compareOfLessAndEq_eq_lt.1
  · exact compareOfLessAndEq_eq_lt.1
  · intro row hrow code hcode
    have hkey : row.key? = some (code, KeyName.identifier row.name) :=
      Row.key?_eq_some.2 ⟨hcode, rfl⟩
    refine ⟨?_, ?_⟩
    · rw [lookup_eq_some_iff_mem (SortedMap.nodup_keys _), hkeys.mem_iff]
      exact List.mem_filterMap.2 ⟨row, hrow, hkey⟩
    · split
      · next hl =>
        rw [List.lookup_eq_none_iff]
        rintro ⟨i, literal⟩ hmem
        obtain ⟨row', hrow', hchar'⟩ := List.mem_filterMap.1 (hchars.mem_iff.1 hmem)
        obtain ⟨⟨code', hkey'⟩, hl', hne⟩ := Row.char?_eq_some.1 hchar'
        rw [bne_iff_ne]
        rintro rfl
        obtain rfl := eq_of_key?_snd_eq hids hrow hrow' hkey hkey'
        exact hne (hl' ▸ hl)
      · next hl =>
        rw [lookup_eq_some_iff_mem (SortedMap.nodup_keys _), hchars.mem_iff]
        exact List.mem_filterMap.2 ⟨row, hrow, Row.char?_eq_some.2 ⟨⟨code, hkey⟩, rfl, hl⟩⟩

/-- **The files of a table without duplicates say what its rows say,** and its rows are those that
the text of the table lists. -/
theorem faithful_of_no_duplicate {table : String} {g : Generation} (h : ofTable table = .ok g)
    (hdup : ∀ w ∈ g.report.warnings, w.isDuplicate = false) :
    ∃ rows enumerators cases, Table.Lists table.toList rows ∧
      Table.rows (Text.Utf8.encode table) = .ok rows ∧
      Artifact.Header.read? g.artifacts.header = some enumerators ∧
      Artifact.Source.read? g.artifacts.source = some cases ∧
      Faithful rows enumerators cases := by
  obtain ⟨rows, hrows, rfl⟩ := exists_rows_of_ofTable h
  have hsplit := Table.isSplit_of_mem_rows hrows
  exact ⟨rows, _, _, Table.rows_eq_ok_iff_lists.1 hrows, hrows, Keymap.read?_header hsplit,
    Keymap.read?_source rows, faithful_ofRows hdup⟩

/-- A table with a quote, a row of two scan codes and a key that types nothing. -/
theorem faithful_quote_and_shift :
    ∃ g, ofTable "codes,name,char\n40,Quote,'\n42 30,Shift A,A\n42,Shift,\n" = .ok g ∧
      (∀ w ∈ g.report.warnings, w.isDuplicate = false) ∧
      ∃ rows enumerators cases,
        Table.Lists "codes,name,char\n40,Quote,'\n42 30,Shift A,A\n42,Shift,\n".toList rows ∧
        Table.rows (Text.Utf8.encode "codes,name,char\n40,Quote,'\n42 30,Shift A,A\n42,Shift,\n")
          = .ok rows ∧
        Artifact.Header.read? g.artifacts.header = some enumerators ∧
        Artifact.Source.read? g.artifacts.source = some cases ∧
        Faithful rows enumerators cases := by
  have hrows : Table.rows (Text.Utf8.encode
      "codes,name,char\n40,Quote,'\n42 30,Shift A,A\n42,Shift,\n")
      = .ok [⟨["40"], "Quote", "'"⟩, ⟨["42", "30"], "Shift A", "A"⟩, ⟨["42"], "Shift", ""⟩] := by
    decide
  have h := congrArg (Except.map fun rows => ofKeymap (.ofRows rows)) hrows
  have hdup : ∀ w ∈ (Keymap.ofRows [⟨["40"], "Quote", "'"⟩, ⟨["42", "30"], "Shift A", "A"⟩,
      ⟨["42"], "Shift", ""⟩]).report.warnings, w.isDuplicate = false := by
    decide
  exact ⟨_, h, hdup, faithful_of_no_duplicate h hdup⟩

end Generation

end ScanCodes
