import ScanCodes.Proofs.Generation.Fidelity

/-!
# From the cases to the enumerators

Every case of the source names an identifier, and the header should enumerate it. The two maps
behind the files are overwritten independently: a row that uses a scan code again takes the
identifier of an earlier row out of the header and leaves its character in the source. Nothing else
breaks the link, and whenever it breaks there is a warning that says so.

## Main definitions

* `Keymap.Keeps`: some row with the identifier has the last word on its scan code.
* `Report.Displaces`: a warning names the identifier as one that another has replaced.
* `Generation.LinkedOrDisplaced`: where the identifiers of the cases are to be found.

## Main results

* `Keymap.get?_keys_eq_some_iff`: a scan code has the identifier of the last row that uses it.
* `Keymap.exists_code_or_displaces`: an identifier of a row has a scan code, or it is displaced.
* `Generation.linked_or_displaced`: every case has its enumerator, or its identifier is displaced.
-/

namespace ScanCodes

/-- The report warns that the identifier has lost a scan code to another identifier. -/
def Report.Displaces (r : Report) (i : Identifier) : Prop :=
  ∃ code replacement, replacement ≠ i ∧ Warning.duplicateCode code i replacement ∈ r.warnings

namespace Keymap

/-- The row that follows `before` gives the scan code to the identifier, and no row in `after`
gives it to another. -/
def Keeps (rows : List Row) (code : String) (i : Identifier) : Prop :=
  ∃ before row after, rows = before ++ row :: after ∧ row.key? = some (code, i) ∧
    ∀ later ∈ after, later.singleCode? ≠ some code

/-! ### The last row with a scan code -/

/-- One more row with the scan code has the last word; any other row changes nothing. -/
private theorem keeps_concat {rows : List Row} {row : Row} {code : String} {i : Identifier} :
    Keeps (rows ++ [row]) code i ↔
      row.key? = some (code, i) ∨ row.singleCode? ≠ some code ∧ Keeps rows code i := by
  constructor
  · rintro ⟨before, r, after, heq, hkey, hafter⟩
    rcases List.eq_nil_or_concat after with rfl | ⟨after, last, rfl⟩
    · obtain ⟨-, hrow⟩ := List.append_inj' heq rfl
      rw [List.singleton_inj] at hrow
      exact Or.inl (hrow ▸ hkey)
    · rw [List.concat_eq_append, ← List.cons_append, ← List.append_assoc] at heq
      obtain ⟨rfl, hlast⟩ := List.append_inj' heq rfl
      obtain rfl := List.singleton_inj.1 hlast
      rw [List.concat_eq_append] at hafter
      exact Or.inr ⟨hafter _ (by simp), before, r, after, rfl, hkey,
        fun later hlater => hafter later (List.mem_append_left _ hlater)⟩
  · rintro (hkey | ⟨hrow, before, r, after, rfl, hkey, hafter⟩)
    · exact ⟨rows, row, [], rfl, hkey, by simp⟩
    · refine ⟨before, r, after ++ [row], by simp, hkey, fun later hlater => ?_⟩
      rcases List.mem_append.1 hlater with hlater | hlater
      · exact hafter later hlater
      · rwa [List.mem_singleton.1 hlater]

/-- **The last row that uses a scan code gives its identifier.** -/
theorem get?_keys_eq_some_iff {rows : List Row} {code : String} {i : Identifier} :
    (ofRows rows).keys.get? code = some i ↔ Keeps rows code i := by
  induction rows using List.reverseRecOn with
  | nil => simp [Keeps]
  | append_singleton rows row ih =>
    rw [ofRows_concat, keys_add, keeps_concat, ← ih]
    cases hkey : row.key? with
    | none =>
      have hrow : row.singleCode? = none := Option.map_eq_none_iff.1 hkey
      simp [hrow]
    | some key =>
      obtain ⟨c, j⟩ := key
      have hrow := (Row.key?_eq_some.1 hkey).1
      rw [Option.elim_some, SortedMap.get?_insert, hrow]
      by_cases hcode : code = c
      · simp [hcode]
      · simp [hcode, Ne.symm hcode]

/-! ### What becomes of an identifier -/

/-- The step of `exists_code_or_displaces`: an identifier that has a scan code keeps one or is
displaced by the next row, and one that is displaced stays so. -/
private theorem exists_code_or_displaces_add {m : Keymap} {row : Row} {i : Identifier}
    (h : (∃ code, m.keys.get? code = some i) ∨ m.report.Displaces i) :
    (∃ code, (m.add row).keys.get? code = some i) ∨ (m.add row).report.Displaces i := by
  rcases h with ⟨code, hcode⟩ | ⟨code, replacement, hne, hmem⟩
  · cases hkey : row.key? with
    | none =>
      refine Or.inl ⟨code, ?_⟩
      rw [keys_add, hkey, Option.elim_none, hcode]
    | some key =>
      obtain ⟨c, j⟩ := key
      by_cases hc : code = c
      · by_cases hj : j = i
        · refine Or.inl ⟨c, ?_⟩
          rw [keys_add, hkey, Option.elim_some, SortedMap.get?_insert, if_pos rfl, hj]
        · refine Or.inr ⟨c, j, hj, ?_⟩
          have hw : Warning.duplicateCode c i j ∈ m.duplicateCodeWarning c j := by
            rw [duplicateCodeWarning, ← hc, hcode]
            exact List.mem_singleton.2 rfl
          rw [warnings_add, hkey]
          exact List.mem_append_right _ (List.mem_append_right _ hw)
      · refine Or.inl ⟨code, ?_⟩
        rw [keys_add, hkey, Option.elim_some, SortedMap.get?_insert, if_neg hc, hcode]
  · refine Or.inr ⟨code, replacement, hne, ?_⟩
    rw [warnings_add]
    exact List.mem_append_left _ hmem

/-- An identifier that a row has given to a scan code still has one, or the report says that
another identifier has displaced it. -/
theorem exists_code_or_displaces {rows : List Row} {row : Row} {code : String} {i : Identifier}
    (hrow : row ∈ rows) (hkey : row.key? = some (code, i)) :
    (∃ c, (ofRows rows).keys.get? c = some i) ∨ (ofRows rows).report.Displaces i := by
  induction rows using List.reverseRecOn with
  | nil => cases hrow
  | append_singleton rows last ih =>
    rw [ofRows_concat]
    rcases List.mem_append.1 hrow with hrow | hrow
    · exact exists_code_or_displaces_add (ih hrow)
    · rw [List.mem_singleton.1 hrow] at hkey
      refine Or.inl ⟨code, ?_⟩
      rw [keys_add, hkey, Option.elim_some, SortedMap.get?_insert, if_pos rfl]

end Keymap

/-! ### The files -/

namespace Generation

/-- The identifiers of the cases are among the enumerators, or else the report tells of them. -/
structure LinkedOrDisplaced (rows : List Row) (report : Report)
    (enumerators : List (String × Identifier)) (cases : List (Identifier × String)) : Prop where
  /-- A case without an enumerator has been displaced. -/
  enumerator_or_displaces : ∀ i ∈ cases.map Prod.fst,
    i ∈ enumerators.map Prod.snd ∨ report.Displaces i
  /-- There is an enumerator exactly where a row has had the last word. -/
  mem_enumerators_iff : ∀ i, i ∈ enumerators.map Prod.snd ↔ ∃ code, Keymap.Keeps rows code i

private theorem mem_map_snd_entries {keys : KeyMap} {i : Identifier} :
    i ∈ keys.entries.map Prod.snd ↔ ∃ code, keys.get? code = some i := by
  simp only [List.mem_map, Prod.exists, SortedMap.mem_entries_iff, exists_eq_right]

private theorem linkedOrDisplaced_ofRows (rows : List Row) :
    LinkedOrDisplaced rows (Keymap.ofRows rows).report (Keymap.ofRows rows).keys.entries
      (Keymap.ofRows rows).chars.entries := by
  refine ⟨fun i hi => ?_, fun i => ?_⟩
  · obtain ⟨⟨i, literal⟩, hmem, rfl⟩ := List.mem_map.1 hi
    obtain ⟨row, hrow, hchar⟩ := Keymap.exists_row_of_char (SortedMap.mem_entries_iff.1 hmem)
    obtain ⟨⟨code, hkey⟩, -⟩ := Row.char?_eq_some.1 hchar
    rw [mem_map_snd_entries]
    exact Keymap.exists_code_or_displaces hrow hkey
  · simp only [mem_map_snd_entries, Keymap.get?_keys_eq_some_iff]

/-- **Every case has its enumerator, or its identifier is displaced.** It is so in the maps of any
list of rows, and in what is read back from the files of any table. -/
theorem linked_or_displaced :
    (∀ rows, LinkedOrDisplaced rows (Keymap.ofRows rows).report (Keymap.ofRows rows).keys.entries
      (Keymap.ofRows rows).chars.entries) ∧
    ∀ table g, ofTable table = .ok g →
      ∃ rows enumerators cases, Table.rows (Text.Utf8.encode table) = .ok rows ∧
        Artifact.Header.read? g.artifacts.header = some enumerators ∧
        Artifact.Source.read? g.artifacts.source = some cases ∧
        LinkedOrDisplaced rows g.report enumerators cases := by
  refine ⟨linkedOrDisplaced_ofRows, fun table g h => ?_⟩
  obtain ⟨rows, hrows, rfl⟩ := exists_rows_of_ofTable h
  have hsplit := Table.isSplit_of_mem_rows hrows
  exact ⟨rows, _, _, hrows, Keymap.read?_header hsplit, Keymap.read?_source rows,
    linkedOrDisplaced_ofRows rows⟩

/-- One identifier keeps its scan code and one is displaced. -/
theorem linked_or_displaced_of_reused_code :
    ∃ g, ofTable "codes,name,char\n1,A,a\n1,B,\n2,C,c\n" = .ok g ∧
      ∃ rows enumerators cases,
        Table.rows (Text.Utf8.encode "codes,name,char\n1,A,a\n1,B,\n2,C,c\n") = .ok rows ∧
        Artifact.Header.read? g.artifacts.header = some enumerators ∧
        Artifact.Source.read? g.artifacts.source = some cases ∧
        LinkedOrDisplaced rows g.report enumerators cases := by
  have hrows : Table.rows (Text.Utf8.encode "codes,name,char\n1,A,a\n1,B,\n2,C,c\n")
      = .ok [⟨["1"], "A", "a"⟩, ⟨["1"], "B", ""⟩, ⟨["2"], "C", "c"⟩] := by
    decide
  have h := congrArg (Except.map fun rows => ofKeymap (.ofRows rows)) hrows
  exact ⟨_, h, linked_or_displaced.2 _ _ h⟩

/-- A row that uses a scan code again and types nothing leaves the case of the row before it without
an enumerator. -/
theorem unlinked_of_reused_code :
    ∃ g, ofTable "codes,name,char\n1,A,a\n1,B,\n" = .ok g ∧
      Artifact.Header.read? g.artifacts.header = some [("1", ⟨"KEYCODE_B"⟩)] ∧
      Artifact.Source.read? g.artifacts.source = some [(⟨"KEYCODE_A"⟩, "a")] := by
  have hrows : Table.rows (Text.Utf8.encode "codes,name,char\n1,A,a\n1,B,\n")
      = .ok [⟨["1"], "A", "a"⟩, ⟨["1"], "B", ""⟩] := by
    decide
  refine ⟨_, congrArg (Except.map fun rows => ofKeymap (.ofRows rows)) hrows, ?_, ?_⟩
  · exact (Keymap.read?_header (Table.isSplit_of_mem_rows hrows)).trans (by decide)
  · exact (Keymap.read?_source _).trans (by decide)

end Generation

end ScanCodes
