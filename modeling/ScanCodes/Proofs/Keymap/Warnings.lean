import ScanCodes.Proofs.Keymap.LastWord
import Mathlib.Data.List.Nodup

/-!
# The warnings of a list of rows

Each row is held against what the rows in front of it have left behind: against the scan code that
had its identifier first, which nothing overwrites, and against the identifier that its scan code
has just then, which every row with the scan code overwrites. So what is said of a row depends on
the earliest row with its identifier and on the latest row with its scan code, and on its own name.
Here the warnings are told in these terms, from the rows alone.

## Main definitions

* `Keymap.unfit`: what there is to say of an identifier in itself.
* `Keymap.noticed`: what there is to say of a row behind others.

## Main results

* `Keymap.mem_noticed_duplicateIdentifier`, `Keymap.mem_noticed_duplicateCode`: when a row uses
  something twice.
* `Keymap.warnings_ofRows_concat`: one more row adds what there is to say of it.
* `Keymap.warnings_ofRows`: the warnings are what there is to say of each row, in their order.
-/

namespace ScanCodes.Keymap

open Row

/-- An identifier of which nothing but the stem is left is reported with the name it comes from,
another one that C does not accept is reported itself. -/
def unfit (code name : String) (i : Identifier) : List Warning :=
  if i.isBare then [.emptyIdentifier code name]
  else if ¬i.isValid then [.invalidIdentifier code i]
  else []

/-- What there is to say of a row with exactly one scan code, behind the rows `before`: that its
identifier is unfit, that the first row with this identifier has another scan code, and that the
last row with this scan code has given it an identifier already. -/
def noticed (before : List Row) (row : Row) : List Warning :=
  row.singleCode?.elim [] fun code =>
    let i := KeyName.identifier row.name
    unfit code row.name i ++
      ((firstCode? before i).filter (· ≠ code)).toList.map (.duplicateIdentifier i · code) ++
      (lastIdentifier? before code).toList.map (.duplicateCode code · i)

variable {before : List Row} {row : Row} {code : String} {i : Identifier} {w : Warning}

theorem noticed_of_key? (h : row.key? = some (code, i)) :
    noticed before row =
      unfit code row.name i ++
        ((firstCode? before i).filter (· ≠ code)).toList.map (.duplicateIdentifier i · code) ++
        (lastIdentifier? before code).toList.map (.duplicateCode code · i) := by
  obtain ⟨hcode, rfl⟩ := key?_eq_some.1 h
  rw [noticed, hcode]
  rfl

theorem noticed_of_key?_none (h : row.key? = none) : noticed before row = [] := by
  rw [noticed, Option.map_eq_none_iff.1 h]
  rfl

/-! ### What is said of one row -/

theorem mem_noticed (h : row.key? = some (code, i)) :
    w ∈ noticed before row ↔ w ∈ unfit code row.name i ∨
      (∃ firstCode, (firstCode? before i = some firstCode ∧ firstCode ≠ code) ∧
        .duplicateIdentifier i firstCode code = w) ∨
      ∃ previous, lastIdentifier? before code = some previous ∧
        .duplicateCode code previous i = w := by
  rw [noticed_of_key? h, List.mem_append, List.mem_append, or_assoc, List.mem_map, List.mem_map]
  simp only [Option.mem_toList, Option.filter_eq_some_iff, decide_eq_true_eq]

theorem isDuplicate_of_mem_unfit {name : String} (h : w ∈ unfit code name i) :
    w.isDuplicate = false := by
  rw [unfit] at h
  split at h
  · rw [List.mem_singleton.1 h]
    rfl
  · split at h
    · rw [List.mem_singleton.1 h]
      rfl
    · cases h

/-- That an identifier is unfit does not depend on the rows in front. -/
theorem mem_noticed_of_isDuplicate_eq_false (hw : w.isDuplicate = false) :
    w ∈ noticed before row ↔ ∃ code i, row.key? = some (code, i) ∧ w ∈ unfit code row.name i := by
  cases hkey : row.key? with
  | none => simp [noticed_of_key?_none hkey]
  | some key =>
    obtain ⟨c, j⟩ := key
    rw [mem_noticed hkey]
    constructor
    · rintro (hunfit | ⟨firstCode, -, rfl⟩ | ⟨previous, -, rfl⟩)
      · exact ⟨c, j, rfl, hunfit⟩
      · cases hw
      · cases hw
    · rintro ⟨code, i, heq, hunfit⟩
      cases heq
      exact Or.inl hunfit

/-- An identifier is shared with the earliest row that has it. -/
theorem mem_noticed_duplicateIdentifier {firstCode : String} :
    .duplicateIdentifier i firstCode code ∈ noticed before row ↔
      row.key? = some (code, i) ∧ firstCode? before i = some firstCode ∧ firstCode ≠ code := by
  cases hkey : row.key? with
  | none => simp [noticed_of_key?_none hkey]
  | some key =>
    obtain ⟨c, j⟩ := key
    rw [mem_noticed hkey]
    constructor
    · rintro (hunfit | ⟨firstCode, hfirst, heq⟩ | ⟨previous, -, heq⟩)
      · cases isDuplicate_of_mem_unfit hunfit
      · cases heq
        exact ⟨rfl, hfirst⟩
      · cases heq
    · rintro ⟨heq, hfirst⟩
      cases heq
      exact Or.inr (Or.inl ⟨firstCode, hfirst, rfl⟩)

/-- A scan code is taken from the identifier of the latest row that uses it. -/
theorem mem_noticed_duplicateCode {previous : Identifier} :
    .duplicateCode code previous i ∈ noticed before row ↔
      row.key? = some (code, i) ∧ lastIdentifier? before code = some previous := by
  cases hkey : row.key? with
  | none => simp [noticed_of_key?_none hkey]
  | some key =>
    obtain ⟨c, j⟩ := key
    rw [mem_noticed hkey]
    constructor
    · rintro (hunfit | ⟨firstCode, -, heq⟩ | ⟨previous, hlast, heq⟩)
      · cases isDuplicate_of_mem_unfit hunfit
      · cases heq
      · cases heq
        exact ⟨rfl, hlast⟩
    · rintro ⟨heq, hlast⟩
      cases heq
      exact Or.inr (Or.inr ⟨previous, hlast, rfl⟩)

theorem nodup_unfit (code name : String) (i : Identifier) : (unfit code name i).Nodup := by
  rw [unfit]
  split
  · exact List.nodup_singleton _
  · split
    · exact List.nodup_singleton _
    · exact List.nodup_nil

/-- Nothing is said twice of one row. -/
theorem nodup_noticed (before : List Row) (row : Row) : (noticed before row).Nodup := by
  cases hkey : row.key? with
  | none =>
    rw [noticed_of_key?_none hkey]
    exact List.nodup_nil
  | some key =>
    obtain ⟨c, j⟩ := key
    have hshared := (Option.toList_nodup ((firstCode? before j).filter (· ≠ c))).map
      (f := (Warning.duplicateIdentifier j · c))
      fun _ _ heq => (Warning.duplicateIdentifier.inj heq).2.1
    have hreused := (Option.toList_nodup (lastIdentifier? before c)).map
      (f := (Warning.duplicateCode c · j)) fun _ _ heq => (Warning.duplicateCode.inj heq).2.1
    rw [noticed_of_key? hkey]
    refine ((nodup_unfit c row.name j).append hshared fun w hunfit hmem => ?_).append hreused
      fun w hleft hmem => ?_
    · obtain ⟨firstCode, -, rfl⟩ := List.mem_map.1 hmem
      cases isDuplicate_of_mem_unfit hunfit
    · obtain ⟨previous, -, rfl⟩ := List.mem_map.1 hmem
      rcases List.mem_append.1 hleft with hunfit | hleft
      · cases isDuplicate_of_mem_unfit hunfit
      · obtain ⟨firstCode, -, heq⟩ := List.mem_map.1 hleft
        cases heq

/-! ### The warnings of all rows -/

theorem degenerateWarning_eq (code name : String) (i : Identifier) :
    degenerateWarning code name i = unfit code name i := by
  rw [degenerateWarning, unfit]
  cases i.isValid <;> rfl

/-- The tables of the rows in front know what is asked of them. -/
theorem warningsFor_eq (h : row.key? = some (code, i)) :
    (ofRows before).warningsFor code row.name i = noticed before row := by
  rw [noticed_of_key? h, warningsFor, degenerateWarning_eq, duplicateIdentifierWarning,
    duplicateCodeWarning, get?_firstCodes_eq, get?_keys_eq]
  congr 2
  · cases firstCode? before i with
    | none => rfl
    | some firstCode => by_cases hcode : firstCode = code <;> simp [Option.filter, hcode]
  · cases lastIdentifier? before code <;> rfl

/-- One more row adds what there is to say of it. -/
theorem warnings_ofRows_concat (rows : List Row) (row : Row) :
    (ofRows (rows ++ [row])).report.warnings = (ofRows rows).report.warnings ++ noticed rows row := by
  rw [ofRows_concat, warnings_add]
  cases hkey : row.key? with
  | none => rw [noticed_of_key?_none hkey, Option.elim_none]
  | some key => rw [Option.elim_some, warningsFor_eq hkey]

/-- **The warnings are what there is to say of each row behind the rows in front of it**, in the
order of the rows. -/
theorem warnings_ofRows (rows : List Row) :
    (ofRows rows).report.warnings =
      rows.zipIdx.flatMap fun (row, n) => noticed (rows.take n) row := by
  induction rows using List.reverseRecOn with
  | nil => rfl
  | append_singleton rows row ih =>
    have hfront : ∀ p ∈ rows.zipIdx, noticed ((rows ++ [row]).take p.2) p.1 =
        noticed (rows.take p.2) p.1 := by
      intro p hp
      have hlt := (List.mem_zipIdx hp).2.1
      rw [List.take_append_of_le_length (by omega)]
    rw [warnings_ofRows_concat, ih, List.zipIdx_append, List.flatMap_append,
      List.flatMap_congr hfront]
    simp

example : (ofRows [⟨["1"], "A", "a"⟩, ⟨["2"], "A", ""⟩, ⟨["2"], "A", ""⟩]).report.warnings =
    [.duplicateIdentifier ⟨"KEYCODE_A"⟩ "1" "2", .duplicateIdentifier ⟨"KEYCODE_A"⟩ "1" "2",
      .duplicateCode "2" ⟨"KEYCODE_A"⟩ ⟨"KEYCODE_A"⟩] := by
  decide

end ScanCodes.Keymap
