import ScanCodes.Proofs.Generation.Defects

/-!
# Every row is accounted for

A row is left out, or it brings a scan code, or it uses one again and is warned of. The four numbers
are kept in four places: two counters, the size of a map that is overwritten, and a list of warnings
in which others stand between. They are in balance with the number of rows all the same, since each
row adds one to exactly one of them.

A row that is left out adds to its counter and does nothing else. It makes no difference whether it
is left out where it stands or at the end, behind all rows that follow it; so what these amount to
does not depend on it.

## Main definitions

* `Report.reusedCodes`: how often a scan code has been used again.
* `Keymap.IsBalanced`: every row is accounted for.
* `Keymap.LeavesNoTrace`: one more row has been counted, and nothing else has changed.

## Main results

* `Keymap.IsBalanced.add`: each row is accounted for once.
* `Keymap.add_skip`: a row can be left out before another one or after it.
* `Keymap.balanced_and_traceless`: rows are accounted for, and those left out leave no trace.
-/

namespace ScanCodes

/-- Does the warning say that a scan code has been used again? -/
def Warning.isDuplicateCode : Warning → Bool
  | .duplicateCode .. => true
  | _ => false

/-- How often a scan code has been used again. -/
def Report.reusedCodes (r : Report) : Nat :=
  r.warnings.countP Warning.isDuplicateCode

namespace Keymap

variable {m : Keymap} {row : Row}

/-! ### The balance -/

/-- Every row has been left out, or has brought a scan code, or has used one again. -/
def IsBalanced (m : Keymap) : Prop :=
  m.report.rows =
    m.report.skippedMultiCode + m.report.skippedEmpty + m.keys.size + m.report.reusedCodes

/-- Of the warnings about one row at most one is about its scan code. -/
theorem countP_warningsFor (m : Keymap) (code name : String) (i : Identifier) :
    (m.warningsFor code name i).countP Warning.isDuplicateCode =
      if (m.keys.get? code).isSome then 1 else 0 := by
  have hunfit : (degenerateWarning code name i).countP Warning.isDuplicateCode = 0 := by
    rw [degenerateWarning]
    split
    · rfl
    · split <;> rfl
  have hshared : (m.duplicateIdentifierWarning code i).countP Warning.isDuplicateCode = 0 := by
    rw [duplicateIdentifierWarning]
    split
    · rfl
    · split <;> rfl
  rw [warningsFor, List.countP_append, List.countP_append, hunfit, hshared, duplicateCodeWarning]
  cases m.keys.get? code <;> rfl

theorem reusedCodes_add (m : Keymap) (row : Row) :
    (m.add row).report.reusedCodes = m.report.reusedCodes +
      row.key?.elim 0 fun key => if (m.keys.get? key.1).isSome then 1 else 0 := by
  rw [Report.reusedCodes, warnings_add, List.countP_append, Report.reusedCodes]
  cases row.key? with
  | none => rfl
  | some key => rw [Option.elim_some, Option.elim_some, countP_warningsFor]

theorem size_keys_add (m : Keymap) (row : Row) :
    (m.add row).keys.size = m.keys.size +
      row.key?.elim 0 fun key => if (m.keys.get? key.1).isSome then 0 else 1 := by
  rw [keys_add]
  cases row.key? with
  | none => rfl
  | some key => rw [Option.elim_some, Option.elim_some, SortedMap.size_insert]

/-- **Each row is accounted for once.** -/
theorem IsBalanced.add (h : m.IsBalanced) (row : Row) : (m.add row).IsBalanced := by
  have hskipped := skippedRows_add m row
  rw [Report.skippedRows, Report.skippedRows] at hskipped
  rw [IsBalanced] at h
  rw [IsBalanced, rows_add, hskipped, size_keys_add, reusedCodes_add, h]
  cases row.key? with
  | none => simp only [Option.isSome_none, Option.elim_none, Bool.false_eq_true, if_false]; omega
  | some key => simp only [Option.isSome_some, Option.elim_some, if_true]; split <;> omega

theorem isBalanced_ofRows (rows : List Row) : (ofRows rows).IsBalanced := by
  induction rows using List.reverseRecOn with
  | nil => rfl
  | append_singleton rows row ih =>
    rw [ofRows_concat]
    exact ih.add row

/-! ### Rows that are left out -/

/-- The second keymap has counted one more row, which has been left out, and is the same in all
else. -/
structure LeavesNoTrace (row : Row) (m n : Keymap) : Prop where
  keys : n.keys = m.keys
  chars : n.chars = m.chars
  artifacts : (Generation.ofKeymap n).artifacts = (Generation.ofKeymap m).artifacts
  warnings : n.report.warnings = m.report.warnings
  rows : n.report.rows = m.report.rows + 1
  skippedEmpty : n.report.skippedEmpty =
    m.report.skippedEmpty + if row.codes.length = 0 then 1 else 0
  skippedMultiCode : n.report.skippedMultiCode =
    m.report.skippedMultiCode + if 2 ≤ row.codes.length then 1 else 0

theorem leavesNoTrace_skip (m : Keymap) (h : row.codes.length ≠ 1) :
    LeavesNoTrace row m (m.skip row) := by
  by_cases hnil : row.codes = []
  · constructor <;> simp [skip, hnil, Generation.ofKeymap]
  · have hpos : 0 < row.codes.length := List.length_pos_iff.2 hnil
    have htwo : 2 ≤ row.codes.length := by omega
    constructor <;> simp [skip, hnil, htwo, Generation.ofKeymap]

/-- **A row can be left out before another one or after it.** -/
theorem add_skip (m : Keymap) (row row' : Row) : (m.skip row).add row' = (m.add row').skip row := by
  rw [add, add]
  cases row'.singleCode? with
  | some code =>
    -- the maps and warnings of the row do not look at the counters
    simp only [skip, addKey]
    by_cases hnil : row.codes = []
    · simp only [hnil, if_true]
      rfl
    · simp only [hnil, if_false]
      rfl
  | none =>
    simp only [skip]
    split <;> split <;> rfl

/-- It can be left out behind all rows that follow it. -/
theorem foldl_add_skip (m : Keymap) (row : Row) (rows : List Row) :
    rows.foldl add (m.skip row) = (rows.foldl add m).skip row := by
  induction rows generalizing m with
  | nil => rfl
  | cons next rows ih => rw [List.foldl_cons, List.foldl_cons, add_skip, ih]

/-- Rows with one more among them that is left out. -/
theorem ofRows_append_cons (h : row.codes.length ≠ 1) (before after : List Row) :
    ofRows (before ++ row :: after) = (ofRows (before ++ after)).skip row := by
  have hnone : row.singleCode? = none := by
    cases hcode : row.singleCode? with
    | none => rfl
    | some code => exact absurd (by rw [Row.singleCode?_eq_some.1 hcode]; rfl) h
  have hadd : ∀ m : Keymap, m.add row = m.skip row := fun m => by rw [add, hnone]
  rw [ofRows, ofRows, List.foldl_append, List.foldl_append, List.foldl_cons, hadd, foldl_add_skip]

/-- **Every row is accounted for, and rows that are left out leave no trace**, wherever they
stand. -/
theorem balanced_and_traceless :
    (∀ rows, (ofRows rows).IsBalanced) ∧
      ∀ before row after, row.codes.length ≠ 1 →
        LeavesNoTrace row (ofRows (before ++ after)) (ofRows (before ++ row :: after)) := by
  refine ⟨isBalanced_ofRows, fun before row after h => ?_⟩
  rw [ofRows_append_cons h]
  exact leavesNoTrace_skip _ h

/-- A row without a scan code between two rows that share one, and a chord in front of them. -/
theorem balanced_and_traceless_blank_and_chord :
    (⟨[], "C", "c"⟩ : Row).codes.length ≠ 1 ∧
      LeavesNoTrace ⟨[], "C", "c"⟩ (ofRows [⟨["1"], "A", "a"⟩, ⟨["1"], "B", "b"⟩])
        (ofRows [⟨["1"], "A", "a"⟩, ⟨[], "C", "c"⟩, ⟨["1"], "B", "b"⟩]) ∧
      (⟨["1", "2"], "A", "c"⟩ : Row).codes.length ≠ 1 ∧
      LeavesNoTrace ⟨["1", "2"], "A", "c"⟩ (ofRows [⟨["1"], "A", "a"⟩, ⟨["1"], "B", "b"⟩])
        (ofRows [⟨["1", "2"], "A", "c"⟩, ⟨["1"], "A", "a"⟩, ⟨["1"], "B", "b"⟩]) :=
  ⟨by decide, balanced_and_traceless.2 [⟨["1"], "A", "a"⟩] ⟨[], "C", "c"⟩ [⟨["1"], "B", "b"⟩]
      (by decide),
    by decide, balanced_and_traceless.2 [] ⟨["1", "2"], "A", "c"⟩ _ (by decide)⟩

end Keymap

end ScanCodes
