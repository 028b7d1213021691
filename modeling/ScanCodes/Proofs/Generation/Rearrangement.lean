import ScanCodes.Proofs.Generation.Defects
import ScanCodes.Proofs.Keymap.Warnings

/-!
# Only the order of rows in conflict matters

Two rows are in conflict when they have one scan code or one identifier. The rows of a table can be
put in any order that leaves rows in conflict in theirs: what is left in the maps is what the last
row of each kind says, and what a row is warned of depends on the rows that it is in conflict with.
On the way the tables differ, and the warnings come in the order of the rows; but each comes as
often as before.

To count how often a warning comes it is enough to look at the rows of its scan code, or of its
identifier (`count_warnings_filter`). These are in the same order before and after.

## Main definitions

* `Row.IsRearrangement`: the same rows, those in conflict in the same order.
* `Keymap.IsAlike`: the same maps and files and counts, and the same warnings in some order.

## Main results

* `Row.IsRearrangement.swap`: neighbours that are not in conflict can change places.
* `Row.isRearrangement_of_no_duplicate`: where nothing is used twice, any order will do.
* `Keymap.perm_warnings`: rearranged rows have the same warnings.
* `Keymap.isAlike_of_rearrangement`: rearranged rows come to the same.
-/

namespace ScanCodes

/-! ### Rearranged rows -/

namespace Row

/-- The same rows in another order, which is the same among the rows with a scan code, and among
those with an identifier. -/
structure IsRearrangement (rows rows' : List Row) : Prop where
  perm : rows.Perm rows'
  withCode_eq : ∀ code, withCode rows code = withCode rows' code
  withIdentifier_eq : ∀ i, withIdentifier rows i = withIdentifier rows' i

section Having

variable {κ : Type} [DecidableEq κ] {feature : String × Identifier → κ}

/-- Two neighbours are not both among the rows with a feature that differs. -/
theorem having_swap (before after : List Row) {row row' : Row}
    (h : ∀ key ∈ row.key?, ∀ key' ∈ row'.key?, feature key ≠ feature key') (k : κ) :
    having feature (before ++ row :: row' :: after) k =
      having feature (before ++ row' :: row :: after) k := by
  have hboth : ¬(row.key?.map feature = some k ∧ row'.key?.map feature = some k) := by
    rintro ⟨hrow, hrow'⟩
    obtain ⟨key, hkey, rfl⟩ := Option.map_eq_some_iff.1 hrow
    obtain ⟨key', hkey', heq⟩ := Option.map_eq_some_iff.1 hrow'
    exact h key (Option.mem_def.2 hkey) key' (Option.mem_def.2 hkey') heq.symm
  rw [having, having, List.filter_append, List.filter_append, List.append_cancel_left_eq]
  by_cases hrow : row.key?.map feature = some k
  · have hrow' : row'.key?.map feature ≠ some k := fun hrow' => hboth ⟨hrow, hrow'⟩
    simp [hrow, hrow']
  · simp [List.filter_cons, hrow]

theorem having_having (rows : List Row) (k : κ) :
    having feature (having feature rows k) k = having feature rows k := by
  simp [having, List.filter_filter]

theorem length_having (rows : List Row) (k : κ) :
    (having feature rows k).length = ((rows.filterMap key?).map feature).count k := by
  induction rows with
  | nil => rfl
  | cons row rows ih =>
    rw [having] at ih ⊢
    cases hkey : row.key? with
    | none => simp [hkey, ih]
    | some key =>
      rw [List.filterMap_cons_some hkey, List.map_cons, List.count_cons, List.filter_cons, ← ih]
      by_cases hk : feature key = k <;> simp [hkey, hk]

/-- Rows that differ in a feature stand in one order only, among those with any value of it. -/
theorem having_eq_of_perm {rows rows' : List Row} (hperm : rows.Perm rows')
    (h : ((rows.filterMap key?).map feature).Nodup) (k : κ) :
    having feature rows k = having feature rows' k := by
  have hrows : (having feature rows k).Perm (having feature rows' k) := hperm.filter _
  have hlength : (having feature rows k).length ≤ 1 := by
    rw [length_having]
    exact List.nodup_iff_count_le_one.1 h k
  generalize having feature rows k = l at hrows hlength
  match l with
  | [] => exact hrows.nil_eq
  | [_] => exact hrows.singleton_eq

end Having

variable {rows rows' : List Row}

/-- Neighbours that are not in conflict can change places. -/
theorem IsRearrangement.swap (before after : List Row) (row row' : Row)
    (h : ∀ key ∈ row.key?, ∀ key' ∈ row'.key?, key.1 ≠ key'.1 ∧ key.2 ≠ key'.2) :
    IsRearrangement (before ++ row :: row' :: after) (before ++ row' :: row :: after) where
  perm := (List.Perm.swap row' row after).append_left before
  withCode_eq := having_swap before after fun key hkey key' hkey' => (h key hkey key' hkey').1
  withIdentifier_eq := having_swap before after fun key hkey key' hkey' => (h key hkey key' hkey').2

/-- Where nothing is used twice, any order will do. -/
theorem isRearrangement_of_no_duplicate (hperm : rows.Perm rows')
    (h : ∀ w ∈ (Keymap.ofRows rows).report.warnings, w.isDuplicate = false) :
    IsRearrangement rows rows' := by
  obtain ⟨hcodes, hids⟩ := Keymap.nodup_of_no_duplicate h
  exact ⟨hperm, having_eq_of_perm hperm hcodes, having_eq_of_perm hperm hids⟩

end Row

namespace Keymap

open Row

/-! ### Counts of rows -/

theorem rows_ofRows (rows : List Row) : (ofRows rows).report.rows = rows.length := by
  induction rows using List.reverseRecOn with
  | nil => rfl
  | append_singleton rows row ih =>
    rw [ofRows_concat, rows_add, ih, List.length_append, List.length_singleton]

theorem skippedEmpty_add (m : Keymap) (row : Row) :
    (m.add row).report.skippedEmpty =
      m.report.skippedEmpty + if row.codes = [] then 1 else 0 := by
  obtain ⟨codes, name, literal⟩ := row
  match codes with
  | [] => rfl
  | [_] => rfl
  | _ :: _ :: _ => rfl

theorem skippedMultiCode_add (m : Keymap) (row : Row) :
    (m.add row).report.skippedMultiCode =
      m.report.skippedMultiCode + if 2 ≤ row.codes.length then 1 else 0 := by
  obtain ⟨codes, name, literal⟩ := row
  match codes with
  | [] => rfl
  | [_] => rfl
  | _ :: _ :: _ => simp [add, singleCode?, skip]

theorem skippedEmpty_ofRows (rows : List Row) :
    (ofRows rows).report.skippedEmpty = rows.countP (·.codes = []) := by
  induction rows using List.reverseRecOn with
  | nil => rfl
  | append_singleton rows row ih =>
    rw [ofRows_concat, skippedEmpty_add, ih, List.countP_append, List.countP_singleton]
    simp

theorem skippedMultiCode_ofRows (rows : List Row) :
    (ofRows rows).report.skippedMultiCode = rows.countP (2 ≤ ·.codes.length) := by
  induction rows using List.reverseRecOn with
  | nil => rfl
  | append_singleton rows row ih =>
    rw [ofRows_concat, skippedMultiCode_add, ih, List.countP_append, List.countP_singleton]
    simp

/-! ### Counts of warnings -/

section Counts

variable {w : Warning}

theorem count_noticed_congr {before before' : List Row} {row : Row}
    (h : w ∈ noticed before row ↔ w ∈ noticed before' row) :
    (noticed before row).count w = (noticed before' row).count w := by
  rw [(nodup_noticed before row).count, (nodup_noticed before' row).count]
  simp only [h]

/-- A warning that is given of some rows only, and depends on these alone, is given as often where
the others are left out. -/
theorem count_warnings_filter (p : Row → Bool)
    (hnone : ∀ before row, p row = false → w ∉ noticed before row)
    (hsome : ∀ before row, p row = true →
      (w ∈ noticed before row ↔ w ∈ noticed (before.filter p) row)) (rows : List Row) :
    (ofRows rows).report.warnings.count w = (ofRows (rows.filter p)).report.warnings.count w := by
  induction rows using List.reverseRecOn with
  | nil => rfl
  | append_singleton rows row ih =>
    rw [warnings_ofRows_concat, List.count_append, ih, List.filter_append]
    cases hrow : p row with
    | false =>
      rw [List.count_eq_zero_of_not_mem (hnone rows row hrow)]
      simp [hrow]
    | true =>
      rw [count_noticed_congr (hsome rows row hrow), List.filter_cons_of_pos hrow, List.filter_nil,
        warnings_ofRows_concat, List.count_append]

theorem count_duplicateIdentifier (rows : List Row) (i : Identifier) (firstCode code : String) :
    (ofRows rows).report.warnings.count (.duplicateIdentifier i firstCode code) =
      (ofRows (withIdentifier rows i)).report.warnings.count
        (.duplicateIdentifier i firstCode code) := by
  refine count_warnings_filter _ (fun before row hrow hmem => ?_) (fun before row _ => ?_) rows
  · rw [decide_eq_false_iff_not, (mem_noticed_duplicateIdentifier.1 hmem).1] at hrow
    exact hrow rfl
  · have hfirst : firstCode? (withIdentifier before i) i = firstCode? before i := by
      rw [firstCode?, withIdentifier, withIdentifier, having_having]
      rfl
    rw [mem_noticed_duplicateIdentifier, mem_noticed_duplicateIdentifier, ← hfirst]
    rfl

theorem count_duplicateCode (rows : List Row) (code : String) (previous i : Identifier) :
    (ofRows rows).report.warnings.count (.duplicateCode code previous i) =
      (ofRows (withCode rows code)).report.warnings.count (.duplicateCode code previous i) := by
  refine count_warnings_filter _ (fun before row hrow hmem => ?_) (fun before row _ => ?_) rows
  · rw [decide_eq_false_iff_not, (mem_noticed_duplicateCode.1 hmem).1] at hrow
    exact hrow rfl
  · have hlast : lastIdentifier? (withCode before code) code = lastIdentifier? before code := by
      rw [lastIdentifier?, withCode, withCode, having_having]
      rfl
    rw [mem_noticed_duplicateCode, mem_noticed_duplicateCode, ← hlast]
    rfl

/-- That an identifier is unfit is said of its rows wherever they stand. -/
theorem count_of_isDuplicate_eq_false (hw : w.isDuplicate = false) (rows : List Row) :
    (ofRows rows).report.warnings.count w = rows.countP (w ∈ noticed [] ·) := by
  induction rows using List.reverseRecOn with
  | nil => rfl
  | append_singleton rows row ih =>
    have hfront : w ∈ noticed rows row ↔ w ∈ noticed [] row := by
      rw [mem_noticed_of_isDuplicate_eq_false hw, mem_noticed_of_isDuplicate_eq_false hw]
    rw [warnings_ofRows_concat, List.count_append, ih, count_noticed_congr hfront,
      (nodup_noticed [] row).count, List.countP_append, List.countP_singleton]
    simp only [decide_eq_true_eq]

end Counts

/-- Rearranged rows have the same warnings. -/
theorem perm_warnings {rows rows' : List Row} (h : IsRearrangement rows rows') :
    (ofRows rows).report.warnings.Perm (ofRows rows').report.warnings := by
  refine List.perm_iff_count.2 fun w => ?_
  cases w with
  | duplicateCode code previous i =>
    rw [count_duplicateCode, h.withCode_eq, ← count_duplicateCode]
  | duplicateIdentifier i firstCode code =>
    rw [count_duplicateIdentifier, h.withIdentifier_eq, ← count_duplicateIdentifier]
  | emptyIdentifier | invalidIdentifier =>
    rw [count_of_isDuplicate_eq_false rfl, count_of_isDuplicate_eq_false rfl]
    exact h.perm.countP_eq _

/-! ### All that rows come to -/

/-- Two keymaps say the same, their warnings in some order. -/
structure IsAlike (m n : Keymap) : Prop where
  keys : m.keys = n.keys
  chars : m.chars = n.chars
  artifacts : (Generation.ofKeymap m).artifacts = (Generation.ofKeymap n).artifacts
  rows : m.report.rows = n.report.rows
  skippedMultiCode : m.report.skippedMultiCode = n.report.skippedMultiCode
  skippedEmpty : m.report.skippedEmpty = n.report.skippedEmpty
  warnings : m.report.warnings.Perm n.report.warnings

theorem isAlike {rows rows' : List Row} (h : IsRearrangement rows rows') :
    (ofRows rows).IsAlike (ofRows rows') := by
  have hkeys : (ofRows rows).keys = (ofRows rows').keys := SortedMap.ext_get? fun code => by
    rw [get?_keys_eq, get?_keys_eq, lastIdentifier?, lastIdentifier?, h.withCode_eq]
  have hchars : (ofRows rows).chars = (ofRows rows').chars := SortedMap.ext_get? fun i => by
    rw [get?_chars_eq, get?_chars_eq, lastLiteral?, lastLiteral?, h.withIdentifier_eq]
  exact {
    keys := hkeys
    chars := hchars
    artifacts := by rw [Generation.ofKeymap, Generation.ofKeymap, hkeys, hchars]
    rows := by rw [rows_ofRows, rows_ofRows, h.perm.length_eq]
    skippedMultiCode := by
      rw [skippedMultiCode_ofRows, skippedMultiCode_ofRows, h.perm.countP_eq]
    skippedEmpty := by rw [skippedEmpty_ofRows, skippedEmpty_ofRows, h.perm.countP_eq]
    warnings := perm_warnings h }

/-- **Only the order of rows in conflict matters.** Rearranged rows come to the same; and where
nothing is used twice, rows in any order do. -/
theorem isAlike_of_rearrangement :
    (∀ rows rows', IsRearrangement rows rows' → (ofRows rows).IsAlike (ofRows rows')) ∧
      ∀ rows rows', rows.Perm rows' →
        (∀ w ∈ (ofRows rows).report.warnings, w.isDuplicate = false) →
          (ofRows rows).IsAlike (ofRows rows') :=
  ⟨fun _ _ h => isAlike h, fun _ _ hperm h => isAlike (isRearrangement_of_no_duplicate hperm h)⟩

/-- The rows that use `1` and `2` again can change places, and their warnings do. Two rows that use
nothing twice can stand in either order. -/
theorem isAlike_of_rearrangement_reused :
    IsRearrangement [⟨["1"], "A", "a"⟩, ⟨["2"], "B", ""⟩, ⟨["1"], "A", "x"⟩, ⟨["2"], "B", "b"⟩]
        [⟨["1"], "A", "a"⟩, ⟨["2"], "B", ""⟩, ⟨["2"], "B", "b"⟩, ⟨["1"], "A", "x"⟩] ∧
      (ofRows [⟨["1"], "A", "a"⟩, ⟨["2"], "B", ""⟩, ⟨["1"], "A", "x"⟩,
        ⟨["2"], "B", "b"⟩]).IsAlike
          (ofRows [⟨["1"], "A", "a"⟩, ⟨["2"], "B", ""⟩, ⟨["2"], "B", "b"⟩, ⟨["1"], "A", "x"⟩]) ∧
      (∀ w ∈ (ofRows [⟨["1"], "A", "a"⟩, ⟨["2"], "B", "b"⟩]).report.warnings,
        w.isDuplicate = false) ∧
      (ofRows [⟨["1"], "A", "a"⟩, ⟨["2"], "B", "b"⟩]).IsAlike
        (ofRows [⟨["2"], "B", "b"⟩, ⟨["1"], "A", "a"⟩]) := by
  have hswap := IsRearrangement.swap [⟨["1"], "A", "a"⟩, ⟨["2"], "B", ""⟩] [] ⟨["1"], "A", "x"⟩
    ⟨["2"], "B", "b"⟩ (by decide)
  have hnone : ∀ w ∈ (ofRows [⟨["1"], "A", "a"⟩, ⟨["2"], "B", "b"⟩]).report.warnings,
      w.isDuplicate = false := by
    decide
  exact ⟨hswap, isAlike_of_rearrangement.1 _ _ hswap, hnone,
    isAlike_of_rearrangement.2 _ _ (List.Perm.swap _ _ _) hnone⟩

end Keymap

end ScanCodes
