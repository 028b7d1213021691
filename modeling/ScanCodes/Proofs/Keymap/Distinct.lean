import ScanCodes.Proofs.Keymap.History
import Mathlib.Data.List.Nodup

/-!
# Tables without duplicates

A row is lost from a keymap only to a later row, and a later row that takes its place is warned of.
So where no duplicate is warned of nothing is lost: scan codes and identifiers are distinct, and the
entries of the two maps are those of the rows, sorted.

## Main results

* `Keymap.nodup_of_no_duplicate`: without duplicate warnings scan codes and identifiers are
  distinct.
* `Keymap.perm_entries_keys`, `Keymap.perm_entries_chars`: the maps then hold what the rows say.
-/

namespace ScanCodes

/-! ### Lookups in a list with distinct keys -/

section Lookup

variable {κ ν : Type} [DecidableEq κ]

/-- Where no key is listed twice, a lookup finds every entry that is listed. -/
theorem lookup_eq_some_iff_mem {ps : List (κ × ν)} (h : (ps.map Prod.fst).Nodup) {k : κ} {v : ν} :
    ps.lookup k = some v ↔ (k, v) ∈ ps := by
  rw [List.lookup_eq_some_iff]
  constructor
  · rintro ⟨before, after, rfl, -⟩
    simp
  · intro hmem
    obtain ⟨before, after, rfl⟩ := List.append_of_mem hmem
    refine ⟨before, after, rfl, fun p hp => ?_⟩
    rw [List.map_append, List.map_cons, List.nodup_append'] at h
    have hdisjoint := h.2.2 (List.mem_map_of_mem (f := Prod.fst) hp)
    rw [bne_iff_ne]
    rintro rfl
    exact hdisjoint List.mem_cons_self

/-- A map that answers like a list with distinct keys, whichever end it is searched from, has its
entries. -/
theorem SortedMap.perm_entries [Ord κ] [Std.TransOrd κ] [Std.LawfulEqOrd κ] {m : SortedMap κ ν}
    {ps : List (κ × ν)} (hget : ∀ k, m.get? k = ps.reverse.lookup k)
    (h : (ps.map Prod.fst).Nodup) : m.entries.Perm ps := by
  have hrev : (ps.reverse.map Prod.fst).Nodup := by
    rw [List.map_reverse]
    exact List.nodup_reverse.2 h
  refine (List.perm_ext_iff_of_nodup m.nodup_entries h.of_map).2 fun p => ?_
  obtain ⟨k, v⟩ := p
  rw [mem_entries_iff, hget, lookup_eq_some_iff_mem hrev, List.mem_reverse]

end Lookup

namespace Keymap

/-! ### What the warnings tell -/

/-- A second row with a scan code is always warned of. -/
theorem get?_keys_of_no_duplicate {m : Keymap} {code name : String} {i : Identifier}
    (h : ∀ w ∈ m.warningsFor code name i, w.isDuplicate = false) : m.keys.get? code = none := by
  cases hc : m.keys.get? code with
  | none => rfl
  | some previous =>
    have hw : Warning.duplicateCode code previous i ∈ m.warningsFor code name i := by
      simp [warningsFor, duplicateCodeWarning, hc]
    cases h _ hw

/-- A second scan code with an identifier is always warned of. -/
theorem get?_firstCodes_of_no_duplicate {m : Keymap} {code name : String} {i : Identifier}
    (h : ∀ w ∈ m.warningsFor code name i, w.isDuplicate = false) :
    ∀ firstCode, m.firstCodes.get? i = some firstCode → firstCode = code := by
  intro firstCode hf
  by_contra hne
  have hw : Warning.duplicateIdentifier i firstCode code ∈ m.warningsFor code name i := by
    simp [warningsFor, duplicateIdentifierWarning, hf, hne]
  cases h _ hw

/-- **Without duplicate warnings nothing is used twice.** -/
theorem nodup_of_no_duplicate {rows : List Row}
    (h : ∀ w ∈ (ofRows rows).report.warnings, w.isDuplicate = false) :
    ((rows.filterMap Row.key?).map Prod.fst).Nodup ∧
      ((rows.filterMap Row.key?).map Prod.snd).Nodup := by
  induction rows using List.reverseRecOn with
  | nil => simp
  | append_singleton rows row ih =>
    rw [ofRows_concat, warnings_add] at h
    obtain ⟨hcodes, hids⟩ := ih fun w hw => h w (List.mem_append_left _ hw)
    cases hkey : row.key? with
    | none => simpa [hkey] using ⟨hcodes, hids⟩
    | some key =>
      obtain ⟨code, i⟩ := key
      have hnew : ∀ w ∈ (ofRows rows).warningsFor code row.name i, w.isDuplicate = false :=
        fun w hw => h w (List.mem_append_right _ (by simpa [hkey] using hw))
      have hcode : code ∉ (rows.filterMap Row.key?).map Prod.fst := by
        have hnone := get?_keys_of_no_duplicate hnew
        rw [get?_keys_ofRows, List.lookup_eq_none_iff] at hnone
        intro hmem
        obtain ⟨p, hp, rfl⟩ := List.mem_map.1 hmem
        simpa using hnone p (List.mem_reverse.2 hp)
      have hid : i ∉ (rows.filterMap Row.key?).map Prod.snd := by
        intro hmem
        obtain ⟨p, hp, rfl⟩ := List.mem_map.1 hmem
        have hswap : (((rows.filterMap Row.key?).map Prod.swap).map Prod.fst).Nodup := by
          simpa [List.map_map, Function.comp_def] using hids
        have hfirst := get?_firstCodes_of_no_duplicate hnew p.1 (by
          rw [get?_firstCodes_ofRows, lookup_eq_some_iff_mem hswap]
          exact List.mem_map.2 ⟨p, hp, rfl⟩)
        exact hcode (List.mem_map.2 ⟨p, hp, hfirst⟩)
      simp only [List.filterMap_append, List.filterMap_cons, hkey, List.filterMap_nil,
        List.map_append, List.map_cons, List.map_nil]
      rw [← List.concat_eq_append, ← List.concat_eq_append]
      exact ⟨hcodes.concat hcode, hids.concat hid⟩

/-! ### The maps -/

theorem perm_entries_keys {rows : List Row} (h : ((rows.filterMap Row.key?).map Prod.fst).Nodup) :
    (ofRows rows).keys.entries.Perm (rows.filterMap Row.key?) :=
  SortedMap.perm_entries (get?_keys_ofRows rows) h

/-- The identifiers that type a character are among all identifiers. -/
theorem sublist_chars (rows : List Row) :
    ((rows.filterMap Row.char?).map Prod.fst).Sublist ((rows.filterMap Row.key?).map Prod.snd) := by
  induction rows with
  | nil => exact List.Sublist.refl _
  | cons row rows ih =>
    cases hkey : row.key? with
    | none => simpa [hkey, Row.char?] using ih
    | some key =>
      by_cases hl : row.literal = ""
      · simpa [hkey, Row.char?, hl] using ih.cons key.2
      · simpa [hkey, Row.char?, hl] using ih

theorem perm_entries_chars {rows : List Row} (h : ((rows.filterMap Row.key?).map Prod.snd).Nodup) :
    (ofRows rows).chars.entries.Perm (rows.filterMap Row.char?) :=
  SortedMap.perm_entries (get?_chars_ofRows rows) ((sublist_chars rows).nodup h)

end Keymap

end ScanCodes
