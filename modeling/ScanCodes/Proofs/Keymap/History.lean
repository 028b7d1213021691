import ScanCodes.Keymap
import ScanCodes.Proofs.SortedMap.Entries
import Mathlib.Data.List.Induction

/-!
# What a keymap remembers of its rows

A keymap is made by adding rows one after another, and every map in it is overwritten as the rows
come. Read back afterwards, each map is a lookup in the rows themselves: the keys and the characters
from the end, the first scan codes from the beginning.

## Main definitions

* `Row.key?`: the scan code of a row with its identifier, if the row takes part.
* `Row.char?`: the identifier of a row with its character, if the row takes part and has one.

## Main results

* `Keymap.get?_keys_ofRows`, `Keymap.get?_chars_ofRows`: the last row with a key gives its value.
* `Keymap.get?_firstCodes_ofRows`: the first row with an identifier gives its scan code.
* `Keymap.warnings_add`: the warnings that one more row adds.
-/

namespace ScanCodes

/-- The scan code of a row with the identifier of its name, if there is exactly one scan code. -/
def Row.key? (row : Row) : Option (String × Identifier) :=
  row.singleCode?.map fun code => (code, KeyName.identifier row.name)

/-- The identifier of a row with its character, if the row has exactly one scan code and types
one. -/
def Row.char? (row : Row) : Option (Identifier × String) :=
  if row.literal = "" then none else row.key?.map fun key => (key.2, row.literal)

theorem Row.key?_eq_some {row : Row} {code : String} {i : Identifier} :
    row.key? = some (code, i) ↔ row.singleCode? = some code ∧ KeyName.identifier row.name = i := by
  rw [key?, Option.map_eq_some_iff]
  constructor
  · rintro ⟨code', h, heq⟩
    cases heq
    exact ⟨h, rfl⟩
  · rintro ⟨h, rfl⟩
    exact ⟨code, h, rfl⟩

theorem Row.char?_eq_some {row : Row} {i : Identifier} {literal : String} :
    row.char? = some (i, literal) ↔
      (∃ code, row.key? = some (code, i)) ∧ row.literal = literal ∧ literal ≠ "" := by
  rw [char?]
  split
  · next h => simp only [reduceCtorEq, false_iff]; rintro ⟨-, rfl, hne⟩; exact hne h
  · next h =>
    rw [Option.map_eq_some_iff]
    constructor
    · rintro ⟨⟨code, j⟩, hkey, heq⟩
      cases heq
      exact ⟨⟨code, hkey⟩, rfl, h⟩
    · rintro ⟨⟨code, hkey⟩, rfl, -⟩
      exact ⟨(code, i), hkey, rfl⟩

namespace Keymap

/-! ### One more row -/

/-- A row with one scan code is added under it. -/
theorem add_of_key? {row : Row} {code : String} {i : Identifier} (h : row.key? = some (code, i))
    (m : Keymap) : m.add row = m.addKey code row := by
  rw [add, (Row.key?_eq_some.1 h).1]

/-- Any other row is counted and nothing else. -/
theorem add_of_key?_none {row : Row} (h : row.key? = none) (m : Keymap) :
    m.add row = m.skip row := by
  rw [add, Option.map_eq_none_iff.1 h]

theorem keys_add (m : Keymap) (row : Row) :
    (m.add row).keys = row.key?.elim m.keys fun key => m.keys.insert key.1 key.2 := by
  cases h : row.key? with
  | none => rw [add_of_key?_none h]; rfl
  | some key =>
    obtain ⟨code, i⟩ := key
    obtain ⟨-, rfl⟩ := Row.key?_eq_some.1 h
    rw [add_of_key? h]
    rfl

theorem chars_add (m : Keymap) (row : Row) :
    (m.add row).chars = row.char?.elim m.chars fun char => m.chars.insert char.1 char.2 := by
  cases h : row.key? with
  | none => simp [add_of_key?_none h, skip, Row.char?, h]
  | some key =>
    obtain ⟨code, i⟩ := key
    obtain ⟨-, rfl⟩ := Row.key?_eq_some.1 h
    by_cases hl : row.literal = "" <;> simp [add_of_key? h, addKey, Row.char?, h, hl]

theorem firstCodes_add (m : Keymap) (row : Row) :
    (m.add row).firstCodes = row.key?.elim m.firstCodes fun key =>
      if m.firstCodes.get? key.2 = none then m.firstCodes.insert key.2 key.1
      else m.firstCodes := by
  cases h : row.key? with
  | none => rw [add_of_key?_none h]; rfl
  | some key =>
    obtain ⟨code, i⟩ := key
    obtain ⟨-, rfl⟩ := Row.key?_eq_some.1 h
    rw [add_of_key? h, addKey]
    cases hf : m.firstCodes.get? (KeyName.identifier row.name) <;> simp [hf]

theorem warnings_add (m : Keymap) (row : Row) :
    (m.add row).report.warnings = m.report.warnings ++
      row.key?.elim [] fun key => m.warningsFor key.1 row.name key.2 := by
  cases h : row.key? with
  | none => simp only [add_of_key?_none h, skip, Option.elim_none, List.append_nil]; split <;> rfl
  | some key =>
    obtain ⟨code, i⟩ := key
    obtain ⟨-, rfl⟩ := Row.key?_eq_some.1 h
    rw [add_of_key? h]
    rfl

/-! ### All rows -/

private theorem lookup_cons {κ ν : Type} [DecidableEq κ] (k : κ) (e : κ × ν) (es : List (κ × ν)) :
    (e :: es).lookup k = if k = e.1 then some e.2 else es.lookup k := by
  obtain ⟨l, v⟩ := e
  by_cases h : k = l
  · simp [h]
  · rw [List.lookup_cons, beq_false_of_ne h, if_neg h]

/-- The last row with a scan code gives its identifier. -/
theorem get?_keys_ofRows (rows : List Row) (code : String) :
    (ofRows rows).keys.get? code = (rows.filterMap Row.key?).reverse.lookup code := by
  induction rows using List.reverseRecOn with
  | nil => rfl
  | append_singleton rows row ih =>
    rw [ofRows_concat, keys_add]
    cases h : row.key? with
    | none => simp [h, ih]
    | some key => simp [h, ih, SortedMap.get?_insert, lookup_cons]

/-- The last row with an identifier and a character gives its character. -/
theorem get?_chars_ofRows (rows : List Row) (i : Identifier) :
    (ofRows rows).chars.get? i = (rows.filterMap Row.char?).reverse.lookup i := by
  induction rows using List.reverseRecOn with
  | nil => rfl
  | append_singleton rows row ih =>
    rw [ofRows_concat, chars_add]
    cases h : row.char? with
    | none => simp [h, ih]
    | some char => simp [h, ih, SortedMap.get?_insert, lookup_cons]

/-- The first row with an identifier gives its first scan code. -/
theorem get?_firstCodes_ofRows (rows : List Row) (i : Identifier) :
    (ofRows rows).firstCodes.get? i = ((rows.filterMap Row.key?).map Prod.swap).lookup i := by
  induction rows using List.reverseRecOn with
  | nil => rfl
  | append_singleton rows row ih =>
    rw [ofRows_concat, firstCodes_add]
    cases h : row.key? with
    | none => simp [h, ih]
    | some key =>
      simp only [Option.elim_some, List.filterMap_append, List.map_append, List.lookup_append,
        List.filterMap_cons, h, List.filterMap_nil, List.map_cons, List.map_nil, lookup_cons,
        List.lookup_nil, Prod.fst_swap, Prod.snd_swap, ← ih]
      split
      · next hnone =>
        rw [SortedMap.get?_insert]
        split
        · next hi => rw [hi, hnone, Option.none_or]
        · rw [Option.or_none]
      · next hsome =>
        split
        · next hi =>
          obtain ⟨code, hcode⟩ := Option.ne_none_iff_exists'.1 hsome
          rw [hi, hcode, Option.some_or]
        · rw [Option.or_none]

/-- Every key of the map is that of a row. -/
theorem exists_row_of_key {rows : List Row} {code : String} {i : Identifier}
    (h : (ofRows rows).keys.get? code = some i) : ∃ row ∈ rows, row.key? = some (code, i) := by
  rw [get?_keys_ofRows, List.lookup_eq_some_iff] at h
  obtain ⟨before, after, heq, -⟩ := h
  have hmem : (code, i) ∈ (rows.filterMap Row.key?).reverse := by simp [heq]
  exact List.mem_filterMap.1 (List.mem_reverse.1 hmem)

/-- Every character of the map is that of a row. -/
theorem exists_row_of_char {rows : List Row} {i : Identifier} {literal : String}
    (h : (ofRows rows).chars.get? i = some literal) :
    ∃ row ∈ rows, row.char? = some (i, literal) := by
  rw [get?_chars_ofRows, List.lookup_eq_some_iff] at h
  obtain ⟨before, after, heq, -⟩ := h
  have hmem : (i, literal) ∈ (rows.filterMap Row.char?).reverse := by simp [heq]
  exact List.mem_filterMap.1 (List.mem_reverse.1 hmem)

end Keymap

end ScanCodes
