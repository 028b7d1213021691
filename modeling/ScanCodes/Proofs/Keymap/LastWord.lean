import ScanCodes.Proofs.Keymap.Losses

/-!
# The last word

Rows come one after another and overwrite the maps as they come, the two maps under different keys:
a row without a character leaves the character of its identifier alone, and a row that takes a scan
code from an identifier leaves that identifier its character. What is left at the end can be told
from the rows without making the maps. Of the rows with a scan code the last one has given its
identifier, and of the rows with an identifier the last one with a character has given that. Only
the table of first scan codes is never overwritten, and asks for the first row.

## Main definitions

* `Row.withCode`, `Row.withIdentifier`: the rows with a scan code, and those with an identifier;
  both are cases of `Row.having`.
* `Row.lastIdentifier?`, `Row.lastLiteral?`, `Row.firstCode?`: what these rows say.
* `SortedMap.Lists`: a map has the entries of a function, each once and in ascending order.

## Main results

* `Keymap.get?_firstCodes_eq`: the first scan codes are those of the rows.
* `Keymap.last_wins`: the maps are what the rows say, the last one first.
-/

namespace ScanCodes

/-! ### What the rows say -/

namespace Row

/-- The rows with exactly one scan code whose key has a certain feature: its scan code, or its
identifier. -/
def having {κ : Type} [DecidableEq κ] (feature : String × Identifier → κ) (rows : List Row) (k : κ) :
    List Row :=
  rows.filter fun row => row.key?.map feature = some k

/-- The rows whose only scan code it is. -/
def withCode (rows : List Row) (code : String) : List Row :=
  having Prod.fst rows code

/-- The rows with exactly one scan code whose name has the identifier. -/
def withIdentifier (rows : List Row) (i : Identifier) : List Row :=
  having Prod.snd rows i

/-- The identifier of the last row with the scan code. -/
def lastIdentifier? (rows : List Row) (code : String) : Option Identifier :=
  (withCode rows code).getLast?.map fun row => KeyName.identifier row.name

/-- The character of the last row with the identifier that has one. -/
def lastLiteral? (rows : List Row) (i : Identifier) : Option String :=
  ((withIdentifier rows i).filter fun row => row.literal ≠ "").getLast?.map Row.literal

/-- The scan code of the first row with the identifier. -/
def firstCode? (rows : List Row) (i : Identifier) : Option String :=
  (withIdentifier rows i).head?.bind Row.singleCode?

section Having

variable {κ : Type} [DecidableEq κ] {feature : String × Identifier → κ} {rows : List Row} {row : Row}
  {k : κ}

theorem having_concat_self (rows : List Row) {key : String × Identifier} (h : row.key? = some key) :
    having feature (rows ++ [row]) (feature key) = having feature rows (feature key) ++ [row] := by
  simp [having, h]

theorem having_concat_of_ne (rows : List Row) (h : ∀ key, row.key? = some key → feature key ≠ k) :
    having feature (rows ++ [row]) k = having feature rows k := by
  cases hkey : row.key? with
  | none => simp [having, hkey]
  | some key => simp [having, hkey, h key hkey]

theorem exists_key_of_mem_having (h : row ∈ having feature rows k) :
    ∃ key, row.key? = some key ∧ feature key = k :=
  Option.map_eq_some_iff.1 (of_decide_eq_true (List.mem_filter.1 h).2)

end Having

variable {rows : List Row} {row : Row} {code : String} {i : Identifier}

theorem withCode_concat_self (rows : List Row) (h : row.key? = some (code, i)) :
    withCode (rows ++ [row]) code = withCode rows code ++ [row] :=
  having_concat_self rows h

theorem withCode_concat_of_ne (rows : List Row) (h : ∀ i, row.key? ≠ some (code, i)) :
    withCode (rows ++ [row]) code = withCode rows code :=
  having_concat_of_ne rows fun key hkey heq => h key.2 (by rw [hkey, ← heq])

theorem withIdentifier_concat_self (rows : List Row) (h : row.key? = some (code, i)) :
    withIdentifier (rows ++ [row]) i = withIdentifier rows i ++ [row] :=
  having_concat_self rows h

theorem withIdentifier_concat_of_ne (rows : List Row) (h : ∀ code, row.key? ≠ some (code, i)) :
    withIdentifier (rows ++ [row]) i = withIdentifier rows i :=
  having_concat_of_ne rows fun key hkey heq => h key.1 (by rw [hkey, ← heq])

theorem exists_code_of_mem_withIdentifier (h : row ∈ withIdentifier rows i) :
    ∃ code, row.singleCode? = some code := by
  obtain ⟨key, hkey, -⟩ := exists_key_of_mem_having h
  exact ⟨key.1, (key?_eq_some.1 hkey).1⟩

end Row

namespace Keymap

open Row

/-! ### The maps of a list of rows -/

theorem get?_keys_eq (rows : List Row) (code : String) :
    (ofRows rows).keys.get? code = lastIdentifier? rows code := by
  induction rows using List.reverseRecOn with
  | nil => rfl
  | append_singleton rows row ih =>
    rw [ofRows_concat, lastIdentifier?]
    by_cases hrow : ∃ i, row.key? = some (code, i)
    · obtain ⟨i, hkey⟩ := hrow
      rw [get?_keys_add_self _ hkey, withCode_concat_self rows hkey, List.getLast?_concat,
        Option.map_some, (key?_eq_some.1 hkey).2]
    · rw [not_exists] at hrow
      rw [get?_keys_add_of_ne _ hrow, ih, withCode_concat_of_ne rows hrow, lastIdentifier?]

theorem get?_chars_eq (rows : List Row) (i : Identifier) :
    (ofRows rows).chars.get? i = lastLiteral? rows i := by
  induction rows using List.reverseRecOn with
  | nil => rfl
  | append_singleton rows row ih =>
    rw [ofRows_concat, lastLiteral?]
    by_cases hrow : ∃ code, row.key? = some (code, i)
    · obtain ⟨code, hkey⟩ := hrow
      rw [withIdentifier_concat_self rows hkey, List.filter_append]
      by_cases hliteral : row.literal = ""
      · -- a row without a character does not erase an earlier one
        have hne : ∀ literal, row.char? ≠ some (i, literal) := fun literal hchar =>
          (char?_eq_some.1 hchar).2.2 ((char?_eq_some.1 hchar).2.1 ▸ hliteral)
        rw [get?_chars_add_of_ne _ hne, ih, lastLiteral?]
        simp [hliteral]
      · have hchar : row.char? = some (i, row.literal) :=
          char?_eq_some.2 ⟨⟨code, hkey⟩, rfl, hliteral⟩
        rw [get?_chars_add_self _ hchar]
        simp [hliteral]
    · rw [not_exists] at hrow
      have hne : ∀ literal, row.char? ≠ some (i, literal) := fun literal hchar =>
        (char?_eq_some.1 hchar).1.elim hrow
      rw [get?_chars_add_of_ne _ hne, ih, withIdentifier_concat_of_ne rows hrow, lastLiteral?]

/-- The first scan codes are overwritten by nothing. -/
theorem get?_firstCodes_eq (rows : List Row) (i : Identifier) :
    (ofRows rows).firstCodes.get? i = firstCode? rows i := by
  induction rows using List.reverseRecOn with
  | nil => rfl
  | append_singleton rows row ih =>
    rw [ofRows_concat, firstCode?]
    rw [firstCode?] at ih
    by_cases hrow : ∃ code, row.key? = some (code, i)
    · obtain ⟨code, hkey⟩ := hrow
      rw [withIdentifier_concat_self rows hkey, List.head?_append]
      cases hhead : (withIdentifier rows i).head? with
      | none =>
        rw [hhead] at ih
        rw [get?_firstCodes_add_of_none hkey ih]
        exact (key?_eq_some.1 hkey).1.symm
      | some first =>
        obtain ⟨firstCode, hfirst⟩ := exists_code_of_mem_withIdentifier (List.mem_of_head? hhead)
        rw [hhead, Option.bind_some, hfirst] at ih
        rw [get?_firstCodes_add_of_some ih, Option.some_or, Option.bind_some, hfirst]
    · rw [not_exists] at hrow
      rw [get?_firstCodes_add_of_ne _ hrow, ih, withIdentifier_concat_of_ne rows hrow]

/-- **The last write wins, in order.** Each map holds what the last of the rows says that speak of a
key, and lists every such key once, in the order of the texts. -/
theorem last_wins (rows : List Row) :
    (ofRows rows).keys.Lists id (lastIdentifier? rows) ∧
      (ofRows rows).chars.Lists Identifier.text (lastLiteral? rows) :=
  ⟨SortedMap.lists_of_get? (get?_keys_eq rows) fun _ _ => compareOfLessAndEq_eq_lt.1,
    SortedMap.lists_of_get? (get?_chars_eq rows) fun _ _ => compareOfLessAndEq_eq_lt.1⟩

example : (ofRows [⟨["2"], "B", "b"⟩, ⟨["10"], "A", "a"⟩, ⟨["2"], "A", ""⟩]).keys.entries =
    [("10", ⟨"KEYCODE_A"⟩), ("2", ⟨"KEYCODE_A"⟩)] := by
  decide

end Keymap

end ScanCodes
