import ScanCodes.SortedMap
import Mathlib.Data.List.Nodup

/-!
# The entries of a sorted map

Lookups read a map at one key; whatever is printed reads its entries in order. The lemmas here tie
the two: an entry is in the list exactly when its key is mapped to its value, and no key is listed
twice.

## Main definitions

* `SortedMap.Lists`: what a map holds and lists, said without it.

## Main results

* `SortedMap.mem_entries_iff`: membership is lookup; `SortedMap.mem_keys_iff` and
  `SortedMap.containsValue_iff` say so of the keys and of the values.
* `SortedMap.nodup_keys`: the keys are distinct.
* `SortedMap.get?_insert`, `SortedMap.size_insert`: what an insertion does to every lookup, and to
  the size.
* `SortedMap.pairwise_of_compare`: the order of the entries, in whatever terms a key type has for
  it.
-/

namespace ScanCodes

namespace SortedMap

variable {κ ν : Type} [Ord κ]

/-- The order of the entries, restated through a relation that the comparison decides. -/
theorem pairwise_of_compare {r : κ → κ → Prop} (h : ∀ k l : κ, compare k l = .lt → r k l)
    (m : SortedMap κ ν) : m.entries.Pairwise (fun a b => r a.1 b.1) :=
  m.ascending.imp fun hab => h _ _ hab

/-- Maps with the same entries are equal. -/
theorem eq_of_entries_eq {m n : SortedMap κ ν} (h : m.entries = n.entries) : m = n := by
  cases m
  cases n
  cases h
  rfl

/-- A value is written over the one that the key has; only a new key takes up room. -/
private theorem length_insertEntry [Std.TransOrd κ] (k : κ) (v : ν) {es : List (κ × ν)}
    (h : es.Pairwise (fun a b => compare a.1 b.1 = .lt)) :
    (insertEntry k v es).length = es.length + if (lookup k es).isSome then 0 else 1 := by
  induction es with
  | nil => rfl
  | cons e es ih =>
    obtain ⟨he, hes⟩ := List.pairwise_cons.1 h
    rw [insertEntry, lookup]
    cases hk : compare k e.1 with
    | eq => simp
    | gt => simp [ih hes, Nat.add_right_comm]
    | lt =>
      -- the key is smaller than all that are listed
      have hnone : lookup k es = none := lookup_eq_none fun a ha heq => by
        rw [Std.TransCmp.lt_trans hk (he a ha)] at heq
        cases heq
      simp [hnone]

variable [Std.LawfulEqOrd κ]

private theorem ne_of_compare_lt {k l : κ} (h : compare k l = .lt) : k ≠ l := by
  rintro rfl
  rw [@Std.ReflCmp.compare_self κ compare _ k] at h
  cases h

theorem nodup_keys (m : SortedMap κ ν) : (m.entries.map Prod.fst).Nodup := by
  rw [List.nodup_iff_pairwise_ne, List.pairwise_map]
  exact m.ascending.imp ne_of_compare_lt

theorem nodup_entries (m : SortedMap κ ν) : m.entries.Nodup :=
  m.nodup_keys.of_map _

/-- A map after an insertion, at every key. -/
theorem get?_insert [Std.TransOrd κ] [DecidableEq κ] (m : SortedMap κ ν) (k l : κ) (v : ν) :
    (m.insert k v).get? l = if l = k then some v else m.get? l := by
  split
  · next h => rw [h, get?_insert_self]
  · next h => exact get?_insert_of_ne m h v

/-- A map grows by the keys that are new to it. -/
theorem size_insert [Std.TransOrd κ] (m : SortedMap κ ν) (k : κ) (v : ν) :
    (m.insert k v).size = m.size + if (m.get? k).isSome then 0 else 1 :=
  length_insertEntry k v m.ascending

/-- In an ascending list the entry that a lookup stops at is the only one with its key. -/
private theorem mem_iff_lookup {k : κ} {v : ν} {es : List (κ × ν)}
    (h : es.Pairwise (fun a b => compare a.1 b.1 = .lt)) : (k, v) ∈ es ↔ lookup k es = some v := by
  induction es with
  | nil => simp [lookup]
  | cons e es ih =>
    obtain ⟨he, hes⟩ := List.pairwise_cons.1 h
    by_cases hk : compare k e.1 = .eq
    · have hke : k = e.1 := Std.LawfulEqOrd.eq_of_compare hk
      have hrest : (k, v) ∉ es := fun hmem => ne_of_compare_lt (he _ hmem) hke.symm
      rw [lookup, if_pos hk, List.mem_cons, or_iff_left hrest, Option.some.injEq, Prod.ext_iff]
      exact ⟨fun heq => heq.2.symm, fun hv => ⟨hke, hv.symm⟩⟩
    · have hne : (k, v) ≠ e := by
        rintro rfl
        exact hk (@Std.ReflCmp.compare_self κ compare _ k)
      rw [lookup, if_neg hk, List.mem_cons, or_iff_right hne, ih hes]

/-- An entry is listed exactly when its key is mapped to its value. -/
theorem mem_entries_iff {m : SortedMap κ ν} {k : κ} {v : ν} :
    (k, v) ∈ m.entries ↔ m.get? k = some v :=
  mem_iff_lookup m.ascending

/-- A key is listed exactly when it is mapped to something. -/
theorem mem_keys_iff {m : SortedMap κ ν} {k : κ} :
    k ∈ m.entries.map Prod.fst ↔ (m.get? k).isSome = true := by
  simp [Option.isSome_iff_exists, ← mem_entries_iff]

/-- A value is contained exactly when some key is mapped to it. -/
theorem containsValue_iff [DecidableEq ν] {m : SortedMap κ ν} {v : ν} :
    m.containsValue v = true ↔ ∃ k, m.get? k = some v := by
  simp [containsValue, ← mem_entries_iff]

/-- The map holds what a function says of the keys, and lists it in the order of their texts. -/
structure Lists [DecidableEq κ] (m : SortedMap κ ν) (text : κ → String) (f : κ → Option ν) :
    Prop where
  /-- A lookup finds what the function says. -/
  get?_eq : ∀ k, m.get? k = f k
  /-- The entries are what the function says. -/
  mem_entries_iff : ∀ k v, (k, v) ∈ m.entries ↔ f k = some v
  /-- A key that the function says something of is listed once, and no other key is listed. -/
  count_keys : ∀ k, (m.entries.map Prod.fst).count k = if (f k).isSome then 1 else 0
  /-- The texts of the keys ascend, code point by code point. -/
  ascending : m.entries.Pairwise fun a b => text a.1 < text b.1

theorem lists_of_get? [DecidableEq κ] {m : SortedMap κ ν} {text : κ → String} {f : κ → Option ν}
    (hget : ∀ k, m.get? k = f k) (htext : ∀ k l : κ, compare k l = .lt → text k < text l) :
    m.Lists text f where
  get?_eq := hget
  mem_entries_iff k v := by rw [mem_entries_iff, hget]
  count_keys k := by
    split
    · next hsome =>
      obtain ⟨v, hv⟩ := Option.isSome_iff_exists.1 hsome
      have hmem : (k, v) ∈ m.entries := mem_entries_iff.2 ((hget k).trans hv)
      exact List.count_eq_one_of_mem m.nodup_keys (List.mem_map_of_mem (f := Prod.fst) hmem)
    · next hnone =>
      refine List.count_eq_zero_of_not_mem fun hmem => hnone ?_
      obtain ⟨⟨k, v⟩, hentry, rfl⟩ := List.mem_map.1 hmem
      rw [← hget, mem_entries_iff.1 hentry]
      rfl
  ascending := m.pairwise_of_compare (r := fun k l => text k < text l) htext

end SortedMap

end ScanCodes
