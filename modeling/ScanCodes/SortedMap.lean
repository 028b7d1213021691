/-!
# Sorted maps

A finite map kept as the list of its entries in strictly ascending order of the keys. The order is
part of the type, so a map has one representation: two maps that answer every lookup alike are
equal (`SortedMap.ext_get?`), and whatever is printed from the entries depends on nothing but the
lookups.

## Main definitions

* `SortedMap κ ν`: the entries and the proof that their keys ascend.
* `SortedMap.insert`: the last value written to a key replaces the one before it.
* `SortedMap.replace`: an insertion that also gives back the value it has replaced.
* `SortedMap.erase`, `SortedMap.get?`.

## Implementation notes

Insertion is one pass over the list, so what a lookup finds after an insertion
(`lookup_insertEntry_self`, `lookup_insertEntry_of_ne`) needs no assumption on the order.
-/

namespace ScanCodes

/-- A finite map as the list of its entries, keys strictly ascending. -/
structure SortedMap (κ ν : Type) [Ord κ] where
  /-- The entries in ascending order of their keys. -/
  entries : List (κ × ν)
  ascending : entries.Pairwise (fun a b => compare a.1 b.1 = .lt)

namespace SortedMap

variable {κ ν : Type} [Ord κ]

/-! ### Lists of entries -/

/-- The value of the first entry with the key. -/
def lookup (k : κ) : List (κ × ν) → Option ν
  | [] => none
  | e :: es => if compare k e.1 = .eq then some e.2 else lookup k es

/-- Writes an entry in front of the first larger key, in place of an entry with the same key. -/
def insertEntry (k : κ) (v : ν) : List (κ × ν) → List (κ × ν)
  | [] => [(k, v)]
  | e :: es =>
    match compare k e.1 with
    | .lt => (k, v) :: e :: es
    | .eq => (k, v) :: es
    | .gt => e :: insertEntry k v es

/-- The value that an insertion writes over, met on the way to the place of the key. -/
def overwritten (k : κ) : List (κ × ν) → Option ν
  | [] => none
  | e :: es =>
    match compare k e.1 with
    | .lt => none
    | .eq => some e.2
    | .gt => overwritten k es

theorem lookup_eq_none {k : κ} {es : List (κ × ν)} (h : ∀ e ∈ es, compare k e.1 ≠ .eq) :
    lookup k es = none := by
  induction es with
  | nil => rfl
  | cons e es ih => simp_all [lookup]

theorem mem_insertEntry {k : κ} {v : ν} {a : κ × ν} {es : List (κ × ν)}
    (h : a ∈ insertEntry k v es) : a = (k, v) ∨ a ∈ es := by
  induction es with
  | nil => simpa [insertEntry] using h
  | cons e es ih =>
    simp only [insertEntry] at h
    split at h <;> simp only [List.mem_cons] at h ⊢ <;> grind

/-- In an ascending list an insertion meets the entry of its key, if there is one. -/
theorem overwritten_eq_lookup [Std.TransOrd κ] (k : κ) {es : List (κ × ν)}
    (h : es.Pairwise (fun a b => compare a.1 b.1 = .lt)) : overwritten k es = lookup k es := by
  induction es with
  | nil => rfl
  | cons e es ih =>
    obtain ⟨he, hes⟩ := List.pairwise_cons.1 h
    rw [overwritten, lookup]
    cases hk : compare k e.1 with
    | eq => rfl
    | gt => simpa using ih hes
    | lt =>
      -- behind an entry with a larger key there are larger ones only
      refine (lookup_eq_none fun a ha heq => ?_).symm
      rw [Std.TransCmp.lt_trans hk (he a ha)] at heq
      cases heq

section Lawful

variable [Std.LawfulEqOrd κ]

theorem lookup_insertEntry_self (k : κ) (v : ν) (es : List (κ × ν)) :
    lookup k (insertEntry k v es) = some v := by
  induction es with
  | nil => simp [insertEntry, lookup]
  | cons e es ih => simp only [insertEntry]; split <;> simp_all [lookup]

theorem lookup_insertEntry_of_ne {k l : κ} (h : l ≠ k) (v : ν) (es : List (κ × ν)) :
    lookup l (insertEntry k v es) = lookup l es := by
  have hk : compare l k ≠ .eq := fun hc => h (Std.LawfulEqOrd.eq_of_compare hc)
  induction es with
  | nil => simp [insertEntry, lookup, hk]
  | cons e es ih =>
    simp only [insertEntry]
    split
    · simp [lookup, hk]
    · rename_i he
      have : k = e.1 := Std.LawfulEqOrd.eq_of_compare he
      simp [lookup, hk, ← this]
    · simp [lookup, ih]

theorem pairwise_insertEntry [Std.TransOrd κ] (k : κ) (v : ν) {es : List (κ × ν)}
    (h : es.Pairwise (fun a b => compare a.1 b.1 = .lt)) :
    (insertEntry k v es).Pairwise (fun a b => compare a.1 b.1 = .lt) := by
  induction es with
  | nil => simp [insertEntry]
  | cons e es ih =>
    have ⟨he, hes⟩ := List.pairwise_cons.1 h
    simp only [insertEntry]
    split
    · rename_i hlt
      refine List.pairwise_cons.2 ⟨fun a ha => ?_, h⟩
      rcases List.mem_cons.1 ha with rfl | ha
      · exact hlt
      · exact Std.TransCmp.lt_trans hlt (he a ha)
    · rename_i heq
      have : k = e.1 := Std.LawfulEqOrd.eq_of_compare heq
      exact List.pairwise_cons.2 ⟨fun a ha => this ▸ he a ha, hes⟩
    · rename_i hgt
      refine List.pairwise_cons.2 ⟨fun a ha => ?_, ih hes⟩
      rcases mem_insertEntry ha with rfl | ha
      · exact Std.OrientedCmp.lt_of_gt hgt
      · exact he a ha

end Lawful

/-! ### Maps -/

/-- The map with no entries. -/
def empty : SortedMap κ ν := ⟨[], .nil⟩

/-- Sets the value of a key, replacing the one it had. -/
def insert [Std.TransOrd κ] [Std.LawfulEqOrd κ] (m : SortedMap κ ν) (k : κ) (v : ν) :
    SortedMap κ ν :=
  ⟨insertEntry k v m.entries, pairwise_insertEntry k v m.ascending⟩

/-- Sets the value of a key and gives back the one that it replaces. -/
def replace [Std.TransOrd κ] [Std.LawfulEqOrd κ] (m : SortedMap κ ν) (k : κ) (v : ν) :
    Option ν × SortedMap κ ν :=
  (overwritten k m.entries, m.insert k v)

/-- The value of a key. -/
def get? (m : SortedMap κ ν) (k : κ) : Option ν :=
  lookup k m.entries

/-- Removes a key. -/
def erase (m : SortedMap κ ν) (k : κ) : SortedMap κ ν :=
  ⟨m.entries.filter (fun e => compare k e.1 != .eq), m.ascending.filter _⟩

/-- The number of entries. -/
def size (m : SortedMap κ ν) : Nat :=
  m.entries.length

/-- Is some key mapped to the value? -/
def containsValue [DecidableEq ν] (m : SortedMap κ ν) (v : ν) : Bool :=
  m.entries.any (fun e => e.2 = v)

@[simp]
theorem get?_empty (k : κ) : (empty : SortedMap κ ν).get? k = none := rfl

variable [Std.LawfulEqOrd κ]

@[simp]
theorem get?_insert_self [Std.TransOrd κ] (m : SortedMap κ ν) (k : κ) (v : ν) :
    (m.insert k v).get? k = some v :=
  lookup_insertEntry_self k v m.entries

theorem get?_insert_of_ne [Std.TransOrd κ] (m : SortedMap κ ν) {k l : κ} (h : l ≠ k) (v : ν) :
    (m.insert k v).get? l = m.get? l :=
  lookup_insertEntry_of_ne h v m.entries

/-- An insertion gives back what a lookup finds just before it. -/
theorem replace_eq [Std.TransOrd κ] (m : SortedMap κ ν) (k : κ) (v : ν) :
    m.replace k v = (m.get? k, m.insert k v) :=
  Prod.ext (overwritten_eq_lookup k m.ascending) rfl

@[simp]
theorem get?_erase_self (m : SortedMap κ ν) (k : κ) : (m.erase k).get? k = none :=
  lookup_eq_none fun e he => by simpa using (List.mem_filter.1 he).2

theorem get?_erase_of_ne (m : SortedMap κ ν) {k l : κ} (h : l ≠ k) :
    (m.erase k).get? l = m.get? l := by
  simp only [get?, erase]
  induction m.entries with
  | nil => rfl
  | cons e es ih =>
    by_cases hk : compare k e.1 = .eq
    · have hke : k = e.1 := Std.LawfulEqOrd.eq_of_compare hk
      have hl : compare l e.1 ≠ .eq := fun hc => h (hke ▸ Std.LawfulEqOrd.eq_of_compare hc)
      simp [hk, lookup, hl, ih]
    · simp [hk, lookup, ih]

private theorem entries_eq [Std.TransOrd κ] {es fs : List (κ × ν)}
    (he : es.Pairwise (fun a b => compare a.1 b.1 = .lt))
    (hf : fs.Pairwise (fun a b => compare a.1 b.1 = .lt))
    (h : ∀ k, lookup k es = lookup k fs) : es = fs := by
  induction es generalizing fs with
  | nil =>
    cases fs with
    | nil => rfl
    | cons f fs => have := h f.1; simp [lookup] at this
  | cons e es ih =>
    cases fs with
    | nil => have := h e.1; simp [lookup] at this
    | cons f fs =>
      have ⟨he₁, he₂⟩ := List.pairwise_cons.1 he
      have ⟨hf₁, hf₂⟩ := List.pairwise_cons.1 hf
      have hkey : compare e.1 f.1 = .eq := by
        cases hc : compare e.1 f.1 with
        | eq => rfl
        | lt =>
          have hn : lookup e.1 fs = none := lookup_eq_none fun a ha hq => by
            rw [Std.TransCmp.lt_trans hc (hf₁ a ha)] at hq; cases hq
          have := h e.1
          simp [lookup, hc, hn] at this
        | gt =>
          have hc' : compare f.1 e.1 = .lt := Std.OrientedCmp.lt_of_gt hc
          have hn : lookup f.1 es = none := lookup_eq_none fun a ha hq => by
            rw [Std.TransCmp.lt_trans hc' (he₁ a ha)] at hq; cases hq
          have := h f.1
          simp [lookup, hc', hn] at this
      have hkey' : e.1 = f.1 := Std.LawfulEqOrd.eq_of_compare hkey
      have hval : e.2 = f.2 := by have := h e.1; simpa [lookup, hkey] using this
      have htail : es = fs := ih he₂ hf₂ fun k => by
        cases hc : compare k e.1 with
        | eq =>
          have hk : k = e.1 := Std.LawfulEqOrd.eq_of_compare hc
          have hes : lookup k es = none := lookup_eq_none fun a ha hq => by
            rw [hk, he₁ a ha] at hq; cases hq
          have hfs : lookup k fs = none := lookup_eq_none fun a ha hq => by
            rw [hk, hkey', hf₁ a ha] at hq; cases hq
          rw [hes, hfs]
        | lt => have := h k; simpa [lookup, hc, ← hkey'] using this
        | gt => have := h k; simpa [lookup, hc, ← hkey'] using this
      rw [htail, Prod.ext hkey' hval]

/-- Two maps that answer every lookup alike are equal. -/
theorem ext_get? [Std.TransOrd κ] {m n : SortedMap κ ν} (h : ∀ k, m.get? k = n.get? k) : m = n := by
  obtain ⟨es, he⟩ := m
  obtain ⟨fs, hf⟩ := n
  obtain rfl := entries_eq he hf h
  rfl

end SortedMap

end ScanCodes
