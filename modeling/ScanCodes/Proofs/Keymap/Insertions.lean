import ScanCodes.Artifact.Header
import ScanCodes.Artifact.Source
import ScanCodes.Proofs.SortedMap.Entries
import Mathlib.Data.List.Dedup
import Mathlib.Data.List.Induction

/-!
# Maps made by insertions

A map of scan codes or of characters is made by insertions, one after another. What it is then can
be told from the list of them: for each key the last of its insertions counts, and neither their
order otherwise nor how often a key was written before is to be seen, in a lookup, in the entries or
in what is printed from them.

## Main definitions

* `SortedMap.lastValue?`: what a list of insertions leaves a key with.
* `SortedMap.ofInsertions`: the map that they make.
* `SortedMap.IsCanonical`: a map is told from its insertions, and so is what an insertion gives
  back.

## Main results

* `SortedMap.get?_ofInsertions`: what the map holds, by induction over the insertions.
* `SortedMap.ofInsertions_eq_iff`: when two lists of insertions make one map.
* `Artifact.isCanonical_header_and_source`: this is so for the two maps of a table and the two
  files.
-/

namespace ScanCodes

namespace SortedMap

variable {κ ν : Type}

/-! ### What the insertions say -/

section LastValue

variable [DecidableEq κ]

/-- What a list of insertions leaves a key with: the value of the last of them that is for it. -/
def lastValue? (es : List (κ × ν)) (k : κ) : Option ν :=
  (es.filter fun e => e.1 = k).getLast?.map Prod.snd

theorem lastValue?_concat (es : List (κ × ν)) (e : κ × ν) (k : κ) :
    lastValue? (es ++ [e]) k = if k = e.1 then some e.2 else lastValue? es k := by
  by_cases hk : k = e.1
  · simp [lastValue?, hk]
  · simp [lastValue?, hk, Ne.symm hk]

/-- Insertions leave a value with the keys that they are for. -/
theorem isSome_lastValue? (es : List (κ × ν)) (k : κ) :
    (lastValue? es k).isSome = true ↔ k ∈ es.map Prod.fst := by
  induction es using List.reverseRecOn with
  | nil => simp [lastValue?]
  | append_singleton es e ih =>
    rw [lastValue?_concat, List.map_append, List.mem_append]
    by_cases hk : k = e.1
    · simp [hk]
    · simp [hk, ih]

end LastValue

variable [Ord κ] [Std.TransOrd κ] [Std.LawfulEqOrd κ]

/-! ### The map -/

/-- The map that insertions make of an empty one, each of them after those in front of it. -/
def ofInsertions (es : List (κ × ν)) : SortedMap κ ν :=
  es.foldl (fun m e => (m.replace e.1 e.2).2) empty

theorem ofInsertions_concat (es : List (κ × ν)) (e : κ × ν) :
    ofInsertions (es ++ [e]) = (ofInsertions es).insert e.1 e.2 := by
  simp [ofInsertions, replace]

variable [DecidableEq κ]

/-- The map holds what the insertions say. -/
theorem get?_ofInsertions (es : List (κ × ν)) (k : κ) :
    (ofInsertions es).get? k = lastValue? es k := by
  induction es using List.reverseRecOn with
  | nil => rfl
  | append_singleton es e ih => rw [ofInsertions_concat, get?_insert, lastValue?_concat, ih]

/-- **One map for all that say the same.** -/
theorem ofInsertions_eq_iff (es fs : List (κ × ν)) :
    ofInsertions es = ofInsertions fs ↔ ∀ k, lastValue? es k = lastValue? fs k := by
  constructor
  · intro h k
    rw [← get?_ofInsertions, h, get?_ofInsertions]
  · intro h
    refine ext_get? fun k => ?_
    rw [get?_ofInsertions, get?_ofInsertions, h]

/-- The map is as large as there are different keys among the insertions. -/
theorem size_ofInsertions (es : List (κ × ν)) :
    (ofInsertions es).size = (es.map Prod.fst).dedup.length := by
  have hkeys : ((ofInsertions es).entries.map Prod.fst).Perm (es.map Prod.fst).dedup := by
    refine (List.perm_ext_iff_of_nodup (nodup_keys _) (List.nodup_dedup _)).2 fun k => ?_
    rw [mem_keys_iff, get?_ofInsertions, isSome_lastValue?, List.mem_dedup]
  have hlength := hkeys.length_eq
  rwa [List.length_map] at hlength

/-- Maps are told from the insertions that made them, with keys in the order of their texts, and so
is what is printed from them. -/
structure IsCanonical [DecidableEq ν] (text : κ → String) (render : SortedMap κ ν → String) :
    Prop where
  /-- Insertions make one map exactly if they leave every key with the same value. -/
  eq_iff : ∀ es fs : List (κ × ν),
    ofInsertions es = ofInsertions fs ↔ ∀ k, lastValue? es k = lastValue? fs k
  /-- Then the entries are the same from the first to the last, and what is printed is. -/
  render_eq : ∀ es fs : List (κ × ν), (∀ k, lastValue? es k = lastValue? fs k) →
    (ofInsertions es).entries = (ofInsertions fs).entries ∧
      render (ofInsertions es) = render (ofInsertions fs)
  /-- The last value of each key is held and listed, once and in ascending order. -/
  lists : ∀ es : List (κ × ν), (ofInsertions es).Lists text (lastValue? es)
  /-- The size is the number of different keys. -/
  size_eq : ∀ es : List (κ × ν), (ofInsertions es).size = (es.map Prod.fst).dedup.length
  /-- A value is contained as long as it is the value of some key. -/
  containsValue_iff : ∀ (es : List (κ × ν)) (v : ν),
    (ofInsertions es).containsValue v = true ↔ ∃ k, (ofInsertions es).get? k = some v
  /-- One more insertion gives back what a lookup finds just before it. -/
  replace_eq : ∀ (es : List (κ × ν)) (k : κ) (v : ν),
    (ofInsertions es).replace k v = ((ofInsertions es).get? k, ofInsertions (es ++ [(k, v)]))
  /-- It leaves all other keys alone. -/
  get?_of_ne : ∀ (es : List (κ × ν)) (k l : κ) (v : ν), l ≠ k →
    (ofInsertions (es ++ [(k, v)])).get? l = (ofInsertions es).get? l

theorem isCanonical [DecidableEq ν] {text : κ → String}
    (htext : ∀ k l : κ, compare k l = .lt → text k < text l) (render : SortedMap κ ν → String) :
    IsCanonical text render where
  eq_iff := ofInsertions_eq_iff
  render_eq es fs h := by
    have heq : ofInsertions es = ofInsertions fs := (ofInsertions_eq_iff es fs).2 h
    rw [heq]
    exact ⟨rfl, rfl⟩
  lists es := lists_of_get? (get?_ofInsertions es) htext
  size_eq := size_ofInsertions
  containsValue_iff _ _ := containsValue_iff
  replace_eq es k v := by rw [SortedMap.replace_eq, ofInsertions_concat]
  get?_of_ne es k l v h := by rw [ofInsertions_concat, get?_insert_of_ne _ h]

end SortedMap

namespace Artifact

open SortedMap

/-- **The maps are canonical, and so are the files.** Neither map keeps anything of the order in
which it was made, nor of the values that were replaced on the way. -/
theorem isCanonical_header_and_source :
    IsCanonical (κ := String) id Header.render ∧ IsCanonical Identifier.text Source.render :=
  ⟨isCanonical (fun _ _ => compareOfLessAndEq_eq_lt.1) _,
    isCanonical (fun _ _ => compareOfLessAndEq_eq_lt.1) _⟩

example : (ofInsertions [("2", "b"), ("10", "a"), ("2", "c")]).entries = [("10", "a"), ("2", "c")] ∧
    (ofInsertions [("2", "b"), ("10", "a"), ("2", "c")]).containsValue "b" = false := by
  decide

end Artifact

end ScanCodes
