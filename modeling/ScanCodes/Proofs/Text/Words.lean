import ScanCodes.Text.Blank
import Mathlib.Data.List.Basic

/-!
# The words of a text

White space parts a text into words. This is said here of the text and a list of words, without
going through the text: there is white space in front, and behind every word there is more of it or
the text ends. Every text has words in this sense, and no more than one list of them.

## Main definitions

* `Text.whiteSpace`: the characters with Unicode's `White_Space` property.
* `Text.HasWords`: the words of a text are these.

## Main results

* `Text.isBlank_iff_mem_whiteSpace`: the property is decided by code point.
* `Text.words_eq_iff_hasWords`: the words of a text, and no others.
-/

namespace ScanCodes.Text

/-- The characters with Unicode's `White_Space` property. -/
def whiteSpace : List Char :=
  ['\t', '\n', '\x0b', '\x0c', '\r', ' ', '\u0085', '\u00a0', '\u1680', '\u2000', '\u2001',
    '\u2002', '\u2003', '\u2004', '\u2005', '\u2006', '\u2007', '\u2008', '\u2009', '\u200a',
    '\u2028', '\u2029', '\u202f', '\u205f', '\u3000']

/-- `HasWords cs ws`: the words of the text `cs` are `ws`. -/
inductive HasWords : List Char → List (List Char) → Prop
  | none {gap : List Char} : (∀ c ∈ gap, c ∈ whiteSpace) → HasWords gap []
  | cons {gap w rest : List Char} {ws : List (List Char)} :
    (∀ c ∈ gap, c ∈ whiteSpace) → w ≠ [] → (∀ c ∈ w, c ∉ whiteSpace) →
    (∀ c ∈ rest.head?, c ∈ whiteSpace) → HasWords rest ws →
    HasWords (gap ++ (w ++ rest)) (w :: ws)

/-- A character is blank if it is one of those. -/
theorem isBlank_iff_mem_whiteSpace {c : Char} : isBlank c ↔ c ∈ whiteSpace := by
  have hmem : c ∈ whiteSpace ↔ c.toNat ∈ whiteSpace.map Char.toNat :=
    (List.mem_map_of_injective fun _ _ => Char.toNat_inj.1).symm
  rw [hmem]
  simp only [isBlank, whiteSpace, List.map_cons, List.map_nil, List.mem_cons, List.not_mem_nil,
    or_false, Bool.or_eq_true, Bool.and_eq_true, decide_eq_true_eq, Char.reduceToNat]
  omega

theorem isBlank_eq_false_iff {c : Char} : isBlank c = false ↔ c ∉ whiteSpace := by
  rw [← isBlank_iff_mem_whiteSpace, Bool.not_eq_true]

/-! ### From the words to the text -/

/-- White space in front holds no word. -/
theorem words_gap_append {gap : List Char} (hgap : ∀ c ∈ gap, c ∈ whiteSpace) (cs : List Char) :
    words (gap ++ cs) = words cs := by
  induction gap with
  | nil => rfl
  | cons c gap ih =>
    rw [List.forall_mem_cons] at hgap
    rw [List.cons_append, words_of_isBlank (isBlank_iff_mem_whiteSpace.2 hgap.1), ih hgap.2]

/-- What has no white space in it, but behind it, is one word. -/
theorem words_word_append {w rest : List Char} (hne : w ≠ []) (hw : ∀ c ∈ w, c ∉ whiteSpace)
    (hrest : ∀ c ∈ rest.head?, c ∈ whiteSpace) : words (w ++ rest) = w :: words rest := by
  induction w with
  | nil => exact absurd rfl hne
  | cons c w ih =>
    rw [List.forall_mem_cons] at hw
    have hc : isBlank c = false := isBlank_eq_false_iff.2 hw.1
    cases w with
    | nil =>
      cases rest with
      | nil => simp [words, hc]
      | cons d rest =>
        have hd : isBlank d = true := isBlank_iff_mem_whiteSpace.2 (hrest d rfl)
        simp [words, hc, hd]
    | cons d w =>
      have hd : isBlank d = false := isBlank_eq_false_iff.2 (hw.2 d List.mem_cons_self)
      have hmore : words (d :: (w ++ rest)) = (d :: w) :: words rest :=
        ih (List.cons_ne_nil d w) hw.2
      simp [words, hc, hd, hmore, joinFirst]

theorem HasWords.words_eq {cs : List Char} {ws : List (List Char)} (h : HasWords cs ws) :
    words cs = ws := by
  induction h with
  | @none gap hgap => rw [← List.append_nil gap, words_gap_append hgap, words]
  | cons hgap hne hw hrest _ ih => rw [words_gap_append hgap, words_word_append hne hw hrest, ih]

/-- No word has white space in it. -/
theorem HasWords.not_mem_whiteSpace {cs w : List Char} {ws : List (List Char)} (h : HasWords cs ws)
    (hmem : w ∈ ws) : ∀ c ∈ w, c ∉ whiteSpace := by
  induction h with
  | none _ => exact absurd hmem List.not_mem_nil
  | cons _ _ hw _ _ ih =>
    rcases List.mem_cons.1 hmem with rfl | hmem
    · exact hw
    · exact ih hmem

/-! ### From the text to the words -/

/-- A word need not have white space in front of it. -/
theorem HasWords.word {w rest : List Char} {ws : List (List Char)} (hne : w ≠ [])
    (hw : ∀ c ∈ w, c ∉ whiteSpace) (hrest : ∀ c ∈ rest.head?, c ∈ whiteSpace)
    (h : HasWords rest ws) : HasWords (w ++ rest) (w :: ws) :=
  @cons [] w rest ws nofun hne hw hrest h

/-- More white space in front makes no difference. -/
theorem HasWords.cons_gap {c : Char} {cs : List Char} {ws : List (List Char)} (h : HasWords cs ws)
    (hc : c ∈ whiteSpace) : HasWords (c :: cs) ws := by
  cases h with
  | none hgap => exact none (List.forall_mem_cons.2 ⟨hc, hgap⟩)
  | @cons gap w rest ws hgap hne hw hrest hws =>
    exact @cons (c :: gap) w rest ws (List.forall_mem_cons.2 ⟨hc, hgap⟩) hne hw hrest hws

/-- A character in front of a word is part of it. -/
theorem HasWords.cons_word {c d : Char} {cs : List Char} {ws : List (List Char)}
    (h : HasWords (d :: cs) ws) (hc : c ∉ whiteSpace) (hd : d ∉ whiteSpace) :
    HasWords (c :: d :: cs) (joinFirst c ws) := by
  generalize hcs : d :: cs = text at h
  cases h with
  | none hgap => exact absurd (hgap d (hcs ▸ List.mem_cons_self)) hd
  | @cons gap w rest ws hgap hne hw hrest hws =>
    cases gap with
    | nil => exact word (List.cons_ne_nil c w) (List.forall_mem_cons.2 ⟨hc, hw⟩) hrest hws
    | cons e gap => exact absurd (hgap e List.mem_cons_self) ((List.cons.inj hcs).1 ▸ hd)

theorem hasWords_words (cs : List Char) : HasWords cs (words cs) := by
  fun_induction words cs with
  | case1 => exact .none nofun
  | case2 c hc => exact .none (by simpa using isBlank_iff_mem_whiteSpace.1 hc)
  | case3 c hc =>
    have hc : c ∉ whiteSpace := isBlank_eq_false_iff.1 (by simpa using hc)
    exact .word (List.cons_ne_nil c []) (by simpa using hc) nofun (.none nofun)
  | case4 c d cs hc ih => exact ih.cons_gap (isBlank_iff_mem_whiteSpace.1 hc)
  | case5 c d cs hc hd ih =>
    have hc : c ∉ whiteSpace := isBlank_eq_false_iff.1 (by simpa using hc)
    have hd : d ∈ whiteSpace := isBlank_iff_mem_whiteSpace.1 hd
    exact .word (List.cons_ne_nil c []) (by simpa using hc) (by simpa using hd) ih
  | case6 c d cs hc hd ih =>
    exact ih.cons_word (isBlank_eq_false_iff.1 (by simpa using hc))
      (isBlank_eq_false_iff.1 (by simpa using hd))

/-- **The words of a text**, and no others. -/
theorem words_eq_iff_hasWords {cs : List Char} {ws : List (List Char)} :
    words cs = ws ↔ HasWords cs ws :=
  ⟨fun h => h ▸ hasWords_words cs, HasWords.words_eq⟩

end ScanCodes.Text
