import ScanCodes.Text.Blank
import Mathlib.Data.List.DropRight

/-!
# Trimming around a piece that stays

Trimming goes in from both ends and stops at what is not blank. A piece without a blank at either
end therefore stays as it is, and what stands in front of it and behind it is trimmed apart from it.

## Main results

* `Text.trim_append`: trimming a text with such a piece in it.
* `Text.trim_blanks_append`: blanks put around a text make no difference.
-/

namespace ScanCodes.Text

/-- Does the text begin with something that is not blank, and end with such a thing? -/
structure IsTrimmed (cs : List Char) : Prop where
  ne_nil : cs ≠ []
  head : ∀ c ∈ cs.head?, isBlank c = false
  last : ∀ c ∈ cs.getLast?, isBlank c = false

/-- Dropping from the front stops at the first character that stays. -/
theorem dropWhile_append_of_head? {p : Char → Bool} {cs : List Char} (hne : cs ≠ [])
    (hhead : ∀ c ∈ cs.head?, p c = false) (front : List Char) :
    (front ++ cs).dropWhile p = front.dropWhile p ++ cs := by
  obtain ⟨c, cs, rfl⟩ := List.exists_cons_of_ne_nil hne
  have hstop : ¬ p c = true := by
    rw [hhead c rfl]
    exact Bool.false_ne_true
  rw [List.dropWhile_append]
  split
  · next hnil => rw [List.isEmpty_iff.1 hnil, List.dropWhile_cons_of_neg hstop, List.nil_append]
  · rfl

/-- Dropping from the end stops at the last character that stays. -/
theorem rdropWhile_append_of_getLast? {p : Char → Bool} {cs : List Char} (hne : cs ≠ [])
    (hlast : ∀ c ∈ cs.getLast?, p c = false) (behind : List Char) :
    (cs ++ behind).rdropWhile p = cs ++ behind.rdropWhile p := by
  rw [List.rdropWhile, List.reverse_append, dropWhile_append_of_head? (by simpa using hne)
    (by simpa using hlast), List.reverse_append, List.reverse_reverse, List.rdropWhile]

/-- **Trimming around a piece that stays.** -/
theorem trim_append {cs : List Char} (h : IsTrimmed cs) (front behind : List Char) :
    trim (front ++ cs ++ behind) =
      front.dropWhile isBlank ++ cs ++ behind.rdropWhile isBlank := by
  have hhead : ∀ c ∈ (cs ++ behind).head?, isBlank c = false := by
    rw [List.head?_append_of_ne_nil cs h.ne_nil]
    exact h.head
  have hlast : ∀ c ∈ (front.dropWhile isBlank ++ cs).getLast?, isBlank c = false := by
    rw [List.getLast?_append_of_ne_nil _ h.ne_nil]
    exact h.last
  calc trim (front ++ cs ++ behind)
      = ((front ++ (cs ++ behind)).dropWhile isBlank).rdropWhile isBlank := by
        rw [← List.append_assoc, trim, List.rdropWhile]
    _ = ((front.dropWhile isBlank ++ cs) ++ behind).rdropWhile isBlank := by
        rw [dropWhile_append_of_head? (List.append_ne_nil_of_left_ne_nil h.ne_nil behind) hhead,
          List.append_assoc]
    _ = front.dropWhile isBlank ++ cs ++ behind.rdropWhile isBlank :=
        rdropWhile_append_of_getLast? (List.append_ne_nil_of_right_ne_nil _ h.ne_nil) hlast behind

/-! ### The blanks around a text -/

theorem isTrimmed_of_rdropWhile {cs : List Char} (hne : cs.rdropWhile isBlank ≠ [])
    (hhead : ∀ c ∈ cs.head?, isBlank c = false) : IsTrimmed (cs.rdropWhile isBlank) := by
  refine ⟨hne, fun c hc => hhead c ?_, fun c hc => ?_⟩
  · obtain ⟨behind, hbehind⟩ := List.rdropWhile_prefix isBlank cs
    rw [← hbehind, List.head?_append_of_ne_nil _ hne]
    exact hc
  · rw [List.getLast?_eq_some_getLast hne, Option.mem_some_iff] at hc
    rw [← hc]
    exact Bool.eq_false_iff.2 (List.rdropWhile_last_not isBlank cs hne)

/-- A text is what trimming leaves of it, between blanks. -/
theorem exists_eq_append_trim (cs : List Char) : ∃ front behind, (∀ c ∈ front, isBlank c = true) ∧
    (∀ c ∈ behind, isBlank c = true) ∧ cs = front ++ trim cs ++ behind := by
  refine ⟨cs.takeWhile isBlank, (cs.dropWhile isBlank).rtakeWhile isBlank,
    fun c hc => List.mem_takeWhile_imp hc, fun c hc => List.mem_rtakeWhile_imp hc, ?_⟩
  calc cs
      = cs.takeWhile isBlank ++ cs.dropWhile isBlank := List.takeWhile_append_dropWhile.symm
    _ = cs.takeWhile isBlank ++ ((cs.dropWhile isBlank).rdropWhile isBlank ++
          (cs.dropWhile isBlank).rtakeWhile isBlank) := by rw [List.rdropWhile_append_rtakeWhile]
    _ = cs.takeWhile isBlank ++ trim cs ++ (cs.dropWhile isBlank).rtakeWhile isBlank := by
        rw [trim, List.rdropWhile, List.append_assoc]

/-- Trimming takes away nothing but blanks. -/
theorem mem_trim_iff {cs : List Char} {c : Char} (hc : isBlank c = false) :
    c ∈ trim cs ↔ c ∈ cs := by
  obtain ⟨front, behind, hfront, hbehind, heq⟩ := exists_eq_append_trim cs
  have hnot : ∀ blanks : List Char, (∀ d ∈ blanks, isBlank d = true) → c ∉ blanks := by
    intro blanks hblanks hmem
    rw [hblanks c hmem] at hc
    cases hc
  conv_rhs => rw [heq]
  simp only [List.mem_append, hnot front hfront, hnot behind hbehind, false_or, or_false]

/-- Trimming leaves nothing, or a trimmed text. -/
theorem isTrimmed_trim {cs : List Char} (h : trim cs ≠ []) : IsTrimmed (trim cs) := by
  refine isTrimmed_of_rdropWhile h fun c hc => ?_
  have hhead := List.head?_dropWhile_not isBlank cs
  rw [hc] at hhead
  exact hhead

/-- Blanks around a trimmed text are what trimming takes away. -/
theorem trim_pad {front cs behind : List Char} (h : IsTrimmed cs)
    (hfront : ∀ c ∈ front, isBlank c = true) (hbehind : ∀ c ∈ behind, isBlank c = true) :
    trim (front ++ cs ++ behind) = cs := by
  rw [trim_append h, List.dropWhile_eq_nil_iff.2 hfront, List.rdropWhile_eq_nil_iff.2 hbehind,
    List.nil_append, List.append_nil]

/-- Trimming leaves nothing of blanks, and of them only. -/
theorem trim_eq_nil_iff {cs : List Char} : trim cs = [] ↔ ∀ c ∈ cs, isBlank c = true := by
  constructor
  · intro hnil
    obtain ⟨front, behind, hfront, hbehind, heq⟩ := exists_eq_append_trim cs
    rw [hnil, List.append_nil] at heq
    rw [heq]
    exact fun c hc => (List.mem_append.1 hc).elim (hfront c) (hbehind c)
  · intro h
    rw [trim, List.dropWhile_eq_nil_iff.2 h]
    rfl

/-- Blanks put around a text are trimmed away. -/
theorem trim_blanks_append {front behind : List Char} (hfront : ∀ c ∈ front, isBlank c = true)
    (hbehind : ∀ c ∈ behind, isBlank c = true) (cs : List Char) :
    trim (front ++ cs ++ behind) = trim cs := by
  by_cases hnil : trim cs = []
  · rw [hnil, trim_eq_nil_iff]
    intro c hc
    simp only [List.mem_append] at hc
    rcases hc with (hc | hc) | hc
    · exact hfront c hc
    · exact trim_eq_nil_iff.1 hnil c hc
    · exact hbehind c hc
  · obtain ⟨before, after, hbefore, hafter, heq⟩ := exists_eq_append_trim cs
    calc trim (front ++ cs ++ behind)
        = trim ((front ++ before) ++ trim cs ++ (after ++ behind)) := by
          conv_lhs => rw [heq]
          simp only [List.append_assoc]
      _ = trim cs := trim_pad (isTrimmed_trim hnil)
          (fun c hc => (List.mem_append.1 hc).elim (hfront c) (hbefore c))
          (fun c hc => (List.mem_append.1 hc).elim (hafter c) (hbehind c))

/-! ### The characters at both ends -/

/-- Are there characters at both ends of the text, and are they of a kind? -/
structure Flanked (p : Char → Prop) (cs : List Char) : Prop where
  ne_nil : cs ≠ []
  head : ∀ c ∈ cs.head?, p c
  last : ∀ c ∈ cs.getLast?, p c

namespace Flanked

variable {p q : Char → Prop} {cs : List Char}

theorem of_forall_mem (hne : cs ≠ []) (h : ∀ c ∈ cs, p c) : Flanked p cs :=
  ⟨hne, fun c hc => h c (List.mem_of_mem_head? hc), fun c hc => h c (List.mem_of_mem_getLast? hc)⟩

/-- Where every character becomes a text, the first and the last of these texts count. -/
theorem flatMap (h : Flanked p cs) {f : Char → List Char} (hf : ∀ c, p c → Flanked q (f c)) :
    Flanked q (cs.flatMap f) := by
  obtain ⟨hne, hhead, hlast⟩ := h
  obtain ⟨first, rest, hfirst⟩ := List.exists_cons_of_ne_nil hne
  rcases List.eq_nil_or_concat cs with rfl | ⟨front, last, hconcat⟩
  · exact absurd rfl hne
  have hq : Flanked q (f first) := hf first (hhead first (by rw [hfirst]; rfl))
  have hq' : Flanked q (f last) := hf last (hlast last (by simp [hconcat]))
  have hfront : cs.flatMap f = f first ++ rest.flatMap f := by rw [hfirst, List.flatMap_cons]
  have hbehind : cs.flatMap f = front.flatMap f ++ f last := by
    rw [hconcat, List.concat_eq_append, List.flatMap_append, List.flatMap_singleton]
  refine ⟨?_, fun c hc => hq.head c ?_, fun c hc => hq'.last c ?_⟩
  · rw [hfront]
    exact List.append_ne_nil_of_left_ne_nil hq.ne_nil _
  · rwa [hfront, List.head?_append_of_ne_nil _ hq.ne_nil] at hc
  · rwa [hbehind, List.getLast?_append_of_ne_nil _ hq'.ne_nil] at hc

theorem map (h : Flanked p cs) {f : Char → Char} (hf : ∀ c, p c → q (f c)) :
    Flanked q (cs.map f) := by
  rw [List.map_eq_flatMap]
  refine h.flatMap fun c hc => of_forall_mem (List.cons_ne_nil _ []) fun d hd => ?_
  rw [List.mem_singleton.1 hd]
  exact hf c hc

theorem isTrimmed (h : Flanked p cs) (hp : ∀ c, p c → isBlank c = false) : IsTrimmed cs :=
  ⟨h.ne_nil, fun c hc => hp c (h.head c hc), fun c hc => hp c (h.last c hc)⟩

end Flanked

theorem IsTrimmed.flanked {cs : List Char} (h : IsTrimmed cs) :
    Flanked (fun c => isBlank c = false) cs :=
  ⟨h.ne_nil, h.head, h.last⟩

end ScanCodes.Text
