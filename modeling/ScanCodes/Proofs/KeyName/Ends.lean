import ScanCodes.Proofs.KeyName.Numbers

/-!
# The ends of an identifier

The blanks at the ends of a name are trimmed late, when symbols and numbers have been spelled and
the letters are capital. Trimming them at once would come to the same. A blank passes through all
these stages as it is, and so the blanks at the ends stay what they are. What stands between them
begins and ends with no blank, and still does when it is spelled: what becomes of a character that
is no blank begins and ends with a character that is none either, and no symbol.

## Main definitions

* `KeyName.speak`: everything that happens to a name between its notes and its trimming.
* `KeyName.IsEdge`: may the character stand at an end of what trimming leaves?

## Main results

* `KeyName.flanked_speak`: what stands at the ends.
* `KeyName.trim_speak`, `KeyName.body_eq`: trimming at once.
-/

namespace ScanCodes.KeyName

open Numeral Text

/-- What becomes of a name before it is trimmed: its symbols and its numbers spelled, in capital
letters. -/
def speak (name : List Char) : List Char :=
  upper (spellNumbers (spellSymbols name))

/-- Neither a blank nor a symbol. -/
def IsEdge (c : Char) : Prop :=
  isBlank c = false ∧ ¬ Symbol.IsSymbol c

/-! ### Letters and digits -/

private theorem isBlank_of_ascii : ∀ c : Char, c.toNat < 128 → c.isAlphanum = true →
    isBlank c = false :=
  forall_ascii (by decide +kernel)

theorem isEdge_of_isAlphanum {c : Char} (h : c.isAlphanum = true) : IsEdge c := by
  refine ⟨isBlank_of_ascii c (toNat_lt_of_isAlphanum h) h, fun hsymbol => ?_⟩
  rcases Bool.or_eq_true_iff.1 h with hletter | hdigit
  · rw [Symbol.isAlpha_of_isSymbol hsymbol] at hletter
    cases hletter
  · rw [Symbol.isDigit_of_isSymbol hsymbol] at hdigit
    cases hdigit

theorem isEdge_of_isUpper {c : Char} (h : c.isUpper = true) : IsEdge c :=
  isEdge_of_isAlphanum (isAlphanum_of_isAlpha (isAlpha_of_isUpper h))

theorem isEdge_of_isLower {c : Char} (h : c.isLower = true) : IsEdge c :=
  isEdge_of_isAlphanum (isAlphanum_of_isAlpha (isAlpha_of_isLower h))

/-- A blank is no letter and no digit. -/
theorem isAlphanum_of_isBlank {c : Char} (h : isBlank c = true) : c.isAlphanum = false := by
  by_contra hletter
  rw [(isEdge_of_isAlphanum (Bool.not_eq_false _ ▸ hletter)).1] at h
  cases h

/-! ### Symbols -/

private theorem flanked_words : ∀ e ∈ Symbol.table,
    e.2.toList ≠ [] ∧ e.2.toList.head?.all Char.isUpper = true ∧
      e.2.toList.getLast?.all Char.isUpper = true := by
  decide

/-- What a character becomes begins and ends with no blank, unless it is one. -/
theorem flanked_spellSymbol {c : Char} (h : isBlank c = false) :
    Flanked IsEdge (spellSymbol c) := by
  by_cases hsymbol : Symbol.IsSymbol c
  · obtain ⟨words, hmem, hwords⟩ := spellSymbol_of_isSymbol hsymbol
    obtain ⟨hne, hhead, hlast⟩ := flanked_words _ hmem
    rw [hwords]
    exact ⟨hne, fun d hd => isEdge_of_isUpper ((Option.all_eq_true _ _).1 hhead d hd),
      fun d hd => isEdge_of_isUpper ((Option.all_eq_true _ _).1 hlast d hd)⟩
  · rw [spellSymbol_of_not_isSymbol hsymbol]
    exact Flanked.of_forall_mem (List.cons_ne_nil c [])
      fun d hd => by rw [List.mem_singleton.1 hd]; exact ⟨h, hsymbol⟩

/-! ### Runs of digits -/

/-- A name without digits has no numbers to be spelled. -/
theorem spellNumbers_of_clear {name : List Char} (h : ∀ c ∈ name, c.isDigit = false) :
    spellNumbers name = name := by
  rw [spellNumbers]
  generalize false = afterLetter
  induction name generalizing afterLetter with
  | nil => rfl
  | cons c name ih =>
    have hc : ¬ c.isDigit = true := by
      rw [h c List.mem_cons_self]
      exact Bool.false_ne_true
    rw [spellRuns, if_neg hc, ih (fun d hd => h d (List.mem_cons_of_mem c hd))]
    rfl

/-- What follows without digits stays as it is. -/
theorem spellNumbers_append_of_clear {behind : List Char} (h : ∀ c ∈ behind, c.isDigit = false)
    (name : List Char) : spellNumbers (name ++ behind) = spellNumbers name ++ behind := by
  have hhead : ∀ c ∈ behind.head?, c.isDigit = false := fun c hc => h c (List.mem_of_mem_head? hc)
  rw [spellNumbers, spellNumbers]
  generalize false = afterLetter, ([] : List Char) = run
  induction name generalizing afterLetter run with
  | nil =>
    rw [List.nil_append, spellRuns_of_head? hhead, spellNumbers_of_clear h]
    rfl
  | cons c name ih =>
    rw [List.cons_append, spellRuns, spellRuns]
    split
    · exact ih afterLetter (c :: run)
    · rw [ih, List.append_assoc, List.cons_append]

/-- What stands in front, without digits and not ending in a letter, stays as it is. -/
theorem spellNumbers_clear_append {front : List Char} (h : ∀ c ∈ front, c.isAlphanum = false)
    (name : List Char) : spellNumbers (front ++ name) = front ++ spellNumbers name := by
  have hdigit : ∀ c ∈ front, c.isDigit = false := fun c hc => (Bool.or_eq_false_iff.1 (h c hc)).2
  have hletter : endsInLetter front = false := by
    rw [endsInLetter, Option.any_eq_false]
    exact fun c hc => (Bool.or_eq_false_iff.1 (h c (List.mem_of_mem_getLast? hc))).1
  rw [spellNumbers_append_of_getLast? fun c hc => hdigit c (List.mem_of_mem_getLast? hc), hletter,
    spellNumbers_of_clear hdigit]
  rfl

/-- A name that begins with a digit begins with a whole run of digits. -/
theorem exists_run_append {c : Char} (hc : c.isDigit = true) (name : List Char) :
    ∃ digits behind, IsRun digits ∧ (∀ d ∈ behind.head?, d.isDigit = false) ∧
      c :: name = digits ++ behind := by
  refine ⟨(c :: name).takeWhile Char.isDigit, (c :: name).dropWhile Char.isDigit, ⟨?_, ?_⟩, ?_,
    List.takeWhile_append_dropWhile.symm⟩
  · rw [List.takeWhile_cons_of_pos hc]
    exact List.cons_ne_nil _ _
  · exact fun d hd => List.mem_takeWhile_imp hd
  · intro d hd
    have hhead := List.head?_dropWhile_not Char.isDigit (c :: name)
    rw [hd] at hhead
    exact hhead

/-- A name that ends with a digit ends with a whole run of digits. -/
theorem exists_append_run {c : Char} (hc : c.isDigit = true) (name : List Char) :
    ∃ front digits, IsRun digits ∧ (∀ d ∈ front.getLast?, d.isDigit = false) ∧
      name ++ [c] = front ++ digits := by
  refine ⟨(name ++ [c]).rdropWhile Char.isDigit, (name ++ [c]).rtakeWhile Char.isDigit, ⟨?_, ?_⟩,
    ?_, List.rdropWhile_append_rtakeWhile.symm⟩
  · rw [List.rtakeWhile_concat_pos _ _ _ hc]
    exact List.concat_ne_nil _ _
  · exact fun d hd => List.mem_rtakeWhile_imp hd
  · intro d hd
    obtain ⟨front, hfront⟩ := List.getLast?_eq_some_iff.1 hd
    have hne : (name ++ [c]).rdropWhile Char.isDigit ≠ [] := by simp [hfront]
    have hlast := List.rdropWhile_last_not Char.isDigit (name ++ [c]) hne
    rw [List.getLast_of_mem_getLast? hd] at hlast
    exact Bool.eq_false_iff.2 hlast

theorem exists_spellNumbers_cons (c : Char) (name : List Char) :
    ∃ first more, spellNumbers (c :: name) = first :: more ∧
      (first = c ∨ first.isLower = true) := by
  cases hc : c.isDigit with
  | true =>
    obtain ⟨digits, behind, hrun, hbehind, heq⟩ := exists_run_append hc name
    have hwords := flanked_ofDigits hrun
    obtain ⟨first, more, hfirst⟩ := List.exists_cons_of_ne_nil hwords.ne_nil
    have hspelled : spellNumbers (digits ++ behind) =
        (ofDigits digits).toList ++ spellNumbers behind :=
      @spellNumbers_append [] digits behind hrun (fun d hd => by cases hd) hbehind
    refine ⟨first, more ++ spellNumbers behind, ?_,
      Or.inr (hwords.head first (by rw [hfirst]; rfl))⟩
    rw [heq, hspelled, hfirst, List.cons_append]
  | false =>
    refine ⟨c, spellRuns c.isAlpha [] name, ?_, Or.inl rfl⟩
    rw [spellNumbers, spellRuns, if_neg (Bool.eq_false_iff.1 hc)]
    rfl

theorem exists_spellNumbers_concat (c : Char) (name : List Char) :
    ∃ before last, spellNumbers (name ++ [c]) = before ++ [last] ∧
      (last = c ∨ last.isLower = true) := by
  cases hc : c.isDigit with
  | true =>
    obtain ⟨front, digits, hrun, hfront, heq⟩ := exists_append_run hc name
    have hwords := flanked_ofDigits hrun
    obtain hnil | ⟨before, last, hlast⟩ := List.eq_nil_or_concat' (ofDigits digits).toList
    · exact absurd hnil hwords.ne_nil
    have hspelled := @spellNumbers_append front digits [] hrun hfront fun d hd => by cases hd
    rw [List.append_nil, hlast, ← List.append_assoc] at hspelled
    refine ⟨spellNumbers front ++ (if endsInLetter front then [' '] else []) ++ before, last, ?_,
      Or.inr (hwords.last last (by rw [hlast]; exact List.getLast?_concat))⟩
    rw [heq, hspelled]
    exact List.append_nil _
  | false =>
    refine ⟨spellNumbers name, c, spellNumbers_append_of_clear (fun d hd => ?_) name, Or.inl rfl⟩
    rwa [List.mem_singleton.1 hd]

/-- Spelling the numbers of a name leaves at its ends what stood there, or letters of number
words. -/
theorem flanked_spellNumbers {p : Char → Prop} (hp : ∀ c, c.isLower = true → p c) {name : List Char}
    (h : Flanked p name) : Flanked p (spellNumbers name) := by
  obtain ⟨hne, hhead, hlast⟩ := h
  obtain ⟨c, more, hcons⟩ := List.exists_cons_of_ne_nil hne
  obtain hnil | ⟨front, d, hconcat⟩ := List.eq_nil_or_concat' name
  · exact absurd hnil hne
  obtain ⟨first, rest, hfirst, hc⟩ := exists_spellNumbers_cons c more
  obtain ⟨before, last, hbefore, hd⟩ := exists_spellNumbers_concat d front
  rw [← hcons] at hfirst
  rw [← hconcat] at hbefore
  refine ⟨by simp [hfirst], fun e he => ?_, fun e he => ?_⟩
  · rw [hfirst, List.head?_cons, Option.mem_some_iff] at he
    rcases hc with rfl | hlower
    · exact hhead e (by simp [hcons, he])
    · exact hp e (he ▸ hlower)
  · rw [hbefore, List.getLast?_concat, Option.mem_some_iff] at he
    rcases hd with rfl | hlower
    · exact hlast e (by simp [hconcat, he])
    · exact hp e (he ▸ hlower)

/-! ### The ends of what is spoken -/

/-- What may stand at an end is no dash and no space. -/
theorem underscore_of_isEdge {c : Char} (h : IsEdge c) : underscore c = c := by
  rw [underscore, if_neg]
  rintro (rfl | rfl)
  · exact h.2 (by decide)
  · cases h.1

theorem flanked_upperChar {c : Char} (h : IsEdge c) : Flanked IsEdge (upperChar c) := by
  refine Flanked.of_forall_mem (upperChar_ne_nil c) fun d hd => ⟨?_, fun hsymbol => h.2 ?_⟩
  · by_contra hblank
    rw [Bool.not_eq_false] at hblank
    rw [eq_of_mem_upperChar_of_isBlank hd hblank, h.1] at hblank
    cases hblank
  · have hupper : d.isUpper = false :=
      (Bool.or_eq_false_iff.1 (Symbol.isAlpha_of_isSymbol hsymbol)).1
    rwa [← eq_of_mem_upperChar hd (Symbol.toNat_lt_of_isSymbol hsymbol) hupper]

theorem flanked_speak {name : List Char} (h : IsTrimmed name) : Flanked IsEdge (speak name) := by
  have hsymbols : Flanked IsEdge (spellSymbols name) :=
    h.flanked.flatMap fun c => flanked_spellSymbol
  have hnumbers := flanked_spellNumbers (fun c => isEdge_of_isLower) hsymbols
  exact hnumbers.flatMap fun c => flanked_upperChar

/-- Blanks around a name pass through every stage as they are. -/
theorem speak_pad {front behind : List Char} (hfront : ∀ c ∈ front, isBlank c = true)
    (hbehind : ∀ c ∈ behind, isBlank c = true) (name : List Char) :
    speak (front ++ name ++ behind) = front ++ speak name ++ behind := by
  have hsymbol : ∀ c, isBlank c = true → ¬ Symbol.IsSymbol c := by
    intro c hc hsymbol
    rw [Symbol.isBlank_of_isSymbol hsymbol] at hc
    cases hc
  have hletter : ∀ c ∈ front, c.isAlphanum = false :=
    fun c hc => isAlphanum_of_isBlank (hfront c hc)
  have hdigit : ∀ c ∈ behind, c.isDigit = false :=
    fun c hc => (Bool.or_eq_false_iff.1 (isAlphanum_of_isBlank (hbehind c hc))).2
  rw [speak, spellSymbols_append, spellSymbols_append,
    spellSymbols_of_clear fun c hc => hsymbol c (hfront c hc),
    spellSymbols_of_clear fun c hc => hsymbol c (hbehind c hc), spellNumbers_append_of_clear hdigit,
    spellNumbers_clear_append hletter, upper_append, upper_append, upper_of_isBlank hfront,
    upper_of_isBlank hbehind]
  rfl

/-- Trimming before the stages is as good as trimming behind them. -/
theorem trim_speak (name : List Char) : trim (speak name) = speak (trim name) := by
  obtain ⟨front, behind, hfront, hbehind, heq⟩ := exists_eq_append_trim name
  by_cases hnil : trim name = []
  · -- nothing but blanks: no first or last character to speak of
    rw [hnil, List.append_nil] at heq
    have hspoken : speak name = front ++ [] ++ behind := by
      conv_lhs => rw [heq, ← List.append_nil front, speak_pad hfront hbehind]
      rfl
    rw [hspoken, List.append_nil, ← heq, hnil]
    rfl
  · have htrimmed := (flanked_speak (isTrimmed_trim hnil)).isTrimmed fun c hc => hc.1
    conv_lhs => rw [heq, speak_pad hfront hbehind, trim_pad htrimmed hfront hbehind]

/-- **Trimming at once.** -/
theorem body_eq (name : List Char) :
    body name = (speak (trim (withoutNotes name))).map underscore := by
  rw [← trim_speak]
  rfl

end ScanCodes.KeyName
