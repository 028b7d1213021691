import ScanCodes.Proofs.KeyName.Alphabet
import ScanCodes.Proofs.Numeral.Lookup
import ScanCodes.Proofs.Text.Trim

/-!
# Numbers in key names

Keys of one family have names that differ in a number alone: `F1`, `F2` and so on. Every stage
treats such a name piece by piece. The run of digits becomes its words, whatever stands around it,
and what stands around it becomes the same whatever the run is. Upper-casing and the underscores
leave enough of the words to hear which is which, so two names with different numbers never get one
identifier.

## Main definitions

* `KeyName.endsInLetter`: does a name end in an ASCII letter?
* `KeyName.spoken`: what is to be heard of a character of an identifier.

## Main results

* `KeyName.spellNumbers_append`: spelling a run of digits in the middle of a name.
* `KeyName.exists_body_append`: what stands around a run of digits does not depend on the run.
* `KeyName.identifier_ne_of_value_ne`: different numbers, different identifiers.
-/

namespace ScanCodes.KeyName

open Numeral

/-! ### Notes -/

/-- Dropping notes adds nothing. -/
theorem mem_of_mem_dropNotes {inNote : Bool} {name : List Char} {c : Char}
    (h : c ∈ dropNotes inNote name) : c ∈ name := by
  induction name generalizing inNote with
  | nil => exact h
  | cons d name ih =>
    rw [dropNotes] at h
    split at h
    · exact List.mem_cons_of_mem d (ih h)
    · split at h
      · exact List.mem_cons_of_mem d (ih h)
      · exact List.mem_cons.2 ((List.mem_cons.1 h).imp_right ih)

/-- What stands in front of the first opening parenthesis is in no note. -/
theorem withoutNotes_append {front : List Char} (h : '(' ∉ front) (name : List Char) :
    withoutNotes (front ++ name) = front ++ withoutNotes name := by
  rw [withoutNotes, withoutNotes]
  induction front with
  | nil => rfl
  | cons c front ih =>
    have hc : c ≠ '(' := (List.ne_of_not_mem_cons h).symm
    rw [List.cons_append, dropNotes, if_neg Bool.false_ne_true, if_neg (fun hopen => hc hopen.1),
      ih (List.not_mem_of_not_mem_cons h), List.cons_append]

/-- A name without an opening parenthesis has no notes. -/
theorem withoutNotes_of_clear {name : List Char} (h : '(' ∉ name) : withoutNotes name = name := by
  have happend := withoutNotes_append h []
  rwa [List.append_nil, withoutNotes, withoutNotes, dropNotes, List.append_nil] at happend

/-! ### Symbols -/

private theorem words_tame : ∀ e ∈ Symbol.table,
    e.2.toList ≠ [] ∧ e.2.toList.any Char.isDigit = false := by
  decide

@[simp]
theorem spellSymbols_append (name more : List Char) :
    spellSymbols (name ++ more) = spellSymbols name ++ spellSymbols more :=
  List.flatMap_append

/-- A name without symbols has none to be spelled. -/
theorem spellSymbols_of_clear {name : List Char} (h : ∀ c ∈ name, ¬ Symbol.IsSymbol c) :
    spellSymbols name = name := by
  rw [spellSymbols, List.flatMap_congr fun c hc => spellSymbol_of_not_isSymbol (h c hc),
    List.flatMap_singleton']

/-- A digit is no symbol. -/
theorem spellSymbols_of_isDigit {digits : List Char} (h : ∀ c ∈ digits, c.isDigit = true) :
    spellSymbols digits = digits := by
  refine spellSymbols_of_clear fun c hc hsymbol => ?_
  have hdigit := Symbol.isDigit_of_isSymbol hsymbol
  rw [h c hc] at hdigit
  cases hdigit

theorem spellSymbol_ne_nil (c : Char) : spellSymbol c ≠ [] := by
  by_cases hc : Symbol.IsSymbol c
  · obtain ⟨words, hmem, hwords⟩ := spellSymbol_of_isSymbol hc
    rw [hwords]
    exact (words_tame _ hmem).1
  · rw [spellSymbol_of_not_isSymbol hc]
    exact List.cons_ne_nil c []

/-- A digit is no part of the words of a symbol. -/
theorem isDigit_of_mem_spellSymbol {c d : Char} (hc : c.isDigit = false) (hd : d ∈ spellSymbol c) :
    d.isDigit = false := by
  by_cases hsymbol : Symbol.IsSymbol c
  · obtain ⟨words, hmem, hwords⟩ := spellSymbol_of_isSymbol hsymbol
    rw [hwords] at hd
    exact Bool.eq_false_iff.2 (List.any_eq_false.1 (words_tame _ hmem).2 d hd)
  · rw [spellSymbol_of_not_isSymbol hsymbol] at hd
    rwa [List.mem_singleton.1 hd]

theorem isDigit_of_mem_getLast?_spellSymbols {name : List Char}
    (h : ∀ c ∈ name.getLast?, c.isDigit = false) :
    ∀ c ∈ (spellSymbols name).getLast?, c.isDigit = false := by
  intro d hd
  rcases List.eq_nil_or_concat name with rfl | ⟨front, c, rfl⟩
  · cases hd
  · rw [List.concat_eq_append] at h hd
    have hspelled : spellSymbols [c] = spellSymbol c := List.flatMap_singleton spellSymbol c
    rw [spellSymbols_append, hspelled,
      List.getLast?_append_of_ne_nil _ (spellSymbol_ne_nil c)] at hd
    exact isDigit_of_mem_spellSymbol (h c (by simp)) (List.mem_of_mem_getLast? hd)

theorem isDigit_of_mem_head?_spellSymbols {name : List Char}
    (h : ∀ c ∈ name.head?, c.isDigit = false) :
    ∀ c ∈ (spellSymbols name).head?, c.isDigit = false := by
  intro d hd
  cases name with
  | nil => cases hd
  | cons c name =>
    rw [spellSymbols, List.flatMap_cons, List.head?_append_of_ne_nil _ (spellSymbol_ne_nil c)] at hd
    exact isDigit_of_mem_spellSymbol (h c rfl) (List.mem_of_mem_head? hd)

/-! ### Runs of digits -/

/-- Does a name end in an ASCII letter? -/
def endsInLetter (name : List Char) : Bool :=
  name.getLast?.any Char.isAlpha

/-- Digits go into the open run. -/
theorem spellRuns_append_digits {digits : List Char} (h : ∀ c ∈ digits, c.isDigit = true)
    (afterLetter : Bool) (run name : List Char) :
    spellRuns afterLetter run (digits ++ name) =
      spellRuns afterLetter (digits.reverse ++ run) name := by
  induction digits generalizing run with
  | nil => rfl
  | cons c digits ih =>
    rw [List.cons_append, spellRuns, if_pos (h c List.mem_cons_self),
      ih (fun d hd => h d (List.mem_cons_of_mem c hd)), List.reverse_cons, List.append_assoc]
    rfl

/-- What is no digit closes the open run, and so does the end. -/
theorem spellRuns_of_head? {name : List Char} (h : ∀ c ∈ name.head?, c.isDigit = false)
    (afterLetter : Bool) (run : List Char) :
    spellRuns afterLetter run name = spellRun afterLetter run ++ spellNumbers name := by
  cases name with
  | nil => exact (List.append_nil _).symm
  | cons c name =>
    have hc : ¬ c.isDigit = true := by
      rw [h c rfl]
      exact Bool.false_ne_true
    rw [spellNumbers, spellRuns, spellRuns, if_neg hc, if_neg hc]
    rfl

/-- Behind what is no digit a new run begins. All that counts of the text in front of it is whether
that ends in a letter. -/
theorem spellRuns_append_singleton {c : Char} (hc : c.isDigit = false) (afterLetter : Bool)
    (run front name : List Char) :
    spellRuns afterLetter run (front ++ [c] ++ name) =
      spellRuns afterLetter run (front ++ [c]) ++ spellRuns c.isAlpha [] name := by
  have hc' : ¬ c.isDigit = true := by
    rw [hc]
    exact Bool.false_ne_true
  induction front generalizing afterLetter run with
  | nil =>
    rw [List.nil_append, List.singleton_append, spellRuns, spellRuns, if_neg hc', if_neg hc',
      List.append_assoc]
    rfl
  | cons d front ih =>
    rw [List.cons_append, List.cons_append, spellRuns, spellRuns]
    split
    · exact ih afterLetter (d :: run)
    · rw [ih, List.append_assoc, List.cons_append]

theorem spellNumbers_append_of_getLast? {name : List Char}
    (h : ∀ c ∈ name.getLast?, c.isDigit = false) (more : List Char) :
    spellNumbers (name ++ more) = spellNumbers name ++ spellRuns (endsInLetter name) [] more := by
  rcases List.eq_nil_or_concat name with rfl | ⟨front, c, rfl⟩
  · rfl
  · rw [List.concat_eq_append] at h ⊢
    have hletter : endsInLetter (front ++ [c]) = c.isAlpha := by
      rw [endsInLetter, List.getLast?_concat, Option.any_some]
    rw [spellNumbers, spellNumbers, spellRuns_append_singleton (h c (by simp)), hletter]

/-- **A run of digits in the middle of a name** is spelled apart from what stands around it. -/
theorem spellNumbers_append {front digits behind : List Char} (hrun : IsRun digits)
    (hfront : ∀ c ∈ front.getLast?, c.isDigit = false)
    (hbehind : ∀ c ∈ behind.head?, c.isDigit = false) :
    spellNumbers (front ++ digits ++ behind) =
      spellNumbers front ++ (if endsInLetter front then [' '] else []) ++
        (ofDigits digits).toList ++ spellNumbers behind := by
  have hrest : spellRun (endsInLetter front) (digits.reverse ++ []) =
      (if endsInLetter front then [' '] else []) ++ (ofDigits digits).toList := by
    rw [List.append_nil, spellRun, if_neg (by simpa using hrun.1), List.reverse_reverse]
    split <;> rfl
  rw [List.append_assoc, spellNumbers_append_of_getLast? hfront, spellRuns_append_digits hrun.2,
    spellRuns_of_head? hbehind, hrest]
  simp only [List.append_assoc]

/-! ### The words in the identifier -/

/-- What a character of number words becomes in an identifier. -/
def shout (c : Char) : Char :=
  underscore c.toUpper

/-- The character of number words that is to be heard in a character of an identifier. Spaces and
dashes cannot be told apart. -/
def spoken (c : Char) : Char :=
  if c = '_' then ' ' else c.toLower

theorem toNat_lt_of_isWordChar {c : Char} (h : isWordChar c) : c.toNat < 128 := by
  rw [isWordChar, Bool.or_eq_true, Bool.or_eq_true, decide_eq_true_eq, decide_eq_true_eq] at h
  rcases h with (h | rfl) | rfl
  · have hle : c.toNat ≤ 122 := of_decide_eq_true (Bool.and_eq_true_iff.1 h).2
    omega
  · decide
  · decide

private theorem spoken_shout_of_ascii : ∀ c : Char, c.toNat < 128 → isWordChar c →
    spoken (shout c) = if isJoint c then ' ' else c :=
  Text.forall_ascii (by decide +kernel)

/-- A joint in number words is still a joint when it is heard in an identifier. -/
theorem isJoint_spoken_shout {c : Char} (h : isWordChar c) (hjoint : isJoint c = true) :
    isJoint (spoken (shout c)) = true := by
  rw [spoken_shout_of_ascii c (toNat_lt_of_isWordChar h) h, if_pos hjoint]
  rfl

/-- A letter of number words is heard in an identifier as it is. -/
theorem spoken_shout {c : Char} (h : isWordChar c) (hclear : isJoint c = false) :
    spoken (shout c) = c := by
  rw [spoken_shout_of_ascii c (toNat_lt_of_isWordChar h) h, if_neg (Bool.eq_false_iff.1 hclear)]

/-- The words of a number begin and end with a letter. -/
theorem flanked_ofDigits {digits : List Char} (hrun : IsRun digits) :
    Text.Flanked (fun c => c.isLower = true) (ofDigits digits).toList := by
  have hwords := empty_not_mem_of_told? (told?_ofDigits hrun)
  have hlower : ∀ c ∈ (ofDigits digits).toList, isJoint c = false → c.isLower = true :=
    fun c hc => isLower_of_isWordChar (isWordChar_of_mem_ofDigits hc)
  exact ⟨toList_ne_nil_of_splitWords hwords,
    fun c hc => hlower c (List.mem_of_mem_head? hc) (not_isJoint_of_head? hwords hc),
    fun c hc => hlower c (List.mem_of_mem_getLast? hc) (not_isJoint_of_getLast? hwords hc)⟩

private theorem isBlank_toUpper : ∀ c : Char, c.toNat < 128 → c.isLower = true →
    Text.isBlank c.toUpper = false :=
  Text.forall_ascii (by decide +kernel)

/-- They are trimmed, in capital letters as well. -/
theorem isTrimmed_upper_ofDigits {digits : List Char} (hrun : IsRun digits) :
    Text.IsTrimmed ((ofDigits digits).toList.map Char.toUpper) := by
  have hcapital : Text.Flanked (fun c => Text.isBlank c = false)
      ((ofDigits digits).toList.map Char.toUpper) := by
    refine (flanked_ofDigits hrun).map fun c hc => isBlank_toUpper c ?_ hc
    exact Text.toNat_lt_of_isAlpha (Text.isAlpha_of_isLower hc)
  exact hcapital.isTrimmed fun c => id

/-- What number words have become in an identifier still tells the number. -/
theorem value_eq_of_map_shout {digits digits' : List Char} (hrun : IsRun digits)
    (hrun' : IsRun digits')
    (h : (ofDigits digits).toList.map shout = (ofDigits digits').toList.map shout) :
    value digits = value digits' := by
  have hheard : ∀ digits, splitWords (ofDigits digits) =
      (((ofDigits digits).toList.map (spoken ∘ shout)).splitOnP isJoint).map String.ofList := by
    intro digits
    rw [splitWords, splitOnP_map]
    · exact fun c hc => isJoint_spoken_shout (isWordChar_of_mem_ofDigits hc)
    · exact fun c hc => spoken_shout (isWordChar_of_mem_ofDigits hc)
  have hwords : splitWords (ofDigits digits) = splitWords (ofDigits digits') := by
    rw [hheard, hheard, ← List.map_map, h, List.map_map]
  have htold : told? (ofDigits digits) = told? (ofDigits digits') := told?_congr hwords
  rw [told?_ofDigits hrun, told?_ofDigits hrun'] at htold
  exact Option.some.inj htold

/-! ### The whole identifier -/

/-- What stands around a run of digits becomes the same whatever the run is. -/
theorem exists_body_append {front behind : List Char} (hfront : '(' ∉ front)
    (hbehind : '(' ∉ behind) (hend : ∀ c ∈ front.getLast?, c.isDigit = false)
    (hbegin : ∀ c ∈ behind.head?, c.isDigit = false) :
    ∃ before after, ∀ digits, IsRun digits →
      body (front ++ digits ++ behind) =
        before ++ (ofDigits digits).toList.map shout ++ after := by
  let before := Text.upper (spellNumbers (spellSymbols front) ++
    if endsInLetter (spellSymbols front) then [' '] else [])
  let after := Text.upper (spellNumbers (spellSymbols behind))
  refine ⟨(before.dropWhile Text.isBlank).map underscore,
    (after.rdropWhile Text.isBlank).map underscore, fun digits hrun => ?_⟩
  have hnotes : '(' ∉ front ++ digits ++ behind := by
    have hdigits : '(' ∉ digits := fun hmem => by cases hrun.2 _ hmem
    simp only [List.mem_append, hfront, hdigits, hbehind, or_self, not_false_eq_true]
  have hupper : Text.upper (ofDigits digits).toList = (ofDigits digits).toList.map Char.toUpper :=
    Text.upper_of_ascii fun c hc => toNat_lt_of_isWordChar (isWordChar_of_mem_ofDigits hc)
  rw [body, toCase, withoutNotes_of_clear hnotes, spellSymbols_append, spellSymbols_append,
    spellSymbols_of_isDigit hrun.2, spellNumbers_append hrun
      (isDigit_of_mem_getLast?_spellSymbols hend) (isDigit_of_mem_head?_spellSymbols hbegin),
    Text.upper_append, Text.upper_append, hupper, Text.trim_append (isTrimmed_upper_ofDigits hrun),
    List.map_append, List.map_append, List.map_map]
  rfl

/-- **Numbers never collapse.** Two names that differ in the number of one run of digits get
different identifiers. It does not matter how long the runs are and in which of the two ways their
numbers are told. -/
theorem identifier_ne_of_value_ne (p s a b : String) (hp : '(' ∉ p.toList) (hs : '(' ∉ s.toList)
    (hend : ∀ c ∈ p.toList.getLast?, c.isDigit = false)
    (hbegin : ∀ c ∈ s.toList.head?, c.isDigit = false) (ha : IsRun a.toList)
    (hb : IsRun b.toList) (hne : value a.toList ≠ value b.toList) :
    identifier (p ++ a ++ s) ≠ identifier (p ++ b ++ s) := by
  intro heq
  obtain ⟨before, after, hbody⟩ := exists_body_append hp hs hend hbegin
  have hbodies : body (p.toList ++ a.toList ++ s.toList) =
      body (p.toList ++ b.toList ++ s.toList) := by
    have htexts := congrArg (String.toList ∘ Identifier.text) heq
    simpa only [identifier, Function.comp_apply, String.toList_append, String.toList_ofList,
      List.append_cancel_left_eq] using htexts
  rw [hbody _ ha, hbody _ hb, List.append_cancel_right_eq, List.append_cancel_left_eq] at hbodies
  exact hne (value_eq_of_map_shout ha hb hbodies)

/-- A number of 64 bits and the next one, which is told digit by digit. -/
theorem identifier_ne_of_value_ne_past_64_bits :
    identifier "F18446744073709551615" ≠ identifier "F18446744073709551616" :=
  identifier_ne_of_value_ne "F" "" "18446744073709551615" "18446744073709551616" (by decide)
    (by decide) (by rintro c ⟨⟩; rfl) (by rintro c ⟨⟩) (by decide) (by decide) (by decide)

end ScanCodes.KeyName
