import ScanCodes.Proofs.KeyName.Ends
import Mathlib.Logic.Relation

/-!
# How a name is presented

Capital or small letters, blanks around a name, a note in parentheses: none of these is for the
identifier. Each of them meets every stage. Letters stay letters of whatever case, so digits behind
them are spelled alike; blanks at the ends stay at the ends until they are trimmed; and a note is
gone before the first of the other stages, so what stood around it is taken as if it had been
written together, even where a letter and a digit meet, or two runs of digits.

## Main definitions

* `KeyName.Restyles`: a name is presented in another way.

## Main results

* `KeyName.body_lower`, `KeyName.body_blanks_append`, `KeyName.withoutNotes_note`: the three ways.
* `KeyName.identifier_eq_of_restyled`: the presentation does not change the identifier.
-/

namespace ScanCodes.KeyName

open Text

/-! ### Stages in small letters -/

/-- No letter becomes a parenthesis. -/
private theorem toLower_eq_parenthesis {paren : Char} (h : paren = '(' ∨ paren = ')') (c : Char) :
    c.toLower = paren ↔ c = paren := by
  have hdecide : decide (c.toLower = paren) = decide (c = paren) := by
    rcases h with rfl | rfl
    · exact apply_toLower (fun c => decide (c = '(')) (by decide +kernel) c
    · exact apply_toLower (fun c => decide (c = ')')) (by decide +kernel) c
  exact decide_eq_decide.1 hdecide

private theorem parenthesis_mem_lower (name : List Char) : ')' ∈ lower name ↔ ')' ∈ name := by
  simp [lower, toLower_eq_parenthesis]

/-- Notes are dropped in small letters as they are in capital ones. -/
theorem withoutNotes_lower (name : List Char) :
    withoutNotes (lower name) = lower (withoutNotes name) := by
  rw [withoutNotes, withoutNotes]
  generalize false = inNote
  induction name generalizing inNote with
  | nil => rfl
  | cons c name ih =>
    have hcons : lower (c :: name) = c.toLower :: lower name := rfl
    have hclose : (c.toLower != ')') = (c != ')') := by
      rw [Bool.eq_iff_iff, bne_iff_ne, bne_iff_ne, Ne, Ne, toLower_eq_parenthesis (Or.inr rfl)]
    have hopen : c.toLower = '(' ∧ ')' ∈ lower name ↔ c = '(' ∧ ')' ∈ name :=
      and_congr (toLower_eq_parenthesis (Or.inl rfl) c) (parenthesis_mem_lower name)
    rw [hcons, dropNotes, dropNotes, hclose]
    split
    · exact ih (c != ')')
    · by_cases hnote : c = '(' ∧ ')' ∈ name
      · rw [if_pos (hopen.2 hnote), if_pos hnote, ih]
      · rw [if_neg (mt hopen.1 hnote), if_neg hnote, ih]
        rfl

/-- A letter is no symbol, whatever its case. -/
private theorem lower_spellSymbol_toLower (c : Char) :
    lower (spellSymbol c.toLower) = lower (spellSymbol c) := by
  cases hupper : c.isUpper with
  | false => rw [toLower_of_isUpper hupper]
  | true =>
    have hclear : ∀ d : Char, d.isAlpha = true → spellSymbol d = [d] := by
      refine fun d hd => spellSymbol_of_not_isSymbol fun hsymbol => ?_
      rw [Symbol.isAlpha_of_isSymbol hsymbol] at hd
      cases hd
    have halpha := isAlpha_of_isUpper hupper
    rw [hclear c halpha, hclear c.toLower ((isAlpha_toLower c).trans halpha)]
    exact congrArg (fun d => [d]) (toLower_toLower c)

/-- Symbols are spelled in capital letters whatever the case of the name. -/
theorem spellSymbols_lower (name : List Char) :
    lower (spellSymbols (lower name)) = lower (spellSymbols name) := by
  rw [spellSymbols, spellSymbols, lower, lower, lower, List.flatMap_map, List.map_flatMap,
    List.map_flatMap]
  exact List.flatMap_congr fun c _ => lower_spellSymbol_toLower c

/-- Digits and the characters of number words are no capital letters. -/
private theorem toLower_of_isDigit_or_isWordChar {c : Char}
    (h : c.isDigit = true ∨ Numeral.isWordChar c = true) : c.toLower = c := by
  have hall : ∀ c : Char, c.toNat < 128 →
      c.isDigit = true ∨ Numeral.isWordChar c = true → c.toLower = c :=
    forall_ascii (by decide +kernel)
  have hascii : c.toNat < 128 :=
    h.elim (fun h => toNat_lt_of_isAlphanum (isAlphanum_of_isDigit h)) toNat_lt_of_isWordChar
  exact hall c hascii h

/-- Number words are in small letters already. -/
theorem spellNumbers_lower (name : List Char) :
    spellNumbers (lower name) = lower (spellNumbers name) := by
  have hrun : ∀ afterLetter run, lower (spellRun afterLetter run) = spellRun afterLetter run := by
    intro afterLetter run
    refine (List.map_congr_left fun c hc => ?_).trans (List.map_id _)
    exact toLower_of_isDigit_or_isWordChar (Or.inr (isWordChar_of_mem_spellRun hc))
  rw [spellNumbers, spellNumbers]
  generalize false = afterLetter, ([] : List Char) = run
  induction name generalizing afterLetter run with
  | nil => exact (hrun afterLetter run).symm
  | cons c name ih =>
    have hcons : lower (c :: name) = c.toLower :: lower name := rfl
    rw [hcons, spellRuns, spellRuns, isDigit_toLower, isAlpha_toLower]
    split
    · next hdigit =>
      rw [toLower_of_isDigit_or_isWordChar (Or.inl hdigit)]
      exact ih afterLetter (c :: run)
    · rw [ih]
      conv_rhs => rw [lower, List.map_append, ← lower, hrun]
      rfl

/-- **The case of letters makes no difference.** -/
theorem body_lower (name : List Char) : body (lower name) = body name := by
  have hspeak : upper (spellNumbers (spellSymbols (withoutNotes (lower name)))) =
      upper (spellNumbers (spellSymbols (withoutNotes name))) :=
    calc upper (spellNumbers (spellSymbols (withoutNotes (lower name))))
        = upper (spellNumbers (lower (spellSymbols (lower (withoutNotes name))))) := by
          rw [withoutNotes_lower, spellNumbers_lower, upper_lower]
      _ = upper (spellNumbers (lower (spellSymbols (withoutNotes name)))) := by
          rw [spellSymbols_lower]
      _ = upper (spellNumbers (spellSymbols (withoutNotes name))) := by
          rw [spellNumbers_lower, upper_lower]
  rw [body, body, toCase, toCase, hspeak]

/-! ### Notes -/

/-- A note goes up to its closing parenthesis. -/
theorem dropNotes_note {note : List Char} (h : ')' ∉ note) (behind : List Char) :
    dropNotes true (note ++ ')' :: behind) = withoutNotes behind := by
  induction note with
  | nil => rfl
  | cons c note ih =>
    have hc : (c != ')') = true := bne_iff_ne.2 (List.ne_of_not_mem_cons h).symm
    rw [List.cons_append, dropNotes, if_pos rfl, hc, ih (List.not_mem_of_not_mem_cons h)]

/-- **A note makes no difference**, not even where what stands around it comes to stand together. -/
theorem withoutNotes_note {front note : List Char} (hfront : '(' ∉ front) (hnote : ')' ∉ note)
    (behind : List Char) :
    withoutNotes (front ++ '(' :: (note ++ ')' :: behind)) = withoutNotes (front ++ behind) := by
  have hopen : withoutNotes ('(' :: (note ++ ')' :: behind)) = withoutNotes behind := by
    rw [withoutNotes, dropNotes, if_neg Bool.false_ne_true, if_pos ⟨rfl, by simp⟩,
      dropNotes_note hnote]
  rw [withoutNotes_append hfront, hopen, ← withoutNotes_append hfront]

/-! ### Blanks -/

/-- What holds no parenthesis stays behind a name, unless the name ends within a note. -/
theorem dropNotes_append {behind : List Char} (hbehind : ∀ c ∈ behind, c ≠ '(' ∧ c ≠ ')')
    (inNote : Bool) {name : List Char} (hclosed : inNote = true → ')' ∈ name) :
    dropNotes inNote (name ++ behind) = dropNotes inNote name ++ behind := by
  induction name generalizing inNote with
  | nil =>
    cases inNote with
    | true => exact absurd (hclosed rfl) List.not_mem_nil
    | false => exact withoutNotes_of_clear fun hmem => (hbehind _ hmem).1 rfl
  | cons c name ih =>
    have hmem : ')' ∈ name ++ behind ↔ ')' ∈ name := by
      rw [List.mem_append, or_iff_left fun hmem => (hbehind _ hmem).2 rfl]
    rw [List.cons_append, dropNotes, dropNotes]
    split
    · next hin =>
      refine ih (c != ')') fun hc => ?_
      exact (List.mem_cons.1 (hclosed hin)).resolve_left (bne_iff_ne.1 hc).symm
    · by_cases hnote : c = '(' ∧ ')' ∈ name
      · rw [if_pos ⟨hnote.1, hmem.2 hnote.2⟩, if_pos hnote]
        exact ih true fun _ => hnote.2
      · rw [if_neg fun h => hnote ⟨h.1, hmem.1 h.2⟩, if_neg hnote,
          ih false fun h => absurd h Bool.false_ne_true, List.cons_append]

/-- **Blanks around a name make no difference.** -/
theorem body_blanks_append {front behind : List Char} (hfront : ∀ c ∈ front, isBlank c = true)
    (hbehind : ∀ c ∈ behind, isBlank c = true) (name : List Char) :
    body (front ++ name ++ behind) = body name := by
  have hclear : ∀ c, isBlank c = true → c ≠ '(' ∧ c ≠ ')' := by
    intro c hc
    constructor <;> rintro rfl <;> cases hc
  have hnotes : withoutNotes (front ++ name ++ behind) = front ++ withoutNotes name ++ behind := by
    rw [List.append_assoc, withoutNotes_append fun hmem => (hclear _ (hfront _ hmem)).1 rfl,
      withoutNotes, dropNotes_append (fun c hc => hclear c (hbehind c hc)) false
        (fun h => absurd h Bool.false_ne_true), ← List.append_assoc, withoutNotes]
  rw [body_eq, body_eq, hnotes, trim_blanks_append hfront hbehind]

/-! ### The identifier -/

/-- A name is presented in another way: with other letters in capital, with blanks around it, or
with a note in it. -/
inductive Restyles : String → String → Prop
  | letters {name name' : String} (hsame : lower name.toList = lower name'.toList) :
      Restyles name name'
  | blanks {front behind : String} (name : String) (hfront : ∀ c ∈ front.toList, isBlank c = true)
      (hbehind : ∀ c ∈ behind.toList, isBlank c = true) :
      Restyles name (front ++ name ++ behind)
  | note {front note : String} (behind : String) (hfront : '(' ∉ front.toList)
      (hnote : ')' ∉ note.toList) :
      Restyles (front ++ behind) (front ++ "(" ++ note ++ ")" ++ behind)

/-- One change of presentation does not change the identifier. -/
theorem Restyles.body_eq {name name' : String} (h : Restyles name name') :
    body name.toList = body name'.toList := by
  cases h with
  | letters hsame => rw [← body_lower, hsame, body_lower]
  | blanks name hfront hbehind =>
    rw [String.toList_append, String.toList_append, body_blanks_append hfront hbehind]
  | @note front note behind hfront hnote =>
    have hname' : (front ++ "(" ++ note ++ ")" ++ behind).toList =
        front.toList ++ '(' :: (note.toList ++ ')' :: behind.toList) := by
      simp [String.toList_append]
    rw [hname', String.toList_append, body, body, withoutNotes_note hfront hnote]

/-- **The presentation of a name does not change its identifier**, however often it is changed, in
whichever order and in both directions. -/
theorem identifier_eq_of_restyled {name name' : String} (h : Relation.EqvGen Restyles name name') :
    identifier name = identifier name' := by
  induction h with
  | rel name name' h => rw [identifier, identifier, h.body_eq]
  | refl name => rfl
  | symm name name' h ih => exact ih.symm
  | trans name name' name'' h h' ih ih' => exact ih.trans ih'

/-- Without the note, the letter and the digit stand together. -/
theorem identifier_eq_of_restyled_function_key :
    Relation.EqvGen Restyles "F1" "\tf(ii)1\u2003" ∧
      identifier "F1" = identifier "\tf(ii)1\u2003" := by
  have hletters : Restyles "F1" "f1" := .letters (by decide)
  have hnote : Restyles "f1" "f(ii)1" := @Restyles.note "f" "ii" "1" (by decide) (by decide)
  have hblanks : Restyles "f(ii)1" "\tf(ii)1\u2003" :=
    @Restyles.blanks "\t" "\u2003" "f(ii)1" (List.all_eq_true.1 (by decide))
      (List.all_eq_true.1 (by decide))
  have h : Relation.EqvGen Restyles "F1" "\tf(ii)1\u2003" :=
    .trans _ _ _ (.rel _ _ hletters) (.trans _ _ _ (.rel _ _ hnote) (.rel _ _ hblanks))
  exact ⟨h, identifier_eq_of_restyled h⟩

end ScanCodes.KeyName
