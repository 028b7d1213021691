import ScanCodes.Proofs.KeyName.Ends

/-!
# Names, position by position

Two of the stages look beyond the character in hand. A parenthesis opens a note only if one closes
it later, and the words of a number stand where its first digit stood. Both stages are scans that
carry a state from left to right; here the state is told from the name itself, so that what comes to
stand in the place of a character depends on nothing but the name and the position.

What is left has no note and no digit any more, so neither stage does anything a second time.

## Main definitions

* `KeyName.rewrite`, `KeyName.dropAt`: a name with a text in the place of each character, and one
  without some of them.
* `KeyName.InNote`: does a position lie in a note?
* `KeyName.spelledAt`: what stands in the place of a character when numbers are spelled.

## Main results

* `KeyName.dropNotes_eq_dropAt`, `KeyName.spellRuns_eq_rewrite`: the two scans from any state.
* `KeyName.withoutNotes_eq_dropAt_inNote`: which characters go with the notes.
* `KeyName.spellNumbers_eq_rewrite_spelledAt`: where the words of a number come to stand.
-/

namespace ScanCodes.KeyName

open Numeral

/-! ### Rewriting a name -/

/-- A name with a text in the place of each character, given by the position and the character. -/
def rewrite (f : Nat → Char → List Char) (name : List Char) : List Char :=
  name.zipIdx.flatMap fun e => f e.2 e.1

@[simp]
theorem rewrite_nil (f : Nat → Char → List Char) : rewrite f [] = [] :=
  rfl

theorem rewrite_cons (f : Nat → Char → List Char) (c : Char) (name : List Char) :
    rewrite f (c :: name) = f 0 c ++ rewrite (fun i => f (i + 1)) name := by
  rw [rewrite, rewrite, List.zipIdx_cons, List.flatMap_cons, List.zipIdx_succ, List.flatMap_map]

/-- A name without the characters at certain positions. -/
def dropAt (p : Nat → Prop) [DecidablePred p] (name : List Char) : List Char :=
  rewrite (fun i c => if p i then [] else [c]) name

theorem dropAt_cons (p : Nat → Prop) [DecidablePred p] (c : Char) (name : List Char) :
    dropAt p (c :: name) = (if p 0 then [] else [c]) ++ dropAt (fun i => p (i + 1)) name :=
  rewrite_cons _ c name

theorem dropAt_congr {p q : Nat → Prop} [DecidablePred p] [DecidablePred q] (h : ∀ i, p i ↔ q i)
    (name : List Char) : dropAt p name = dropAt q name := by
  simp only [dropAt, h]

/-! ### Positions in notes -/

/-- Does no note end from the position `j` on and in front of `i`? -/
def NoneCloses (name : List Char) (j i : Nat) : Prop :=
  ∀ k, j ≤ k → k < i → name[k]? ≠ some ')'

/-- Does the position lie in a note? A parenthesis up to it opens one that does not end in front of
it, but does end there or later. -/
def InNote (name : List Char) (i : Nat) : Prop :=
  (∃ j ≤ i, name[j]? = some '(' ∧ NoneCloses name j i) ∧ ∃ k ≥ i, name[k]? = some ')'

/-- Is a note open at the position? The parenthesis may stand up to it, or in front of the name. -/
def IsOpen (inNote : Bool) (name : List Char) (i : Nat) : Prop :=
  (inNote = true ∧ NoneCloses name 0 i) ∨ ∃ j ≤ i, name[j]? = some '(' ∧ NoneCloses name j i

theorem exists_ge_getElem?_iff {name : List Char} {c : Char} {i : Nat} :
    (∃ k ≥ i, name[k]? = some c) ↔ c ∈ name.drop i := by
  rw [List.mem_iff_getElem?]
  constructor
  · rintro ⟨k, hk, hc⟩
    exact ⟨k - i, by rw [List.getElem?_drop, Nat.add_sub_cancel' hk, hc]⟩
  · rintro ⟨k, hk⟩
    exact ⟨i + k, Nat.le_add_right i k, by rwa [List.getElem?_drop] at hk⟩

theorem inNote_iff {name : List Char} {i : Nat} :
    InNote name i ↔ IsOpen false name i ∧ ')' ∈ name.drop i := by
  rw [InNote, IsOpen, exists_ge_getElem?_iff]
  simp

instance (name : List Char) (j i : Nat) : Decidable (NoneCloses name j i) :=
  inferInstanceAs (Decidable (∀ k, j ≤ k → k < i → name[k]? ≠ some ')'))

instance (inNote : Bool) (name : List Char) (i : Nat) : Decidable (IsOpen inNote name i) :=
  inferInstanceAs (Decidable (_ ∨ _))

instance (name : List Char) (i : Nat) : Decidable (InNote name i) :=
  decidable_of_iff _ inNote_iff.symm

/-! ### One character further -/

theorem noneCloses_cons_zero {c : Char} {name : List Char} {i : Nat} :
    NoneCloses (c :: name) 0 (i + 1) ↔ c ≠ ')' ∧ NoneCloses name 0 i := by
  constructor
  · intro h
    refine ⟨fun hc => h 0 (by omega) (by omega) (by simp [hc]), fun k _ hk => ?_⟩
    exact h (k + 1) (by omega) (by omega)
  · rintro ⟨hc, h⟩ k - hk
    cases k with
    | zero => simpa using hc
    | succ k => exact h k (by omega) (by omega)

theorem noneCloses_cons_succ {c : Char} {name : List Char} {j i : Nat} :
    NoneCloses (c :: name) (j + 1) (i + 1) ↔ NoneCloses name j i := by
  constructor
  · intro h k hj hk
    exact h (k + 1) (by omega) (by omega)
  · intro h k hj hk
    obtain ⟨k, rfl⟩ := Nat.exists_eq_add_one.2 (show 0 < k by omega)
    exact h k (by omega) (by omega)

theorem isOpen_cons_zero {inNote : Bool} {c : Char} {name : List Char} :
    IsOpen inNote (c :: name) 0 ↔ inNote = true ∨ c = '(' := by
  simp [IsOpen, NoneCloses]

/-- Behind a character a note is open if one was and does not end there, or if one begins there. -/
theorem isOpen_cons_succ {inNote : Bool} {c : Char} {name : List Char} {i : Nat} :
    IsOpen inNote (c :: name) (i + 1) ↔ IsOpen (inNote && c != ')' || c == '(') name i := by
  constructor
  · rintro (⟨hin, hclear⟩ | ⟨j, hj, hopen, hclear⟩)
    · obtain ⟨hc, hrest⟩ := noneCloses_cons_zero.1 hclear
      exact Or.inl ⟨by simp [hin, hc], hrest⟩
    · cases j with
      | zero =>
        have hc : c = '(' := by simpa using hopen
        exact Or.inl ⟨by simp [hc], (noneCloses_cons_zero.1 hclear).2⟩
      | succ j => exact Or.inr ⟨j, by omega, hopen, noneCloses_cons_succ.1 hclear⟩
  · rintro (⟨hstate, hclear⟩ | ⟨j, hj, hopen, hclear⟩)
    · rw [Bool.or_eq_true, Bool.and_eq_true, bne_iff_ne, beq_iff_eq] at hstate
      rcases hstate with ⟨hin, hc⟩ | rfl
      · exact Or.inl ⟨hin, noneCloses_cons_zero.2 ⟨hc, hclear⟩⟩
      · exact Or.inr ⟨0, by omega, rfl, noneCloses_cons_zero.2 ⟨by decide, hclear⟩⟩
    · exact Or.inr ⟨j + 1, by omega, hopen, noneCloses_cons_succ.2 hclear⟩

/-! ### The scan for notes -/

/-- **The scan for notes, from any state.** The induction is on the name; a note that is open in
front of it must end in it, as the scan begins no other. -/
theorem dropNotes_eq_dropAt (inNote : Bool) {name : List Char}
    (hclosed : inNote = true → ')' ∈ name) :
    dropNotes inNote name = dropAt (fun i => IsOpen inNote name i ∧ ')' ∈ name.drop i) name := by
  induction name generalizing inNote with
  | nil => rfl
  | cons c name ih =>
    have hbehind : dropAt (fun i => IsOpen inNote (c :: name) (i + 1) ∧
          ')' ∈ (c :: name).drop (i + 1)) name =
        dropAt (fun i => IsOpen (inNote && c != ')' || c == '(') name i ∧ ')' ∈ name.drop i) name :=
      dropAt_congr (fun i => and_congr isOpen_cons_succ Iff.rfl) name
    rw [dropAt_cons, hbehind, dropNotes]
    simp only [isOpen_cons_zero, List.drop_zero]
    cases inNote with
    | true =>
      have hmem : ')' ∈ c :: name := hclosed rfl
      have hstate : (true && c != ')' || c == '(') = (c != ')') := by
        by_cases hc : c = '('
        · rw [hc]
          rfl
        · simp [hc]
      rw [hstate, if_pos rfl, if_pos ⟨Or.inl rfl, hmem⟩, List.nil_append]
      refine ih (c != ')') fun hc => ?_
      exact (List.mem_cons.1 hmem).resolve_left (bne_iff_ne.1 hc).symm
    | false =>
      by_cases hopen : c = '('
      · subst hopen
        by_cases hmem : ')' ∈ name
        · simp [hmem, ih true fun _ => hmem]
        · -- the parenthesis stays, and a note that never ends is none, open or not
          have hnone : dropAt (fun i => IsOpen true name i ∧ ')' ∈ name.drop i) name =
              dropAt (fun i => IsOpen false name i ∧ ')' ∈ name.drop i) name := by
            refine dropAt_congr (fun i => ?_) name
            have hdrop : ')' ∉ name.drop i := fun h => hmem (List.mem_of_mem_drop h)
            simp only [hdrop, and_false]
          simp [hmem, hnone, ih false]
      · simp [hopen, beq_eq_false_iff_ne.2 hopen, ih false]

/-! ### What notes leave -/

/-- No opening parenthesis is left in front of a closing one. -/
theorem pairwise_dropNotes (inNote : Bool) (name : List Char) :
    (dropNotes inNote name).Pairwise fun c d => ¬ (c = '(' ∧ d = ')') := by
  induction name generalizing inNote with
  | nil => exact List.Pairwise.nil
  | cons c name ih =>
    rw [dropNotes]
    split
    · exact ih _
    · split
      · exact ih true
      · next hkept =>
        refine List.pairwise_cons.2 ⟨?_, ih false⟩
        rintro d hd ⟨rfl, rfl⟩
        exact hkept ⟨rfl, mem_of_mem_dropNotes hd⟩

/-- Then there is no note. -/
theorem withoutNotes_of_pairwise {name : List Char}
    (h : name.Pairwise fun c d => ¬ (c = '(' ∧ d = ')')) : withoutNotes name = name := by
  rw [withoutNotes]
  induction name with
  | nil => rfl
  | cons c name ih =>
    obtain ⟨hc, hname⟩ := List.pairwise_cons.1 h
    rw [dropNotes, if_neg Bool.false_ne_true, if_neg fun hnote => hc ')' hnote.2 ⟨hnote.1, rfl⟩,
      ih hname]

/-- **Which characters go with the notes.** Just those at positions in notes; the others stay, in
their order. So no opening parenthesis is left in front of a closing one, and dropping the notes of
what is left changes nothing. -/
theorem withoutNotes_eq_dropAt_inNote (name : List Char) :
    withoutNotes name = dropAt (InNote name) name ∧
      (withoutNotes name).Pairwise (fun c d => ¬ (c = '(' ∧ d = ')')) ∧
        withoutNotes (withoutNotes name) = withoutNotes name := by
  have hpairwise := pairwise_dropNotes false name
  refine ⟨?_, hpairwise, withoutNotes_of_pairwise hpairwise⟩
  rw [withoutNotes, dropNotes_eq_dropAt false fun h => absurd h Bool.false_ne_true]
  exact dropAt_congr (fun i => inNote_iff.symm) name

example : withoutNotes "a (b (c) d) (e".toList = "a  d) (e".toList := by
  decide

/-! ### Positions in runs of digits -/

/-- The character in front of a position, where `first` stands in front of the name. -/
def before? (first : Option Char) (name : List Char) : Nat → Option Char
  | 0 => first
  | i + 1 => name[i]?

/-- The digits that stand together from a position on. -/
def runAt (name : List Char) (i : Nat) : List Char :=
  (name.drop i).takeWhile Char.isDigit

/-- What stands in the place of a character when numbers are spelled. For the first digit of a run
it is the words of the whole run, behind a space if a letter stands in front of it; for the other
digits it is nothing, and any other character stays. -/
def spelledAt (first : Option Char) (name : List Char) (i : Nat) (c : Char) : List Char :=
  if c.isDigit then
    if (before? first name i).any Char.isDigit then []
    else
      (if (before? first name i).any Char.isAlpha then [' '] else []) ++
        (ofDigits (runAt name i)).toList
  else [c]

theorem before?_cons_succ (first : Option Char) (c : Char) (name : List Char) (i : Nat) :
    before? first (c :: name) (i + 1) = before? (some c) name i := by
  cases i <;> rfl

theorem spelledAt_cons_succ (first : Option Char) (c : Char) (name : List Char) :
    (fun i => spelledAt first (c :: name) (i + 1)) = spelledAt (some c) name := by
  funext i d
  simp only [spelledAt, runAt, before?_cons_succ, List.drop_succ_cons]

/-- At the front of a name, the first digit of a run becomes what the scan makes of the run. -/
theorem spelledAt_zero_of_isDigit {c : Char} (hc : c.isDigit = true) (first : Option Char)
    (name : List Char) : spelledAt first (c :: name) 0 c =
      if first.any Char.isDigit then []
      else spellRun (first.any Char.isAlpha) ((name.takeWhile Char.isDigit).reverse ++ [c]) := by
  have hrun : runAt (c :: name) 0 = c :: name.takeWhile Char.isDigit :=
    List.takeWhile_cons_of_pos hc
  rw [spelledAt, if_pos hc, before?, hrun]
  split
  · rfl
  · have hne : (name.takeWhile Char.isDigit).reverse ++ [c] ≠ [] := by simp
    rw [spellRun, if_neg hne, List.reverse_append, List.reverse_reverse]
    cases first.any Char.isAlpha <;> rfl

/-- **The scan for runs of digits, from any state.** An open run is told with the digits in front of
all else, though they are only met in the name; behind it the positions of the name count. The
character in front of the name is a digit exactly if a run is open. -/
theorem spellRuns_eq_rewrite (first : Option Char) (afterLetter : Bool) (run name : List Char)
    (hclosed : run = [] → first.any Char.isDigit = false ∧ afterLetter = first.any Char.isAlpha)
    (hopen : run ≠ [] → first.any Char.isDigit = true) :
    spellRuns afterLetter run name =
      (if run = [] then []
        else spellRun afterLetter ((name.takeWhile Char.isDigit).reverse ++ run)) ++
        rewrite (spelledAt first name) name := by
  induction name generalizing first afterLetter run with
  | nil => by_cases hrun : run = [] <;> simp [spellRuns, spellRun, hrun]
  | cons c name ih =>
    rw [spellRuns, rewrite_cons, spelledAt_cons_succ]
    by_cases hc : c.isDigit = true
    · have hrest := ih (some c) afterLetter (c :: run) (fun h => absurd h (List.cons_ne_nil c run))
        fun _ => hc
      rw [if_pos hc, hrest, if_neg (List.cons_ne_nil c run)]
      by_cases hrun : run = []
      · -- the run begins here, and its words stand here
        obtain ⟨hdigit, rfl⟩ := hclosed hrun
        simp [hrun, spelledAt_zero_of_isDigit hc, hdigit]
      · simp [hrun, spelledAt_zero_of_isDigit hc, hopen hrun, List.takeWhile_cons_of_pos hc]
    · have hrest := ih (some c) c.isAlpha [] (fun _ => ⟨by simpa using hc, rfl⟩)
        fun h => absurd rfl h
      rw [if_neg hc, hrest]
      by_cases hrun : run = [] <;> simp [hrun, spelledAt, spellRun, hc]

/-! ### What numbers leave -/

/-- The characters of number words are no digits. -/
private theorem isDigit_of_isWordChar : ∀ c : Char, c.toNat < 128 → isWordChar c = true →
    c.isDigit = false :=
  Text.forall_ascii (by decide +kernel)

theorem isDigit_of_mem_spellNumbers {name : List Char} {c : Char} (h : c ∈ spellNumbers name) :
    c.isDigit = false := by
  rcases isWordChar_or_mem_of_mem_spellRuns h with hword | ⟨-, hdigit⟩
  · exact isDigit_of_isWordChar c (toNat_lt_of_isWordChar hword) hword
  · exact hdigit

/-- **Where the words of a number come to stand.** Each run of digits, as long as it is, gives way
to its words at the position of its first digit. They are parted by a space from a letter in front
of the run, and all else stays, in its order. So no digit is left, and spelling the numbers of what
is left changes nothing. -/
theorem spellNumbers_eq_rewrite_spelledAt (name : List Char) :
    spellNumbers name = rewrite (spelledAt none name) name ∧
      (∀ c ∈ spellNumbers name, c.isDigit = false) ∧
        spellNumbers (spellNumbers name) = spellNumbers name := by
  refine ⟨?_, fun c => isDigit_of_mem_spellNumbers,
    spellNumbers_of_clear fun c => isDigit_of_mem_spellNumbers⟩
  exact spellRuns_eq_rewrite none false [] name (fun _ => ⟨rfl, rfl⟩) fun h => absurd rfl h

example : spellNumbers "1a02b 3".toList = "onea twob three".toList := by
  decide

end ScanCodes.KeyName
