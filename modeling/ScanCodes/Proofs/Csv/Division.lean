import Mathlib.Data.List.TakeWhile

/-!
# The lines of a text of comma-separated values

The grammar of comma-separated values, written down as what a text looks like and not as how it is
read. A line is a row of fields with what ends it. A field stands either outside quotes, and then it
holds no separator and does not begin with a quote, or it begins between quotes, each quote in it
written twice, and may go on behind the closing quote. A line without a character in front of its
end is blank and has no fields.

Every text can be divided into lines: quotes that nothing closes hold the rest of the text. Where a
line feed follows a carriage return, the two end one line and not two.

## Main definitions

* `Csv.Field`, `Csv.Fields`, `Csv.OpenFields`: a field, a row of fields, and a row of fields of
  which the last one is never closed, each with the text that spells it.
* `Csv.Ending`: what ends a line in front of the rest of the text.
* `Csv.Division`: a text is divided into lines.

## Main results

* `Csv.exists_division`: every text can be divided.
-/

namespace ScanCodes.Csv

/-! ### The grammar -/

/-- The characters that end a field outside quotes. -/
def separators : List Char := [',', '\n', '\r']

/-- A text with every quote in it written twice. -/
def doubled (cs : List Char) : List Char :=
  cs.flatMap fun c => if c = '"' then ['"', '"'] else [c]

/-- The text means itself: it holds no separator and does not begin with a quote. -/
structure IsPlain (cs : List Char) : Prop where
  head?_ne : cs.head? ≠ some '"'
  not_separator : ∀ c ∈ cs, c ∉ separators

/-- `Field v s`: the text `s` spells a field whose value is `v`. -/
inductive Field : List Char → List Char → Prop
  | bare {v : List Char} : IsPlain v → Field v v
  | quoted {v w : List Char} : IsPlain w → Field (v ++ w) ('"' :: doubled v ++ '"' :: w)

/-- `Fields vs s`: the text `s` spells fields with the values `vs`, parted by commas. -/
inductive Fields : List (List Char) → List Char → Prop
  | one {v s : List Char} : Field v s → Fields [v] s
  | cons {v s t : List Char} {vs : List (List Char)} :
    Field v s → Fields vs t → Fields (v :: vs) (s ++ ',' :: t)

/-- `OpenFields vs s`: so does `s`, but for the quotes of the last field, which are not closed. -/
inductive OpenFields : List (List Char) → List Char → Prop
  | one {v : List Char} : OpenFields [v] ('"' :: doubled v)
  | cons {v s t : List Char} {vs : List (List Char)} :
    Field v s → OpenFields vs t → OpenFields (v :: vs) (s ++ ',' :: t)

/-- `Ending e rest`: a line may end with `e` in front of `rest`. -/
inductive Ending : List Char → List Char → Prop
  | lineFeed {rest : List Char} : Ending ['\n'] rest
  | carriageReturn {rest : List Char} : rest.head? ≠ some '\n' → Ending ['\r'] rest
  | both {rest : List Char} : Ending ['\r', '\n'] rest

/-- A line of a text. -/
structure Line where
  /-- The values of its fields. -/
  fields : List (List Char)
  /-- Its characters, with those that end it. -/
  text : List Char

/-- A line without fields. -/
def Line.IsBlank (l : Line) : Prop :=
  l.fields = []

/-- `Division ls s`: the text `s` is divided into the lines `ls`. -/
inductive Division : List Line → List Char → Prop
  /-- Nothing after the last line is no line. -/
  | nil : Division [] []
  | blank {e rest : List Char} {ls : List Line} :
    Ending e rest → Division ls rest → Division (⟨[], e⟩ :: ls) (e ++ rest)
  | row {vs : List (List Char)} {s e rest : List Char} {ls : List Line} : Fields vs s → s ≠ [] →
    Ending e rest → Division ls rest → Division (⟨vs, s ++ e⟩ :: ls) (s ++ (e ++ rest))
  /-- The last line need not be ended. -/
  | last {vs : List (List Char)} {s : List Char} : Fields vs s → s ≠ [] → Division [⟨vs, s⟩] s
  | unclosed {vs : List (List Char)} {s : List Char} : OpenFields vs s → Division [⟨vs, s⟩] s

/-! ### How lines begin -/

/-- No field begins with what ends a line. -/
theorem Field.head?_ne {v s : List Char} (h : Field v s) {c : Char} (hc : s.head? = some c) :
    c ≠ '\n' ∧ c ≠ '\r' := by
  cases h with
  | bare hplain =>
    have hsep := hplain.not_separator c (List.mem_of_mem_head? hc)
    constructor <;> rintro rfl <;> exact hsep (by decide)
  | quoted hplain =>
    cases hc
    decide

theorem Field.head?_append_comma_ne {v s t : List Char} (h : Field v s) {c : Char}
    (hc : (s ++ ',' :: t).head? = some c) : c ≠ '\n' ∧ c ≠ '\r' := by
  rw [List.head?_append, Option.or_eq_some_iff] at hc
  rcases hc with hc | ⟨-, hc⟩
  · exact h.head?_ne hc
  · cases hc
    decide

theorem Fields.values_ne_nil {vs : List (List Char)} {s : List Char} (h : Fields vs s) :
    vs ≠ [] := by
  cases h <;> simp

theorem Fields.head?_ne {vs : List (List Char)} {s : List Char} (h : Fields vs s) {c : Char}
    (hc : s.head? = some c) : c ≠ '\n' ∧ c ≠ '\r' := by
  cases h with
  | one hfield => exact hfield.head?_ne hc
  | cons hfield _ => exact hfield.head?_append_comma_ne hc

theorem OpenFields.values_ne_nil {vs : List (List Char)} {s : List Char} (h : OpenFields vs s) :
    vs ≠ [] := by
  cases h <;> simp

theorem OpenFields.ne_nil {vs : List (List Char)} {s : List Char} (h : OpenFields vs s) :
    s ≠ [] := by
  cases h <;> simp

theorem OpenFields.head?_ne {vs : List (List Char)} {s : List Char} (h : OpenFields vs s) {c : Char}
    (hc : s.head? = some c) : c ≠ '\n' ∧ c ≠ '\r' := by
  cases h with
  | one =>
    cases hc
    decide
  | cons hfield _ => exact hfield.head?_append_comma_ne hc

/-- A line with fields is not blank, and its text does not begin as a blank one does. -/
private theorem head_isBlank_iff_of_fields {l : Line} {ls : List Line} {s : List Char}
    (hl : l.fields ≠ []) (hs : ∀ c, s.head? = some c → c ≠ '\n' ∧ c ≠ '\r') :
    (∃ m, (l :: ls).head? = some m ∧ m.IsBlank) ↔ s.head? = some '\n' ∨ s.head? = some '\r' := by
  constructor
  · rintro ⟨m, hm, hblank⟩
    cases hm
    exact absurd hblank hl
  · rintro (hc | hc)
    · exact absurd rfl (hs _ hc).1
    · exact absurd rfl (hs _ hc).2

/-- The first line is blank if the text begins with what ends a line. -/
theorem Division.head_isBlank_iff {ls : List Line} {s : List Char} (h : Division ls s) :
    (∃ l, ls.head? = some l ∧ l.IsBlank) ↔ s.head? = some '\n' ∨ s.head? = some '\r' := by
  cases h with
  | nil => simp
  | blank hending _ =>
    refine ⟨fun _ => ?_, fun _ => ⟨_, rfl, rfl⟩⟩
    cases hending <;> simp
  | row hfields hne _ _ =>
    obtain ⟨c, s, rfl⟩ := List.exists_cons_of_ne_nil hne
    exact head_isBlank_iff_of_fields hfields.values_ne_nil fun c => hfields.head?_ne
  | last hfields _ =>
    exact head_isBlank_iff_of_fields hfields.values_ne_nil fun c => hfields.head?_ne
  | unclosed hopen =>
    exact head_isBlank_iff_of_fields hopen.values_ne_nil fun c => hopen.head?_ne

/-! ### Every text has lines -/

theorem doubled_cons_of_ne {c : Char} (h : c ≠ '"') (cs : List Char) :
    doubled (c :: cs) = c :: doubled cs := by
  simp [doubled, h]

/-- A text from inside quotes ends there or goes on behind the closing quote. -/
theorem exists_closing (cs : List Char) : (∃ v, cs = doubled v) ∨
    ∃ v rest, cs = doubled v ++ '"' :: rest ∧ rest.head? ≠ some '"' := by
  match cs with
  | [] => exact Or.inl ⟨[], rfl⟩
  | [c] =>
    by_cases hc : c = '"'
    · exact Or.inr ⟨[], [], by simp [hc, doubled], by simp⟩
    · exact Or.inl ⟨[c], (doubled_cons_of_ne hc []).symm⟩
  | c :: d :: cs =>
    by_cases hc : c = '"'
    · by_cases hd : d = '"'
      · subst hc hd
        rcases exists_closing cs with ⟨v, rfl⟩ | ⟨v, rest, rfl, hrest⟩
        · exact Or.inl ⟨'"' :: v, rfl⟩
        · exact Or.inr ⟨'"' :: v, rest, rfl, hrest⟩
      · exact Or.inr ⟨[], d :: cs, by simp [hc, doubled], by simpa using hd⟩
    · rcases exists_closing (d :: cs) with ⟨v, hv⟩ | ⟨v, rest, hv, hrest⟩
      · exact Or.inl ⟨c :: v, by rw [doubled_cons_of_ne hc, hv]⟩
      · exact Or.inr ⟨c :: v, rest, by rw [doubled_cons_of_ne hc, hv, List.cons_append], hrest⟩
termination_by cs.length

/-- A text that does not begin with a quote means itself up to the first separator. -/
theorem exists_isPlain {cs : List Char} (h : cs.head? ≠ some '"') :
    ∃ w rest, cs = w ++ rest ∧ IsPlain w ∧ ∀ c ∈ rest.head?, c ∈ separators := by
  refine ⟨cs.takeWhile (· ∉ separators), cs.dropWhile (· ∉ separators),
    List.takeWhile_append_dropWhile.symm, ⟨fun hquote => h ?_, fun c hc => ?_⟩, fun c hc => ?_⟩
  · rw [← List.takeWhile_append_dropWhile (p := (· ∉ separators)) (l := cs), List.head?_append,
      hquote, Option.some_or]
  · simpa using List.mem_takeWhile_imp hc
  · have hfirst := List.head?_dropWhile_not (· ∉ separators) cs
    rw [Option.mem_def.1 hc] at hfirst
    simpa using hfirst

/-- A text begins with a field, unless it is one whose quotes are not closed. -/
theorem exists_field (cs : List Char) : (∃ v, cs = '"' :: doubled v) ∨
    ∃ v s rest, cs = s ++ rest ∧ Field v s ∧ ∀ c ∈ rest.head?, c ∈ separators := by
  by_cases hquote : cs.head? = some '"'
  · obtain ⟨cs, rfl⟩ := List.head?_eq_some_iff.1 hquote
    rcases exists_closing cs with ⟨v, rfl⟩ | ⟨v, rest, rfl, hrest⟩
    · exact Or.inl ⟨v, rfl⟩
    · obtain ⟨w, rest, rfl, hw, hsep⟩ := exists_isPlain hrest
      exact Or.inr ⟨v ++ w, _, rest, by simp, Field.quoted hw, hsep⟩
  · obtain ⟨w, rest, rfl, hw, hsep⟩ := exists_isPlain hquote
    exact Or.inr ⟨w, w, rest, rfl, Field.bare hw, hsep⟩

/-- A text begins with the fields of a line. -/
theorem exists_fields (cs : List Char) : (∃ vs, OpenFields vs cs) ∨
    ∃ vs s rest, cs = s ++ rest ∧ Fields vs s ∧ ∀ c ∈ rest.head?, c = '\n' ∨ c = '\r' := by
  rcases exists_field cs with ⟨v, rfl⟩ | ⟨v, s, rest, hcs, hfield, hsep⟩
  · exact Or.inl ⟨[v], OpenFields.one⟩
  · by_cases hcomma : rest.head? = some ','
    · obtain ⟨rest, rfl⟩ := List.head?_eq_some_iff.1 hcomma
      have hshort : rest.length < cs.length := by
        rw [hcs, List.length_append, List.length_cons]
        omega
      rcases exists_fields rest with ⟨vs, hopen⟩ | ⟨vs, t, rest, rfl, hfields, hend⟩
      · exact Or.inl ⟨v :: vs, hcs ▸ OpenFields.cons hfield hopen⟩
      · exact Or.inr ⟨v :: vs, s ++ ',' :: t, rest, by simp [hcs], Fields.cons hfield hfields, hend⟩
    · refine Or.inr ⟨[v], s, rest, hcs, Fields.one hfield, fun c hc => ?_⟩
      have hmem := hsep c hc
      rw [separators, List.mem_cons] at hmem
      rcases hmem with rfl | hmem
      · exact absurd hc hcomma
      · simpa using hmem
termination_by cs.length

theorem exists_ending {c : Char} (h : c = '\n' ∨ c = '\r') (cs : List Char) :
    ∃ e rest, c :: cs = e ++ rest ∧ Ending e rest ∧ rest.length ≤ cs.length := by
  rcases h with rfl | rfl
  · exact ⟨['\n'], cs, rfl, Ending.lineFeed, le_rfl⟩
  · by_cases hfeed : cs.head? = some '\n'
    · obtain ⟨cs, rfl⟩ := List.head?_eq_some_iff.1 hfeed
      exact ⟨['\r', '\n'], cs, rfl, Ending.both, Nat.le_succ _⟩
    · exact ⟨['\r'], cs, rfl, Ending.carriageReturn hfeed, le_rfl⟩

/-- **Every text is divided into lines.** -/
theorem exists_division (cs : List Char) : ∃ ls, Division ls cs := by
  rcases exists_fields cs with ⟨vs, hopen⟩ | ⟨vs, s, rest, hcs, hfields, hend⟩
  · exact ⟨_, Division.unclosed hopen⟩
  · cases rest with
    | nil =>
      rw [List.append_nil] at hcs
      by_cases hs : s = []
      · exact ⟨[], hcs ▸ hs ▸ Division.nil⟩
      · exact ⟨_, hcs ▸ Division.last hfields hs⟩
    | cons c rest =>
      obtain ⟨e, rest', hrest, hending, hle⟩ := exists_ending (hend c rfl) rest
      have hshort : rest'.length < cs.length := by
        rw [hcs, List.length_append, List.length_cons]
        omega
      obtain ⟨ls, hls⟩ := exists_division rest'
      rw [hcs, hrest]
      by_cases hs : s = []
      · rw [hs, List.nil_append]
        exact ⟨_, Division.blank hending hls⟩
      · exact ⟨_, Division.row hfields hs hending hls⟩
termination_by cs.length

end ScanCodes.Csv
