import ScanCodes.Table
import ScanCodes.Proofs.Csv.Scan
import Mathlib.Data.List.Forall2

/-!
# What a table amounts to

The lines of a text decide what is read from it as a table. Without a line there is no header. The
header may hold anything but nothing, every other line holds three fields, and the first line that
does not is the one that is blamed, by the number of the line on which it begins. There is nothing
else that can be wrong with a text.

## Main definitions

* `Table.Accepts`: a line may stand in a table, with so many lines in front of it.
* `Table.Gives`: a line gives a row.
* `Table.Judged`: what lines amount to.

## Main results

* `Table.rows_eq_of_judged`: records that match lines amount to what the lines do.
* `Table.exists_judged`: all lines amount to something.
* `Table.rows_eq_iff_judged`: the rows of a text are what its lines amount to.
-/

namespace ScanCodes.Table

open Text.Utf8 (bytes)

/-! ### Lines of a table -/

/-- The line may stand in a table, with `number` lines in front of it. -/
def Accepts (number : Nat) (l : Csv.Line) : Prop :=
  ¬ l.IsBlank ∧ (number = 0 ∨ l.fields.length = 3)

/-- The line gives the row. -/
def Gives (l : Csv.Line) (row : Row) : Prop :=
  ∃ codes name literal : String,
    l.fields = [codes.toList, name.toList, literal.toList] ∧ row = Row.ofFields codes name literal

/-- The number of line feeds in the text of the lines. -/
def lineFeeds (ls : List Csv.Line) : Nat :=
  (ls.flatMap Csv.Line.text).count '\n'

/-- `Judged line ls outcome`: what the lines `ls` amount to, if the first of them begins on the line
with the number `line`. -/
inductive Judged (line : Nat) : List Csv.Line → Except TableError (List Row) → Prop
  | empty : Judged line [] (.error .empty)
  | malformed {front back : List Csv.Line} {bad : Csv.Line} :
    (∀ i l, front[i]? = some l → Accepts i l) → ¬ Accepts front.length bad →
    Judged line (front ++ bad :: back)
      (.error (.malformed (line + lineFeeds front) bad.fields.length))
  | accepted {header : Csv.Line} {ls : List Csv.Line} {rows : List Row} :
    ¬ header.IsBlank → List.Forall₂ Gives ls rows → Judged line (header :: ls) (.ok rows)

/-- What a line that is blamed tells about the lines. -/
theorem Judged.exists_of_malformed {first line found : Nat} {ls : List Csv.Line}
    (h : Judged first ls (.error (.malformed line found))) :
    ∃ front bad back, ls = front ++ bad :: back ∧ (∀ i l, front[i]? = some l → Accepts i l) ∧
      ¬ Accepts front.length bad ∧ line = first + lineFeeds front ∧
      found = bad.fields.length := by
  cases h with
  | malformed hfront hbad => exact ⟨_, _, _, rfl, hfront, hbad, rfl, rfl⟩

theorem lineFeeds_cons (l : Csv.Line) (ls : List Csv.Line) :
    lineFeeds (l :: ls) = l.text.count '\n' + lineFeeds ls := by
  rw [lineFeeds, List.flatMap_cons, List.count_append, lineFeeds]

/-- Whether all lines after `number` others may stand there, or else which is the first that may
not. -/
theorem accepts_or_exists_not (number : Nat) (ls : List Csv.Line) :
    (∀ i l, ls[i]? = some l → Accepts (number + i) l) ∨
      ∃ front bad back, ls = front ++ bad :: back ∧
        (∀ i l, front[i]? = some l → Accepts (number + i) l) ∧
        ¬ Accepts (number + front.length) bad := by
  induction ls generalizing number with
  | nil => exact Or.inl fun i l h => by simp at h
  | cons l ls ih =>
    by_cases hl : Accepts number l
    · have hcons : ∀ {ms : List Csv.Line},
          (∀ i m, ms[i]? = some m → Accepts (number + 1 + i) m) →
          ∀ i m, (l :: ms)[i]? = some m → Accepts (number + i) m := by
        intro ms hms i m hm
        cases i with
        | zero => cases hm; exact hl
        | succ i => rw [Nat.add_succ, ← Nat.succ_add]; exact hms i m hm
      rcases ih (number + 1) with hall | ⟨front, bad, back, rfl, hfront, hbad⟩
      · exact Or.inl (hcons hall)
      · refine Or.inr ⟨l :: front, bad, back, rfl, hcons hfront, ?_⟩
        rwa [List.length_cons, Nat.add_comm front.length, ← Nat.add_assoc]
    · exact Or.inr ⟨[], l, ls, rfl, fun i m h => by simp at h, hl⟩

/-- A line of three fields gives a row. -/
theorem exists_gives {l : Csv.Line} (h : l.fields.length = 3) : ∃ row, Gives l row := by
  obtain ⟨codes, name, literal, hfields⟩ := List.length_eq_three.1 h
  exact ⟨_, String.ofList codes, String.ofList name, String.ofList literal,
    by simpa using hfields, rfl⟩

theorem exists_forall₂_gives {ls : List Csv.Line} (h : ∀ l ∈ ls, l.fields.length = 3) :
    ∃ rows, List.Forall₂ Gives ls rows := by
  induction ls with
  | nil => exact ⟨[], List.Forall₂.nil⟩
  | cons l ls ih =>
    obtain ⟨row, hrow⟩ := exists_gives (h l List.mem_cons_self)
    obtain ⟨rows, hrows⟩ := ih fun m hm => h m (List.mem_cons_of_mem l hm)
    exact ⟨row :: rows, List.Forall₂.cons hrow hrows⟩

/-- All lines amount to something. -/
theorem exists_judged (line : Nat) (ls : List Csv.Line) : ∃ outcome, Judged line ls outcome := by
  rcases accepts_or_exists_not 0 ls with hall | ⟨front, bad, back, rfl, hfront, hbad⟩
  · cases ls with
    | nil => exact ⟨_, Judged.empty⟩
    | cons header ls =>
      have hthree : ∀ l ∈ ls, l.fields.length = 3 := fun l hl => by
        obtain ⟨i, hi⟩ := List.mem_iff_getElem?.1 hl
        exact (hall (i + 1) l hi).2.resolve_left (by omega)
      obtain ⟨rows, hrows⟩ := exists_forall₂_gives hthree
      exact ⟨_, Judged.accepted (hall 0 header rfl).1 hrows⟩
  · simp only [Nat.zero_add] at hfront hbad
    exact ⟨_, Judged.malformed hfront hbad⟩

/-! ### Records that match lines -/

/-- The fields of a line are text. -/
theorem decodeFields_bytes (field : Nat) (vs : List (List Char)) :
    decodeFields field (vs.map bytes) = .ok (vs.map String.ofList) := by
  induction vs generalizing field with
  | nil => rfl
  | cons v vs ih =>
    rw [List.map_cons, decodeFields, Text.Utf8.decode?_bytes]
    simp only [ih]
    rfl

section Step

variable {line number : Nat} {l : Csv.Line} {r : Csv.Record} {ls : List Csv.Line}
  {rs : List Csv.Record}

/-- A record that matches a line is blank if the line is. -/
theorem isBlank_iff (h : r.fields = l.fields.map bytes) : r.isBlank ↔ l.IsBlank := by
  rw [Csv.Record.isBlank, h, List.isEmpty_map, List.isEmpty_iff, Csv.Line.IsBlank]

/-- The records behind a blank line are text, and so it is the blank line that is reported. -/
theorem blankError_of_matches (h : Csv.Matches line ls rs) (start : Csv.Position)
    (blank : Csv.Record) :
    blankError number start blank rs = .malformed blank.start.line 0 := by
  rw [blankError]
  split
  · rfl
  · next next hnext =>
    obtain ⟨vs, hvs⟩ := h.exists_fields_of_mem (List.mem_of_find?_eq_some hnext)
    rw [hvs, decodeFields_bytes]

/-- A line that may not stand where it does is blamed. -/
theorem rowsFrom_of_not_accepts (h : Csv.Matches line (l :: ls) (r :: rs))
    (hl : ¬ Accepts number l) (start : Csv.Position) :
    rowsFrom number start (r :: rs) = .error (.malformed line l.fields.length) := by
  cases h with
  | cons hline hfields hrest =>
    rw [rowsFrom]
    by_cases hblank : l.IsBlank
    · rw [if_pos ((isBlank_iff hfields).2 hblank), blankError_of_matches hrest, hline,
        show l.fields = [] from hblank]
      rfl
    · rw [if_neg (mt (isBlank_iff hfields).1 hblank), hfields, decodeFields_bytes]
      have hnumber : number ≠ 0 := fun h0 => hl ⟨hblank, Or.inl h0⟩
      have hlength : l.fields.length ≠ 3 := fun h3 => hl ⟨hblank, Or.inr h3⟩
      simp only [if_neg hnumber]
      split
      · next heq =>
        exact absurd (by simpa using congrArg List.length heq) hlength
      · rw [hline, List.length_map]

/-- The header is passed over. -/
theorem rowsFrom_header (h : Csv.Matches line (l :: ls) (r :: rs)) (hl : ¬ l.IsBlank)
    (start : Csv.Position) : rowsFrom 0 start (r :: rs) = rowsFrom 1 r.stop rs := by
  cases h with
  | cons _ hfields _ =>
    rw [rowsFrom, if_neg (mt (isBlank_iff hfields).1 hl), hfields, decodeFields_bytes]
    rfl

/-- Any other line of three fields gives its row. -/
theorem rowsFrom_row (h : Csv.Matches line (l :: ls) (r :: rs)) {row : Row} (hrow : Gives l row)
    (hnumber : number ≠ 0) (start : Csv.Position) :
    rowsFrom number start (r :: rs) = (rowsFrom (number + 1) r.stop rs).map (row :: ·) := by
  obtain ⟨codes, name, literal, hl, rfl⟩ := hrow
  cases h with
  | cons _ hfields _ =>
    have hblank : ¬ l.IsBlank := by simp [Csv.Line.IsBlank, hl]
    rw [rowsFrom, if_neg (mt (isBlank_iff hfields).1 hblank), hfields, decodeFields_bytes, hl]
    simp only [if_neg hnumber, List.map_cons, List.map_nil, String.ofList_toList]

end Step

/-- The first line that may not stand where it does is blamed. -/
theorem rowsFrom_of_malformed {line number : Nat} {front back : List Csv.Line} {bad : Csv.Line}
    {rs : List Csv.Record} (h : Csv.Matches line (front ++ bad :: back) rs)
    (hfront : ∀ i l, front[i]? = some l → Accepts (number + i) l)
    (hbad : ¬ Accepts (number + front.length) bad) (start : Csv.Position) :
    rowsFrom number start rs = .error (.malformed (line + lineFeeds front) bad.fields.length) := by
  induction front generalizing line number rs start with
  | nil =>
    obtain ⟨r, rs, rfl, -⟩ := h.exists_cons
    exact rowsFrom_of_not_accepts h hbad start
  | cons l front ih =>
    obtain ⟨r, rs, rfl, hmatches⟩ := h.exists_cons
    have hl : Accepts number l := hfront 0 l rfl
    have hrest : ∀ start, rowsFrom (number + 1) start rs
        = .error (.malformed (line + lineFeeds (l :: front)) bad.fields.length) := by
      intro start
      rw [lineFeeds_cons, ← Nat.add_assoc]
      refine ih hmatches (fun i m hm => ?_) ?_ start
      · have hsucc := hfront (i + 1) m hm
        rwa [Nat.add_comm i, ← Nat.add_assoc] at hsucc
      · rwa [List.length_cons, Nat.add_comm front.length, ← Nat.add_assoc] at hbad
    by_cases hnumber : number = 0
    · subst hnumber
      rw [rowsFrom_header h hl.1, hrest]
    · obtain ⟨row, hrow⟩ := exists_gives (hl.2.resolve_left hnumber)
      rw [rowsFrom_row h hrow hnumber, hrest]
      rfl

/-- Lines of three fields give their rows, in order. -/
theorem rowsFrom_of_gives {line number : Nat} {ls : List Csv.Line} {rs : List Csv.Record}
    {rows : List Row} (h : Csv.Matches line ls rs) (hrows : List.Forall₂ Gives ls rows)
    (hnumber : number ≠ 0) (start : Csv.Position) : rowsFrom number start rs = .ok rows := by
  induction hrows generalizing line number rs start with
  | nil =>
    cases h
    rfl
  | cons hrow _ ih =>
    obtain ⟨r, rs, rfl, hmatches⟩ := h.exists_cons
    rw [rowsFrom_row h hrow hnumber, ih hmatches (Nat.succ_ne_zero number)]
    rfl

/-- Records that match lines amount to what the lines do. -/
theorem rows_eq_of_judged {bs : List UInt8} {line : Nat} {ls : List Csv.Line}
    {outcome : Except TableError (List Row)} (h : Csv.Matches line ls (records bs))
    (hjudged : Judged line ls outcome) : rows bs = outcome := by
  rw [rows]
  generalize records bs = rs at h
  cases hjudged with
  | empty =>
    cases h
    rfl
  | @malformed front back bad hfront hbad =>
    obtain ⟨l, ls, hls⟩ := List.exists_cons_of_ne_nil (show front ++ bad :: back ≠ [] by simp)
    obtain ⟨r, rs, rfl, -⟩ := (hls ▸ h).exists_cons
    exact rowsFrom_of_malformed h (by simpa using hfront) (by simpa using hbad) _
  | accepted hheader hrows =>
    obtain ⟨r, rs, rfl, hmatches⟩ := h.exists_cons
    exact (rowsFrom_header h hheader _).trans (rowsFrom_of_gives hmatches hrows (by decide) _)

/-! ### Texts -/

/-- The bytes of a text begin with the mark if its first character is the one that stands for it. -/
theorem isPrefixOf_mark_iff {cs : List Char} :
    mark.isPrefixOf (bytes cs) ↔ cs.head? = some '\uFEFF' := by
  rw [List.isPrefixOf_iff_prefix, Text.Utf8.head?_eq_some_iff]
  rfl

theorem matches_records {cs : List Char} {ls : List Csv.Line}
    (hmark : cs.head? ≠ some '\uFEFF') (h : Csv.Division ls cs) :
    Csv.Matches 1 ls (records (bytes cs)) := by
  rw [records, if_neg (mt isPrefixOf_mark_iff.1 hmark)]
  exact Csv.matches_scan h (fun hreturn => absurd hreturn (by decide)) .first

/-- **The rows of a text are what its lines amount to.** Every text has lines and all lines amount
to something, so a text without a mark gives the rows of its lines, or it is refused for having no
line or for the first line that may not stand where it does, and for nothing else. -/
theorem rows_eq_iff_judged {text : String} (h : text.toList.head? ≠ some '\uFEFF')
    (outcome : Except TableError (List Row)) : rows (Text.Utf8.encode text) = outcome ↔
      ∃ ls, Csv.Division ls text.toList ∧ Judged 1 ls outcome := by
  rw [Text.Utf8.encode_eq]
  constructor
  · rintro rfl
    obtain ⟨ls, hls⟩ := Csv.exists_division text.toList
    obtain ⟨outcome, hjudged⟩ := exists_judged 1 ls
    exact ⟨ls, hls, rows_eq_of_judged (matches_records h hls) hjudged ▸ hjudged⟩
  · rintro ⟨ls, hls, hjudged⟩
    exact rows_eq_of_judged (matches_records h hls) hjudged

/-- A blank line behind a carriage return and line feed, with a line feed between quotes in front
of it. -/
theorem judged_blank_after_quoted_line_feed :
    "codes,name,char\r\n1,\"A\n\",a\r\n\r\n2,B\n".toList.head? ≠ some '\uFEFF' ∧
      ∃ ls, Csv.Division ls "codes,name,char\r\n1,\"A\n\",a\r\n\r\n2,B\n".toList ∧
        Judged 1 ls (.error (.malformed 4 0)) :=
  ⟨by decide, (rows_eq_iff_judged (by decide) _).1 (by decide)⟩

end ScanCodes.Table
