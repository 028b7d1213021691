import ScanCodes.Proofs.Table.Judgement

/-!
# Tables with a byte order mark

A mark in front of a text is dropped, and the blank lines behind it are passed over with it. So a
mark changes nothing where the text does not begin with a blank line. Where it does, the text alone
is refused for that line, and with a mark it is what the lines behind the blank ones amount to. The
two agree then only by chance: the first line that may not stand where it does has to be blank too,
and as lines are counted by line feeds, none may come before it.

## Main definitions

* `Table.BlankAgain`: behind blank lines and a header another blank line is blamed, on the first
  line of the text.

## Main results

* `Table.rows_mark_append`: the rows of a text with a mark.
* `Table.rows_mark_append_eq_iff`: when a mark changes nothing.
-/

namespace ScanCodes.Table

open Text.Utf8 (bytes)

/-! ### Blank lines in front -/

theorem lineFeeds_append (ls ms : List Csv.Line) :
    lineFeeds (ls ++ ms) = lineFeeds ls + lineFeeds ms := by
  rw [lineFeeds, List.flatMap_append, List.count_append, lineFeeds, lineFeeds]

/-- The blank lines in front of the others. -/
theorem exists_blanks (ls : List Csv.Line) : ∃ blanks rest, ls = blanks ++ rest ∧
    (∀ l ∈ blanks, l.IsBlank) ∧ ∀ l, rest.head? = some l → ¬ l.IsBlank := by
  induction ls with
  | nil => exact ⟨[], [], rfl, by simp, by simp⟩
  | cons l ls ih =>
    by_cases hl : l.IsBlank
    · obtain ⟨blanks, rest, rfl, hblanks, hrest⟩ := ih
      exact ⟨l :: blanks, rest, rfl, List.forall_mem_cons.2 ⟨hl, hblanks⟩, hrest⟩
    · exact ⟨[], l :: ls, rfl, by simp, by simpa using hl⟩

/-- Records that match lines still do so without the blank ones in front. -/
theorem matches_dropWhile {line : Nat} {blanks rest : List Csv.Line} {rs : List Csv.Record}
    (h : Csv.Matches line (blanks ++ rest) rs) (hblanks : ∀ l ∈ blanks, l.IsBlank)
    (hrest : ∀ l, rest.head? = some l → ¬ l.IsBlank) :
    Csv.Matches (line + lineFeeds blanks) rest (rs.dropWhile (·.isBlank)) := by
  induction blanks generalizing line rs with
  | nil =>
    cases h with
    | nil => exact Csv.Matches.nil
    | cons hline hfields hmatches =>
      rw [List.dropWhile_cons_of_neg (mt (isBlank_iff hfields).1 (hrest _ rfl))]
      exact Csv.Matches.cons hline hfields hmatches
  | cons l blanks ih =>
    cases h with
    | cons _ hfields hmatches =>
      rw [List.dropWhile_cons_of_pos ((isBlank_iff hfields).2 (hblanks l List.mem_cons_self)),
        lineFeeds_cons, ← Nat.add_assoc]
      exact ih hmatches fun m hm => hblanks m (List.mem_cons_of_mem l hm)

/-- **With a mark, the blank lines in front are passed over.** -/
theorem rows_mark_append {cs : List Char} {blanks rest : List Csv.Line}
    {outcome : Except TableError (List Row)} (h : Csv.Division (blanks ++ rest) cs)
    (hblanks : ∀ l ∈ blanks, l.IsBlank) (hrest : ∀ l, rest.head? = some l → ¬ l.IsBlank)
    (hjudged : Judged (1 + lineFeeds blanks) rest outcome) :
    rows (mark ++ bytes cs) = outcome := by
  refine rows_eq_of_judged ?_ hjudged
  rw [records, if_pos (List.isPrefixOf_iff_prefix.2 (List.prefix_append _ _)), List.drop_left]
  exact matches_dropWhile (Csv.matches_scan h (fun hreturn => absurd hreturn (by decide))
    ⟨mark.length, 1⟩) hblanks hrest

/-! ### When a mark changes nothing -/

/-- Behind blank lines and a header, the first line that may not stand where it does is blank too,
and no line feed comes before it. -/
def BlankAgain (ls : List Csv.Line) : Prop :=
  ∃ blanks front bad back, ls = blanks ++ (front ++ bad :: back) ∧ (∀ l ∈ blanks, l.IsBlank) ∧
    front ≠ [] ∧ (∀ i l, front[i]? = some l → Accepts i l) ∧ bad.IsBlank ∧
    lineFeeds (blanks ++ front) = 0

/-- A text without a mark that begins with a blank line is refused for it. -/
theorem rows_eq_malformed {cs : List Char} (hmark : cs.head? ≠ some '\uFEFF')
    (h : cs.head? = some '\n' ∨ cs.head? = some '\r') :
    rows (bytes cs) = .error (.malformed 1 0) := by
  obtain ⟨ls, hls⟩ := Csv.exists_division cs
  obtain ⟨l, hl, hblank⟩ := hls.head_isBlank_iff.2 h
  obtain ⟨ls, rfl⟩ := List.head?_eq_some_iff.1 hl
  have hjudged : Judged 1 ([] ++ l :: ls)
      (.error (.malformed (1 + lineFeeds []) l.fields.length)) :=
    Judged.malformed (fun i m hm => by simp at hm) fun haccepts => haccepts.1 hblank
  rw [show l.fields = [] from hblank] at hjudged
  exact rows_eq_of_judged (matches_records hmark hls) hjudged

/-- A text that does not begin with a blank line gives the same with a mark. -/
theorem rows_mark_append_of_not_blank {cs : List Char} (hmark : cs.head? ≠ some '\uFEFF')
    (h : ¬ (cs.head? = some '\n' ∨ cs.head? = some '\r')) :
    rows (mark ++ bytes cs) = rows (bytes cs) := by
  obtain ⟨ls, hls⟩ := Csv.exists_division cs
  obtain ⟨outcome, hjudged⟩ := exists_judged 1 ls
  have hfirst : ∀ l, ls.head? = some l → ¬ l.IsBlank := fun l hl hblank =>
    h (hls.head_isBlank_iff.1 ⟨l, hl, hblank⟩)
  rw [rows_eq_of_judged (matches_records hmark hls) hjudged]
  exact rows_mark_append (show Csv.Division ([] ++ ls) cs from hls) (by simp) hfirst hjudged

/-- With a mark, a blank line is blamed on the first line of a text if it is not one of those that
are passed over and is the first to be at fault. -/
theorem rows_mark_append_eq_malformed_iff {cs : List Char} :
    rows (mark ++ bytes cs) = .error (.malformed 1 0) ↔
      ∃ ls, Csv.Division ls cs ∧ BlankAgain ls := by
  constructor
  · intro h
    obtain ⟨ls, hls⟩ := Csv.exists_division cs
    obtain ⟨blanks, rest, rfl, hblanks, hrest⟩ := exists_blanks ls
    obtain ⟨outcome, hjudged⟩ := exists_judged (1 + lineFeeds blanks) rest
    obtain rfl : outcome = .error (.malformed 1 0) :=
      (rows_mark_append hls hblanks hrest hjudged).symm.trans h
    obtain ⟨front, bad, back, rfl, hfront, -, hline, hfound⟩ := hjudged.exists_of_malformed
    have hbad : bad.IsBlank := List.length_eq_zero_iff.1 hfound.symm
    refine ⟨_, hls, blanks, front, bad, back, rfl, hblanks, ?_, hfront, hbad, ?_⟩
    · rintro rfl
      exact hrest bad rfl hbad
    · rw [lineFeeds_append]
      omega
  · rintro ⟨_, hls, blanks, front, bad, back, rfl, hblanks, hne, hfront, hbad, hfeeds⟩
    have hjudged : Judged (1 + lineFeeds blanks) (front ++ bad :: back)
        (.error (.malformed (1 + lineFeeds blanks + lineFeeds front) bad.fields.length)) :=
      Judged.malformed hfront fun haccepts => haccepts.1 hbad
    have hline : 1 + lineFeeds blanks + lineFeeds front = 1 := by
      rw [lineFeeds_append] at hfeeds
      omega
    rw [hline, show bad.fields = [] from hbad] at hjudged
    refine rows_mark_append hls hblanks (fun l hl => ?_) hjudged
    obtain ⟨header, front, rfl⟩ := List.exists_cons_of_ne_nil hne
    exact (hfront 0 l hl).1

/-- **A mark changes nothing unless the text begins with a blank line,** and even then if another
blank line is blamed in its place. -/
theorem rows_mark_append_eq_iff {text : String} (h : text.toList.head? ≠ some '\uFEFF') :
    rows (mark ++ Text.Utf8.encode text) = rows (Text.Utf8.encode text) ↔
      ¬ (text.toList.head? = some '\n' ∨ text.toList.head? = some '\r') ∨
        ∃ ls, Csv.Division ls text.toList ∧ BlankAgain ls := by
  rw [Text.Utf8.encode_eq]
  by_cases hblank : text.toList.head? = some '\n' ∨ text.toList.head? = some '\r'
  · rw [rows_eq_malformed h hblank, rows_mark_append_eq_malformed_iff]
    exact (or_iff_right (not_not.2 hblank)).symm
  · exact iff_of_true (rows_mark_append_of_not_blank h hblank) (Or.inl hblank)

/-- Lines ended by carriage returns alone are all on the first line. -/
theorem blankAgain_carriage_returns :
    "\rcodes\r\r".toList.head? ≠ some '\uFEFF' ∧
      ∃ ls, Csv.Division ls "\rcodes\r\r".toList ∧ BlankAgain ls :=
  ⟨by decide, ((rows_mark_append_eq_iff (by decide)).1 (by decide)).resolve_left (by decide)⟩

/-- A blank line in front of the header is refused, but not behind a mark. -/
theorem rows_blank_behind_mark :
    "\ncodes,name,char\n1,A,a\n".toList.head? ≠ some '\uFEFF' ∧
      rows (mark ++ Text.Utf8.encode "\ncodes,name,char\n1,A,a\n") = .ok [⟨["1"], "A", "a"⟩] ∧
      rows (Text.Utf8.encode "\ncodes,name,char\n1,A,a\n") = .error (.malformed 1 0) := by
  decide

end ScanCodes.Table
