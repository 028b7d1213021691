import ScanCodes.Proofs.Table.Mark
import ScanCodes.Proofs.Text.Words

/-!
# The rows of a table, field by field

A text lists its rows line by line: behind the header every line has three fields, and the row of
the line has the words of the first one for its scan codes and the other two as they are. This is
told from the grammar of the lines and from what words are, not from how rows are made. Only behind
a mark may there be blank lines in front of the header.

## Main definitions

* `Row.HasFields`: the row of three fields.
* `Table.Lists`: the text lists the rows.

## Main results

* `Row.hasFields_iff`: three fields have one row.
* `Table.rows_eq_ok_iff_lists`: the rows of a text are those that it lists.
-/

namespace ScanCodes

/-- The row has these fields. -/
structure Row.HasFields (row : Row) (codes name literal : List Char) : Prop where
  /-- The scan codes are the words of the first field. -/
  codes : Text.HasWords codes (row.codes.map String.toList)
  name : row.name.toList = name
  literal : row.literal.toList = literal

/-- Three fields have one row. -/
theorem Row.hasFields_iff {row : Row} {codes name literal : String} :
    row.HasFields codes.toList name.toList literal.toList ↔
      row = Row.ofFields codes name literal := by
  obtain ⟨rowCodes, rowName, rowLiteral⟩ := row
  -- words are kept as texts, and told as lists of characters
  have hcodes : Text.words codes.toList = rowCodes.map String.toList ↔
      rowCodes = (Text.words codes.toList).map String.ofList := by
    constructor <;> intro h <;> rw [h, List.map_map] <;> simp [Function.comp_def]
  rw [ofFields, mk.injEq, ← hcodes, Text.words_eq_iff_hasWords, ← String.toList_inj,
    ← String.toList_inj]
  exact ⟨fun h => ⟨h.codes, h.name, h.literal⟩, fun ⟨hcodes, hname, hliteral⟩ =>
    ⟨hcodes, hname, hliteral⟩⟩

namespace Table

/-- The line has the three fields of the row. -/
def Holds (l : Csv.Line) (row : Row) : Prop :=
  ∃ codes name literal, l.fields = [codes, name, literal] ∧ row.HasFields codes name literal

/-- `Lists cs rows`: the text `cs` lists the rows. -/
inductive Lists : List Char → List Row → Prop
  | plain {header : Csv.Line} {ls : List Csv.Line} {cs : List Char} {rows : List Row} :
    cs.head? ≠ some '\uFEFF' → Csv.Division (header :: ls) cs → ¬ header.IsBlank →
    List.Forall₂ Holds ls rows → Lists cs rows
  | marked {blanks ls : List Csv.Line} {header : Csv.Line} {cs : List Char} {rows : List Row} :
    Csv.Division (blanks ++ header :: ls) cs → (∀ l ∈ blanks, l.IsBlank) → ¬ header.IsBlank →
    List.Forall₂ Holds ls rows → Lists ('\uFEFF' :: cs) rows

theorem gives_iff_holds {l : Csv.Line} {row : Row} : Gives l row ↔ Holds l row := by
  constructor
  · rintro ⟨codes, name, literal, hfields, hrow⟩
    exact ⟨_, _, _, hfields, Row.hasFields_iff.2 hrow⟩
  · rintro ⟨codes, name, literal, hfields, hrow⟩
    refine ⟨String.ofList codes, String.ofList name, String.ofList literal, ?_, ?_⟩
    · simpa only [String.toList_ofList] using hfields
    · rw [← Row.hasFields_iff]
      simpa only [String.toList_ofList] using hrow

theorem forall₂_gives_iff_holds {ls : List Csv.Line} {rows : List Row} :
    List.Forall₂ Gives ls rows ↔ List.Forall₂ Holds ls rows :=
  ⟨fun h => h.imp fun _ _ => gives_iff_holds.1, fun h => h.imp fun _ _ => gives_iff_holds.2⟩

/-- **The rows of a text are those that it lists.** -/
theorem rows_eq_ok_iff_lists {text : String} {rs : List Row} :
    rows (Text.Utf8.encode text) = .ok rs ↔ Lists text.toList rs := by
  constructor
  · intro h
    by_cases hmark : text.toList.head? = some '\uFEFF'
    · obtain ⟨cs, hcs⟩ := List.head?_eq_some_iff.1 hmark
      rw [Text.Utf8.encode_eq, hcs] at h
      rw [hcs]
      obtain ⟨ls, hls⟩ := Csv.exists_division cs
      obtain ⟨blanks, rest, rfl, hblanks, hrest⟩ := exists_blanks ls
      obtain ⟨outcome, hjudged⟩ := exists_judged (1 + lineFeeds blanks) rest
      obtain rfl := (rows_mark_append hls hblanks hrest hjudged).symm.trans h
      cases hjudged with
      | accepted hheader hrows =>
        exact .marked hls hblanks hheader (forall₂_gives_iff_holds.1 hrows)
    · obtain ⟨ls, hls, hjudged⟩ := (rows_eq_iff_judged hmark (.ok rs)).1 h
      cases hjudged with
      | accepted hheader hrows => exact .plain hmark hls hheader (forall₂_gives_iff_holds.1 hrows)
  · intro h
    generalize htext : text.toList = cs at h
    rw [Text.Utf8.encode_eq, htext]
    cases h with
    | plain hmark hls hheader hrows =>
      exact rows_eq_of_judged (matches_records hmark hls)
        (Judged.accepted hheader (forall₂_gives_iff_holds.2 hrows))
    | marked hls hblanks hheader hrows =>
      refine rows_mark_append hls hblanks (fun l hl => ?_)
        (Judged.accepted hheader (forall₂_gives_iff_holds.2 hrows))
      cases hl
      exact hheader

end Table

end ScanCodes
