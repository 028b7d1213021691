import ScanCodes.Proofs.Table.Lines

/-!
# Reading back what has been written

A table is written field by field: each value between quotes with its own quotes doubled, or as it
is where it holds nothing that would be misread. Whatever is chosen for each field and for the end
of each record, the rows that are read are those that were written: names and characters as they
were, and the codes word for word. Nothing is mistaken for a blank line, because a record of more
than one field holds a comma.

A header whose first value begins with a mark loses the mark, which is no matter, as the header may
hold anything.

## Main definitions

* `Csv.Written`, `Csv.WrittenFields`, `Csv.WrittenRecords`: a value, the values of a record and
  records, each with a text that it may be written as.
* `Table.Entry.Tells`: the row has what was written.

## Main results

* `Csv.WrittenRecords.exists_division`: written records are the lines of their text.
* `Table.rows_of_written`: the rows of a written table are those of its entries.
-/

namespace ScanCodes

namespace Csv

/-! ### Writing -/

/-- `Written v s`: the value `v` may be written as `s`. -/
inductive Written : List Char → List Char → Prop
  | verbatim {v : List Char} : (∀ c ∈ v, c ≠ '"' ∧ c ∉ separators) → Written v v
  | quoted {v : List Char} : Written v ('"' :: doubled v ++ ['"'])

/-- `WrittenFields vs s`: the values `vs` may be written as `s`, with commas between them. -/
inductive WrittenFields : List (List Char) → List Char → Prop
  | one {v s : List Char} : Written v s → WrittenFields [v] s
  | cons {v s t : List Char} {vs : List (List Char)} :
    Written v s → WrittenFields vs t → WrittenFields (v :: vs) (s ++ ',' :: t)

/-- What a record may be ended with. -/
def endings : List (List Char) := [['\n'], ['\r', '\n'], ['\r']]

/-- `WrittenRecords records s`: the records may be written as `s`. -/
inductive WrittenRecords : List (List (List Char)) → List Char → Prop
  | nil : WrittenRecords [] []
  | cons {vs : List (List Char)} {s e t : List Char} {records : List (List (List Char))} :
    WrittenFields vs s → e ∈ endings → WrittenRecords records t →
    WrittenRecords (vs :: records) (s ++ (e ++ t))
  /-- The last record need not be ended. -/
  | last {vs : List (List Char)} {s : List Char} : WrittenFields vs s → WrittenRecords [vs] s

/-- Whether a value may stand without quotes can be computed. -/
theorem Written.of_all {v : List Char} (h : v.all fun c => c ≠ '"' ∧ c ∉ separators) :
    Written v v :=
  Written.verbatim fun c hc => by simpa using List.all_eq_true.1 h c hc

/-! ### What is written is in the grammar -/

theorem Written.field {v s : List Char} (h : Written v s) : Field v s := by
  cases h with
  | verbatim hv =>
    refine Field.bare ⟨fun hhead => ?_, fun c hc => (hv c hc).2⟩
    exact (hv '"' (List.mem_of_mem_head? hhead)).1 rfl
  | quoted =>
    have hplain : IsPlain [] := ⟨by simp, by simp⟩
    simpa using Field.quoted (v := v) hplain

theorem WrittenFields.fields {vs : List (List Char)} {s : List Char} (h : WrittenFields vs s) :
    Fields vs s := by
  induction h with
  | one hwritten => exact Fields.one hwritten.field
  | cons hwritten _ ih => exact Fields.cons hwritten.field ih

/-- Where there are several values there is a comma. -/
theorem WrittenFields.ne_nil {vs : List (List Char)} {s : List Char} (h : WrittenFields vs s)
    (hlength : 2 ≤ vs.length) : s ≠ [] := by
  cases h with
  | one => simp at hlength
  | cons => simp

/-- No record of several values begins with a line feed. -/
theorem WrittenRecords.head?_ne {records : List (List (List Char))} {s : List Char}
    (h : WrittenRecords records s) (hlength : ∀ vs ∈ records, 2 ≤ vs.length) :
    s.head? ≠ some '\n' := by
  intro hhead
  cases h with
  | nil => cases hhead
  | cons hfields _ _ =>
    obtain ⟨c, s, rfl⟩ := List.exists_cons_of_ne_nil (hfields.ne_nil (hlength _ List.mem_cons_self))
    exact (hfields.fields.head?_ne hhead).1 rfl
  | last hfields => exact (hfields.fields.head?_ne hhead).1 rfl

theorem ending_of_mem_endings {e rest : List Char} (h : e ∈ endings)
    (hrest : rest.head? ≠ some '\n') : Ending e rest := by
  simp only [endings, List.mem_cons, List.not_mem_nil, or_false] at h
  rcases h with rfl | rfl | rfl
  · exact Ending.lineFeed
  · exact Ending.both
  · exact Ending.carriageReturn hrest

/-- **Written records are the lines of their text.** -/
theorem WrittenRecords.exists_division {records : List (List (List Char))} {s : List Char}
    (h : WrittenRecords records s) (hlength : ∀ vs ∈ records, 2 ≤ vs.length) :
    ∃ ls, Division ls s ∧ ls.map Line.fields = records := by
  induction h with
  | nil => exact ⟨[], Division.nil, rfl⟩
  | @cons vs s e t records hfields he ht ih =>
    have hvs : 2 ≤ vs.length := hlength vs List.mem_cons_self
    have hrest : ∀ us ∈ records, 2 ≤ us.length := fun us hus =>
      hlength us (List.mem_cons_of_mem vs hus)
    obtain ⟨ls, hls, rfl⟩ := ih hrest
    exact ⟨⟨vs, s ++ e⟩ :: ls, Division.row hfields.fields (hfields.ne_nil hvs)
      (ending_of_mem_endings he (ht.head?_ne hrest)) hls, rfl⟩
  | @last vs s hfields =>
    exact ⟨[⟨vs, s⟩], Division.last hfields.fields (hfields.ne_nil (hlength vs List.mem_cons_self)),
      rfl⟩

/-! ### A mark in the first value -/

theorem Written.tail {v s : List Char} {c : Char} (h : Written v (c :: s)) (hc : c ≠ '"') :
    Written s s := by
  cases h with
  | verbatim hv => exact Written.verbatim fun d hd => hv d (List.mem_cons_of_mem c hd)
  | quoted => exact absurd rfl hc

/-- Without the mark that it begins with, a text of some values is still one of as many. -/
theorem WrittenFields.exists_tail {vs : List (List Char)} {s : List Char}
    (h : WrittenFields vs ('\uFEFF' :: s)) :
    ∃ us, us.length = vs.length ∧ WrittenFields us s := by
  generalize ht : '\uFEFF' :: s = t at h
  cases h with
  | one hwritten => exact ⟨[s], rfl, WrittenFields.one ((ht ▸ hwritten).tail (by decide))⟩
  | @cons v t u vs hwritten hfields =>
    cases t with
    | nil => cases ht
    | cons c t =>
      cases ht
      exact ⟨t :: vs, rfl, WrittenFields.cons (hwritten.tail (by decide)) hfields⟩

theorem WrittenRecords.exists_tail {vs : List (List Char)} {records : List (List (List Char))}
    {s : List Char} (h : WrittenRecords (vs :: records) ('\uFEFF' :: s)) (hlength : 2 ≤ vs.length) :
    ∃ us, us.length = vs.length ∧ WrittenRecords (us :: records) s := by
  generalize ht : '\uFEFF' :: s = t at h
  cases h with
  | cons hfields he hrecords =>
    obtain ⟨c, t, rfl⟩ := List.exists_cons_of_ne_nil (hfields.ne_nil hlength)
    cases ht
    obtain ⟨us, hus, hfields⟩ := hfields.exists_tail
    exact ⟨us, hus, WrittenRecords.cons hfields he hrecords⟩
  | last hfields =>
    obtain ⟨us, hus, hfields⟩ := (ht ▸ hfields).exists_tail
    exact ⟨us, hus, WrittenRecords.last hfields⟩

end Csv

/-! ### Reading -/

namespace Table

/-- What is written as one record of a table. -/
structure Entry where
  codes : String
  name : String
  literal : String

/-- The values of an entry in the order of the table. -/
def Entry.values (e : Entry) : List (List Char) :=
  [e.codes.toList, e.name.toList, e.literal.toList]

/-- The row of an entry. -/
def Entry.row (e : Entry) : Row :=
  Row.ofFields e.codes e.name e.literal

/-- The row has what was written: the words of the codes, and the name and the character as they
are. -/
def Entry.Tells (e : Entry) (row : Row) : Prop :=
  row.HasFields e.codes.toList e.name.toList e.literal.toList

theorem Entry.tells_row (e : Entry) : e.Tells e.row :=
  Row.hasFields_iff.2 rfl

/-- Lines with the values of entries hold their rows. -/
theorem holds_of_map_fields {ls : List Csv.Line} {entries : List Entry}
    (h : ls.map Csv.Line.fields = entries.map Entry.values) :
    List.Forall₂ Holds ls (entries.map Entry.row) := by
  induction entries generalizing ls with
  | nil =>
    obtain rfl := List.map_eq_nil_iff.1 h
    exact List.Forall₂.nil
  | cons e entries ih =>
    obtain ⟨l, ls, rfl, hl, hls⟩ := List.map_eq_cons_iff.1 h
    exact List.Forall₂.cons ⟨_, _, _, hl, e.tells_row⟩ (ih hls)

/-- A written table has a line for its header, which is not blank, and a line for each entry. -/
theorem exists_lines_of_written {vs : List (List Char)} {entries : List Entry} {cs : List Char}
    (h : Csv.WrittenRecords (vs :: entries.map Entry.values) cs) (hvs : 2 ≤ vs.length) :
    ∃ header ls, Csv.Division (header :: ls) cs ∧ ¬ header.IsBlank ∧
      List.Forall₂ Holds ls (entries.map Entry.row) := by
  have hlength : ∀ us ∈ vs :: entries.map Entry.values, 2 ≤ us.length := by
    refine List.forall_mem_cons.2 ⟨hvs, fun us hus => ?_⟩
    obtain ⟨e, -, rfl⟩ := List.mem_map.1 hus
    simp [Entry.values]
  obtain ⟨ls, hdivision, hfields⟩ := h.exists_division hlength
  obtain ⟨header, ls, rfl, hheader, hls⟩ := List.map_eq_cons_iff.1 hfields
  have hblank : ¬ header.IsBlank := by
    rintro hblank
    rw [← hheader, show header.fields = [] from hblank] at hvs
    simp at hvs
  exact ⟨header, ls, hdivision, hblank, holds_of_map_fields hls⟩

/-- However a table is written, it lists the rows of its entries. -/
theorem lists_of_written {vs : List (List Char)} {entries : List Entry} {cs : List Char}
    (hvs : 2 ≤ vs.length) (h : Csv.WrittenRecords (vs :: entries.map Entry.values) cs) :
    Lists cs (entries.map Entry.row) := by
  by_cases hmark : cs.head? = some '\uFEFF'
  · -- without its mark the header is another one, but it still has as many fields
    obtain ⟨cs, rfl⟩ := List.head?_eq_some_iff.1 hmark
    obtain ⟨us, hus, htail⟩ := h.exists_tail hvs
    obtain ⟨header, ls, hdivision, hheader, hrows⟩ := exists_lines_of_written htail (hus ▸ hvs)
    exact Lists.marked (show Csv.Division ([] ++ header :: ls) cs from hdivision) nofun hheader
      hrows
  · obtain ⟨header, ls, hdivision, hheader, hrows⟩ := exists_lines_of_written h hvs
    exact Lists.plain hmark hdivision hheader hrows

/-- **The rows of a written table are those of its entries,** however it is written: one row for
each entry, in their order, with the name and the character of the entry and the words of its
codes. -/
theorem rows_of_written {header : List String} {entries : List Entry} {text : String}
    (hheader : 2 ≤ header.length)
    (h : Csv.WrittenRecords (header.map String.toList :: entries.map Entry.values) text.toList) :
    ∃ read, rows (Text.Utf8.encode text) = .ok read ∧ List.Forall₂ Entry.Tells entries read ∧
      read = entries.map Entry.row := by
  have hvs : 2 ≤ (header.map String.toList).length := by rwa [List.length_map]
  refine ⟨_, rows_eq_ok_iff_lists.2 (lists_of_written hvs h), ?_, rfl⟩
  rw [List.forall₂_map_right_iff]
  exact List.forall₂_same.2 fun e _ => e.tells_row

/-- A header with a mark, a quote and a line feed between quotes, and an empty value on either side
of a comma. -/
theorem rows_of_written_two_entries :
    2 ≤ ["\uFEFFcodes", "name"].length ∧
      Csv.WrittenRecords (["\uFEFFcodes", "name"].map String.toList ::
        [Entry.mk "1 2" "a\"\n" "", ⟨"", "B", "x"⟩].map Entry.values)
        "\uFEFFcodes,\"name\"\r1 2,\"a\"\"\n\",\n,B,x".toList ∧
      ∃ read, rows (Text.Utf8.encode "\uFEFFcodes,\"name\"\r1 2,\"a\"\"\n\",\n,B,x") = .ok read ∧
        List.Forall₂ Entry.Tells [Entry.mk "1 2" "a\"\n" "", ⟨"", "B", "x"⟩] read ∧
        read = [Entry.mk "1 2" "a\"\n" "", ⟨"", "B", "x"⟩].map Entry.row := by
  have h : Csv.WrittenRecords (["\uFEFFcodes", "name"].map String.toList ::
      [Entry.mk "1 2" "a\"\n" "", ⟨"", "B", "x"⟩].map Entry.values)
      "\uFEFFcodes,\"name\"\r1 2,\"a\"\"\n\",\n,B,x".toList := by
    have htext : "\uFEFFcodes,\"name\"\r1 2,\"a\"\"\n\",\n,B,x".toList
        = ("\uFEFFcodes".toList ++ ',' :: ('"' :: Csv.doubled "name".toList ++ ['"'])) ++ (['\r'] ++
          (("1 2".toList ++ ',' ::
              (('"' :: Csv.doubled "a\"\n".toList ++ ['"']) ++ ',' :: "".toList)) ++
            (['\n'] ++ ("".toList ++ ',' :: ("B".toList ++ ',' :: "x".toList))))) := by
      decide
    rw [htext]
    exact .cons (.cons (.of_all (by decide)) (.one .quoted)) (by decide)
      (.cons (.cons (.of_all (by decide)) (.cons .quoted (.one (.of_all (by decide)))))
        (by decide) (.last (.cons (.of_all (by decide))
          (.cons (.of_all (by decide)) (.one (.of_all (by decide)))))))
  exact ⟨by decide, h, rows_of_written (by decide) h⟩

end Table

end ScanCodes
