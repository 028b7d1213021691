import ScanCodes.Csv.Record
import ScanCodes.Proofs.Csv.Division
import ScanCodes.Proofs.Text.Utf8
import Mathlib.Data.List.Count

/-!
# Scanning a divided text

The records that are scanned off the bytes of a text are its lines, however the text is divided.
Each piece of the grammar is followed through the scan: what stands outside quotes is collected up
to the next separator, what stands between quotes up to the next lone quote, and the place after the
piece is one from which a separator ends the field.

## Main definitions

* `Csv.Position.after`: the place after some bytes.
* `Csv.Matches`: records have the fields of lines and begin where the lines do.

## Main results

* `Csv.scan_fields`, `Csv.scan_openFields`: the fields of a line are collected.
* `Csv.matches_scan`: the records of a divided text match its lines.
-/

namespace ScanCodes.Csv

open Text.Utf8 (bytes bytes_append bytes_cons bytes_ne_nil mem_of_mem_bytes)

/-! ### Positions -/

/-- The place after some bytes. -/
def Position.after (p : Position) (bs : List UInt8) : Position :=
  bs.foldl Position.next p

@[simp]
theorem Position.after_cons (p : Position) (b : UInt8) (bs : List UInt8) :
    p.after (b :: bs) = (p.next b).after bs := rfl

@[simp]
theorem Position.after_append (p : Position) (bs cs : List UInt8) :
    p.after (bs ++ cs) = (p.after bs).after cs :=
  List.foldl_append

theorem Position.line_after (p : Position) (bs : List UInt8) :
    (p.after bs).line = p.line + bs.count lineFeed := by
  induction bs generalizing p with
  | nil => rfl
  | cons b bs ih =>
    rw [after_cons, ih, List.count_cons, next]
    by_cases hb : b = lineFeed
    · simp only [hb, if_true, beq_self_eq_true]
      omega
    · simp [hb]

/-- The line feeds of a text are those of its bytes. -/
theorem count_lineFeed_bytes (cs : List Char) : (bytes cs).count lineFeed = cs.count '\n' := by
  induction cs with
  | nil => rfl
  | cons c cs ih =>
    rw [bytes_cons, List.count_append, ih, List.count_cons, Nat.add_comm]
    split
    · next h => rw [eq_of_beq h]; rfl
    · next h =>
      have hnot : lineFeed ∉ bytes [c] := fun hmem => by
        have hc : '\n' ∈ [c] := mem_of_mem_bytes hmem rfl (by decide)
        exact h (by simpa using (List.mem_singleton.1 hc).symm)
      rw [bytes, List.flatMap_singleton] at hnot
      rw [List.count_eq_zero.2 hnot]

/-- The line after a text. -/
theorem Position.line_after_bytes (p : Position) (cs : List Char) :
    (p.after (bytes cs)).line = p.line + cs.count '\n' := by
  rw [line_after, count_lineFeed_bytes]

/-! ### The bytes of a text in the grammar -/

/-- A text that does not begin with an ASCII character does not begin with its byte. -/
theorem head?_of_head?_bytes {cs : List Char} {c : Char} {b : UInt8}
    (h : (bytes cs).head? = some b) (hbyte : b.toNat = c.toNat) (hascii : c.toNat < 128) :
    cs.head? = some c := by
  cases cs with
  | nil => cases h
  | cons d cs =>
    obtain ⟨b', bs, hd⟩ := List.exists_cons_of_ne_nil (String.utf8EncodeChar_ne_nil (c := d))
    have hmem : b ∈ bytes [d] := by
      rw [bytes_cons, hd] at h
      cases h
      simp [bytes, hd]
    rw [List.mem_singleton.1 (mem_of_mem_bytes hmem hbyte hascii)]
    rfl

/-- Bytes without a separator. -/
def IsClear (bs : List UInt8) : Prop :=
  ∀ b ∈ bs, b ≠ comma ∧ isEnding b = false

theorem isEnding_iff {b : UInt8} : isEnding b ↔ b = lineFeed ∨ b = carriageReturn := by
  simp [isEnding]

theorem isClear_bytes {cs : List Char} (h : ∀ c ∈ cs, c ∉ separators) : IsClear (bytes cs) := by
  intro b hb
  refine ⟨?_, Bool.eq_false_iff.2 fun hending => ?_⟩
  · rintro rfl
    exact h ',' (mem_of_mem_bytes hb rfl (by decide)) (by decide)
  · rcases isEnding_iff.1 hending with rfl | rfl
    · exact h '\n' (mem_of_mem_bytes hb rfl (by decide)) (by decide)
    · exact h '\r' (mem_of_mem_bytes hb rfl (by decide)) (by decide)

/-! ### Steps -/

theorem scan_of_step {s s' : State} {p : Position} {b : UInt8} (h : step p b s = (s', none))
    (bs : List UInt8) : scan s p (b :: bs) = scan s' (p.next b) bs := by
  rw [scan, h]

theorem scan_of_step_some {s s' : State} {p : Position} {b : UInt8} {r : Record}
    (h : step p b s = (s', some r)) (bs : List UInt8) :
    scan s p (b :: bs) = r :: scan s' (p.next b) bs := by
  rw [scan, h]

section Inside

variable {start p : Position} {done : List (List UInt8)} {field : List UInt8} {place : Place}
  {b : UInt8}

theorem step_clear (hplace : place ≠ .quoted) (hquote : b = quote → place = .plain)
    (hcomma : b ≠ comma) (hending : isEnding b = false) :
    step p b (.inside start done field place) = (.inside start done (b :: field) .plain, none) := by
  by_cases hb : b = quote
  · simp [step, stepInside, hquote hb, hcomma, hending]
  · simp [step, stepInside, hplace, hb, hcomma, hending]

theorem step_comma (hplace : place ≠ .quoted) : step p comma (.inside start done field place)
    = (.inside start (field.reverse :: done) [] .start, none) := by
  have hquote : comma ≠ quote := by decide
  simp [step, stepInside, hplace, hquote]

theorem step_ending (hplace : place ≠ .quoted) (hb : isEnding b) :
    step p b (.inside start done field place)
      = (.between (b = carriageReturn), some (close start done field (p.next b))) := by
  have hquote : b ≠ quote := by rintro rfl; cases hb
  have hcomma : b ≠ comma := by rintro rfl; cases hb
  simp [step, stepInside, hplace, hquote, hcomma, hb]

theorem step_quoted (hb : b ≠ quote) : step p b (.inside start done field .quoted)
    = (.inside start done (b :: field) .quoted, none) := by
  simp [step, stepInside, hb]

/-! ### Fields -/

/-- What stands outside quotes is collected. -/
theorem scan_clear {bs : List UInt8} (hclear : IsClear bs) (hplace : place ≠ .quoted)
    (hquote : bs.head? = some quote → place = .plain) (rest : List UInt8) :
    ∃ place', place' ≠ .quoted ∧ scan (.inside start done field place) p (bs ++ rest)
      = scan (.inside start done (bs.reverse ++ field) place') (p.after bs) rest := by
  induction bs generalizing p field place with
  | nil => exact ⟨place, hplace, rfl⟩
  | cons b bs ih =>
    obtain ⟨hcomma, hending⟩ := hclear b List.mem_cons_self
    have hstep : step p b (.inside start done field place)
        = (.inside start done (b :: field) .plain, none) :=
      step_clear hplace (fun hb => hquote (by rw [hb]; rfl)) hcomma hending
    -- from here on the place is `plain`, where a quote is like any other byte
    rw [List.cons_append, scan_of_step hstep, List.reverse_cons, List.append_assoc]
    exact ih (fun c hc => hclear c (List.mem_cons_of_mem b hc)) (by decide) (fun _ => rfl)

/-- What stands between quotes is collected. -/
theorem scan_quoted {bs : List UInt8} (h : quote ∉ bs) (rest : List UInt8) :
    scan (.inside start done field .quoted) p (bs ++ rest)
      = scan (.inside start done (bs.reverse ++ field) .quoted) (p.after bs) rest := by
  induction bs generalizing p field with
  | nil => rfl
  | cons b bs ih =>
    have hb : b ≠ quote := fun hb => h (hb ▸ List.mem_cons_self)
    rw [List.cons_append, scan_of_step (step_quoted hb),
      ih fun hmem => h (List.mem_cons_of_mem b hmem), List.reverse_cons, List.append_assoc]
    rfl

/-- A text whose quotes are doubled is collected with each of them once. -/
theorem scan_doubled (v : List Char) (rest : List UInt8) :
    scan (.inside start done field .quoted) p (bytes (doubled v) ++ rest)
      = scan (.inside start done ((bytes v).reverse ++ field) .quoted)
        (p.after (bytes (doubled v))) rest := by
  induction v generalizing p field with
  | nil => rfl
  | cons c v ih =>
    by_cases hc : c = '"'
    · subst hc
      -- the first of the two quotes might have been the closing one
      have hsecond : step (p.next quote) quote (.inside start done field .closing)
          = (.inside start done (quote :: field) .quoted, none) := rfl
      have htext : bytes (doubled ('"' :: v)) = quote :: quote :: bytes (doubled v) := rfl
      have hvalue : (bytes ('"' :: v)).reverse = (bytes v).reverse ++ [quote] :=
        List.reverse_cons
      rw [htext, hvalue, List.cons_append, List.cons_append, scan_of_step rfl, scan_of_step hsecond,
        ih, List.append_assoc]
      rfl
    · have hquote : quote ∉ String.utf8EncodeChar c := fun hmem => by
        have hmem' : '"' ∈ [c] := mem_of_mem_bytes (by simpa [bytes] using hmem) rfl (by decide)
        exact hc (List.mem_singleton.1 hmem').symm
      rw [doubled_cons_of_ne hc, bytes_cons, bytes_cons, List.append_assoc, scan_quoted hquote, ih,
        List.reverse_append, List.append_assoc, Position.after_append]

/-- A field is collected without its quotes, and what follows is outside quotes. -/
theorem scan_field {v s : List Char} (h : Field v s) (rest : List UInt8) :
    ∃ place, place ≠ .quoted ∧ scan (.inside start done [] .start) p (bytes s ++ rest)
      = scan (.inside start done (bytes v).reverse place) (p.after (bytes s)) rest := by
  have hhead : ∀ {w : List Char} {place : Place}, IsPlain w →
      (bytes w).head? = some quote → place = .plain := fun hplain hquote =>
    absurd (head?_of_head?_bytes hquote rfl (by decide)) hplain.head?_ne
  cases h with
  | bare hplain =>
    rw [← List.append_nil (bytes v).reverse]
    exact scan_clear (isClear_bytes hplain.not_separator) (by decide) (hhead hplain) rest
  | @quoted v w hplain =>
    have htext : bytes ('"' :: doubled v ++ '"' :: w)
        = quote :: (bytes (doubled v) ++ quote :: bytes w) := by
      rw [List.cons_append, bytes_cons, bytes_append]
      rfl
    rw [htext, bytes_append, List.reverse_append, List.cons_append, List.append_assoc,
      List.cons_append, scan_of_step rfl, scan_doubled, scan_of_step rfl, List.append_nil,
      Position.after_cons, Position.after_append, Position.after_cons]
    exact scan_clear (isClear_bytes hplain.not_separator) (by decide) (hhead hplain) rest

/-- The fields of a line are collected, the last one still open. -/
theorem scan_fields {vs : List (List Char)} {s : List Char} (h : Fields vs s)
    (rest : List UInt8) : ∃ done' field place, place ≠ .quoted ∧
      (field.reverse :: done').reverse = done.reverse ++ vs.map bytes ∧
      scan (.inside start done [] .start) p (bytes s ++ rest)
        = scan (.inside start done' field place) (p.after (bytes s)) rest := by
  induction h generalizing p done with
  | @one v s hfield =>
    obtain ⟨place, hplace, hscan⟩ := scan_field hfield rest
    exact ⟨done, (bytes v).reverse, place, hplace, by simp, hscan⟩
  | @cons v s t vs hfield _ ih =>
    have htext : bytes (s ++ ',' :: t) ++ rest = bytes s ++ comma :: (bytes t ++ rest) := by
      rw [bytes_append, List.append_assoc]
      rfl
    have hafter : p.after (bytes (s ++ ',' :: t))
        = ((p.after (bytes s)).next comma).after (bytes t) := by
      rw [bytes_append, Position.after_append]
      rfl
    have hvalues : done.reverse ++ (v :: vs).map bytes
        = (bytes v :: done).reverse ++ vs.map bytes := by
      simp
    obtain ⟨place, hplace, hscan⟩ := scan_field hfield (comma :: (bytes t ++ rest))
    rw [htext, hafter, hvalues, hscan, scan_of_step (step_comma hplace), List.reverse_reverse]
    exact ih

/-- The fields of a line that ends inside quotes make a record. -/
theorem scan_openFields {vs : List (List Char)} {s : List Char} (h : OpenFields vs s) :
    scan (.inside start done [] .start) p (bytes s)
      = [⟨start, done.reverse ++ vs.map bytes, p.after (bytes s)⟩] := by
  induction h generalizing p done with
  | @one v =>
    have htext : bytes ('"' :: doubled v) = quote :: (bytes (doubled v) ++ []) := by
      rw [List.append_nil]
      rfl
    rw [htext, scan_of_step rfl, scan_doubled]
    simp [scan, close]
  | @cons v s t vs hfield _ ih =>
    have htext : bytes (s ++ ',' :: t) = bytes s ++ comma :: bytes t := bytes_append s (',' :: t)
    obtain ⟨place, hplace, hscan⟩ := scan_field hfield (comma :: bytes t)
    rw [htext, hscan, scan_of_step (step_comma hplace), ih, Position.after_append]
    simp

end Inside

/-! ### Lines -/

/-- `Matches line ls rs`: the records `rs` have the fields of the lines `ls` and begin where they
do, if the first of them begins on the line with the number `line`. -/
inductive Matches : Nat → List Line → List Record → Prop
  | nil {line : Nat} : Matches line [] []
  | cons {line : Nat} {l : Line} {r : Record} {ls : List Line} {rs : List Record} :
    r.start.line = line → r.fields = l.fields.map bytes →
    Matches (line + l.text.count '\n') ls rs → Matches line (l :: ls) (r :: rs)

theorem Matches.exists_cons {line : Nat} {l : Line} {ls : List Line} {rs : List Record}
    (h : Matches line (l :: ls) rs) :
    ∃ r rs', rs = r :: rs' ∧ Matches (line + l.text.count '\n') ls rs' := by
  cases h with
  | cons _ _ hrest => exact ⟨_, _, rfl, hrest⟩

/-- The fields of a record are bytes of texts. -/
theorem Matches.exists_fields_of_mem {line : Nat} {ls : List Line} {rs : List Record}
    (h : Matches line ls rs) {r : Record} (hr : r ∈ rs) : ∃ vs, r.fields = List.map bytes vs := by
  induction h with
  | nil => cases hr
  | @cons _ l _ _ _ _ hfields _ ih =>
    rcases List.mem_cons.1 hr with rfl | hr
    · exact ⟨l.fields, hfields⟩
    · exact ih hr

/-- A text that does not begin with what ends a line begins a record. -/
theorem scan_between {s : List Char} (hs : s ≠ [])
    (h : ∀ c, s.head? = some c → c ≠ '\n' ∧ c ≠ '\r') (afterReturn : Bool) (p : Position)
    (rest : List UInt8) : scan (.between afterReturn) p (bytes s ++ rest)
      = scan (.inside p [] [] .start) p (bytes s ++ rest) := by
  obtain ⟨b, bs, hb⟩ := List.exists_cons_of_ne_nil (bytes_ne_nil hs)
  have hhead : (bytes s).head? = some b := by rw [hb]; rfl
  have hfeed : b ≠ lineFeed := by
    rintro rfl
    exact (h '\n' (head?_of_head?_bytes hhead rfl (by decide))).1 rfl
  have hreturn : b ≠ carriageReturn := by
    rintro rfl
    exact (h '\r' (head?_of_head?_bytes hhead rfl (by decide))).2 rfl
  have hstep : step p b (.between afterReturn) = step p b (.inside p [] [] .start) := by
    simp [step, isEnding, hfeed, hreturn]
  rw [hb, List.cons_append, scan, scan, hstep]

/-- What ends a line ends it with its first byte; of what is left of it nothing comes, and the rest
of the text is scanned from between records. -/
theorem exists_scan_ending {e rest : List Char} (h : Ending e rest) :
    ∃ b tail afterReturn, bytes e = b :: tail ∧ isEnding b ∧
      (b = lineFeed → e.head? = some '\n') ∧ (afterReturn = true → rest.head? ≠ some '\n') ∧
      ∀ p, scan (.between (b = carriageReturn)) p (tail ++ bytes rest)
        = scan (.between afterReturn) (p.after tail) (bytes rest) := by
  cases h with
  | lineFeed =>
    exact ⟨lineFeed, [], false, rfl, rfl, fun _ => rfl, fun h => absurd h (by decide), fun _ => rfl⟩
  | carriageReturn hrest =>
    exact ⟨carriageReturn, [], true, rfl, rfl, fun h => absurd h (by decide), fun _ => hrest,
      fun _ => rfl⟩
  | both =>
    exact ⟨carriageReturn, [lineFeed], false, rfl, rfl, fun h => absurd h (by decide),
      fun h => absurd h (by decide), fun _ => rfl⟩

/-- **The records of a divided text match its lines.** A line feed in front of the text may only
stand there if it does not belong to what ended the record before. -/
theorem matches_scan {ls : List Line} {s : List Char} (h : Division ls s) {afterReturn : Bool}
    (hs : afterReturn = true → s.head? ≠ some '\n') (p : Position) :
    Matches p.line ls (scan (.between afterReturn) p (bytes s)) := by
  induction h generalizing afterReturn p with
  | nil => exact Matches.nil
  | @blank e rest ls hending _ ih =>
    obtain ⟨b, tail, afterReturn', htext, hb, hfeed, hrest, hscan⟩ := exists_scan_ending hending
    have hnot : ¬ (afterReturn = true ∧ b = lineFeed) := fun ⟨hreturn, hb⟩ =>
      hs hreturn (by rw [List.head?_append, hfeed hb, Option.some_or])
    have hstep : step p b (.between afterReturn)
        = (.between (b = carriageReturn), some ⟨p, [], p.next b⟩) := by
      simp [step, hnot, hb]
    have hline : p.line + e.count '\n' = ((p.next b).after tail).line := by
      rw [← p.line_after_bytes, htext, Position.after_cons]
    rw [bytes_append, htext, List.cons_append, scan_of_step_some hstep, hscan]
    exact Matches.cons rfl rfl (hline ▸ ih hrest _)
  | @row vs s e rest ls hfields hne hending _ ih =>
    obtain ⟨b, tail, afterReturn', htext, hb, -, hrest, hscan⟩ := exists_scan_ending hending
    obtain ⟨done, field, place, hplace, hvalues, hfieldsScan⟩ :=
      scan_fields hfields (b :: (tail ++ bytes rest))
    have hbytes : bytes (s ++ (e ++ rest)) = bytes s ++ b :: (tail ++ bytes rest) := by
      rw [bytes_append, bytes_append, htext, List.cons_append]
    have hline : p.line + (s ++ e).count '\n' = (((p.after (bytes s)).next b).after tail).line := by
      rw [← p.line_after_bytes, bytes_append, Position.after_append, htext, Position.after_cons]
    rw [hbytes, scan_between hne fun c => hfields.head?_ne, hfieldsScan,
      scan_of_step_some (step_ending hplace hb), hscan]
    exact Matches.cons rfl hvalues (hline ▸ ih hrest _)
  | @last vs s hfields hne =>
    obtain ⟨done, field, place, hplace, hvalues, hscan⟩ := scan_fields hfields []
    rw [← List.append_nil (bytes s), scan_between hne fun c => hfields.head?_ne, hscan]
    exact Matches.cons rfl hvalues Matches.nil
  | @unclosed vs s hopen =>
    rw [← List.append_nil (bytes s), scan_between hopen.ne_nil fun c => hopen.head?_ne,
      List.append_nil, scan_openFields hopen]
    exact Matches.cons rfl rfl Matches.nil

end ScanCodes.Csv
