import ScanCodes.Artifact.Header
import ScanCodes.Artifact.Source
import Mathlib.Data.List.Basic

/-!
# Reading the generated files back

Readers of the two generated texts. They know the fixed words of the two formats and nothing of the
maps behind them: an enumerator ends its line with a comma, and a literal ends at the first quote
that no backslash has taken and that a semicolon follows. What a map holds is written between those
words unchecked, so a reader finds it again only if the words cannot be mistaken.

## The conditions

An enumerator can be read back if its identifier holds no space and its scan code no line feed; a
case can be read back if its identifier holds no colon. Of literals nothing is asked. A quote or a
backslash that stands bare in front of a small letter is never mistaken for the end of a literal,
nor for the beginning of an escape.

## Main definitions

* `Artifact.many`: reads entries for as long as there is one.
* `Artifact.Header.read?`, `Artifact.Source.read?`: the readers.

## Main results

* `Artifact.Header.read?_render`, `Artifact.Source.read?_render`: what is read back from a map's
  text is the list of its entries.
-/

namespace ScanCodes.Artifact

/-! ### Entries one after another -/

/-- Reads entries for as long as there is one, and gives what follows them. An entry that takes up
no room ends the reading. -/
def many {α : Type} (item? : List Char → Option (α × List Char)) (cs : List Char) :
    List α × List Char :=
  match item? cs with
  | none => ([], cs)
  | some (a, rest) =>
    if rest.length < cs.length then
      let more := many item? rest
      (a :: more.1, more.2)
    else ([], cs)
termination_by cs.length

/-- Entries that can each be read off in front of anything can be read off one after another. -/
theorem many_flatMap {α : Type} {item? : List Char → Option (α × List Char)}
    {text : α → List Char} {tail : List Char} {as : List α}
    (hentry : ∀ a ∈ as, text a ≠ [] ∧ ∀ rest, item? (text a ++ rest) = some (a, rest))
    (htail : item? tail = none) : many item? (as.flatMap text ++ tail) = (as, tail) := by
  induction as with
  | nil => rw [List.flatMap_nil, List.nil_append, many, htail]
  | cons a as ih =>
    obtain ⟨hne, hread⟩ := hentry a List.mem_cons_self
    have hshort : (as.flatMap text ++ tail).length
        < (text a ++ (as.flatMap text ++ tail)).length := by
      have hpos := List.length_pos_iff.2 hne
      simp only [List.length_append]
      omega
    rw [List.flatMap_cons, List.append_assoc, many, hread]
    simp only [if_pos hshort, ih fun b hb => hentry b (List.mem_cons_of_mem a hb)]

/-- A text is cut at a mark whose first character does not occur before it. -/
theorem dropInfix?_append {c : Char} {mark front back : List Char} (h : c ∉ front) :
    (front ++ c :: (mark ++ back)).dropInfix? (c :: mark) = some (front, back) := by
  refine List.dropInfix?_eq_some_iff.2 ⟨⟨c :: mark, by simp, by simp⟩, ?_⟩
  intro front' mark' back' heq hb
  obtain rfl := eq_of_beq hb
  refine Nat.not_lt.1 fun hlt => ?_
  -- an earlier mark would begin inside `front`, with a character that is not there
  rw [List.append_assoc, List.append_eq_append_iff] at heq
  rcases heq with ⟨ds, rfl, -⟩ | ⟨ds, rfl, hds⟩
  · rw [List.length_append] at hlt
    omega
  · cases ds with
    | nil => simp at hlt
    | cons d ds =>
      rw [List.cons_append, List.cons_append, List.cons.injEq] at hds
      exact h (by simp [hds.1])

/-- Reads a text that consists of an opening, entries and a closing. -/
def readAll? {α : Type} (opening closing : String)
    (item? : List Char → Option (α × List Char)) (text : String) : Option (List α) := do
  let cs ← text.toList.dropPrefix? opening.toList
  let (entries, cs) := many item? cs
  if cs = closing.toList then some entries else none

/-- A text made of entries that can each be read off is read as those entries. -/
theorem readAll?_join {α : Type} {opening closing : String}
    {item? : List Char → Option (α × List Char)} {text : α → String} {as : List α}
    (hentry : ∀ a ∈ as, text a ≠ "" ∧ ∀ rest, item? ((text a).toList ++ rest) = some (a, rest))
    (hclosing : item? closing.toList = none) :
    readAll? opening closing item? (opening ++ String.join (as.map text) ++ closing)
      = some as := by
  have htext : (opening ++ String.join (as.map text) ++ closing).toList = opening.toList ++
      (as.flatMap (fun a => (text a).toList) ++ closing.toList) := by
    simp [String.toList_join, List.flatMap_map]
  have hmany : many item? (as.flatMap (fun a => (text a).toList) ++ closing.toList)
      = (as, closing.toList) :=
    many_flatMap (fun a ha => ⟨by simpa using (hentry a ha).1, (hentry a ha).2⟩) hclosing
  rw [readAll?, htext, List.dropPrefix?_append_of_beq _ (by simp)]
  simp only [Option.bind_eq_bind, Option.bind_some, hmany, if_true]

/-! ### The header -/

namespace Header

/-- Reads the line of one scan code. -/
def enumerator? (cs : List Char) : Option ((String × Identifier) × List Char) := do
  let cs ← cs.dropPrefix? "    ".toList
  let (name, cs) ← cs.dropInfix? " = ".toList
  let (value, cs) ← cs.dropInfix? "\n".toList
  let code ← value.dropSuffix? ",".toList
  return ((String.ofList code, ⟨String.ofList name⟩), cs)

/-- The entries of a header, in the order of its lines. -/
def read? (text : String) : Option (List (String × Identifier)) :=
  readAll? opening closing enumerator? text

/-- Can the line of the entry be taken apart again? -/
def IsReadable (entry : String × Identifier) : Prop :=
  ' ' ∉ entry.2.text.toList ∧ '\n' ∉ entry.1.toList

theorem enumerator?_enumerator {entry : String × Identifier} (h : IsReadable entry)
    (rest : List Char) :
    enumerator? ((enumerator entry).toList ++ rest) = some (entry, rest) := by
  obtain ⟨code, ⟨name⟩⟩ := entry
  obtain ⟨hname, hcode⟩ := h
  have hline : '\n' ∉ code.toList ++ [','] := by simpa using hcode
  -- the line, with the two marks at which it is cut
  have htext : (enumerator (code, ⟨name⟩)).toList ++ rest = "    ".toList ++
      (name.toList ++ ' ' :: ("= ".toList ++ (code.toList ++ [','] ++ '\n' :: ([] ++ rest)))) := by
    simp [enumerator]
  have hvalue : (code.toList ++ [',']).dropSuffix? [','] = some code.toList :=
    List.dropSuffix?_eq_some_iff.2 ⟨[','], rfl, by simp⟩
  rw [enumerator?, htext, List.dropPrefix?_append_of_beq _ (by simp)]
  simp only [Option.bind_eq_bind, Option.bind_some, show " = ".toList = ' ' :: "= ".toList from rfl,
    dropInfix?_append hname, show "\n".toList = ['\n'] from rfl, dropInfix?_append hline,
    show ",".toList = [','] from rfl, hvalue, String.ofList_toList]
  rfl

/-- **A header is read back.** The entries come out as they went in, in their order. -/
theorem read?_render {keys : KeyMap} (h : ∀ entry ∈ keys.entries, IsReadable entry) :
    read? (render keys) = some keys.entries :=
  readAll?_join
    (fun entry hmem => ⟨by simp [enumerator], enumerator?_enumerator (h entry hmem)⟩) rfl

end Header

/-! ### The source -/

namespace Source

/-- Reads a literal up to the quote that ends it. A backslash in front of a quote or of another
backslash stands for nothing itself. -/
def literal? : List Char → Option (List Char × List Char)
  | [] => none
  | [_] => none
  | c :: d :: cs =>
    if c = '\\' ∧ (d = '\x27' ∨ d = '\\') then (literal? cs).map fun r => (d :: r.1, r.2)
    else if c = '\x27' ∧ d = ';' then some ([], cs)
    else (literal? (d :: cs)).map fun r => (c :: r.1, r.2)

/-- Reads the case of one identifier. -/
def caseBlock? (cs : List Char) : Option ((Identifier × String) × List Char) := do
  let cs ← cs.dropPrefix? "  case ".toList
  let (name, cs) ← cs.dropInfix? ":\n    return \x27".toList
  let (literal, cs) ← literal? cs
  let cs ← cs.dropPrefix? "\n".toList
  return ((⟨String.ofList name⟩, String.ofList literal), cs)

/-- The entries of a source, in the order of its cases. -/
def read? (text : String) : Option (List (Identifier × String)) :=
  readAll? opening closing caseBlock? text

/-- A character that begins neither an escape nor the ending is read as itself. -/
private theorem literal?_cons {c d : Char} (cs : List Char)
    (hescape : ¬ (c = '\\' ∧ (d = '\x27' ∨ d = '\\'))) (hending : ¬ (c = '\x27' ∧ d = ';')) :
    literal? (c :: d :: cs) = (literal? (d :: cs)).map fun r => (c :: r.1, r.2) := by
  rw [literal?, if_neg hescape, if_neg hending]

/-- A small letter is never escaped. -/
theorem needsBackslash_of_isLower {c : Char} (h : c.isLower) (rest : List Char) :
    needsBackslash c rest = false := by
  have hquote : c ≠ '\x27' := by rintro rfl; cases h
  have hslash : c ≠ '\\' := by rintro rfl; cases h
  simp [needsBackslash, hquote, hslash]

/-- A literal is read back from between its quotes: where the text has a bare quote or a bare
backslash, a small letter follows, and so neither an ending nor an escape begins there. -/
theorem literal?_escapeChars (cs rest : List Char) :
    literal? (escapeChars cs ++ '\x27' :: ';' :: rest) = some (cs, rest) := by
  induction cs with
  | nil => rfl
  | cons c cs ih =>
    cases hneeds : needsBackslash c cs with
    | true =>
      have hmark : c = '\x27' ∨ c = '\\' := by
        simp only [needsBackslash, Bool.and_eq_true, Bool.or_eq_true, decide_eq_true_eq] at hneeds
        exact hneeds.1
      simp [escapeChars, hneeds, literal?, hmark, ih]
    | false =>
      -- the character stands bare, and what matters is the one behind it
      obtain ⟨d, ds, hds, hfollow⟩ : ∃ d ds, escapeChars cs ++ '\x27' :: ';' :: rest = d :: ds ∧
          (c = '\x27' ∨ c = '\\' → d.isLower) := by
        cases cs with
        | nil =>
          refine ⟨_, _, rfl, fun hmark => ?_⟩
          rcases hmark with rfl | rfl <;> cases hneeds
        | cons d ds =>
          by_cases hmark : c = '\x27' ∨ c = '\\'
          · have hlower : d.isLower := by simpa [needsBackslash, hmark] using hneeds
            have hd : needsBackslash d ds = false := needsBackslash_of_isLower hlower ds
            rw [escapeChars, if_neg (by simp [hd]), List.cons_append]
            exact ⟨d, _, rfl, fun _ => hlower⟩
          · rw [escapeChars]
            split <;> exact ⟨_, _, rfl, fun h => absurd h hmark⟩
      have hbare : ¬ (c = '\\' ∧ (d = '\x27' ∨ d = '\\')) ∧ ¬ (c = '\x27' ∧ d = ';') := by
        constructor
        · rintro ⟨rfl, hd⟩
          have := hfollow (Or.inr rfl)
          rcases hd with rfl | rfl <;> cases this
        · rintro ⟨rfl, rfl⟩
          cases hfollow (Or.inl rfl)
      rw [escapeChars, if_neg (by simp [hneeds]), List.cons_append, hds,
        literal?_cons ds hbare.1 hbare.2, ← hds, ih]
      rfl

/-- Can the case of the entry be taken apart again? -/
def IsReadable (entry : Identifier × String) : Prop :=
  ':' ∉ entry.1.text.toList

theorem caseBlock?_caseBlock {entry : Identifier × String} (h : IsReadable entry)
    (rest : List Char) :
    caseBlock? ((caseBlock entry).toList ++ rest) = some (entry, rest) := by
  obtain ⟨⟨name⟩, literal⟩ := entry
  -- the case, with the mark at which it is cut and the literal in front of its ending
  have htext : (caseBlock (⟨name⟩, literal)).toList ++ rest = "  case ".toList ++
      (name.toList ++ ':' :: ("\n    return \x27".toList ++
        (escapeChars literal.toList ++ '\x27' :: ';' :: ("\n".toList ++ rest)))) := by
    simp [caseBlock, escape]
  rw [caseBlock?, htext, List.dropPrefix?_append_of_beq _ (by simp)]
  simp only [Option.bind_eq_bind, Option.bind_some,
    show ":\n    return \x27".toList = ':' :: "\n    return \x27".toList from rfl,
    dropInfix?_append h, literal?_escapeChars, String.ofList_toList]
  rw [List.dropPrefix?_append_of_beq _ (by simp)]
  rfl

/-- **A source is read back.** The entries come out as they went in, in their order. -/
theorem read?_render {chars : CharMap} (h : ∀ entry ∈ chars.entries, IsReadable entry) :
    read? (render chars) = some chars.entries :=
  readAll?_join (fun entry hmem => ⟨by simp [caseBlock], caseBlock?_caseBlock (h entry hmem)⟩) rfl

end Source

end ScanCodes.Artifact
