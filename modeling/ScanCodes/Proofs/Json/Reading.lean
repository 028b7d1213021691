import ScanCodes.Json
import Mathlib.Data.List.Basic
import Mathlib.Data.Nat.Digits.Defs

/-!
# Reading JSON

A reader that goes by the grammar of JSON and knows nothing of any layout: there may be space around
every token, a character of a text may be escaped or not, and hexadecimal digits may be capitals.
What it reads of the layout of a value is that value, so nothing is lost when a value is printed.

Of the grammar it has what a value can be here. Signs, fractions and exponents of numbers, the
literal names, and characters that take two escapes are not read.

## Main definitions

* `Json.scanText?`, `Json.scanCount?`: the reader of texts and of counts.
* `Json.scanBlock?`: the reader of what stands between brackets.
* `Json.scanValue?`: the reader of values.
* `Json.read?`: the value that a text is, with nothing but space behind it.

## Main results

* `Json.scanText?_quote`: a text is read from between its quotes.
* `Json.scanElements?_lines`: lines between brackets are read one by one.
* `Json.readsLine_scanValue?`: a value is read from its layout at any level.
* `Json.read?_pretty_append`: and so from the layout as a whole.
* `Json.pretty_injective`: no two values have one layout.
-/

namespace ScanCodes.Json

/-! ### The reader -/

/-- Space that may stand around a token. -/
def isSpace (c : Char) : Bool :=
  c = ' ' || c = '\t' || c = '\n' || c = '\r'

/-- What follows the space at the front. -/
def skip (cs : List Char) : List Char :=
  cs.dropWhile isSpace

/-- The value of a hexadecimal digit. -/
def hexValue? (c : Char) : Option Nat :=
  if '0' ≤ c && c ≤ '9' then some (c.toNat - '0'.toNat)
  else if 'a' ≤ c && c ≤ 'f' then some (c.toNat - 'a'.toNat + 10)
  else if 'A' ≤ c && c ≤ 'F' then some (c.toNat - 'A'.toNat + 10)
  else none

/-- The character whose number is written in hexadecimal digits. -/
def numbered? (digits : List Char) : Option Char := do
  let values ← digits.mapM hexValue?
  let n := Nat.ofDigits 16 values.reverse
  if n.isValidChar then some (Char.ofNat n) else none

/-- The character that a letter behind a backslash stands for. -/
def escaped? (c : Char) : Option Char :=
  match c with
  | '"' => some '"'
  | '\\' => some '\\'
  | '/' => some '/'
  | 'b' => some '\x08'
  | 'f' => some '\x0c'
  | 'n' => some '\n'
  | 'r' => some '\r'
  | 't' => some '\t'
  | _ => none

/-- Reads a text on from behind its opening quote, and gives what follows the closing one. -/
def scanText? : List Char → Option (List Char × List Char)
  | [] => none
  | '"' :: cs => some ([], cs)
  | '\\' :: 'u' :: d₁ :: d₂ :: d₃ :: d₄ :: cs => do
    let c ← numbered? [d₁, d₂, d₃, d₄]
    let (s, rest) ← scanText? cs
    return (c :: s, rest)
  | '\\' :: letter :: cs => do
    let c ← escaped? letter
    let (s, rest) ← scanText? cs
    return (c :: s, rest)
  | c :: cs =>
    if c.toNat < 0x20 then none
    else do
      let (s, rest) ← scanText? cs
      return (c :: s, rest)

/-- Reads a count, which has no zeros in front. -/
def scanCount? (cs : List Char) : Option (Nat × List Char) :=
  let digits := cs.takeWhile Char.isDigit
  if digits = [] || (digits.head? = some '0' && digits ≠ ['0']) then none
  else some (Nat.ofDigitChars 10 digits 0, cs.dropWhile Char.isDigit)

section Blocks

variable {α : Type}

/-- Reads elements with commas between them, up to the closing bracket, and no more of them than
`n`. -/
def scanElements? (element? : List Char → Option (α × List Char)) (closing : Char) :
    Nat → List Char → Option (List α × List Char)
  | 0, _ => none
  | n + 1, cs => do
    let (x, cs) ← element? cs
    match skip cs with
    | [] => none
    | c :: cs =>
      if c = ',' then do
        let (xs, rest) ← scanElements? element? closing n cs
        return (x :: xs, rest)
      else if c = closing then return ([x], cs)
      else none

/-- Reads on from behind an opening bracket: either there are elements, or the bracket is closed at
once. -/
def scanBlock? (element? : List Char → Option (α × List Char)) (closing : Char) (n : Nat)
    (cs : List Char) : Option (List α × List Char) :=
  (scanElements? element? closing n cs).or <|
    match skip cs with
    | [] => none
    | c :: cs => if c = closing then some ([], cs) else none

end Blocks

/-- Reads a key, a colon and a value. -/
def scanKeyed? (value? : List Char → Option (Json × List Char)) (cs : List Char) :
    Option ((String × Json) × List Char) :=
  match skip cs with
  | '"' :: cs => do
    let (key, cs) ← scanText? cs
    match skip cs with
    | ':' :: cs => do
      let (v, rest) ← value? cs
      return ((String.ofList key, v), rest)
    | _ => none
  | _ => none

/-- Reads a value. It may be nested as deep as `n`, and its blocks may be as long. -/
def scanValue? : Nat → List Char → Option (Json × List Char)
  | 0, _ => none
  | n + 1, cs =>
    match skip cs with
    | '"' :: cs => (scanText? cs).map fun (s, rest) => (.text (String.ofList s), rest)
    | '[' :: cs => (scanBlock? (scanValue? n) ']' n cs).map fun (vs, rest) => (.list vs, rest)
    | '\x7b' :: cs =>
      (scanBlock? (scanKeyed? (scanValue? n)) '\x7d' n cs).map fun (es, rest) => (.object es, rest)
    | cs => (scanCount? cs).map fun (k, rest) => (.count k, rest)

/-- The value that a text is. -/
def read? (s : String) : Option Json := do
  let (v, rest) ← scanValue? s.length s.toList
  if skip rest = [] then some v else none

/-! ### Space -/

theorem skip_append {space : List Char} (hspace : ∀ c ∈ space, isSpace c) (cs : List Char) :
    skip (space ++ cs) = skip cs :=
  List.dropWhile_append_of_pos hspace

theorem skip_cons {c : Char} (h : isSpace c = false) (cs : List Char) :
    skip (c :: cs) = c :: cs := by
  rw [skip, List.dropWhile_cons_of_neg (by simp [h])]

theorem isSpace_of_mem_newLine {level : Nat} {c : Char} (h : c ∈ (newLine level).toList) :
    isSpace c := by
  rw [newLine, String.toList_ofList, List.mem_cons] at h
  rcases h with rfl | h
  · rfl
  · rw [(List.mem_replicate.1 h).2]
    rfl

theorem isDigit_of_isSpace {c : Char} (h : isSpace c) : c.isDigit = false := by
  simp only [isSpace, Bool.or_eq_true, decide_eq_true_eq] at h
  rcases h with ((rfl | rfl) | rfl) | rfl <;> rfl

/-- No digit comes next, so a count ends here. -/
def NoDigit (cs : List Char) : Prop :=
  ∀ c ∈ cs.head?, c.isDigit = false

theorem noDigit_cons {c : Char} (h : c.isDigit = false) (cs : List Char) : NoDigit (c :: cs) := by
  rintro d ⟨⟩
  exact h

theorem noDigit_append {space : List Char} (hspace : ∀ c ∈ space, isSpace c) {cs : List Char}
    (h : NoDigit cs) : NoDigit (space ++ cs) := by
  cases space with
  | nil => exact h
  | cons c space => exact noDigit_cons (isDigit_of_isSpace (hspace c List.mem_cons_self)) _

/-! ### Texts -/

/-- A control character is read from its number. -/
theorem numbered?_control {n : Nat} (h : n < 0x20) :
    numbered? ['0', '0', hexDigit (n / 16), hexDigit (n % 16)] = some (Char.ofNat n) := by
  revert n
  decide

/-- A letter behind a backslash is read as what it stands for. -/
theorem scanText?_escaped {letter c : Char} (hletter : letter ≠ 'u') (h : escaped? letter = some c)
    (cs : List Char) :
    scanText? ('\\' :: letter :: cs) = (scanText? cs).map fun (s, rest) => (c :: s, rest) := by
  rw [scanText?]
  · rw [h]
    cases scanText? cs <;> rfl
  · rintro d₁ d₂ d₃ d₄ ds rfl
    exact absurd rfl hletter

/-- A character that is neither a quote nor a backslash nor a control is read as it is. -/
theorem scanText?_cons {c : Char} (hquote : c ≠ '"') (hslash : c ≠ '\\')
    (hplain : ¬ c.toNat < 0x20) (cs : List Char) :
    scanText? (c :: cs) = (scanText? cs).map fun (s, rest) => (c :: s, rest) := by
  rw [scanText?, if_neg hplain]
  · cases scanText? cs <;> rfl
  · exact hquote
  · rintro d₁ d₂ d₃ d₄ ds rfl
    exact absurd rfl hslash
  · rintro letter ds rfl
    exact absurd rfl hslash

/-- However a character is written, it is read as itself. -/
theorem scanText?_escape (c : Char) (cs : List Char) :
    scanText? (escape c ++ cs) = (scanText? cs).map fun (s, rest) => (c :: s, rest) := by
  rw [escape]
  split_ifs with hquote hslash hback hfeed hline hreturn htab hcontrol
  · rw [hquote]
    exact scanText?_escaped (by decide) rfl cs
  · rw [hslash]
    exact scanText?_escaped (by decide) rfl cs
  · rw [hback]
    exact scanText?_escaped (by decide) rfl cs
  · rw [hfeed]
    exact scanText?_escaped (by decide) rfl cs
  · rw [hline]
    exact scanText?_escaped (by decide) rfl cs
  · rw [hreturn]
    exact scanText?_escaped (by decide) rfl cs
  · rw [htab]
    exact scanText?_escaped (by decide) rfl cs
  · have hnumbered := numbered?_control hcontrol
    rw [Char.ofNat_toNat] at hnumbered
    simp only [List.cons_append, List.nil_append]
    rw [scanText?, hnumbered]
    cases scanText? cs <;> rfl
  · exact scanText?_cons hquote hslash hcontrol cs

theorem scanText?_flatMap_escape (cs rest : List Char) :
    scanText? (cs.flatMap escape ++ '"' :: rest) = some (cs, rest) := by
  induction cs with
  | nil => rw [List.flatMap_nil, List.nil_append, scanText?]
  | cons c cs ih =>
    rw [List.flatMap_cons, List.append_assoc, scanText?_escape, ih]
    rfl

/-- **A text is read from between its quotes.** -/
theorem scanText?_quote (s : String) (rest : List Char) :
    ∃ cs, (quote s).toList ++ rest = '"' :: cs ∧ scanText? cs = some (s.toList, rest) := by
  refine ⟨s.toList.flatMap escape ++ '"' :: rest, ?_, scanText?_flatMap_escape s.toList rest⟩
  rw [quote, String.toList_ofList, List.append_assoc, List.cons_append, List.singleton_append]

/-! ### Counts -/

theorem toDigits_of_ge {n : Nat} (h : 10 ≤ n) :
    Nat.toDigits 10 n = Nat.toDigits 10 (n / 10) ++ [(n % 10).digitChar] :=
  Nat.toDigits_of_base_le (by decide) h

/-- A count is written without zeros in front. -/
theorem toDigits_eq_of_head? {n : Nat} (h : (Nat.toDigits 10 n).head? = some '0') :
    Nat.toDigits 10 n = ['0'] := by
  induction n using Nat.strongRecOn with
  | ind n ih =>
    rcases Nat.lt_or_ge n 10 with hlt | hge
    · rw [Nat.toDigits_of_lt_base hlt] at h ⊢
      rw [Option.some.inj h]
    · rw [toDigits_of_ge hge, List.head?_append_of_ne_nil _ Nat.toDigits_ne_nil] at h
      -- the digits in front would be those of zero
      have hzero : n / 10 = 0 := by
        rw [← Nat.ofDigitChars_ten_toDigits (n := n / 10), ih (n / 10) (by omega) h]
        rfl
      omega

/-- **A count is read from its digits.** -/
theorem scanCount?_toDigits (n : Nat) {rest : List Char} (hrest : NoDigit rest) :
    scanCount? (Nat.toDigits 10 n ++ rest) = some (n, rest) := by
  have hdigits : ∀ c ∈ Nat.toDigits 10 n, c.isDigit :=
    fun c hc => Nat.isDigit_of_mem_toDigits (by decide) (by decide) hc
  have hends : rest.takeWhile Char.isDigit = [] ∧ rest.dropWhile Char.isDigit = rest := by
    cases rest with
    | nil => exact ⟨rfl, rfl⟩
    | cons c cs =>
      have hc := hrest c rfl
      exact ⟨List.takeWhile_cons_of_neg (by simp [hc]), List.dropWhile_cons_of_neg (by simp [hc])⟩
  have hzeros : (Nat.toDigits 10 n = [] || ((Nat.toDigits 10 n).head? = some '0' &&
      Nat.toDigits 10 n ≠ ['0'])) = false := by
    simpa [Nat.toDigits_ne_nil] using toDigits_eq_of_head?
  rw [scanCount?, List.takeWhile_append_of_pos hdigits, hends.1, List.append_nil,
    List.dropWhile_append_of_pos hdigits, hends.2, Nat.ofDigitChars_ten_toDigits]
  simp only [hzeros, Bool.false_eq_true, if_false]

/-! ### Blocks -/

section Blocks

variable {α : Type} {element? : List Char → Option (α × List Char)} {line : α → List Char}
  {closing : Char} {pad after : List Char} {xs : List α}

/-- The element of a line is read from it, whatever space there is around it. -/
def ReadsLine (element? : List Char → Option (α × List Char)) (line : α → List Char) (x : α) :
    Prop :=
  ∀ space rest, (∀ c ∈ space, isSpace c) → NoDigit rest →
    element? (space ++ (line x ++ rest)) = some (x, rest)

/-- **Lines between brackets are read one by one.** -/
theorem scanElements?_lines (hpad : ∀ c ∈ pad, isSpace c) (hafter : ∀ c ∈ after, isSpace c)
    (hcomma : closing ≠ ',') (hspace : isSpace closing = false) (hdigit : closing.isDigit = false)
    (hne : xs ≠ []) (hread : ∀ x ∈ xs, ReadsLine element? line x) {n : Nat} (hn : xs.length ≤ n)
    (rest : List Char) :
    scanElements? element? closing n
      (pad ++ ((',' :: pad).intercalate (xs.map line) ++ (after ++ closing :: rest)))
      = some (xs, rest) := by
  induction xs generalizing n with
  | nil => exact absurd rfl hne
  | cons x xs ih =>
    obtain ⟨n, rfl⟩ : ∃ m, n = m + 1 := ⟨n - 1, by simp only [List.length_cons] at hn; omega⟩
    have hx := hread x List.mem_cons_self
    rw [scanElements?]
    cases xs with
    | nil =>
      have hend : NoDigit (after ++ closing :: rest) :=
        noDigit_append hafter (noDigit_cons hdigit rest)
      rw [List.map_singleton, List.intercalate_singleton, hx pad _ hpad hend]
      simp only [Option.bind_eq_bind, Option.bind_some]
      rw [skip_append hafter, skip_cons hspace]
      simp only [if_neg hcomma, if_true]
      rfl
    | cons y ys =>
      have hmore := ih (List.cons_ne_nil y ys) (fun z hz => hread z (List.mem_cons_of_mem x hz))
        (n := n) (by simpa using hn)
      rw [List.map_cons, List.map_cons, List.intercalate_cons_cons, ← List.map_cons]
      simp only [List.append_assoc, List.cons_append]
      rw [hx pad _ hpad (noDigit_cons (by decide) _)]
      simp only [Option.bind_eq_bind, Option.bind_some]
      rw [skip_cons (by decide)]
      simp only [if_true, hmore, Option.bind_some]
      rfl

/-- The lines of a block, with the space that separates them. -/
theorem toList_block (opening closing : String) (level : Nat) {lines : List String}
    (h : lines ≠ []) :
    (block opening closing level lines).toList =
      opening.toList ++ ((newLine (level + 1)).toList ++
        ((',' :: (newLine (level + 1)).toList).intercalate (lines.map String.toList) ++
          ((newLine level).toList ++ closing.toList))) := by
  rw [block, if_neg h]
  simp only [String.toList_append, String.toList_intercalate, List.append_assoc]
  rfl

theorem length_le_length_intercalate (sep : List Char) {ts : List (List Char)} {t : List Char}
    (h : t ∈ ts) : t.length ≤ (sep.intercalate ts).length := by
  induction ts with
  | nil => exact absurd h List.not_mem_nil
  | cons u us ih =>
    cases us with
    | nil => rw [List.mem_singleton.1 h, List.intercalate_singleton]
    | cons v vs =>
      rw [List.intercalate_cons_cons, List.length_append, List.length_append]
      rcases List.mem_cons.1 h with rfl | h
      · omega
      · have hmore := ih h
        omega

theorem length_le_length_intercalate_succ {sep : List Char} (hsep : sep ≠ [])
    (ts : List (List Char)) : ts.length ≤ (sep.intercalate ts).length + 1 := by
  induction ts with
  | nil => exact Nat.zero_le _
  | cons u us ih =>
    cases us with
    | nil => simp
    | cons v vs =>
      have hpos := List.length_pos_iff.2 hsep
      rw [List.intercalate_cons_cons, List.length_append, List.length_append, List.length_cons]
      omega

/-- **A block is read from its lines**, if the element of every line is. -/
theorem scanBlock?_block {n level : Nat} (opening closing : Char) {left right : String}
    {text : α → String} (hopen : left.toList = [opening]) (hclose : right.toList = [closing])
    (hcomma : closing ≠ ',') (hspace : isSpace closing = false) (hdigit : closing.isDigit = false)
    (hnone : ∀ rest, element? (closing :: rest) = none)
    (hlength : (block left right level (xs.map text)).toList.length ≤ n + 1)
    (hread : ∀ x ∈ xs, (text x).toList.length ≤ n → ReadsLine element? (String.toList ∘ text) x)
    (rest : List Char) :
    ∃ cs, (block left right level (xs.map text)).toList ++ rest = opening :: cs ∧
      scanBlock? element? closing n cs = some (xs, rest) := by
  by_cases hxs : xs = []
  · subst hxs
    refine ⟨closing :: rest, by simp [block, hopen, hclose], ?_⟩
    have hfirst : scanElements? element? closing n (closing :: rest) = none := by
      cases n with
      | zero => rfl
      | succ n => rw [scanElements?, hnone]; rfl
    rw [scanBlock?, hfirst, Option.none_or, skip_cons hspace]
    simp only [if_true]
  · have hlines : xs.map text ≠ [] := by simpa using hxs
    rw [toList_block _ _ _ hlines, hopen, hclose, List.map_map] at hlength ⊢
    refine ⟨(newLine (level + 1)).toList ++
      ((',' :: (newLine (level + 1)).toList).intercalate (xs.map (String.toList ∘ text)) ++
        ((newLine level).toList ++ closing :: rest)), by simp, ?_⟩
    simp only [List.length_append, List.length_singleton] at hlength
    have hcount := length_le_length_intercalate_succ
      (List.cons_ne_nil ',' (newLine (level + 1)).toList) (xs.map (String.toList ∘ text))
    rw [List.length_map] at hcount
    have hlines : ∀ x ∈ xs, ReadsLine element? (String.toList ∘ text) x := by
      intro x hx
      refine hread x hx ?_
      have hline := length_le_length_intercalate (',' :: (newLine (level + 1)).toList)
        (List.mem_map_of_mem (f := String.toList ∘ text) hx)
      rw [Function.comp_apply] at hline
      omega
    rw [scanBlock?, scanElements?_lines (fun c => isSpace_of_mem_newLine)
      (fun c => isSpace_of_mem_newLine) hcomma hspace hdigit hxs hlines (by omega) rest,
      Option.some_or]

end Blocks

/-! ### Values -/

theorem renderItems_eq (level : Nat) (vs : List Json) :
    renderItems level vs = vs.map (render level) := by
  induction vs with
  | nil => rw [renderItems, List.map_nil]
  | cons v vs ih => rw [renderItems, ih, List.map_cons]

/-- The line of an entry. -/
def entryLine (level : Nat) (e : String × Json) : String :=
  quote e.1 ++ ": " ++ render level e.2

theorem renderEntries_eq (level : Nat) (es : List (String × Json)) :
    renderEntries level es = es.map (entryLine level) := by
  induction es with
  | nil => rw [renderEntries, List.map_nil]
  | cons e es ih => rw [renderEntries, ih, List.map_cons, entryLine]

/-- An entry is read from its line if its value is. -/
theorem readsLine_scanKeyed? {value? : List Char → Option (Json × List Char)} {level : Nat}
    {e : String × Json} (h : ReadsLine value? (String.toList ∘ render level) e.2) :
    ReadsLine (scanKeyed? value?) (String.toList ∘ entryLine level) e := by
  intro space rest hspace hrest
  have hvalue : value? (' ' :: ((render level e.2).toList ++ rest)) = some (e.2, rest) :=
    h [' '] rest (by simp [isSpace]) hrest
  obtain ⟨cs, hcs, hkey⟩ :=
    scanText?_quote e.1 (':' :: ' ' :: ((render level e.2).toList ++ rest))
  have htext : (entryLine level e).toList ++ rest = '"' :: cs := by
    rw [← hcs, entryLine]
    simp
  rw [Function.comp_apply, htext, scanKeyed?, skip_append hspace, skip_cons (by decide)]
  simp only [hkey, Option.bind_eq_bind, Option.bind_some]
  rw [skip_cons (by decide)]
  simp only [hvalue, Option.bind_some, String.ofList_toList]
  rfl

theorem toList_toString (k : Nat) : (toString k).toList = Nat.toDigits 10 k := by
  rw [Nat.toString_eq_repr, Nat.repr_eq_ofList_toDigits, String.toList_ofList]

theorem toList_render_ne_nil (level : Nat) (v : Json) : (render level v).toList ≠ [] := by
  cases v with
  | text s => simp [render, quote]
  | count k =>
    rw [render, toList_toString]
    exact Nat.toDigits_ne_nil
  | list items =>
    rw [render, block]
    split <;> simp
  | object entries =>
    rw [render, block]
    split <;> simp

/-- A count is read as a value. -/
theorem scanValue?_toDigits {n : Nat} (k : Nat) {rest : List Char} (hrest : NoDigit rest) :
    scanValue? (n + 1) (Nat.toDigits 10 k ++ rest) = some (.count k, rest) := by
  obtain ⟨c, cs, hcs⟩ := List.exists_cons_of_ne_nil (Nat.toDigits_ne_nil (n := k) (b := 10))
  have hc : c.isDigit := Nat.isDigit_of_mem_toDigits (b := 10) (n := k) (by decide) (by decide)
    (by rw [hcs]; exact List.mem_cons_self)
  have hread := scanCount?_toDigits k hrest
  rw [hcs, List.cons_append] at hread ⊢
  have hspace : isSpace c = false := by
    refine Bool.eq_false_iff.2 fun h => ?_
    rw [isDigit_of_isSpace h] at hc
    cases hc
  rw [scanValue?, skip_cons hspace]
  -- a digit opens nothing else
  split
  · next heq =>
    rw [(List.cons.inj heq).1] at hc
    cases hc
  · next heq =>
    rw [(List.cons.inj heq).1] at hc
    cases hc
  · next heq =>
    rw [(List.cons.inj heq).1] at hc
    cases hc
  · rw [hread, Option.map_some]

/-- No value begins with a closing bracket. -/
theorem scanValue?_closing (n : Nat) (rest : List Char) : scanValue? n (']' :: rest) = none := by
  cases n with
  | zero => rfl
  | succ n =>
    rw [scanValue?, skip_cons (by decide)]
    rfl

/-- **A value is read from its layout at any level**, by a reader that goes as far as the layout is
long. -/
theorem readsLine_scanValue? {n : Nat} (level : Nat) (v : Json)
    (hlength : (render level v).toList.length ≤ n) :
    ReadsLine (scanValue? n) (String.toList ∘ render level) v := by
  -- the lines of a block are shorter than the block, so one step less is enough for them
  induction n generalizing level v with
  | zero =>
    have hpos := List.length_pos_iff.2 (toList_render_ne_nil level v)
    omega
  | succ n ih =>
    intro space rest hspace hrest
    rw [Function.comp_apply]
    cases v with
    | text s =>
      obtain ⟨cs, hcs, hread⟩ := scanText?_quote s rest
      rw [render, hcs, scanValue?, skip_append hspace, skip_cons (by decide)]
      simp only [hread, Option.map_some, String.ofList_toList]
    | count k =>
      rw [render, toList_toString, ← scanValue?_toDigits (n := n) k hrest, scanValue?, scanValue?,
        skip_append hspace]
    | list items =>
      rw [render, renderItems_eq] at hlength ⊢
      obtain ⟨cs, hcs, hread⟩ := scanBlock?_block '[' ']' rfl rfl (by decide) (by decide)
        (by decide) (scanValue?_closing n) hlength (fun v _ hv => ih (level + 1) v hv) rest
      rw [hcs, scanValue?, skip_append hspace, skip_cons (by decide)]
      simp only [hread, Option.map_some]
    | object entries =>
      rw [render, renderEntries_eq] at hlength ⊢
      have hlines : ∀ e ∈ entries, (entryLine (level + 1) e).toList.length ≤ n →
          ReadsLine (scanKeyed? (scanValue? n)) (String.toList ∘ entryLine (level + 1)) e := by
        intro e _ he
        rw [entryLine, String.toList_append, List.length_append] at he
        exact readsLine_scanKeyed? (ih (level + 1) e.2 (by omega))
      obtain ⟨cs, hcs, hread⟩ := scanBlock?_block '\x7b' '\x7d' rfl rfl (by decide) (by decide)
        (by decide) (fun _ => rfl) hlength hlines rest
      rw [hcs, scanValue?, skip_append hspace, skip_cons (by decide)]
      simp only [hread, Option.map_some]

/-! ### Layouts -/

/-- **A value is read from its layout**, with space behind it or without. -/
theorem read?_pretty_append (v : Json) {space : String} (hspace : ∀ c ∈ space.toList, isSpace c) :
    read? (pretty v ++ space) = some v := by
  have hend : NoDigit space.toList := by
    rw [← List.append_nil space.toList]
    exact noDigit_append hspace nofun
  have hskip : skip space.toList = [] := by
    rw [← List.append_nil space.toList, skip_append hspace]
    rfl
  have hlength : (pretty v).toList.length ≤ (pretty v ++ space).length := by
    rw [String.length_append, String.length_toList]
    exact Nat.le_add_right ..
  have hread := readsLine_scanValue? 0 v hlength [] space.toList nofun hend
  rw [List.nil_append, Function.comp_apply, ← pretty, ← String.toList_append] at hread
  rw [read?, hread]
  simp only [Option.bind_eq_bind, Option.bind_some, hskip, if_true]

theorem read?_pretty (v : Json) : read? (pretty v) = some v := by
  have hnone : ∀ c ∈ "".toList, isSpace c := nofun
  rw [← read?_pretty_append v hnone, String.append_empty]

/-- No two values have one layout. -/
theorem pretty_injective : Function.Injective pretty := by
  intro v w h
  exact Option.some.inj ((read?_pretty v).symm.trans ((congrArg read? h).trans (read?_pretty w)))

end ScanCodes.Json
