import ScanCodes.Path
import ScanCodes.Proofs.Text.Utf8
import Mathlib.Data.List.DropRight

/-!
# The names on a path

Empty pieces and single dots lead nowhere, so of the pieces of a path only the others count. The
place beside a target is found by taking the last of them away and putting a longer one behind what
is left; how the slashes and dots before it are written has no part in it.

## Main definitions

* `Path.names`: the pieces of a path that count.
* `Path.IsName`: a name that stands for itself on a path.

## Main results

* `Path.shown_of_text?`: a path that is a text is shown as it is.
* `Path.names_join`: a name put behind a path is its last.
* `Path.names_sibling`: the names of a sibling are those of the path, the last one longer.
* `Path.isAbsolute_sibling`: a sibling begins where the path begins.
* `Path.exists_pieces_join`: names put behind one path have the same pieces before them.
-/

namespace ScanCodes

namespace Path

/-- A path that is a text is shown as it is. -/
theorem shown_of_text? {p : Path} {s : String} (h : p.text? = some s) : p.shown = s := by
  have hbytes := Text.Utf8.decode?_eq_some_iff.1 h
  rw [Text.Utf8.encode_eq] at hbytes
  rw [shown, ← hbytes, Text.Utf8.lossy_bytes, String.ofList_toList]

/-! ### Splitting at the slashes -/

theorem splitSlashes_ne_nil (bs : List UInt8) : splitSlashes bs ≠ [] := by
  cases bs with
  | nil => simp [splitSlashes]
  | cons b bs =>
    rw [splitSlashes]
    split
    · simp
    · split <;> simp

/-- A byte that is no slash belongs to the piece behind it. -/
theorem splitSlashes_cons {b : UInt8} {bs : List UInt8} {p : Name} {ps : List Name}
    (hb : b ≠ separator) (h : splitSlashes bs = p :: ps) :
    splitSlashes (b :: bs) = (b :: p) :: ps := by
  rw [splitSlashes, if_neg hb, h]

theorem splitSlashes_slash (bs : List UInt8) :
    splitSlashes (separator :: bs) = [] :: splitSlashes bs := by
  rw [splitSlashes, if_pos rfl]

/-- Bytes are split at each of their slashes. -/
theorem splitSlashes_append (bs ds : List UInt8) :
    splitSlashes (bs ++ separator :: ds) = splitSlashes bs ++ splitSlashes ds := by
  induction bs with
  | nil => exact splitSlashes_slash ds
  | cons b bs ih =>
    by_cases hb : b = separator
    · rw [hb, List.cons_append, splitSlashes_slash, splitSlashes_slash, ih, List.cons_append]
    · obtain ⟨p, ps, hps⟩ := List.exists_cons_of_ne_nil (splitSlashes_ne_nil bs)
      rw [hps, List.cons_append] at ih
      rw [List.cons_append, splitSlashes_cons hb ih, splitSlashes_cons hb hps, List.cons_append]

theorem splitSlashes_of_not_mem {bs : List UInt8} (h : separator ∉ bs) :
    splitSlashes bs = [bs] := by
  induction bs with
  | nil => rfl
  | cons b bs ih =>
    obtain ⟨hb, hbs⟩ := List.ne_and_not_mem_of_not_mem_cons h
    exact splitSlashes_cons (Ne.symm hb) (ih hbs)

theorem not_mem_of_mem_splitSlashes {bs : List UInt8} {piece : Name}
    (h : piece ∈ splitSlashes bs) : separator ∉ piece := by
  induction bs generalizing piece with
  | nil => simp_all [splitSlashes]
  | cons b bs ih =>
    by_cases hb : b = separator
    · rw [hb, splitSlashes_slash] at h
      rcases List.mem_cons.1 h with rfl | h
      · exact List.not_mem_nil
      · exact ih h
    · obtain ⟨p, ps, hps⟩ := List.exists_cons_of_ne_nil (splitSlashes_ne_nil bs)
      rw [splitSlashes_cons hb hps] at h
      rw [hps] at ih
      rcases List.mem_cons.1 h with rfl | h
      · exact List.not_mem_cons_of_ne_of_not_mem (Ne.symm hb) (ih List.mem_cons_self)
      · exact ih (List.mem_cons_of_mem p h)

/-- Pieces put together with slashes are found again. -/
theorem splitSlashes_intercalate {ps : List Name} (hne : ps ≠ [])
    (h : ∀ p ∈ ps, separator ∉ p) : splitSlashes ([separator].intercalate ps) = ps := by
  induction ps with
  | nil => exact absurd rfl hne
  | cons p ps ih =>
    have hp := h p List.mem_cons_self
    cases ps with
    | nil => rw [List.intercalate_singleton, splitSlashes_of_not_mem hp]
    | cons q ps =>
      rw [List.intercalate_cons_cons, List.append_assoc, List.singleton_append,
        splitSlashes_append, splitSlashes_of_not_mem hp,
        ih (List.cons_ne_nil q ps) fun r hr => h r (List.mem_cons_of_mem p hr),
        List.singleton_append]

/-! ### Names -/

/-- The pieces that count. -/
def counted (pieces : List Name) : List Name :=
  pieces.filter fun piece => !isSkipped piece

/-- The pieces of a path that lead somewhere: names and two dots. -/
def names (bs : List UInt8) : List Name :=
  counted (splitSlashes bs)

theorem counted_append (ps qs : List Name) :
    counted (ps ++ qs) = counted ps ++ counted qs :=
  List.filter_append ..

theorem counted_cons_of_isSkipped {p : Name} (h : isSkipped p = true) (ps : List Name) :
    counted (p :: ps) = counted ps := by
  rw [counted, List.filter_cons_of_neg (by simp [h]), counted]

theorem counted_cons {p : Name} (h : isSkipped p = false) (ps : List Name) :
    counted (p :: ps) = p :: counted ps := by
  rw [counted, List.filter_cons_of_pos (by simp [h]), counted]

/-- Nothing that counts is lost from the end. -/
theorem counted_rdropWhile (ps : List Name) :
    counted (ps.rdropWhile isSkipped) = counted ps := by
  induction ps using List.reverseRecOn with
  | nil => rfl
  | append_singleton ps p ih =>
    cases hp : isSkipped p with
    | true =>
      have hskip : counted [p] = [] := counted_cons_of_isSkipped hp []
      rw [List.rdropWhile_concat_pos _ _ _ hp, ih, counted_append, hskip, List.append_nil]
    | false => rw [List.rdropWhile_concat_neg _ _ _ (by simp [hp])]

/-- A slash at the end adds nothing. -/
theorem names_append_slash (bs : List UInt8) : names (bs ++ [separator]) = names bs := by
  have hempty : counted (splitSlashes []) = [] := rfl
  rw [names, splitSlashes_append, counted_append, hempty, List.append_nil, names]

/-- A name put behind a path is its last, with or without a slash between them. -/
theorem names_join (front : List UInt8) {name : Name} (hslash : separator ∉ name)
    (hname : isSkipped name = false) :
    names (join front name).bytes = names front ++ [name] := by
  have hlast : names name = [name] := by
    rw [names, splitSlashes_of_not_mem hslash]
    exact counted_cons hname []
  have hsplit : ∀ bs, names (bs ++ separator :: name) = names bs ++ [name] := by
    intro bs
    rw [names, splitSlashes_append, counted_append, ← names, ← names, hlast]
  by_cases hfront : front = [] ∨ front.getLast? = some separator
  · have hbytes : (join front name).bytes = front ++ name := by simp [join, hfront]
    rw [hbytes]
    rcases hfront with rfl | hfront
    · exact hlast
    · obtain ⟨bs, rfl⟩ := List.getLast?_eq_some_iff.1 hfront
      rw [List.append_assoc, List.singleton_append, hsplit, names_append_slash]
  · have hbytes : (join front name).bytes = front ++ separator :: name := by
      simp [join, hfront]
    rw [hbytes, hsplit]

/-! ### The last name -/

/-- The components behind the front are the names. -/
private theorem filterMap_component?_pieces (p : Path) :
    p.pieces.filterMap component?
      = (names p.bytes).map fun n => if n = [dot, dot] then .up else .name n := by
  rw [pieces, names]
  induction splitSlashes p.bytes with
  | nil => rfl
  | cons piece ps ih =>
    rw [List.filterMap_cons, ih, component?]
    cases hp : isSkipped piece with
    | true => rw [if_pos rfl, counted_cons_of_isSkipped hp]
    | false =>
      rw [counted_cons hp, if_neg Bool.false_ne_true, List.map_cons]
      by_cases hup : piece = [dot, dot]
      · rw [if_pos hup, if_pos hup]
      · rw [if_neg hup, if_neg hup]

/-- The front of a path is no name. -/
private theorem getLast?_front_ne (p : Path) (name : Name) :
    (if p.isAbsolute then [Component.root]
      else if p.pieces.head? = some [dot] then [.here] else []).getLast? ≠ some (.name name) := by
  split
  · simp
  · split <;> simp

/-- A path ends in a name exactly if its last name is not two dots. -/
theorem fileName?_eq_some {p : Path} {name : Name} :
    p.fileName? = some name ↔
      ∃ front, names p.bytes = front ++ [name] ∧ name ≠ [dot, dot] := by
  rw [fileName?, components, filterMap_component?_pieces]
  rcases List.eq_nil_or_concat (names p.bytes) with hnil | ⟨front, last, hlast⟩
  · rw [hnil, List.map_nil, List.append_nil]
    constructor
    · intro h
      split at h
      · next s hs => exact absurd hs (getLast?_front_ne p s)
      · cases h
    · rintro ⟨front, hfront, -⟩
      simp at hfront
  · rw [hlast, List.concat_eq_append, List.map_append, ← List.append_assoc, List.map_singleton,
      List.getLast?_concat]
    by_cases hup : last = [dot, dot]
    · rw [if_pos hup]
      constructor
      · rintro ⟨⟩
      · rintro ⟨front', hfront, hname⟩
        exact absurd (List.singleton_inj.1 (List.append_inj' hfront rfl).2 ▸ hup) hname
    · rw [if_neg hup]
      constructor
      · rintro ⟨⟩
        exact ⟨front, rfl, hup⟩
      · rintro ⟨front', hfront, hname⟩
        rw [List.singleton_inj.1 (List.append_inj' hfront rfl).2]

theorem not_mem_of_fileName? {p : Path} {name : Name} (h : p.fileName? = some name) :
    separator ∉ name ∧ isSkipped name = false := by
  obtain ⟨front, hnames, -⟩ := fileName?_eq_some.1 h
  have hmem : name ∈ names p.bytes := by simp [hnames]
  obtain ⟨hsplit, hcounted⟩ := List.mem_filter.1 hmem
  exact ⟨not_mem_of_mem_splitSlashes hsplit, by simpa using hcounted⟩

/-! ### What is left in front of it -/

theorem dropLastComponent_eq (ps : List Name) :
    dropLastComponent ps = (ps.rdropWhile isSkipped).dropLast.rdropWhile isSkipped := by
  rw [dropLastComponent, List.rdropWhile, List.rdropWhile, List.dropLast_reverse,
    List.reverse_reverse]

theorem isPrefix_dropLastComponent (ps : List Name) : dropLastComponent ps <+: ps := by
  have houter : (ps.rdropWhile isSkipped).dropLast.rdropWhile isSkipped
    <+: (ps.rdropWhile isSkipped).dropLast := List.rdropWhile_prefix ..
  have hlast : (ps.rdropWhile isSkipped).dropLast <+: ps.rdropWhile isSkipped :=
    List.dropLast_prefix ..
  have hinner : ps.rdropWhile isSkipped <+: ps := List.rdropWhile_prefix ..
  rw [dropLastComponent_eq]
  exact houter.trans (hlast.trans hinner)

/-- Only the last of the pieces that count is lost. -/
theorem counted_dropLastComponent {ps qs : List Name} {q : Name}
    (h : counted ps = qs ++ [q]) : counted (dropLastComponent ps) = qs := by
  rw [dropLastComponent_eq, counted_rdropWhile]
  rw [← counted_rdropWhile] at h
  rcases List.eq_nil_or_concat (ps.rdropWhile isSkipped) with hnil | ⟨init, last, hlast⟩
  · rw [hnil] at h
    simp [counted] at h
  · have hskip : isSkipped last = false := by
      have hne : ps.rdropWhile isSkipped ≠ [] := by simp [hlast]
      simpa [hlast] using List.rdropWhile_last_not isSkipped ps hne
    rw [List.concat_eq_append] at hlast
    rw [hlast, counted_append, counted_cons hskip] at h
    rw [hlast, List.dropLast_concat]
    exact (List.append_inj' h rfl).1

/-- The bytes without the last name. -/
private theorem names_without {bs : List UInt8} {front : List Name} {name : Name}
    (h : names bs = front ++ [name]) :
    names ([separator].intercalate (dropLastComponent (splitSlashes bs))) = front := by
  have hcounted : counted (dropLastComponent (splitSlashes bs)) = front :=
    counted_dropLastComponent h
  by_cases hne : dropLastComponent (splitSlashes bs) = []
  · rw [hne] at hcounted ⊢
    exact hcounted
  · rw [names, splitSlashes_intercalate hne fun p hp =>
      not_mem_of_mem_splitSlashes ((isPrefix_dropLastComponent _).mem hp), hcounted]

/-- A slash at the front adds nothing. -/
theorem names_cons_slash (bs : List UInt8) : names (separator :: bs) = names bs := by
  rw [names, splitSlashes_slash, counted_cons_of_isSkipped (by decide), names]

/-- Nor does a dot in front of a slash, or alone. -/
private theorem names_cons_dot {bs : List UInt8} (h : bs = [] ∨ bs.head? = some separator) :
    names (dot :: bs) = names bs := by
  rcases h with rfl | h
  · rfl
  · obtain ⟨ds, rfl⟩ := List.head?_eq_some_iff.1 h
    rw [names_cons_slash, names, splitSlashes_cons (by decide) (splitSlashes_slash ds),
      counted_cons_of_isSkipped (by decide), names]

/-- Slashes between pieces do not make bytes begin with one. -/
private theorem head?_intercalate {ps : List Name} {b : UInt8} {p : Name} {rest : List Name}
    (h : ps <+: (b :: p) :: rest) :
    [separator].intercalate ps = [] ∨ ([separator].intercalate ps).head? = some b := by
  obtain ⟨qs, hqs⟩ := h
  match ps, hqs with
  | [], _ => exact Or.inl rfl
  | [q], h =>
    obtain rfl : q = b :: p := (List.cons.inj h).1
    exact Or.inr rfl
  | q :: r :: ps, h =>
    obtain rfl : q = b :: p := (List.cons.inj h).1
    exact Or.inr rfl

/-- What is left of bytes that begin with a slash is nothing, or it begins with a slash. -/
private theorem without_slash {bs : List UInt8} (h : bs.head? = some separator) :
    [separator].intercalate (dropLastComponent (splitSlashes bs)) = [] ∨
      ([separator].intercalate (dropLastComponent (splitSlashes bs))).head? = some separator := by
  obtain ⟨ds, rfl⟩ := List.head?_eq_some_iff.1 h
  obtain ⟨rest, hrest⟩ := isPrefix_dropLastComponent (splitSlashes (separator :: ds))
  rw [splitSlashes_slash] at hrest
  rw [splitSlashes_slash]
  match dropLastComponent ([] :: splitSlashes ds), hrest with
  | [], _ => exact Or.inl rfl
  | [p], h =>
    obtain rfl : p = [] := (List.cons.inj h).1
    exact Or.inl rfl
  | p :: q :: ps, h =>
    obtain rfl : p = [] := (List.cons.inj h).1
    exact Or.inr rfl

/-- The bytes before the last component have the names before the last. -/
theorem names_parent {p : Path} {front : List Name} {name : Name}
    (h : names p.bytes = front ++ [name]) : names p.parent = front := by
  rw [parent]
  split
  · next b bs hbytes =>
    rw [hbytes] at h
    split
    · next hslash =>
      rw [hslash, names_cons_slash] at h ⊢
      exact names_without h
    · split
      · next hdot =>
        obtain ⟨rfl, hhead⟩ := by simpa using hdot
        rw [names_cons_dot (Or.inr hhead)] at h
        rw [names_cons_dot (without_slash hhead), names_without h]
      · exact names_without h
  · next hbytes =>
    rw [hbytes] at h
    exact names_without h

/-! ### Siblings -/

theorem separator_not_mem_longer {name word : Name} (hname : separator ∉ name)
    (hword : separator ∉ word) : separator ∉ longer name word := by
  have hdot : separator ≠ dot := by decide
  simp [longer, hname, hword, hdot]

/-- A word that does not hold a slash, and is not empty, makes a name longer. -/
private theorem isCounted_longer (name : Name) {word : Name} (hname : separator ∉ name)
    (hword : separator ∉ word) (hne : word ≠ []) :
    separator ∉ longer name word ∧ isSkipped (longer name word) = false := by
  have hpos : 0 < word.length := List.length_pos_iff.2 hne
  have hlength : 2 ≤ (longer name word).length := by
    rw [longer, List.length_append, List.length_cons]
    omega
  refine ⟨separator_not_mem_longer hname hword, ?_⟩
  rw [isSkipped, Bool.or_eq_false_iff, decide_eq_false_iff_not, decide_eq_false_iff_not]
  constructor <;> intro h <;> simp [h] at hlength

theorem slash_not_mem_fileName (p : Path) : separator ∉ p.fileName?.getD [] := by
  cases hname : p.fileName? with
  | none => exact List.not_mem_nil
  | some name => exact (not_mem_of_fileName? hname).1

/-- All siblings of a path are made by putting a name behind the same bytes: that of the path, made
longer, or one of its own. -/
theorem exists_sibling_eq_join (p : Path) :
    ∃ front, ∀ word, p.sibling word = join front (longer (p.fileName?.getD []) word) := by
  cases hname : p.fileName? with
  | none =>
    refine ⟨p.bytes, fun word => ?_⟩
    rw [sibling, hname, Option.getD_none]
  | some name =>
    refine ⟨p.parent, fun word => ?_⟩
    rw [sibling, hname, Option.getD_some]

theorem exists_names_sibling (p : Path) {word : Name} (hword : separator ∉ word)
    (hne : word ≠ []) :
    ∃ front, names (p.sibling word).bytes = front ++ [longer (p.fileName?.getD []) word] := by
  obtain ⟨front, hsibling⟩ := p.exists_sibling_eq_join
  obtain ⟨hslash, hskip⟩ := isCounted_longer _ p.slash_not_mem_fileName hword hne
  rw [hsibling]
  exact ⟨_, names_join front hslash hskip⟩

/-- **The names of a sibling** are those of the path, the last one longer. -/
theorem names_sibling {p : Path} {front : List Name} {name word : Name}
    (h : names p.bytes = front ++ [name]) (hup : name ≠ [dot, dot]) (hword : separator ∉ word)
    (hne : word ≠ []) : names (p.sibling word).bytes = front ++ [longer name word] := by
  have hname : p.fileName? = some name := fileName?_eq_some.2 ⟨front, h, hup⟩
  obtain ⟨hslash, hskip⟩ := isCounted_longer name (not_mem_of_fileName? hname).1 hword hne
  rw [sibling, hname]
  exact (names_join p.parent hslash hskip).trans (by rw [names_parent h])

/-- What is left of bytes that begin with no slash does not begin with one. -/
private theorem head?_without {b : UInt8} {bs : List UInt8} (hb : b ≠ separator) :
    ([separator].intercalate (dropLastComponent (splitSlashes (b :: bs)))).head?
      ≠ some separator := by
  obtain ⟨q, qs, hqs⟩ := List.exists_cons_of_ne_nil (splitSlashes_ne_nil bs)
  have hps := isPrefix_dropLastComponent (splitSlashes (b :: bs))
  rw [splitSlashes_cons hb hqs] at hps ⊢
  rcases head?_intercalate hps with h | h <;> simp [h, hb]

/-- The bytes before the last component begin with a slash if the path does. -/
private theorem head?_parent (p : Path) :
    p.parent.head? = some separator ↔ p.bytes.head? = some separator := by
  rw [parent]
  split
  · next b bs hbytes =>
    rw [hbytes]
    split
    · simp
    · next hslash =>
      split
      · simp
      · simp [head?_without hslash, hslash]
  · next hbytes => simp [hbytes, splitSlashes, dropLastComponent, isSkipped]

/-- A name put behind bytes does not make them begin with a slash. -/
private theorem head?_join (front : List UInt8) {name : Name} (hslash : separator ∉ name) :
    (join front name).bytes.head? = some separator ↔ front.head? = some separator := by
  cases front with
  | nil =>
    have hhead : name.head? ≠ some separator := fun h => hslash (List.mem_of_head? h)
    simp [join, hhead]
  | cons b bs =>
    rw [join]
    split <;> simp

/-- Whether a path is absolute is decided by the bytes in front of its name. -/
theorem isAbsolute_join (front : List UInt8) {name : Name} (hslash : separator ∉ name) :
    (join front name).isAbsolute = (front.head? = some separator : Bool) := by
  rw [isAbsolute, decide_eq_decide]
  exact head?_join front hslash

/-- **A sibling begins where the path begins**, at the root or not. -/
theorem isAbsolute_sibling {p : Path} {name word : Name} (hname : p.fileName? = some name)
    (hword : separator ∉ word) (hne : word ≠ []) :
    (p.sibling word).isAbsolute = p.isAbsolute := by
  obtain ⟨hslash, -⟩ := isCounted_longer name (not_mem_of_fileName? hname).1 hword hne
  have hsibling : p.sibling word = join p.parent (longer name word) := by rw [sibling, hname]
  rw [hsibling, isAbsolute_join p.parent hslash, isAbsolute, decide_eq_decide]
  exact head?_parent p

/-! ### Names behind other bytes -/

/-- A name is put behind bytes that are none or end in a slash, whatever the name. -/
theorem exists_bytes_join (front : List UInt8) :
    ∃ front', (front' = [] ∨ ∃ bs, front' = bs ++ [separator]) ∧
      ∀ name, (join front name).bytes = front' ++ name := by
  by_cases hfront : front = [] ∨ front.getLast? = some separator
  · refine ⟨front, hfront.imp_right List.getLast?_eq_some_iff.1, fun name => ?_⟩
    simp [join, hfront]
  · refine ⟨front ++ [separator], Or.inr ⟨front, rfl⟩, fun name => ?_⟩
    rw [join, if_neg (by simpa using hfront), List.append_assoc, List.singleton_append]

/-- It is then the last piece, behind the same pieces. -/
theorem exists_pieces_join (front : List UInt8) :
    ∃ ps, ∀ name : Name, separator ∉ name → (join front name).pieces = ps ++ [name] := by
  obtain ⟨front', hfront, hbytes⟩ := exists_bytes_join front
  rcases hfront with rfl | ⟨bs, rfl⟩
  · refine ⟨[], fun name hslash => ?_⟩
    rw [pieces, hbytes, List.nil_append, List.nil_append, splitSlashes_of_not_mem hslash]
  · refine ⟨splitSlashes bs, fun name hslash => ?_⟩
    rw [pieces, hbytes, List.append_assoc, List.singleton_append, splitSlashes_append,
      splitSlashes_of_not_mem hslash]

/-- A name that stands for itself on a path: it has no slash in it and is more than dots. -/
structure IsName (name : Name) : Prop where
  slash : separator ∉ name
  ne_empty : name ≠ []
  ne_dot : name ≠ [dot]
  ne_dots : name ≠ [dot, dot]

/-- A base with a word behind it is a name. -/
theorem IsName.of_word {base word : Name} (hbase : separator ∉ base) (hword : separator ∉ word)
    (hlength : 2 ≤ word.length) : IsName (longer base word) := by
  have hlong : 3 ≤ (longer base word).length := by
    rw [longer, List.length_append, List.length_cons]
    omega
  refine ⟨separator_not_mem_longer hbase hword, ?_, ?_, ?_⟩ <;> intro h <;> rw [h] at hlong <;>
    exact absurd hlong (by decide)

theorem endsInSlash_join (front : List UInt8) {name : Name} (h : IsName name) :
    (join front name).endsInSlash = false := by
  obtain ⟨front', -, hbytes⟩ := exists_bytes_join front
  rw [endsInSlash, decide_eq_false_iff_not, hbytes, List.getLast?_append_of_ne_nil _ h.ne_empty]
  exact fun hlast => h.slash (List.mem_of_getLast? hlast)

theorem hasNull_join {front : List UInt8} {name : Name} :
    (join front name).hasNull = true ↔ 0 ∈ front ∨ 0 ∈ name := by
  rw [hasNull, decide_eq_true_eq, join]
  split <;> simp [separator]

end Path

end ScanCodes
