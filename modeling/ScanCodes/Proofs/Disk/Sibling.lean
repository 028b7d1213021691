import ScanCodes.Proofs.Disk.Slot
import ScanCodes.Proofs.Path.Names

/-!
# The slots of siblings

A sibling is made from the bytes of a path, a slot from what the directories make of it. The two
fit: a path that has a slot has its siblings in the same directory, under names that are longer by
the word. So the slots of a target and its siblings are told apart by their last names alone, and two
paths with one slot share the slots of their siblings.

## Main definitions

* `Disk.directory?`: the directory in which the last name of a path is.

## Main results

* `Disk.directory?_of_find`: what a path leads to has its name there.
* `Disk.getLast?_of_slot?`: the last name of a slot is the file name of its path.
* `Disk.getLast?_of_slot?_sibling`: the last name of a sibling's slot.
* `Disk.exists_directory?_of_slot?_sibling`, `Disk.slot?_sibling_of_slot?`: a sibling's slot is in
  the directory of its path, beside its slot.
* `Disk.exists_slot?_sibling`: siblings with words of one length have slots together.
-/

namespace ScanCodes

namespace Disk

/-! ### Following names -/

/-- Single dots on the way make no difference. -/
theorem walk_filter (d : Disk) (l : Location) (steps : List Name) :
    d.walk l (steps.filter (· ≠ [Path.dot])) = d.walk l steps := by
  induction steps generalizing l with
  | nil => rfl
  | cons step steps ih =>
    by_cases hdot : step = [Path.dot]
    · have hstay : d.enter l [Path.dot] = .ok l := rfl
      rw [List.filter_cons_of_neg (by simp [hdot]), ih, hdot, walk, hstay]
      rfl
    · rw [List.filter_cons_of_pos (by simp [hdot]), walk, walk]
      cases d.enter l step with
      | error why => rfl
      | ok next => exact ih next

/-- The steps of a path that are not single dots are its names. -/
theorem filter_steps (p : Path) : (steps p).filter (· ≠ [Path.dot]) = Path.names p.bytes := by
  rw [steps, Path.pieces, Path.names, Path.counted, List.filter_filter]
  refine List.filter_congr fun piece _ => ?_
  rw [Path.isSkipped]
  simp [Bool.and_comm]

/-- The directory in which a path begins. -/
def start (d : Disk) (p : Path) : Location :=
  if p.isAbsolute then [] else d.workingDirectory

/-- A path that leads to a name has it last, behind the names on the way to its directory. -/
theorem exists_names_of_route {d : Disk} {p : Path} {parent : Location} {name : Name}
    {slash : Bool} (h : d.route p = .ok (.name parent name slash)) :
    ∃ front, Path.names p.bytes = front ++ [name] ∧ name ≠ [Path.dot, Path.dot] ∧
      d.walk (d.start p) front = .ok parent := by
  rw [route] at h
  obtain ⟨u, htext, h⟩ := bind_eq_ok.1 h
  cases hlast : (steps p).getLast? with
  | none =>
    rw [hlast] at h
    cases h
  | some last =>
    rw [hlast] at h
    obtain ⟨parent', hwalk, h⟩ := bind_eq_ok.1 h
    split at h
    · obtain ⟨l, he, h⟩ := bind_eq_ok.1 h
      cases h
    · next hdots =>
      cases h
      simp only [Bool.or_eq_true, decide_eq_true_eq, not_or] at hdots
      obtain ⟨init, hinit⟩ := List.getLast?_eq_some_iff.1 hlast
      rw [hinit, List.dropLast_concat, ← walk_filter] at hwalk
      refine ⟨init.filter (· ≠ [Path.dot]), ?_, hdots.2, hwalk⟩
      rw [← filter_steps, hinit, List.filter_append, List.filter_cons_of_pos (by simp [hdots.1]),
        List.filter_nil]

/-! ### Directories -/

/-- The directory in which the last name of a path is, if the names before it lead to one. Whether
anything there has the name makes no difference. -/
def directory? (d : Disk) (p : Path) : Option Location :=
  (d.walk (d.start p) (Path.names p.bytes).dropLast).toOption

theorem directory?_of_names {d : Disk} {p : Path} {front : List Name} {name : Name}
    {parent : Location} (hnames : Path.names p.bytes = front ++ [name])
    (hwalk : d.walk (d.start p) front = .ok parent) : d.directory? p = some parent := by
  rw [directory?, hnames, List.dropLast_concat, hwalk]
  rfl

theorem walk_append (d : Disk) (l : Location) (steps steps' : List Name) :
    d.walk l (steps ++ steps') = d.walk l steps >>= fun next => d.walk next steps' := by
  induction steps generalizing l with
  | nil => rfl
  | cons step steps ih =>
    rw [List.cons_append, walk, walk]
    cases d.enter l step with
    | error why => rfl
    | ok next => exact ih next

/-- A name leads into the directory that has it. -/
theorem eq_concat_of_walk {d : Disk} {l l' : Location} {name : Name} (hdot : name ≠ [Path.dot])
    (hup : name ≠ [Path.dot, Path.dot]) (h : d.walk l [name] = .ok l') : l' = l ++ [name] := by
  obtain ⟨next, he, h⟩ := bind_eq_ok.1 h
  obtain rfl : next = l' := Except.ok.inj h
  rw [enter, if_neg hdot, if_neg hup] at he
  obtain ⟨u, hname, he⟩ := bind_eq_ok.1 he
  split at he
  · cases he
  · cases he
  · exact (Except.ok.inj he).symm

/-- A path that ends in dots leads where all of its names lead. -/
theorem walk_names_of_route {d : Disk} {p : Path} {l : Location} (h : d.route p = .ok (.dots l)) :
    d.walk (d.start p) (Path.names p.bytes) = .ok l := by
  rw [← filter_steps, walk_filter]
  rw [route] at h
  obtain ⟨u, htext, h⟩ := bind_eq_ok.1 h
  cases hlast : (steps p).getLast? with
  | none =>
    rw [hlast] at h
    cases h
    rw [List.getLast?_eq_none_iff.1 hlast]
    rfl
  | some last =>
    rw [hlast] at h
    obtain ⟨parent, hwalk, h⟩ := bind_eq_ok.1 h
    obtain ⟨init, hinit⟩ := List.getLast?_eq_some_iff.1 hlast
    rw [hinit, List.dropLast_concat] at hwalk
    split at h
    · obtain ⟨l', he, h⟩ := bind_eq_ok.1 h
      cases h
      rw [hinit, walk_append]
      exact bind_eq_ok.2 ⟨parent, hwalk, bind_eq_ok.2 ⟨l, he, rfl⟩⟩
    · cases h

/-- **What a path with a file name leads to** has this name in the directory of the path. -/
theorem directory?_of_find {d : Disk} {p : Path} {name : Name} {l : Location} {e : Entry}
    (hname : p.fileName? = some name) (hfind : d.find p = .ok (l, e)) :
    ∃ parent, d.directory? p = some parent ∧ l = parent ++ [name] := by
  obtain ⟨front, hnames, hup⟩ := Path.fileName?_eq_some.1 hname
  rw [find] at hfind
  obtain ⟨u, hnull, hfind⟩ := bind_eq_ok.1 hfind
  obtain ⟨t, hroute, hfind⟩ := bind_eq_ok.1 hfind
  cases t with
  | dots l' =>
    cases hfind
    have hwalk := walk_names_of_route hroute
    rw [hnames, walk_append] at hwalk
    obtain ⟨parent, hwalk, hlast⟩ := bind_eq_ok.1 hwalk
    have hdot : name ≠ [Path.dot] := by
      rintro rfl
      exact absurd (Path.not_mem_of_fileName? hname).2 (by decide)
    exact ⟨parent, directory?_of_names hnames hwalk, eq_concat_of_walk hdot hup hlast⟩
  | name parent last slash =>
    obtain ⟨front', hnames', -, hwalk⟩ := exists_names_of_route hroute
    obtain ⟨rfl, hlast⟩ := List.append_inj' (hnames.symm.trans hnames') rfl
    refine ⟨parent, directory?_of_names hnames' hwalk, ?_⟩
    rw [List.singleton_inj.1 hlast]
    obtain ⟨u, hlong, hfind⟩ := bind_eq_ok.1 hfind
    split at hfind
    · cases hfind
    · cases slash <;> cases hfind
      rfl
    · cases hfind
      rfl

/-! ### Slots and names -/

variable {d : Disk} {p : Path} {l : Location} {word : Name}

theorem fileName?_of_slot? {parent : Location} {name : Name}
    (h : d.slot? p = some (parent ++ [name])) : p.fileName? = some name := by
  obtain ⟨-, parent', name', hroute, -, hconcat⟩ := slot?_eq_some.1 h
  obtain ⟨front, hnames, hup, -⟩ := exists_names_of_route hroute
  obtain ⟨-, hname⟩ := List.append_inj' hconcat rfl
  rw [← List.singleton_inj.1 hname, Path.fileName?_eq_some.2 ⟨front, hnames, hup⟩]

/-- The last name of a slot is the file name of its path. -/
theorem getLast?_of_slot? (h : d.slot? p = some l) : l.getLast? = some (p.fileName?.getD []) := by
  obtain ⟨-, parent, name, -, -, rfl⟩ := slot?_eq_some.1 h
  rw [fileName?_of_slot? h, Option.getD_some, List.getLast?_concat]

/-- The last name of a sibling's slot is longer than that of the path by the word. -/
theorem getLast?_of_slot?_sibling (hword : Path.separator ∉ word) (hne : word ≠ [])
    (h : d.slot? (p.sibling word) = some l) :
    l.getLast? = some (Path.longer (p.fileName?.getD []) word) := by
  obtain ⟨-, parent, name, hroute, -, rfl⟩ := slot?_eq_some.1 h
  obtain ⟨front, hnames, -, -⟩ := exists_names_of_route hroute
  obtain ⟨front', hnames'⟩ := Path.exists_names_sibling p hword hne
  rw [List.getLast?_concat,
    List.singleton_inj.1 (List.append_inj' (hnames.symm.trans hnames') rfl).2]

/-- A slot is a name in the directory of its path. -/
theorem directory?_of_slot? {parent : Location} {name : Name}
    (h : d.slot? p = some (parent ++ [name])) : d.directory? p = some parent := by
  obtain ⟨-, parent', name', hroute, -, hconcat⟩ := slot?_eq_some.1 h
  obtain ⟨rfl, -⟩ := List.append_inj' hconcat rfl
  obtain ⟨front, hnames, -, hwalk⟩ := exists_names_of_route hroute
  exact directory?_of_names hnames hwalk

/-- Siblings are in the directory of their path. -/
theorem directory?_sibling {name : Name} (hname : p.fileName? = some name)
    (hword : Path.separator ∉ word) (hne : word ≠ []) :
    d.directory? (p.sibling word) = d.directory? p := by
  obtain ⟨front, hnames, hup⟩ := Path.fileName?_eq_some.1 hname
  rw [directory?, directory?, start, start, Path.isAbsolute_sibling hname hword hne,
    Path.names_sibling hnames hup hword hne, hnames, List.dropLast_concat, List.dropLast_concat]

/-- **A sibling's slot is in the directory of its path**, under the longer name. -/
theorem exists_directory?_of_slot?_sibling {name : Name} (hname : p.fileName? = some name)
    (hword : Path.separator ∉ word) (hne : word ≠ []) (h : d.slot? (p.sibling word) = some l) :
    ∃ parent, d.directory? p = some parent ∧ l = parent ++ [Path.longer name word] := by
  have hlast := getLast?_of_slot?_sibling hword hne h
  rw [hname, Option.getD_some] at hlast
  obtain ⟨parent, rfl⟩ := List.getLast?_eq_some_iff.1 hlast
  exact ⟨parent, (directory?_sibling hname hword hne).symm.trans (directory?_of_slot? h), rfl⟩

/-- So it is beside the slot of its path, if there is one. -/
theorem slot?_sibling_of_slot? {parent : Location} {name : Name} (hword : Path.separator ∉ word)
    (hne : word ≠ []) (hp : d.slot? p = some (parent ++ [name]))
    (h : d.slot? (p.sibling word) = some l) : l = parent ++ [Path.longer name word] := by
  have hname : p.fileName? = some name := fileName?_of_slot? hp
  obtain ⟨parent', hparent, rfl⟩ := exists_directory?_of_slot?_sibling hname hword hne h
  rw [directory?_of_slot? hp] at hparent
  rw [Option.some.inj hparent]

/-! ### Siblings with words of one length -/

/-- Where a name leads that is put behind a path: into a directory that the path decides. -/
theorem exists_route_join (d : Disk) (front : List UInt8) :
    ∃ parent : Except Failure Location, ∀ name : Name, Path.IsName name →
      d.route (Path.join front name) = (do
        checkLength (Path.join front name)
        return .name (← parent) name false) := by
  obtain ⟨ps, hps⟩ := Path.exists_pieces_join front
  refine ⟨d.walk (if front.head? = some Path.separator then [] else d.workingDirectory)
    (ps.filter (· ≠ [])), fun name hname => ?_⟩
  have hsteps : steps (Path.join front name) = ps.filter (· ≠ []) ++ [name] := by
    rw [steps, hps name hname.slash, List.filter_append,
      List.filter_cons_of_pos (by simpa using hname.ne_empty), List.filter_nil]
  rw [route, hsteps, List.getLast?_concat, List.dropLast_concat,
    Path.isAbsolute_join front hname.slash, Path.endsInSlash_join front hname]
  simp [hname.ne_dot, hname.ne_dots]

/-- Paths of one length are followed alike. -/
theorem checkLength_join {front : List UInt8} {name name' : Name} (hname : name ≠ [])
    (hname' : name' ≠ []) (hlength : name'.length = name.length) :
    checkLength (Path.join front name') = checkLength (Path.join front name) := by
  obtain ⟨front', -, hbytes⟩ := Path.exists_bytes_join front
  simp [checkLength, hbytes, hname, hname', hlength]

theorem not_hasNull_of_slot? {d : Disk} {p : Path} {l : Location} (h : d.slot? p = some l) :
    ¬ p.hasNull = true := by
  intro hnull
  rw [slot?, if_pos hnull] at h
  cases h

/-- A path that has a slot with one name has one with every other name of its length. -/
theorem exists_slot?_join {d : Disk} {front : List UInt8} {name name' : Name} {l : Location}
    (hname : Path.IsName name) (hname' : Path.IsName name') (hnull : 0 ∉ name')
    (hlength : name'.length = name.length)
    (h : d.slot? (Path.join front name) = some l) :
    ∃ l', d.slot? (Path.join front name') = some l' := by
  obtain ⟨-, parent, last, hroute, hlast, -⟩ := slot?_eq_some.1 h
  obtain ⟨way, hway⟩ := exists_route_join d front
  rw [hway name hname] at hroute
  obtain ⟨u, htext, hroute⟩ := bind_eq_ok.1 hroute
  obtain ⟨parent', hparent, hroute⟩ := bind_eq_ok.1 hroute
  cases hroute
  refine ⟨_, slot?_eq_some.2 ⟨?_, parent, name', ?_, ?_, rfl⟩⟩
  · have hfront := not_hasNull_of_slot? h
    rw [Path.hasNull_join, not_or] at hfront
    rw [checkNull, if_neg]
    rw [Path.hasNull_join, not_or]
    exact ⟨hfront.1, hnull⟩
  · rw [hway name' hname', checkLength_join hname.ne_empty hname'.ne_empty hlength]
    exact bind_eq_ok.2 ⟨u, htext, bind_eq_ok.2 ⟨parent, hparent, rfl⟩⟩
  · rwa [checkName, hlength, ← checkName]

/-- **Siblings with words of one length have slots together.** -/
theorem exists_slot?_sibling {d : Disk} {p : Path} {word word' : Name} {l : Location}
    (hword : Path.separator ∉ word) (hword' : Path.separator ∉ word') (hnull : 0 ∉ word')
    (hlong : 2 ≤ word.length) (hlength : word'.length = word.length)
    (h : d.slot? (p.sibling word) = some l) :
    ∃ l', d.slot? (p.sibling word') = some l' := by
  have hbase := p.slash_not_mem_fileName
  obtain ⟨front, hsibling⟩ := p.exists_sibling_eq_join
  rw [hsibling] at h ⊢
  refine exists_slot?_join (.of_word hbase hword hlong) (.of_word hbase hword' (by omega)) ?_ ?_ h
  · have hwithout := not_hasNull_of_slot? h
    simp only [Path.hasNull_join, Path.longer, List.mem_append, not_or] at hwithout
    simp [Path.longer, hwithout.2.1, hnull, Path.dot]
  · simp [Path.longer, hlength]

end Disk

end ScanCodes
