import ScanCodes.Disk
import ScanCodes.Proofs.SortedMap.Entries
import Mathlib.Logic.Function.Basic

/-!
# Slots

A path where a file can be made leads to a slot: a name in a directory, whatever is or is not listed
there. Only the directories decide where a path leads, so as long as none comes and none goes, a
path keeps its slot; and what a call does to a disk depends on nothing but the slots of its paths
and on what is listed in them.

## Main definitions

* `Disk.look`: what is listed at a location. Slots are never the root, so for them this is
  `Disk.entry?`.
* `Disk.slot?`: the slot of a path.
* `Disk.IsFree`, `Disk.HasFile`, `Disk.IsUnused`: can a file be made in the slot, is there one, is
  there nothing?
* `Disk.Puts`, `Disk.Moves`, `Disk.drop`: what calls make of a disk.
* `Disk.SameDirectories`: two disks on which every path has the same slot.

## Main results

* `Disk.SameDirectories.slot?_eq`: paths keep their slots.
* `Disk.write_eq_ok_iff`, `Disk.remove_eq_ok_iff`, `Disk.rename_eq_ok_iff`: the calls, in terms of
  slots.
* `Disk.SameDirectories.toOption_find_iff`: what a path leads to depends on its slot.
-/

namespace ScanCodes

namespace Disk

/-- A sequence of calls is carried out exactly if each of them is. -/
theorem bind_eq_ok {ε α β : Type} {x : Except ε α} {f : α → Except ε β} {b : β} :
    (x >>= f) = .ok b ↔ ∃ a, x = .ok a ∧ f a = .ok b := by
  cases x <;> simp [bind, Except.bind]

/-! ### What is listed -/

/-- What is listed at a location. -/
def look (d : Disk) : Location → Option Entry := d.entries.get?

theorem entry?_concat (d : Disk) (parent : Location) (name : Name) :
    d.entry? (parent ++ [name]) = d.look (parent ++ [name]) :=
  if_neg (by simp)

@[simp]
theorem look_set (d : Disk) (l : Location) (e : Entry) :
    (d.set l e).look = Function.update d.look l (some e) := by
  funext k
  rw [look, set, SortedMap.get?_insert, Function.update_apply, look]

@[simp]
theorem look_unset (d : Disk) (l : Location) :
    (d.unset l).look = Function.update d.look l none := by
  funext k
  rw [look, unset, Function.update_apply]
  split
  · next h => rw [h, SortedMap.get?_erase_self]
  · next h => exact SortedMap.get?_erase_of_ne d.entries h

/-- Disks that list the same are the same. -/
theorem ext_look {d d' : Disk} (hdir : d.workingDirectory = d'.workingDirectory)
    (hlook : d.look = d'.look) : d = d' := by
  obtain ⟨workingDirectory, entries⟩ := d
  obtain ⟨workingDirectory', entries'⟩ := d'
  obtain rfl : workingDirectory = workingDirectory' := hdir
  obtain rfl : entries = entries' := SortedMap.ext_get? (congrFun hlook)
  rfl

/-! ### The same directories -/

/-- Two disks have the same directories. -/
structure SameDirectories (d d' : Disk) : Prop where
  workingDirectory_eq : d'.workingDirectory = d.workingDirectory
  directory_iff : ∀ l, d'.look l = some .directory ↔ d.look l = some .directory

namespace SameDirectories

theorem refl (d : Disk) : SameDirectories d d :=
  ⟨rfl, fun _ => Iff.rfl⟩

theorem symm {d d' : Disk} (h : SameDirectories d d') : SameDirectories d' d :=
  ⟨h.workingDirectory_eq.symm, fun l => (h.directory_iff l).symm⟩

theorem trans {d d' d'' : Disk} (h : SameDirectories d d') (h' : SameDirectories d' d'') :
    SameDirectories d d'' :=
  ⟨h'.workingDirectory_eq.trans h.workingDirectory_eq,
    fun l => (h'.directory_iff l).trans (h.directory_iff l)⟩

/-- Making a file makes no directory, unless it replaces one. -/
theorem set_file {d : Disk} {l : Location} (h : d.look l ≠ some .directory)
    (content : List UInt8) : SameDirectories d (d.set l (.file content)) := by
  refine ⟨rfl, fun k => ?_⟩
  rw [look_set, Function.update_apply]
  split
  · next hk => simp [hk, h]
  · rfl

theorem unset {d : Disk} {l : Location} (h : d.look l ≠ some .directory) :
    SameDirectories d (d.unset l) := by
  refine ⟨rfl, fun k => ?_⟩
  rw [look_unset, Function.update_apply]
  split
  · next hk => simp [hk, h]
  · rfl

variable {d d' : Disk}

private theorem enter_eq_ok (h : SameDirectories d d') {l l' : Location} {step : Name}
    (he : d.enter l step = .ok l') : d'.enter l step = .ok l' := by
  rw [enter] at he ⊢
  split at he
  · next hdot => rwa [if_pos hdot]
  · next hdot =>
    rw [if_neg hdot]
    split at he
    · next hup => rwa [if_pos hup]
    · next hup =>
      obtain ⟨u, hname, he⟩ := bind_eq_ok.1 he
      rw [if_neg hup]
      refine bind_eq_ok.2 ⟨u, hname, ?_⟩
      rw [entry?_concat] at he ⊢
      split at he
      · cases he
      · cases he
      · next hl => rwa [(h.directory_iff _).2 hl]

private theorem walk_eq_ok (h : SameDirectories d d') {l l' : Location} {steps : List Name}
    (hw : d.walk l steps = .ok l') : d'.walk l steps = .ok l' := by
  induction steps generalizing l with
  | nil => exact hw
  | cons step steps ih =>
    obtain ⟨next, he, hw⟩ := bind_eq_ok.1 hw
    exact bind_eq_ok.2 ⟨next, h.enter_eq_ok he, ih hw⟩

/-- A path leads to the same place. -/
theorem route_eq_ok (h : SameDirectories d d') {p : Path} {t : Target} (hr : d.route p = .ok t) :
    d'.route p = .ok t := by
  rw [route] at hr ⊢
  obtain ⟨u, htext, hr⟩ := bind_eq_ok.1 hr
  refine bind_eq_ok.2 ⟨u, htext, ?_⟩
  rw [h.workingDirectory_eq]
  cases hlast : (steps p).getLast? with
  | none => rwa [hlast] at hr
  | some last =>
    rw [hlast] at hr
    obtain ⟨parent, hwalk, hr⟩ := bind_eq_ok.1 hr
    refine bind_eq_ok.2 ⟨parent, h.walk_eq_ok hwalk, ?_⟩
    split at hr
    · next hdots =>
      obtain ⟨l, he, hr⟩ := bind_eq_ok.1 hr
      rw [if_pos hdots]
      exact bind_eq_ok.2 ⟨l, h.enter_eq_ok he, hr⟩
    · next hdots => rwa [if_neg hdots]

end SameDirectories

/-! ### Slots -/

/-- The slot of a path: a name in a directory that a file could have. -/
def slot? (d : Disk) (p : Path) : Option Location :=
  if p.hasNull then none
  else
    match d.route p with
    | .ok (.name parent name false) =>
      if maxName < name.length then none else some (parent ++ [name])
    | _ => none

/-- A path has a slot exactly if all that a call checks on the way to it is in order. -/
theorem slot?_eq_some {d : Disk} {p : Path} {l : Location} :
    d.slot? p = some l ↔ checkNull p = .ok () ∧ ∃ parent name,
      d.route p = .ok (.name parent name false) ∧ checkName name = .ok () ∧
        parent ++ [name] = l := by
  rw [slot?, checkNull]
  split
  · next hnull => simp
  · next hnull =>
    split
    · next parent name hroute =>
      rw [hroute]
      constructor
      · intro h
        split at h
        · cases h
        · next hname =>
          exact ⟨rfl, parent, name, rfl, if_neg hname, Option.some.inj h⟩
      · rintro ⟨-, parent', name', hroute', hname, rfl⟩
        cases hroute'
        split
        · next hlong =>
          rw [checkName, if_pos hlong] at hname
          cases hname
        · rfl
    · next hroute =>
      constructor
      · rintro ⟨⟩
      · rintro ⟨-, parent, name, hroute', -⟩
        exact absurd hroute' (hroute parent name)

/-- **A path keeps its slot.** -/
theorem SameDirectories.slot?_eq {d d' : Disk} (h : SameDirectories d d') (p : Path) :
    d'.slot? p = d.slot? p := by
  ext l
  rw [slot?_eq_some, slot?_eq_some]
  constructor
  · rintro ⟨hnull, parent, name, hroute, hname⟩
    exact ⟨hnull, parent, name, h.symm.route_eq_ok hroute, hname⟩
  · rintro ⟨hnull, parent, name, hroute, hname⟩
    exact ⟨hnull, parent, name, h.route_eq_ok hroute, hname⟩

/-- A file can be made in the slot: there is one, and no directory is in it. -/
def IsFree (d : Disk) (slot : Option Location) : Prop :=
  ∃ l, slot = some l ∧ d.look l ≠ some .directory

/-- There is a file in the slot. -/
def HasFile (d : Disk) (slot : Option Location) : Prop :=
  ∃ l content, slot = some l ∧ d.look l = some (.file content)

/-- What is listed in the slot. -/
def inSlot (d : Disk) (slot : Option Location) : Option Entry :=
  slot.bind d.look

/-- There is a file with the content in the slot. -/
def Holds (d : Disk) (slot : Option Location) (content : List UInt8) : Prop :=
  ∃ l, slot = some l ∧ d.look l = some (.file content)

/-- Two disks list the same in the slot. -/
def Agree (d d' : Disk) (slot : Option Location) : Prop :=
  ∀ l, slot = some l → d'.look l = d.look l

/-- Nothing is listed in the slot. -/
def IsUnused (d : Disk) (slot : Option Location) : Prop :=
  ∀ l, slot = some l → d.look l = none

/-- A file is made in the slot, or the one in it gets another content. -/
def Puts (d : Disk) (slot : Option Location) (content : List UInt8) (d' : Disk) : Prop :=
  ∃ l, slot = some l ∧ d.look l ≠ some .directory ∧ d' = d.set l (.file content)

/-- The file in one slot is moved to another. -/
def Moves (d : Disk) (slot slot' : Option Location) (d' : Disk) : Prop :=
  ∃ l l' content, slot = some l ∧ d.look l = some (.file content) ∧ slot' = some l' ∧
    d.look l' ≠ some .directory ∧ d' = (d.unset l).set l' (.file content)

/-- The disk without the file in the slot, if there is one. -/
def drop (d : Disk) (slot : Option Location) : Disk :=
  match slot with
  | none => d
  | some l =>
    match d.look l with
    | some (.file _) => d.unset l
    | _ => d

/-- Two paths do not share a slot. -/
def Apart (slot slot' : Option Location) : Prop :=
  ∀ l, slot = some l → slot' ≠ some l

instance (slot slot' : Option Location) : Decidable (Apart slot slot') :=
  decidable_of_iff (slot = none ∨ slot ≠ slot') <| by
    cases slot <;> simp [Apart, eq_comm]

theorem Apart.of_ne {slot slot' : Option Location} (h : slot ≠ slot') : Apart slot slot' :=
  fun _ hl hl' => h (hl.trans hl'.symm)

theorem Apart.symm {slot slot' : Option Location} (h : Apart slot slot') : Apart slot' slot :=
  fun l h' h'' => h l h'' h'

section Slot

variable {d d' : Disk} {slot slot' other : Option Location} {content : List UInt8}

@[simp, grind =]
theorem isFree_some {l : Location} : d.IsFree (some l) ↔ d.look l ≠ some .directory := by
  simp [IsFree]

@[simp, grind =]
theorem holds_some {l : Location} : d.Holds (some l) content ↔ d.look l = some (.file content) := by
  simp [Holds]

@[simp, grind =]
theorem inSlot_some {l : Location} : d.inSlot (some l) = d.look l := rfl

theorem hasFile_some {l : Location} :
    d.HasFile (some l) ↔ d.look l ≠ none ∧ d.look l ≠ some .directory := by
  rw [HasFile]
  cases hl : d.look l with
  | none => simp [hl]
  | some e => cases e <;> simp [hl]

instance (d : Disk) : DecidablePred d.IsFree
  | none => isFalse nofun
  | some _ => decidable_of_iff _ isFree_some.symm

instance (d : Disk) : DecidablePred d.HasFile
  | none => isFalse nofun
  | some _ => decidable_of_iff _ hasFile_some.symm

theorem HasFile.isFree (h : d.HasFile slot) : d.IsFree slot := by
  obtain ⟨l, content, hslot, hl⟩ := h
  exact ⟨l, hslot, by simp [hl]⟩

theorem Puts.isFree (h : d.Puts slot content d') : d.IsFree slot := by
  obtain ⟨l, hslot, hl, -⟩ := h
  exact ⟨l, hslot, hl⟩

theorem IsFree.exists_puts (h : d.IsFree slot) (content : List UInt8) :
    ∃ d', d.Puts slot content d' := by
  obtain ⟨l, hslot, hl⟩ := h
  exact ⟨_, l, hslot, hl, rfl⟩

@[simp, grind =]
theorem isUnused_some {l : Location} : d.IsUnused (some l) ↔ d.look l = none := by
  simp [IsUnused]

theorem IsUnused.not_hasFile (h : d.IsUnused slot) : ¬ d.HasFile slot := by
  rintro ⟨l, content, hslot, hl⟩
  rw [h l hslot] at hl
  cases hl

/-- Where neither a directory nor a file is, there is nothing. -/
theorem look_eq_none {l : Location} (hfree : d.look l ≠ some .directory)
    (hfile : ¬ d.HasFile (some l)) : d.look l = none := by
  cases hl : d.look l with
  | none => rfl
  | some e =>
    cases e with
    | file content => exact absurd ⟨l, content, rfl, hl⟩ hfile
    | directory => exact absurd hl hfree

theorem Moves.isFree (h : d.Moves slot slot' d') : d.IsFree slot' := by
  obtain ⟨l, l', content, -, -, hslot', hl', -⟩ := h
  exact ⟨l', hslot', hl'⟩

theorem Moves.source_hasFile (h : d.Moves slot slot' d') : d.HasFile slot := by
  obtain ⟨l, l', content, hslot, hl, -⟩ := h
  exact ⟨l, content, hslot, hl⟩

theorem exists_moves_iff :
    (∃ d', d.Moves slot slot' d') ↔ d.HasFile slot ∧ d.IsFree slot' := by
  constructor
  · rintro ⟨d', h⟩
    exact ⟨h.source_hasFile, h.isFree⟩
  · rintro ⟨⟨l, content, hslot, hl⟩, l', hslot', hl'⟩
    exact ⟨_, l, l', content, hslot, hl, hslot', hl', rfl⟩

theorem drop_eq_unset {l : Location} (h : d.look l = some (.file content)) :
    d.drop (some l) = d.unset l := by
  simp only [drop, h]

theorem drop_eq_self (h : ¬ d.HasFile slot) : d.drop slot = d := by
  cases slot with
  | none => rfl
  | some l =>
    rw [drop]
    split
    · next content hl => exact absurd ⟨l, content, rfl, hl⟩ h
    · rfl

/-! What the steps list. -/

theorem Puts.look (h : d.Puts slot content d') (k : Location) :
    d'.look k = if slot = some k then some (.file content) else d.look k := by
  obtain ⟨l, rfl, -, rfl⟩ := h
  simp only [look_set, Function.update_apply, Option.some.injEq, eq_comm]

theorem Moves.look (h : d.Moves slot slot' d') (k : Location) :
    d'.look k = if slot' = some k then d.inSlot slot
      else if slot = some k then none else d.look k := by
  obtain ⟨l, l', content, rfl, hl, rfl, -, rfl⟩ := h
  simp only [look_set, look_unset, Function.update_apply, Option.some.injEq, eq_comm, inSlot,
    Option.bind_some, hl]

/-- Only a directory stays where something is dropped. -/
theorem look_drop (d : Disk) (slot : Option Location) (k : Location) :
    (d.drop slot).look k =
      if slot = some k ∧ d.look k ≠ some .directory then none else d.look k := by
  by_cases hfile : d.HasFile slot
  · obtain ⟨l, content, rfl, hl⟩ := hfile
    rw [drop_eq_unset hl, look_unset, Function.update_apply]
    by_cases hk : k = l
    · simp [hk, hl]
    · simp [hk, Ne.symm hk]
  · rw [drop_eq_self hfile]
    split
    · next hk => rw [look_eq_none hk.2 (hk.1 ▸ hfile)]
    · rfl

theorem IsFree.look_drop (h : d.IsFree slot) (k : Location) :
    (d.drop slot).look k = if slot = some k then none else d.look k := by
  obtain ⟨l, rfl, hl⟩ := h
  rw [Disk.look_drop]
  by_cases hk : l = k
  · rw [if_pos ⟨congrArg some hk, hk ▸ hl⟩, if_pos (congrArg some hk)]
  · simp [hk]

theorem inSlot_drop (h : Apart other slot) : (d.drop slot).inSlot other = d.inSlot other := by
  cases other with
  | none => rfl
  | some k => rw [inSlot_some, look_drop, if_neg fun hk => h k rfl hk.1, inSlot_some]

theorem Moves.inSlot_target (h : d.Moves slot slot' d') : d'.inSlot slot' = d.inSlot slot := by
  have hlook := h.look
  obtain ⟨l, l', content, rfl, -, rfl, -, -⟩ := h
  rw [inSlot_some, hlook, if_pos rfl]

theorem Moves.inSlot_of_apart (h : d.Moves slot slot' d') (hslot : Apart other slot)
    (hslot' : Apart other slot') : d'.inSlot other = d.inSlot other := by
  cases other with
  | none => rfl
  | some k =>
    rw [inSlot_some, h.look, if_neg (hslot' k rfl), if_neg (hslot k rfl), inSlot_some]

/-! What the steps preserve: the directories, and files in other slots. -/

theorem SameDirectories.isFree_iff (h : SameDirectories d d') : d'.IsFree slot ↔ d.IsFree slot := by
  constructor
  · rintro ⟨l, hslot, hl⟩
    exact ⟨l, hslot, fun hd => hl ((h.directory_iff l).2 hd)⟩
  · rintro ⟨l, hslot, hl⟩
    exact ⟨l, hslot, fun hd => hl ((h.directory_iff l).1 hd)⟩

theorem Puts.sameDirectories (h : d.Puts slot content d') : SameDirectories d d' := by
  obtain ⟨l, -, hl, rfl⟩ := h
  exact SameDirectories.set_file hl content

theorem Moves.sameDirectories (h : d.Moves slot slot' d') : SameDirectories d d' := by
  obtain ⟨l, l', content, -, hl, -, hl', rfl⟩ := h
  have hunset : SameDirectories d (d.unset l) := SameDirectories.unset (by simp [hl])
  exact hunset.trans
    (SameDirectories.set_file (fun h => hl' ((hunset.directory_iff l').1 h)) content)

theorem sameDirectories_drop (d : Disk) (slot : Option Location) :
    SameDirectories d (d.drop slot) := by
  by_cases hfile : d.HasFile slot
  · obtain ⟨l, content, rfl, hl⟩ := hfile
    rw [drop_eq_unset hl]
    exact SameDirectories.unset (by simp [hl])
  · rw [drop_eq_self hfile]
    exact SameDirectories.refl d

theorem Puts.hasFile (h : d.Puts slot content d') : d'.HasFile slot := by
  obtain ⟨l, hslot, -, rfl⟩ := h
  exact ⟨l, content, hslot, by rw [look_set, Function.update_self]⟩

theorem Puts.hasFile_of_hasFile (h : d.Puts slot content d') (hfile : d.HasFile other) :
    d'.HasFile other := by
  obtain ⟨l, -, -, rfl⟩ := h
  obtain ⟨k, old, hother, hk⟩ := hfile
  by_cases hkl : k = l
  · exact ⟨k, content, hother, by rw [look_set, hkl, Function.update_self]⟩
  · exact ⟨k, old, hother, by rw [look_set, Function.update_of_ne hkl, hk]⟩

theorem Moves.hasFile (h : d.Moves slot slot' d') : d'.HasFile slot' := by
  obtain ⟨l, l', content, -, -, hslot', -, rfl⟩ := h
  exact ⟨l', content, hslot', by rw [look_set, Function.update_self]⟩

theorem Moves.hasFile_of_apart (h : d.Moves slot slot' d') (hfile : d.HasFile other)
    (hother : Apart other slot) : d'.HasFile other := by
  obtain ⟨l, l', content, hslot, -, -, -, rfl⟩ := h
  obtain ⟨k, old, hk, hlook⟩ := hfile
  have hkl : k ≠ l := by
    rintro rfl
    exact hother k hk hslot
  by_cases hkl' : k = l'
  · exact ⟨k, content, hk, by rw [look_set, hkl', Function.update_self]⟩
  · refine ⟨k, old, hk, ?_⟩
    rw [look_set, Function.update_of_ne hkl', look_unset, Function.update_of_ne hkl, hlook]

theorem Moves.not_hasFile (h : d.Moves slot slot' d') (happart : Apart slot slot') :
    ¬ d'.HasFile slot := by
  obtain ⟨l, l', content, hslot, -, hslot', -, rfl⟩ := h
  rintro ⟨k, old, hk, hlook⟩
  obtain rfl := Option.some.inj (hslot.symm.trans hk)
  have hne : l ≠ l' := by
    rintro rfl
    exact happart l hslot hslot'
  rw [look_set, Function.update_of_ne hne, look_unset, Function.update_self] at hlook
  cases hlook

/-- Where there is a file, nothing has been moved away. -/
theorem Moves.apart_of_hasFile (h : d.Moves slot slot' d') (happart : Apart slot slot')
    (hfile : d'.HasFile other) : Apart other slot :=
  Apart.of_ne fun heq => h.not_hasFile happart (heq ▸ hfile)

theorem HasFile.drop (hfile : d.HasFile other) (hother : Apart other slot) :
    (d.drop slot).HasFile other := by
  obtain ⟨k, old, hk, hlook⟩ := hfile
  exact ⟨k, old, hk, by rw [look_drop, if_neg fun h => hother k hk h.1, hlook]⟩

end Slot

/-! ### Calls -/

variable {d d' : Disk} {p q : Path}

/-- A file is written in a slot in which no directory is. -/
theorem write_eq_ok_iff {content : List UInt8} :
    d.write p content = .ok d' ↔ d.Puts (d.slot? p) content d' := by
  rw [write, Puts]
  constructor
  · intro h
    obtain ⟨u, hnull, h⟩ := bind_eq_ok.1 h
    obtain ⟨t, hroute, h⟩ := bind_eq_ok.1 h
    cases t with
    | dots l => cases h
    | name parent name slash =>
      cases slash with
      | true => cases h
      | false =>
        obtain ⟨u, hname, h⟩ := bind_eq_ok.1 h
        rw [entry?_concat] at h
        refine ⟨parent ++ [name], slot?_eq_some.2 ⟨hnull, parent, name, hroute, hname, rfl⟩, ?_⟩
        split at h
        · cases h
        · next hl => exact ⟨hl, (Except.ok.inj h).symm⟩
  · rintro ⟨l, hslot, hl, rfl⟩
    obtain ⟨hnull, parent, name, hroute, hname, rfl⟩ := slot?_eq_some.1 hslot
    refine bind_eq_ok.2 ⟨(), hnull, bind_eq_ok.2 ⟨_, hroute, ?_⟩⟩
    refine bind_eq_ok.2 ⟨(), hname, ?_⟩
    rw [entry?_concat]
    split
    · next hdirectory => exact absurd hdirectory hl
    · rfl

/-- What is found at a path with a slot. -/
theorem find_of_slot {l : Location} (hslot : d.slot? p = some l) :
    d.find p = match d.look l with
      | none => .error .notFound
      | some e => .ok (l, e) := by
  obtain ⟨hnull, parent, name, hroute, hname, rfl⟩ := slot?_eq_some.1 hslot
  simp only [find, hnull, hroute, hname, entry?_concat, bind, Except.bind]
  cases d.look (parent ++ [name]) with
  | none => rfl
  | some e => cases e <;> rfl

theorem find_eq_ok_of_slot {l : Location} {e : Entry} (hslot : d.slot? p = some l)
    (hl : d.look l = some e) : d.find p = .ok (l, e) := by
  rw [find_of_slot hslot, hl]

/-- A file is found only in the slot of a path. -/
theorem find_eq_ok_file_iff {l : Location} {content : List UInt8} :
    d.find p = .ok (l, .file content) ↔
      d.slot? p = some l ∧ d.look l = some (.file content) := by
  constructor
  · intro h
    rw [find] at h
    obtain ⟨u, hnull, h⟩ := bind_eq_ok.1 h
    obtain ⟨t, hroute, h⟩ := bind_eq_ok.1 h
    cases t with
    | dots l => cases h
    | name parent name slash =>
      obtain ⟨u, hname, h⟩ := bind_eq_ok.1 h
      rw [entry?_concat] at h
      split at h
      · cases h
      · next hl =>
        cases slash with
        | true => cases h
        | false =>
          cases h
          exact ⟨slot?_eq_some.2 ⟨hnull, parent, name, hroute, hname, rfl⟩, hl⟩
      · cases h
  · rintro ⟨hslot, hl⟩
    exact find_eq_ok_of_slot hslot hl

theorem isFile_iff : d.isFile p = true ↔ d.HasFile (d.slot? p) := by
  rw [isFile, HasFile]
  constructor
  · intro h
    split at h
    · next l content hfind =>
      obtain ⟨hslot, hl⟩ := find_eq_ok_file_iff.1 hfind
      exact ⟨l, content, hslot, hl⟩
    · cases h
  · rintro ⟨l, content, hslot, hl⟩
    rw [find_eq_ok_of_slot hslot hl]

theorem read_eq_ok_iff {content : List UInt8} :
    d.read p = .ok content ↔ d.Holds (d.slot? p) content := by
  rw [read]
  constructor
  · intro h
    obtain ⟨⟨l, e⟩, hfind, h⟩ := bind_eq_ok.1 h
    cases e with
    | directory => cases h
    | file content =>
      cases h
      exact ⟨l, find_eq_ok_file_iff.1 hfind⟩
  · rintro ⟨l, hl⟩
    exact bind_eq_ok.2 ⟨_, find_eq_ok_file_iff.2 hl, rfl⟩

/-- Where nothing is found, nothing is listed. -/
theorem isUnused_of_not_isPresent (h : d.isPresent p = false) : d.IsUnused (d.slot? p) := by
  intro l hslot
  cases hl : d.look l with
  | none => rfl
  | some e =>
    rw [isPresent, find_eq_ok_of_slot hslot hl] at h
    cases h

/-- A file is removed from the slot in which it is. -/
theorem remove_eq_ok_iff :
    d.remove p = .ok d' ↔
      ∃ l content, d.slot? p = some l ∧ d.look l = some (.file content) ∧ d' = d.unset l := by
  rw [remove]
  constructor
  · intro h
    obtain ⟨u, hnull, h⟩ := bind_eq_ok.1 h
    obtain ⟨t, hroute, h⟩ := bind_eq_ok.1 h
    cases t with
    | dots l => cases h
    | name parent name slash =>
      obtain ⟨u, hname, h⟩ := bind_eq_ok.1 h
      rw [entry?_concat] at h
      split at h
      · cases h
      · cases h
      · next content hl =>
        cases slash with
        | true => cases h
        | false =>
          cases h
          exact ⟨parent ++ [name], content,
            slot?_eq_some.2 ⟨hnull, parent, name, hroute, hname, rfl⟩, hl, rfl⟩
  · rintro ⟨l, content, hslot, hl, rfl⟩
    obtain ⟨hnull, parent, name, hroute, hname, rfl⟩ := slot?_eq_some.1 hslot
    refine bind_eq_ok.2 ⟨(), hnull, bind_eq_ok.2 ⟨_, hroute, ?_⟩⟩
    refine bind_eq_ok.2 ⟨(), hname, ?_⟩
    rw [entry?_concat, hl]
    rfl

/-- A file is moved from the slot in which it is to one in which no directory is. -/
theorem rename_eq_ok_iff :
    d.rename p q = .ok d' ↔ d.Moves (d.slot? p) (d.slot? q) d' := by
  rw [rename, Moves]
  constructor
  · intro h
    obtain ⟨u, hnull, h⟩ := bind_eq_ok.1 h
    obtain ⟨u, hnull', h⟩ := bind_eq_ok.1 h
    obtain ⟨t, hroute, h⟩ := bind_eq_ok.1 h
    obtain ⟨t', hroute', h⟩ := bind_eq_ok.1 h
    cases t with
    | dots l => cases h
    | name parent name slash =>
      cases t' with
      | dots l => cases h
      | name parent' name' slash' =>
        obtain ⟨u, hname, h⟩ := bind_eq_ok.1 h
        rw [entry?_concat] at h
        split at h
        · cases h
        · cases h
        · next content hl =>
          obtain ⟨u, hname', h⟩ := bind_eq_ok.1 h
          cases slash with
          | true => cases h
          | false =>
            cases slash' with
            | true => cases h
            | false =>
              rw [entry?_concat] at h
              refine ⟨parent ++ [name], parent' ++ [name'], content,
                slot?_eq_some.2 ⟨hnull, parent, name, hroute, hname, rfl⟩, hl,
                slot?_eq_some.2 ⟨hnull', parent', name', hroute', hname', rfl⟩, ?_⟩
              split at h
              · cases h
              · next hl' => exact ⟨hl', (Except.ok.inj h).symm⟩
  · rintro ⟨l, l', content, hslot, hl, hslot', hl', rfl⟩
    obtain ⟨hnull, parent, name, hroute, hname, rfl⟩ := slot?_eq_some.1 hslot
    obtain ⟨hnull', parent', name', hroute', hname', rfl⟩ := slot?_eq_some.1 hslot'
    refine bind_eq_ok.2 ⟨(), hnull, bind_eq_ok.2 ⟨(), hnull',
      bind_eq_ok.2 ⟨_, hroute, bind_eq_ok.2 ⟨_, hroute', ?_⟩⟩⟩⟩
    refine bind_eq_ok.2 ⟨(), hname, ?_⟩
    rw [entry?_concat, hl]
    refine bind_eq_ok.2 ⟨(), hname', ?_⟩
    rw [entry?_concat]
    split
    · next hdirectory => exact absurd hdirectory hl'
    · rfl

/-! ### What is found -/

/-- A directory is found as long as it is there. -/
private theorem SameDirectories.find_directory (h : SameDirectories d d') {l : Location}
    (hfind : d.find p = .ok (l, .directory)) : d'.find p = .ok (l, .directory) := by
  rw [find] at hfind ⊢
  obtain ⟨u, hnull, hfind⟩ := bind_eq_ok.1 hfind
  obtain ⟨t, hroute, hfind⟩ := bind_eq_ok.1 hfind
  refine bind_eq_ok.2 ⟨u, hnull, bind_eq_ok.2 ⟨t, h.route_eq_ok hroute, ?_⟩⟩
  cases t with
  | dots l' => exact hfind
  | name parent name slash =>
    obtain ⟨u, hname, hfind⟩ := bind_eq_ok.1 hfind
    refine bind_eq_ok.2 ⟨u, hname, ?_⟩
    rw [entry?_concat] at hfind ⊢
    split at hfind
    · cases hfind
    · cases slash <;> cases hfind
    · next hl => rwa [(h.directory_iff _).2 hl]

private theorem SameDirectories.find_eq_ok (h : SameDirectories d d')
    (hlook : d.Agree d' (d.slot? p)) {found : Location × Entry}
    (hfind : d.find p = .ok found) : d'.find p = .ok found := by
  obtain ⟨l, e⟩ := found
  cases e with
  | directory => exact h.find_directory hfind
  | file content =>
    obtain ⟨hslot, hl⟩ := find_eq_ok_file_iff.1 hfind
    exact find_eq_ok_file_iff.2 ⟨(h.slot?_eq p).trans hslot, (hlook l hslot).trans hl⟩

/-- **What a path leads to depends on its slot.** The same is found again, or again nothing, exactly
as long as the same is listed there. -/
theorem SameDirectories.toOption_find_iff (h : SameDirectories d d') :
    (d'.find p).toOption = (d.find p).toOption ↔ d.Agree d' (d.slot? p) := by
  constructor
  · intro hfind l hslot
    rw [find_of_slot hslot, find_of_slot ((h.slot?_eq p).trans hslot)] at hfind
    cases hl : d.look l <;> cases hl' : d'.look l <;> simp_all [Except.toOption]
  · intro hlook
    cases hfind : d.find p with
    | ok found => rw [h.find_eq_ok hlook hfind]
    | error why =>
      cases hfind' : d'.find p with
      | error why' => rfl
      | ok found =>
        have hback := h.symm.find_eq_ok
          (fun l hl => (hlook l ((h.slot?_eq p).symm.trans hl)).symm) hfind'
        rw [hfind] at hback
        cases hback

/-- What is present depends on what is found. -/
theorem isPresent_eq_of_toOption_find (h : (d'.find p).toOption = (d.find p).toOption) :
    d'.isPresent p = d.isPresent p := by
  have hpresent : ∀ d : Disk, d.isPresent p = (d.find p).toOption.isSome := by
    intro d
    rw [isPresent]
    cases d.find p <;> rfl
  rw [hpresent, hpresent, h]

/-- So does what is read. -/
theorem read_eq_ok_of_toOption_find {content : List UInt8}
    (h : (d'.find p).toOption = (d.find p).toOption) (hread : d.read p = .ok content) :
    d'.read p = .ok content := by
  rw [read] at hread ⊢
  obtain ⟨found, hfind, hread⟩ := bind_eq_ok.1 hread
  rw [hfind] at h
  cases hfind' : d'.find p with
  | error why =>
    rw [hfind'] at h
    cases h
  | ok found' =>
    rw [hfind'] at h
    rw [Option.some.inj h]
    exact hread

end Disk

end ScanCodes
