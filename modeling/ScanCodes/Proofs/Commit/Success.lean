import ScanCodes.Proofs.Commit.AllOrNothing
import ScanCodes.Proofs.Commit.Safety

/-!
# Commits that are carried out

Where the five slots of a commit are different, no step of it gets in the way of a later one. So it
is carried out exactly if a file can be made in each slot in which it makes one, and that depends on
the disk as it was. Then a commit that has been carried out can be carried out once more. Nothing is
different the second time, although there is a header now which has to be set aside.

Whatever was in the place of a temporary file is lost the first time. Nothing may be in the place of
the backup: where there is no header, the first commit would leave it alone and the second one would
not.

## Main definitions

* `Commit.Slots.IsOpen`: a file can be made wherever the commit makes one.

## Main results

* `Commit.Outcome.ok_iff_isOpen`: when a commit is carried out.
* `Commit.Outcome.look_of_ok`: what is listed when it has been.
* `Commit.Outcome.again`: the same commit once more is carried out and changes nothing.
* `Commit.run_again`: so does every commit, in terms of its paths.
-/

namespace ScanCodes

namespace Commit

open Disk

/-- A file can be made in each slot in which a commit makes one. It makes one in the slot of the
backup if there is a header to be set aside. -/
structure Slots.IsOpen (x : Slots) (d : Disk) : Prop where
  header : d.IsFree x.header
  headerTemporary : d.IsFree x.headerTemporary
  source : d.IsFree x.source
  sourceTemporary : d.IsFree x.sourceTemporary
  backup : d.HasFile x.header → d.IsFree x.backup

section Outcomes

variable {x : Slots} {header source : List UInt8} {d d' d'' : Disk} {ok : Bool}

/-- **A commit is carried out exactly if all its slots are open.** -/
theorem Outcome.ok_iff_isOpen (h : Outcome x header source d ok d') (hder : x.Derived)
    (hx : x.Separate) : ok = true ↔ x.IsOpen d := by
  obtain ⟨⟨-, -, -, hhst⟩, ⟨-, -, htst⟩, -⟩ := Slots.separate_iff.1 hx
  have happart := And.intro hhst.symm htst.symm
  cases h with
  | headerNotStaged hfree => exact ⟨nofun, fun hopen => absurd hopen.headerTemporary hfree⟩
  | sourceNotStaged hput hfree => exact ⟨nofun, fun hopen => absurd hopen.sourceTemporary hfree⟩
  | headerNotSetAside hstaged hfile hfree =>
    have hold := (hstaged.hasFile_header_iff hder happart.1).1 hfile
    exact ⟨nofun, fun hopen => absurd (hopen.backup hold) hfree⟩
  | headerNotMade hstaged hfree => exact ⟨nofun, fun hopen => absurd hopen.header hfree⟩
  | sourceNotReplaced hstaged haside hheader hnot hback =>
    have hfile := hasFile_sourceTemporary_of_replaced hstaged haside hheader happart
    exact ⟨nofun, fun hopen => absurd ⟨hfile, hopen.source⟩ hnot⟩
  | sourceNotMade hstaged hfile hheader hnot =>
    have hfile := hheader.hasFile_of_apart hstaged.hasFile_sourceTemporary happart.2
    exact ⟨nofun, fun hopen => absurd ⟨hfile, hopen.source⟩ hnot⟩
  | replaced hstaged haside hheader hsource =>
    have hsame := hstaged.sameDirectories.trans
      (haside.sameDirectories.trans hheader.sameDirectories)
    exact ⟨fun _ => ⟨hstaged.isFree_header haside, hstaged.isFree_headerTemporary,
      hsame.isFree_iff.1 hsource.isFree, hstaged.isFree_sourceTemporary,
      fun _ => hstaged.isFree_backup haside⟩, fun _ => rfl⟩
  | made hstaged hfile hheader hsource =>
    have hsame := hstaged.sameDirectories
    have hnone : ¬ d.HasFile x.header := mt (hstaged.hasFile_header_iff hder happart.1).2 hfile
    exact ⟨fun _ => ⟨hsame.isFree_iff.1 hheader.isFree, hstaged.isFree_headerTemporary,
      (hsame.trans hheader.sameDirectories).isFree_iff.1 hsource.isFree,
      hstaged.isFree_sourceTemporary, fun hold => absurd hold hnone⟩, fun _ => rfl⟩

/-- What is listed after a commit has been carried out: the new texts, and no temporary files. -/
theorem Outcome.look_of_ok (h : Outcome x header source d true d') (hder : x.Derived)
    (hx : x.Separate) (hbackup : d.IsUnused x.backup) (k : Location) :
    d'.look k = if x.header = some k then some (.file header)
      else if x.source = some k then some (.file source)
      else if x.headerTemporary = some k ∨ x.sourceTemporary = some k then none
      else d.look k := by
  have hunused := hbackup k
  rw [Slots.separate_iff] at hx
  simp only [Apart] at hx
  cases h with
  | replaced hstaged haside hheader hsource =>
    obtain ⟨l, hl, -⟩ := hheader.isFree
    rw [look_replaced hder hstaged haside hheader hsource]
    grind
  | made hstaged hfile hheader hsource =>
    rw [look_made hder hstaged hfile hheader hsource]
    grind

/-- What is in none of the slots stays as it was. -/
theorem Outcome.agree_of_ok (h : Outcome x header source d true d') (hder : x.Derived)
    (hx : x.Separate) (hbackup : d.IsUnused x.backup) {slot : Option Location}
    (happart : ∀ other ∈ [x.header, x.headerTemporary, x.source, x.sourceTemporary],
      Apart slot other) : d.Agree d' slot := by
  intro k hk
  simp only [List.mem_cons, List.not_mem_nil, or_false, forall_eq_or_imp, forall_eq] at happart
  obtain ⟨hh, hht, hs, hst⟩ := happart
  rw [h.look_of_ok hder hx hbackup, if_neg (hh k hk), if_neg (hs k hk),
    if_neg (not_or_intro (hht k hk) (hst k hk))]

/-- Nothing is in the place of the backup when a commit has been carried out, if nothing was. -/
theorem Outcome.isUnused_backup (h : Outcome x header source d true d') (hder : x.Derived)
    (hx : x.Separate) (hbackup : d.IsUnused x.backup) : d'.IsUnused x.backup := by
  intro k hk
  obtain ⟨-, -, ⟨hbs, -⟩, -⟩ := Slots.separate_iff.1 hx
  rw [h.look_of_ok hder hx hbackup, if_neg (hder.header_backup.symm k hk), if_neg (hbs k hk)]
  split
  · rfl
  · exact hbackup k hk

/-- **The same commit once more** is carried out as well, and changes nothing. Only the slot of the
backup has to be there: the first commit may have had no use for it. -/
theorem Outcome.again (h : Outcome x header source d true d')
    (h' : Outcome x header source d' ok d'') (hder : x.Derived) (hx : x.Separate)
    (hbackup : d.IsUnused x.backup) (hslot : x.backup ≠ none) : ok = true ∧ d'' = d' := by
  have hsame := h.sameDirectories
  have hbackup' := h.isUnused_backup hder hx hbackup
  have hopen := (h.ok_iff_isOpen hder hx).1 rfl
  obtain ⟨l, hl⟩ := Option.ne_none_iff_exists'.1 hslot
  have hfree : d'.IsFree x.backup := ⟨l, hl, by simp [hbackup' l hl]⟩
  obtain rfl := (h'.ok_iff_isOpen hder hx).2
    ⟨hsame.isFree_iff.2 hopen.header, hsame.isFree_iff.2 hopen.headerTemporary,
      hsame.isFree_iff.2 hopen.source, hsame.isFree_iff.2 hopen.sourceTemporary, fun _ => hfree⟩
  refine ⟨rfl, ext_look h'.sameDirectories.workingDirectory_eq (funext fun k => ?_)⟩
  rw [h'.look_of_ok hder hx hbackup', h.look_of_ok hder hx hbackup]
  split
  · rfl
  · split
    · rfl
    · split <;> rfl

end Outcomes

/-! ### Commits -/

section Commits

-- What is said of the slots of a commit does not depend on how they are found.
attribute [local irreducible] slot?

variable {header source : Path} {d d' : Disk} {a : Artifacts}

/-- The backup has a slot if the header can be prepared: their names are of one length. -/
theorem backup_ne_none_of_isFree (h : d.IsFree (slots d header source).headerTemporary) :
    (slots d header source).backup ≠ none := by
  obtain ⟨l, hl, -⟩ := h
  have htemporary : d.slot? (header.sibling "tmp") = some l := hl
  have hexists : ∃ l', d.slot? (header.sibling "bak") = some l' := by
    refine exists_slot?_sibling ?_ ?_ ?_ ?_ ?_ htemporary <;> decide
  exact Option.ne_none_iff_exists'.2 hexists

/-- After a commit that has been carried out, the same is found at a path as before, unless the
commit works in its slot. -/
theorem toOption_find_of_ok (hx : (slots d header source).Separate)
    (hbackup : d.isPresent (backup header) = false)
    (hrun : d.perform (run a header source) = (.ok (), d')) {p : Path}
    (happart : ∀ q ∈ [header, temporary header, source, temporary source],
      Apart (d.slot? p) (d.slot? q)) : (d'.find p).toOption = (d.find p).toOption := by
  have houtcome := outcome_run d a header source
  rw [hrun] at houtcome
  refine houtcome.sameDirectories.toOption_find_iff.2 (houtcome.agree_of_ok
    (derived_slots d header source) hx (isUnused_of_not_isPresent hbackup) ?_)
  simpa [slots] using happart

/-- **The same commit once more** changes nothing. -/
theorem run_again (hx : (slots d header source).Separate)
    (hbackup : d.isPresent (backup header) = false)
    (hrun : d.perform (run a header source) = (.ok (), d')) :
    d'.perform (run a header source) = (.ok (), d') := by
  have houtcome := outcome_run d a header source
  have houtcome' := outcome_run d' a header source
  have hder := derived_slots d header source
  rw [hrun] at houtcome
  have hslots : slots d' header source = slots d header source := by
    simp only [slots, houtcome.sameDirectories.slot?_eq]
  rw [hslots] at houtcome'
  have hslot := backup_ne_none_of_isFree ((houtcome.ok_iff_isOpen hder hx).1 rfl).headerTemporary
  obtain ⟨hok, hdisk⟩ :=
    houtcome.again houtcome' hder hx (isUnused_of_not_isPresent hbackup) hslot
  refine Prod.ext ?_ hdisk
  cases hresult : (d'.perform (run a header source)).1 with
  | ok u => rfl
  | error e =>
    rw [hresult] at hok
    cases hok

end Commits

end Commit

end ScanCodes
