import ScanCodes.Proofs.Commit.Safety

/-!
# What a commit does elsewhere

A commit works under names that it makes up itself, beside its targets, and it does not look whether
they are in use. So every file is safe from it that is neither of the targets and has none of these
names. Of the others the commit takes the place, and in the end it has cleared it.

The places of the temporary files are taken by every commit. That of the backup is taken only where
there is a header to be set aside, and where it comes to that: both texts have to be prepared first.

## Main definitions

* `Commit.Slots.SetsAside`: a header is going to be set aside.
* `Commit.Slots.Takes`: the commit takes the place for its own.

## Main results

* `Commit.Outcome.look_elsewhere`: what every outcome makes of a place that is not a target's.
* `Commit.look_run_elsewhere`: so does every commit.
-/

namespace ScanCodes

namespace Commit

open Disk

/-- Both texts can be prepared, and then there is a file in the place of the header: an old header,
or the new source that has been prepared there. -/
def Slots.SetsAside (x : Slots) (d : Disk) : Prop :=
  d.IsFree x.headerTemporary ∧ d.IsFree x.sourceTemporary ∧
    (d.HasFile x.header ∨ x.header = x.sourceTemporary)

instance (x : Slots) (d : Disk) : Decidable (x.SetsAside d) :=
  inferInstanceAs (Decidable (_ ∧ _ ∧ _))

/-- The commit takes the place for its own, for a temporary file or for the backup. -/
def Slots.Takes (x : Slots) (d : Disk) (l : Location) : Prop :=
  x.headerTemporary = some l ∨ x.sourceTemporary = some l ∨ x.backup = some l ∧ x.SetsAside d

instance (x : Slots) (d : Disk) (l : Location) : Decidable (x.Takes d l) :=
  inferInstanceAs (Decidable (_ ∨ _ ∨ _ ∧ _))

section Outcomes

variable {x : Slots} {header source : List UInt8} {d d' d₂ : Disk} {ok : Bool}

/-- Once both texts have been prepared, a header is set aside if a file is found in its place. -/
theorem Staged.setsAside_iff (hstaged : Staged x header source d d₂) (hx : x.Derived) :
    x.SetsAside d ↔ d₂.HasFile x.header := by
  rw [Slots.SetsAside, and_iff_right hstaged.isFree_headerTemporary,
    and_iff_right hstaged.isFree_sourceTemporary]
  by_cases heq : x.header = x.sourceTemporary
  · exact iff_of_true (Or.inr heq) (heq ▸ hstaged.hasFile_sourceTemporary)
  · rw [or_iff_left heq, hstaged.hasFile_header_iff hx (Apart.of_ne (Ne.symm heq))]

/-- No directory is in the way of a text that has been prepared. -/
theorem Staged.look_ne_directory (hstaged : Staged x header source d d₂) {k : Location}
    (hk : x.headerTemporary = some k ∨ x.sourceTemporary = some k) :
    d.look k ≠ some .directory := by
  rcases hk with hk | hk
  · exact isFree_some.1 (hk ▸ hstaged.isFree_headerTemporary)
  · exact isFree_some.1 (hk ▸ hstaged.isFree_sourceTemporary)

/-- **What is listed elsewhere than in the slots of the targets.** In a place that is taken there is
nothing in the end, unless it is a directory, which no commit can take. Every other place is left as
it was. -/
theorem Outcome.look_elsewhere (h : Outcome x header source d ok d') (hx : x.Derived)
    {k : Location} (hheader : x.header ≠ some k) (hsource : x.source ≠ some k) :
    d'.look k = if x.Takes d k ∧ d.look k ≠ some .directory then none else d.look k := by
  simp only [Slots.Takes]
  cases h with
  | headerNotStaged hfree =>
    have hnone : ¬ x.SetsAside d := fun haside => hfree haside.1
    rw [look_drop]
    grind
  | sourceNotStaged hput hfree =>
    have hnone : ¬ x.SetsAside d := fun haside => hfree haside.2.1
    have htemporary := hput.isFree
    rw [hput.hasFile.isFree.look_drop, hput.look]
    grind
  | headerNotSetAside hstaged hfile hfree =>
    have htemporary := hstaged.look_ne_directory (k := k)
    rw [look_discarded hstaged]
    grind
  | headerNotMade hstaged hfree =>
    have htemporary := hstaged.look_ne_directory (k := k)
    have hnone : ¬ x.SetsAside d := fun haside =>
      hfree (hstaged.sameDirectories.isFree_iff.1 ((hstaged.setsAside_iff hx).1 haside).isFree)
    rw [look_discarded hstaged]
    grind
  | sourceNotReplaced hstaged haside hheader hnot hback =>
    have htemporary := hstaged.look_ne_directory (k := k)
    have hbackup := hstaged.isFree_backup haside
    have hheader' : x.SetsAside d := (hstaged.setsAside_iff hx).2 haside.source_hasFile
    rw [look_restored hx hstaged haside hheader hback]
    grind
  | sourceNotMade hstaged hfile hheader hnot =>
    have htemporary := hstaged.look_ne_directory (k := k)
    have hnone : ¬ x.SetsAside d := mt (hstaged.setsAside_iff hx).1 hfile
    rw [look_unmade hstaged hheader]
    grind
  | replaced hstaged haside hheader hsource =>
    have htemporary := hstaged.look_ne_directory (k := k)
    have hbackup := hstaged.isFree_backup haside
    have hheader' : x.SetsAside d := (hstaged.setsAside_iff hx).2 haside.source_hasFile
    rw [look_replaced hx hstaged haside hheader hsource]
    grind
  | made hstaged hfile hheader hsource =>
    have htemporary := hstaged.look_ne_directory (k := k)
    have hnone : ¬ x.SetsAside d := mt (hstaged.setsAside_iff hx).1 hfile
    rw [look_made hx hstaged hfile hheader hsource]
    grind

end Outcomes

/-! ### Commits -/

section Commits

/-- **What a commit does elsewhere**, whether it is carried out or refused. A file that is neither
of the targets stays as it is, unless the commit takes its place; then it is gone. Nothing else
comes or goes. -/
theorem look_run_elsewhere (d : Disk) (a : Artifacts) {header source : Path} {l : Location}
    (hheader : d.slot? header ≠ some l) (hsource : d.slot? source ≠ some l) :
    (d.perform (run a header source)).2.look l =
      if (slots d header source).Takes d l ∧ d.look l ≠ some .directory then none
      else d.look l :=
  (outcome_run d a header source).look_elsewhere (derived_slots d header source) hheader hsource

/-- A disk with a file that has the name of a backup. -/
def oldBackup : Disk :=
  Disk.set {} ["k.h.bak"] (.file [1])

/-- The file stays as it is where there is no header, and is gone where there is one. -/
theorem look_run_elsewhere_oldBackup :
    let header : Path := ⟨"k.h"⟩
    let source : Path := ⟨"k.c"⟩
    let old : Location := ["k.h.bak"]
    let withHeader := oldBackup.set ["k.h"] (.file [0])
    oldBackup.slot? header ≠ some old ∧ oldBackup.slot? source ≠ some old ∧
      (oldBackup.perform (run ⟨"H", "S"⟩ header source)).2.look old = some (.file [1]) ∧
      withHeader.slot? header ≠ some old ∧ withHeader.slot? source ≠ some old ∧
      (withHeader.perform (run ⟨"H", "S"⟩ header source)).2.look old = none := by
  intro header source old withHeader
  have hheader : oldBackup.slot? header ≠ some old := by decide
  have hsource : oldBackup.slot? source ≠ some old := by decide
  have hheader' : withHeader.slot? header ≠ some old := by decide
  have hsource' : withHeader.slot? source ≠ some old := by decide
  refine ⟨hheader, hsource, ?_, hheader', hsource', ?_⟩
  · rw [look_run_elsewhere _ _ hheader hsource]
    decide
  · rw [look_run_elsewhere _ _ hheader' hsource']
    decide

/-- A file that has the name of a temporary file is lost in a commit that is carried out. -/
theorem look_run_eq_none_of_temporary :
    let old : Location := ["k.h.tmp"]
    let d := Disk.set {} old (.file [0])
    let committed := d.perform (run ⟨"H", "S"⟩ ⟨"k.h"⟩ ⟨"k.c"⟩)
    Path.same ⟨"k.h"⟩ ⟨"k.c"⟩ = false ∧ Apart (d.slot? ⟨"k.h"⟩) (d.slot? ⟨"k.c"⟩) ∧
      d.slot? ⟨"k.h"⟩ ≠ some old ∧ d.slot? ⟨"k.c"⟩ ≠ some old ∧
      d.look old = some (.file [0]) ∧ committed.1 = .ok () ∧ committed.2.look old = none := by
  decide

end Commits

end Commit

end ScanCodes
