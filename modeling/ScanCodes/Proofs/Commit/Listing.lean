import ScanCodes.Proofs.Commit.Outcome

/-!
# What a commit leaves behind

For each of its outcomes, what is listed at every location after a commit, in terms of what was
listed before. Nothing is assumed of the five slots but what their last names say: a sibling of one
target may be the other target, and anything may be in it.

## Main definitions

* `Commit.Slots.SharesTemporary`: there is one slot for both temporary files.

## Main results

* `Commit.Staged.look`: while both texts are prepared.
* `Commit.Staged.not_sharesTemporary`: two temporary files are needed to go on to the end.
* `Commit.look_discarded`, `Commit.look_restored`, `Commit.look_unmade`: after a refusal.
* `Commit.look_replaced`, `Commit.look_made`: after success.
-/

namespace ScanCodes

namespace Commit

open Disk

/-- There is one slot for both temporary files, as far as they have any. -/
def Slots.SharesTemporary (x : Slots) : Prop :=
  ∀ k, x.headerTemporary = some k → ∀ k', x.sourceTemporary = some k' → k = k'

variable {x : Slots} {header source : List UInt8} {d d₂ d₃ d₄ d₅ : Disk}

theorem Staged.look (h : Staged x header source d d₂) (k : Location) :
    d₂.look k = if x.sourceTemporary = some k then some (.file source)
      else if x.headerTemporary = some k then some (.file header) else d.look k := by
  obtain ⟨d₁, hheader, hsource⟩ := h
  rw [hsource.look, hheader.look]

theorem Staged.isFree_headerTemporary (h : Staged x header source d d₂) :
    d.IsFree x.headerTemporary := by
  obtain ⟨d₁, hheader, -⟩ := h
  exact hheader.isFree

theorem Staged.isFree_sourceTemporary (h : Staged x header source d d₂) :
    d.IsFree x.sourceTemporary := by
  obtain ⟨d₁, hheader, hsource⟩ := h
  exact hheader.sameDirectories.isFree_iff.1 hsource.isFree

theorem Staged.inSlot_sourceTemporary (h : Staged x header source d d₂) :
    d₂.inSlot x.sourceTemporary = some (.file source) := by
  have hlook := h.look
  obtain ⟨b, hb, -⟩ := h.isFree_sourceTemporary
  rw [hb, inSlot_some, hlook, if_pos hb]

theorem Staged.inSlot_headerTemporary (h : Staged x header source d d₂)
    (hapart : Apart x.headerTemporary x.sourceTemporary) :
    d₂.inSlot x.headerTemporary = some (.file header) := by
  have hlook := h.look
  obtain ⟨a, ha, -⟩ := h.isFree_headerTemporary
  rw [ha, inSlot_some, hlook, if_neg (hapart a ha), if_pos ha]

/-- Where there is no header, the temporary source is not in its place. -/
theorem Staged.sourceTemporary_ne_header (hstaged : Staged x header source d d₂)
    (hfile : ¬ d₂.HasFile x.header) : x.sourceTemporary ≠ x.header :=
  fun heq => hfile (heq ▸ hstaged.hasFile_sourceTemporary)

/-- What has been moved into place as the header is no longer there to be moved as the source. -/
theorem Staged.not_sharesTemporary (hstaged : Staged x header source d d₂) (hx : x.Derived)
    (hheader : d₃.Moves x.headerTemporary x.header d₄)
    (hsource : d₄.Moves x.sourceTemporary x.source d₅) : ¬ x.SharesTemporary := by
  intro hshares
  obtain ⟨k, hk, -⟩ := hstaged.isFree_headerTemporary
  obtain ⟨k', hk', -⟩ := hstaged.isFree_sourceTemporary
  obtain rfl := hshares k hk k' hk'
  exact hheader.apart_of_hasFile hx.header_headerTemporary.symm hsource.source_hasFile k hk' hk

/-- After the texts have been prepared and discarded. -/
theorem look_discarded (hstaged : Staged x header source d d₂) (k : Location) :
    ((d₂.drop x.headerTemporary).drop x.sourceTemporary).look k =
      if x.headerTemporary = some k ∨ x.sourceTemporary = some k then none else d.look k := by
  have hsame := hstaged.sameDirectories
  have hheader : d₂.IsFree x.headerTemporary :=
    hsame.isFree_iff.2 hstaged.isFree_headerTemporary
  have hsource : (d₂.drop x.headerTemporary).IsFree x.sourceTemporary :=
    (hsame.trans (sameDirectories_drop _ _)).isFree_iff.2 hstaged.isFree_sourceTemporary
  rw [hsource.look_drop, hheader.look_drop, hstaged.look]
  grind

/-- After a new header has been removed. -/
theorem look_unmade (hstaged : Staged x header source d d₂)
    (hheader : d₂.Moves x.headerTemporary x.header d₄) (k : Location) :
    ((d₄.drop x.sourceTemporary).drop x.header).look k =
      if x.header = some k ∨ x.headerTemporary = some k ∨ x.sourceTemporary = some k then none
      else d.look k := by
  have hsame := hstaged.sameDirectories.trans hheader.sameDirectories
  have hsource : d₄.IsFree x.sourceTemporary :=
    hsame.isFree_iff.2 hstaged.isFree_sourceTemporary
  have hfree : (d₄.drop x.sourceTemporary).IsFree x.header :=
    (hheader.sameDirectories.trans (sameDirectories_drop _ _)).isFree_iff.2 hheader.isFree
  rw [hfree.look_drop, hsource.look_drop, hheader.look, hstaged.look]
  grind

section Derived

variable (hx : x.Derived) (hstaged : Staged x header source d d₂)

include hx hstaged

/-- After an old header has come back. -/
theorem look_restored (haside : d₂.Moves x.header x.backup d₃)
    (hheader : d₃.Moves x.headerTemporary x.header d₄)
    (hback : (d₄.drop x.sourceTemporary).Moves x.backup x.header d₅) (k : Location) :
    d₅.look k = if x.header = some k then d₂.look k
      else if x.headerTemporary = some k ∨ x.backup = some k ∨ x.sourceTemporary = some k then none
      else d.look k := by
  have hsame := hstaged.sameDirectories.trans (haside.sameDirectories.trans hheader.sameDirectories)
  have hsource : d₄.IsFree x.sourceTemporary :=
    hsame.isFree_iff.2 hstaged.isFree_sourceTemporary
  have hold : (d₄.drop x.sourceTemporary).inSlot x.backup = d₂.inSlot x.header :=
    calc (d₄.drop x.sourceTemporary).inSlot x.backup
        = d₄.inSlot x.backup := inSlot_drop hx.sourceTemporary_backup.symm
      _ = d₃.inSlot x.backup :=
          hheader.inSlot_of_apart hx.headerTemporary_backup.symm hx.header_backup.symm
      _ = d₂.inSlot x.header := haside.inSlot_target
  by_cases hk : x.header = some k
  · rw [hback.look, if_pos hk, if_pos hk, hold, hk, inSlot_some]
  · rw [hback.look, if_neg hk, if_neg hk, hsource.look_drop, hheader.look, if_neg hk, haside.look,
      if_neg hk, hstaged.look]
    grind

/-- What the source takes over where an old header has been set aside. -/
private theorem inSlot_sourceTemporary (haside : d₂.Moves x.header x.backup d₃)
    (hheader : d₃.Moves x.headerTemporary x.header d₄) (hfile : d₄.HasFile x.sourceTemporary) :
    d₄.inSlot x.sourceTemporary
      = some (.file (if x.sourceTemporary = x.header then header else source)) := by
  by_cases hst : x.sourceTemporary = x.header
  · -- what was prepared there has been set aside as if it were the old header
    have hapart : Apart x.headerTemporary x.sourceTemporary :=
      hst ▸ hx.header_headerTemporary.symm
    rw [if_pos hst, hst, hheader.inSlot_target,
      haside.inSlot_of_apart hx.header_headerTemporary.symm hx.headerTemporary_backup,
      hstaged.inSlot_headerTemporary hapart]
  · rw [if_neg hst, hheader.inSlot_of_apart (hheader.apart_of_hasFile
        hx.header_headerTemporary.symm hfile) (Apart.of_ne hst),
      haside.inSlot_of_apart (Apart.of_ne hst) hx.sourceTemporary_backup,
      hstaged.inSlot_sourceTemporary]

/-- After both targets have been replaced. -/
theorem look_replaced (haside : d₂.Moves x.header x.backup d₃)
    (hheader : d₃.Moves x.headerTemporary x.header d₄)
    (hsource : d₄.Moves x.sourceTemporary x.source d₅) (k : Location) :
    (d₅.drop x.backup).look k = if x.backup = some k then none
      else if x.source = some k then
        some (.file (if x.sourceTemporary = x.header then header else source))
      else if x.sourceTemporary = some k then none
      else if x.header = some k then some (.file header)
      else if x.headerTemporary = some k then none else d.look k := by
  have hbackup : d₅.IsFree x.backup := (haside.sameDirectories.trans
    (hheader.sameDirectories.trans hsource.sameDirectories)).isFree_iff.2 haside.isFree
  have hapart : Apart x.sourceTemporary x.headerTemporary :=
    hheader.apart_of_hasFile hx.header_headerTemporary.symm hsource.source_hasFile
  have hnew : d₃.inSlot x.headerTemporary = some (.file header) :=
    (haside.inSlot_of_apart hx.header_headerTemporary.symm hx.headerTemporary_backup).trans
      (hstaged.inSlot_headerTemporary hapart.symm)
  rw [hbackup.look_drop, hsource.look, hheader.look, haside.look, hstaged.look, hnew,
    inSlot_sourceTemporary hx hstaged haside hheader hsource.source_hasFile]
  grind

/-- After both targets have been replaced where no header was. -/
theorem look_made (hfile : ¬ d₂.HasFile x.header)
    (hheader : d₂.Moves x.headerTemporary x.header d₄)
    (hsource : d₄.Moves x.sourceTemporary x.source d₅) (k : Location) :
    d₅.look k = if x.source = some k then some (.file source)
      else if x.sourceTemporary = some k then none
      else if x.header = some k then some (.file header)
      else if x.headerTemporary = some k then none else d.look k := by
  have hst := hstaged.sourceTemporary_ne_header hfile
  have hapart : Apart x.sourceTemporary x.headerTemporary :=
    hheader.apart_of_hasFile hx.header_headerTemporary.symm hsource.source_hasFile
  have hnew : d₄.inSlot x.sourceTemporary = some (.file source) :=
    (hheader.inSlot_of_apart hapart (Apart.of_ne hst)).trans hstaged.inSlot_sourceTemporary
  rw [hsource.look, hheader.look, hstaged.look, hnew,
    hstaged.inSlot_headerTemporary hapart.symm]
  grind

end Derived

end Commit

end ScanCodes
