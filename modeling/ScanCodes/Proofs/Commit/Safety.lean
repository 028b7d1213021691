import ScanCodes.Proofs.Commit.Listing

/-!
# What becomes of the targets

A sibling of one target can be the other target. Then a commit writes, moves or removes one target
while it means to prepare, to set aside or to clean up for the other, and it can lose the old text
of a target that it was to keep, or report success with a target missing. There are four ways in
which this happens, and it happens in no other way.

## Main definitions

* `Commit.Slots.Sound`: the slots of the targets are in order after a commit.
* `Commit.Slots.Collides`: one of the four ways.
* `Commit.Safe`: a commit leaves its targets in order, whatever becomes of the rest of the disk.

## Main results

* `Commit.Outcome.sound_of_not_collides`: every other commit leaves its targets in order.
* `Commit.Outcome.not_sound_of_collides`: none of these does. What is lost is said for each of them.
* `Commit.safe_iff`: a commit is safe exactly if its slots do not collide.
* `Commit.safe_of_apart`: targets that are not each other's siblings are safe.
-/

namespace ScanCodes

namespace Commit

open Disk

/-- The targets are in order after a commit: they hold the new texts if it has been carried out, and
what they held before if it has been refused. -/
def Slots.Sound (x : Slots) (header source : List UInt8) (d : Disk) (ok : Bool) (d' : Disk) :
    Prop :=
  if ok then d'.Holds x.header header ∧ d'.Holds x.source source
  else d.Agree d' x.header ∧ d.Agree d' x.source

/-- The slot of a sibling is that of the other target, and it matters. -/
inductive Slots.Collides (x : Slots) (source : List UInt8) (d : Disk) : Prop
  /-- The new header is prepared in the place of an old source, and the commit is refused later
  on. -/
  | headerOverSource (heq : x.source = x.headerTemporary) (hfile : d.HasFile x.source)
      (hrefused : ¬ (d.IsFree x.sourceTemporary ∧ (d.HasFile x.header → d.IsFree x.backup) ∧
        d.IsFree x.header))
  /-- The new source takes the place of the old header that has been set aside, and is removed in
  its stead. -/
  | sourceOverBackup (heq : x.source = x.backup) (hfile : d.HasFile x.header)
      (hheader : d.IsFree x.headerTemporary) (hsource : d.IsFree x.sourceTemporary)
      (hbackup : d.IsFree x.backup)
  /-- The new source is prepared in the place of the header and set aside as if it were the old
  one. -/
  | sourceOverHeader (heq : x.header = x.sourceTemporary) (hheader : d.IsFree x.header)
      (htemporary : d.IsFree x.headerTemporary) (hbackup : d.IsFree x.backup)
      (hother : d.IsFree x.source ∨ ¬ d.Holds x.header source)
  /-- The old header is removed as if it were the new source. -/
  | headerRemoved (heq : x.header = x.sourceTemporary) (hfile : d.HasFile x.header)
      (hrefused : ¬ (d.IsFree x.headerTemporary ∧ d.IsFree x.backup))

/-- Targets that are not each other's siblings do not collide. -/
theorem Slots.not_collides_of_apart {x : Slots} {source : List UInt8} {d : Disk}
    (htemporary : Apart x.source x.headerTemporary) (hbackup : Apart x.source x.backup)
    (hheader : Apart x.header x.sourceTemporary) : ¬ x.Collides source d := by
  intro hcollides
  cases hcollides with
  | headerOverSource heq hfile hrefused =>
    obtain ⟨l, hl, -⟩ := hfile.isFree
    exact htemporary l hl (heq ▸ hl)
  | sourceOverBackup heq hfile hfree hsource hold =>
    obtain ⟨l, hl, -⟩ := hold
    exact hbackup l (heq.trans hl) hl
  | sourceOverHeader heq hfree htemporary hbackup hother =>
    obtain ⟨l, hl, -⟩ := hfree
    exact hheader l hl (heq ▸ hl)
  | headerRemoved heq hfile hrefused =>
    obtain ⟨l, hl, -⟩ := hfile.isFree
    exact hheader l hl (heq ▸ hl)

section Outcomes

variable {x : Slots} {header source : List UInt8} {d d' d₂ d₃ d₄ d₅ : Disk} {ok : Bool}

/-! ### What the last names rule out -/

/-- A source that is in the place of a sibling of the header has its temporary file elsewhere. -/
theorem Slots.Derived.sourceTemporary_apart (hx : x.Derived) {l : Location}
    (hsource : x.source = some l) (h : x.headerTemporary = some l ∨ x.backup = some l) :
    Apart x.sourceTemporary x.header ∧ Apart x.sourceTemporary x.headerTemporary := by
  rcases hx.crossed with ⟨htemporary, hbackup⟩ | happart
  · rcases h with h | h
    · exact absurd h (htemporary l hsource)
    · exact absurd h (hbackup l hsource)
  · exact happart

/-- Targets are apart once both have been moved into place: their temporary files were. -/
theorem Slots.Derived.header_source_of_moves (hx : x.Derived)
    (hstaged : Staged x header source d d₂) (hheader : d₃.Moves x.headerTemporary x.header d₄)
    (hsource : d₄.Moves x.sourceTemporary x.source d₅) : Apart x.header x.source := by
  intro l hl hl'
  exact hstaged.not_sharesTemporary hx hheader hsource (hx.aliased l hl hl')

/-- Preparing the texts makes no header unless it is in the place of the temporary source. -/
theorem Staged.hasFile_header_iff (hstaged : Staged x header source d d₂) (hx : x.Derived)
    (happart : Apart x.sourceTemporary x.header) : d₂.HasFile x.header ↔ d.HasFile x.header := by
  have hlook : ∀ k, x.header = some k → d₂.look k = d.look k := by
    intro k hk
    rw [hstaged.look, if_neg fun h => happart k h hk,
      if_neg fun h => hx.header_headerTemporary k hk h]
  constructor
  · rintro ⟨k, content, hk, hfile⟩
    exact ⟨k, content, hk, (hlook k hk).symm.trans hfile⟩
  · rintro ⟨k, content, hk, hfile⟩
    exact ⟨k, content, hk, (hlook k hk).trans hfile⟩

/-- An old header has been set aside only where it could be. -/
theorem Staged.isFree_backup (hstaged : Staged x header source d d₂)
    (haside : d₂.Moves x.header x.backup d₃) : d.IsFree x.backup :=
  hstaged.sameDirectories.isFree_iff.1 haside.isFree

/-- A header that has been set aside was no directory. -/
theorem Staged.isFree_header (hstaged : Staged x header source d d₂)
    (haside : d₂.Moves x.header x.backup d₃) : d.IsFree x.header :=
  hstaged.sameDirectories.isFree_iff.1 haside.source_hasFile.isFree

/-- The temporary source is still there where the header has been replaced. -/
theorem hasFile_sourceTemporary_of_replaced
    (hstaged : Staged x header source d d₂) (haside : d₂.Moves x.header x.backup d₃)
    (hheader : d₃.Moves x.headerTemporary x.header d₄)
    (happart : Apart x.sourceTemporary x.header ∧ Apart x.sourceTemporary x.headerTemporary) :
    d₄.HasFile x.sourceTemporary :=
  hheader.hasFile_of_apart
    (haside.hasFile_of_apart hstaged.hasFile_sourceTemporary happart.1) happart.2

/-! ### Safety -/

private theorem look_header_eq_none (hsafe : ¬ x.Collides source d) {l : Location}
    (hl : x.header = some l) (hl' : x.sourceTemporary = some l) (hfree : d.IsFree x.sourceTemporary)
    (hrefused : ¬ (d.IsFree x.headerTemporary ∧ d.IsFree x.backup)) : d.look l = none := by
  rw [hl', isFree_some] at hfree
  refine look_eq_none hfree fun hfile => hsafe ?_
  exact .headerRemoved (hl.trans hl'.symm) (hl ▸ hfile) hrefused

private theorem look_source_eq_none (hsafe : ¬ x.Collides source d) {l : Location}
    (hl : x.source = some l) (hl' : x.headerTemporary = some l) (hfree : d.IsFree x.headerTemporary)
    (hrefused : ¬ (d.IsFree x.sourceTemporary ∧ (d.HasFile x.header → d.IsFree x.backup) ∧
      d.IsFree x.header)) : d.look l = none := by
  rw [hl', isFree_some] at hfree
  refine look_eq_none hfree fun hfile => hsafe ?_
  exact .headerOverSource (hl.trans hl'.symm) (hl ▸ hfile) hrefused

/-- What has been prepared is discarded: neither target was in its place with something in it. -/
private theorem sound_discarded (hx : x.Derived) (hstaged : Staged x header source d d₂)
    (hheader : ∀ l, x.header = some l → x.sourceTemporary = some l → d.look l = none)
    (hsource : ∀ l, x.source = some l → x.headerTemporary = some l → d.look l = none) :
    x.Sound header source d false
      ((d₂.drop x.headerTemporary).drop x.sourceTemporary) := by
  refine ⟨fun l hl => ?_, fun l hl => ?_⟩
  · rw [look_discarded hstaged]
    split
    · next hl' => exact (hheader l hl (hl'.resolve_left (hx.header_headerTemporary l hl))).symm
    · rfl
  · rw [look_discarded hstaged]
    split
    · next hl' => exact (hsource l hl (hl'.resolve_right (hx.source_sourceTemporary l hl))).symm
    · rfl

/-- An old header comes back as it was. -/
private theorem sound_restored (hx : x.Derived) (hsafe : ¬ x.Collides source d)
    (hstaged : Staged x header source d d₂) (haside : d₂.Moves x.header x.backup d₃)
    (hheader : d₃.Moves x.headerTemporary x.header d₄)
    (hnot : ¬ (d₄.HasFile x.sourceTemporary ∧ d.IsFree x.source))
    (hback : (d₄.drop x.sourceTemporary).Moves x.backup x.header d₅) :
    x.Sound header source d false d₅ := by
  have hbackup := hstaged.isFree_backup haside
  refine ⟨fun l hl => ?_, fun l hl => ?_⟩
  · rw [look_restored hx hstaged haside hheader hback, if_pos hl, hstaged.look,
      if_neg (hx.header_headerTemporary l hl)]
    split
    · next hst =>
      -- the text of the source comes back, and only a header that held it is as it was
      by_contra hne
      refine hsafe (.sourceOverHeader (hl.trans hst.symm) ?_ hstaged.isFree_headerTemporary
        hbackup (.inr fun hholds => hne ?_))
      · exact hl ▸ hst ▸ hstaged.isFree_sourceTemporary
      · rw [hl, holds_some] at hholds
        exact hholds.symm
    · rfl
  · have hapart := hx.source_sourceTemporary l hl
    rw [look_restored hx hstaged haside hheader hback, hstaged.look, if_neg hapart]
    split
    · next hh => rw [if_neg (hx.header_headerTemporary l hh)]
    · split
      · next hl' =>
        -- the source could have been moved into the place of a sibling of the header
        have hl' : x.headerTemporary = some l ∨ x.backup = some l :=
          hl'.imp_right fun h => h.resolve_right hapart
        have hfree : d.IsFree x.source := by
          rcases hl' with hht | hhb
          · exact hl ▸ hht ▸ hstaged.isFree_headerTemporary
          · exact hl ▸ hhb ▸ hbackup
        exact absurd ⟨hasFile_sourceTemporary_of_replaced hstaged haside hheader
          (hx.sourceTemporary_apart hl hl'), hfree⟩ hnot
      · rfl

/-- A new header is removed where there was none. -/
private theorem sound_unmade (hx : x.Derived) (hstaged : Staged x header source d d₂)
    (hfile : ¬ d₂.HasFile x.header) (hheader : d₂.Moves x.headerTemporary x.header d₄)
    (hnot : ¬ (d₄.HasFile x.sourceTemporary ∧ d.IsFree x.source)) :
    x.Sound header source d false ((d₄.drop x.sourceTemporary).drop x.header) := by
  have hne := hstaged.sourceTemporary_ne_header hfile
  have hnone : ∀ l, x.header = some l → d.look l = none := by
    intro l hl
    have hfree := hheader.isFree
    rw [hl] at hfile hfree
    have hnone := look_eq_none (isFree_some.1 hfree) hfile
    rwa [hstaged.look, if_neg fun hst => hne (hst.trans hl.symm),
      if_neg (hx.header_headerTemporary l hl)] at hnone
  refine ⟨fun l hl => ?_, fun l hl => ?_⟩
  · rw [look_unmade hstaged hheader, if_pos (.inl hl), hnone l hl]
  · rw [look_unmade hstaged hheader]
    split
    · next hl' =>
      rcases hl' with hh | hht | hst
      · exact (hnone l hh).symm
      · have hapart := hx.sourceTemporary_apart hl (.inl hht)
        exact absurd ⟨hheader.hasFile_of_apart hstaged.hasFile_sourceTemporary hapart.2,
          hl ▸ hht ▸ hstaged.isFree_headerTemporary⟩ hnot
      · exact absurd hst (hx.source_sourceTemporary l hl)
    · rfl

/-- Both targets hold the new texts where an old header has been set aside. -/
private theorem sound_replaced (hx : x.Derived) (hsafe : ¬ x.Collides source d)
    (hstaged : Staged x header source d d₂) (haside : d₂.Moves x.header x.backup d₃)
    (hheader : d₃.Moves x.headerTemporary x.header d₄)
    (hsource : d₄.Moves x.sourceTemporary x.source d₅) :
    x.Sound header source d true (d₅.drop x.backup) := by
  have hbackup := hstaged.isFree_backup haside
  have hfree : d.IsFree x.source :=
    (hstaged.sameDirectories.trans (haside.sameDirectories.trans
      hheader.sameDirectories)).isFree_iff.1 hsource.isFree
  have happart := hx.header_source_of_moves hstaged hheader hsource
  have hne : x.sourceTemporary ≠ x.header := fun heq =>
    hsafe (.sourceOverHeader heq.symm (heq ▸ hstaged.isFree_sourceTemporary)
      hstaged.isFree_headerTemporary hbackup (.inl hfree))
  obtain ⟨l, hl, -⟩ := hheader.isFree
  obtain ⟨l', hl', -⟩ := hsource.isFree
  have hkept : x.backup ≠ some l' := by
    intro hhb
    have hold : d.HasFile x.header := (hstaged.hasFile_header_iff hx
      (hx.sourceTemporary_apart hl' (.inr hhb)).1).1 haside.source_hasFile
    exact hsafe (.sourceOverBackup (hl'.trans hhb.symm) hold hstaged.isFree_headerTemporary
      hstaged.isFree_sourceTemporary hbackup)
  refine ⟨⟨l, hl, ?_⟩, l', hl', ?_⟩
  · rw [look_replaced hx hstaged haside hheader hsource, if_neg (hx.header_backup l hl),
      if_neg (happart l hl), if_neg fun hst => hne (hst.trans hl.symm), if_pos hl]
  · rw [look_replaced hx hstaged haside hheader hsource, if_neg hkept, if_pos hl', if_neg hne]

/-- Both targets hold the new texts where there was no header. -/
private theorem sound_made (hx : x.Derived) (hstaged : Staged x header source d d₂)
    (hfile : ¬ d₂.HasFile x.header) (hheader : d₂.Moves x.headerTemporary x.header d₄)
    (hsource : d₄.Moves x.sourceTemporary x.source d₅) : x.Sound header source d true d₅ := by
  have happart := hx.header_source_of_moves hstaged hheader hsource
  have hne := hstaged.sourceTemporary_ne_header hfile
  obtain ⟨l, hl, -⟩ := hheader.isFree
  obtain ⟨l', hl', -⟩ := hsource.isFree
  refine ⟨⟨l, hl, ?_⟩, l', hl', ?_⟩
  · rw [look_made hx hstaged hfile hheader hsource, if_neg (happart l hl),
      if_neg fun hst => hne (hst.trans hl.symm), if_pos hl]
  · rw [look_made hx hstaged hfile hheader hsource, if_pos hl']

/-- **Slots that do not collide are safe.** -/
theorem Outcome.sound_of_not_collides (h : Outcome x header source d ok d') (hx : x.Derived)
    (hsafe : ¬ x.Collides source d) : x.Sound header source d ok d' := by
  cases h with
  | headerNotStaged hfree =>
    refine ⟨fun l hl => ?_, fun l hl => ?_⟩
    · rw [look_drop]
      split
      · next hdropped =>
        have hst : d.IsFree x.sourceTemporary := hdropped.1 ▸ isFree_some.2 hdropped.2
        exact (look_header_eq_none hsafe hl hdropped.1 hst fun hboth => hfree hboth.1).symm
      · rfl
    · rw [look_drop, if_neg fun hdropped => hx.source_sourceTemporary l hl hdropped.1]
  | sourceNotStaged hput hfree =>
    refine ⟨fun l hl => ?_, fun l hl => ?_⟩
    · rw [hput.hasFile.isFree.look_drop, hput.look, if_neg (hx.header_headerTemporary l hl),
        if_neg (hx.header_headerTemporary l hl)]
    · rw [hput.hasFile.isFree.look_drop, hput.look]
      split
      · next hl' =>
        exact (look_source_eq_none hsafe hl hl' hput.isFree fun hall => hfree hall.1).symm
      · rfl
  | headerNotSetAside hstaged hfile hfree =>
    refine sound_discarded hx hstaged (fun l hl hst => ?_) (fun l hl hht => ?_)
    · exact look_header_eq_none hsafe hl hst hstaged.isFree_sourceTemporary
        fun hboth => hfree hboth.2
    · have hold : d.HasFile x.header :=
        (hstaged.hasFile_header_iff hx (hx.sourceTemporary_apart hl (.inl hht)).1).1 hfile
      exact look_source_eq_none hsafe hl hht hstaged.isFree_headerTemporary
        fun hall => hfree (hall.2.1 hold)
  | headerNotMade hstaged hfree =>
    refine sound_discarded hx hstaged (fun l hl hst => ?_) (fun l hl hht => ?_)
    · exact absurd (hst ▸ hstaged.isFree_sourceTemporary) (hl ▸ hfree)
    · exact look_source_eq_none hsafe hl hht hstaged.isFree_headerTemporary
        fun hall => hfree hall.2.2
  | sourceNotReplaced hstaged haside hheader hnot hback =>
    exact sound_restored hx hsafe hstaged haside hheader hnot hback
  | sourceNotMade hstaged hfile hheader hnot =>
    exact sound_unmade hx hstaged hfile hheader hnot
  | replaced hstaged haside hheader hsource =>
    exact sound_replaced hx hsafe hstaged haside hheader hsource
  | made hstaged hfile hheader hsource =>
    exact sound_made hx hstaged hfile hheader hsource

/-! ### Collisions -/

/-- The old source is gone after a refusal. -/
theorem Outcome.headerOverSource (h : Outcome x header source d ok d') (hx : x.Derived)
    (heq : x.source = x.headerTemporary) (hfile : d.HasFile x.source)
    (hrefused : ¬ (d.IsFree x.sourceTemporary ∧ (d.HasFile x.header → d.IsFree x.backup) ∧
      d.IsFree x.header)) : ok = false ∧ d'.IsUnused x.source := by
  have hfree : d.IsFree x.headerTemporary := heq ▸ hfile.isFree
  obtain ⟨l, content, hl, -⟩ := hfile
  have hht : x.headerTemporary = some l := heq ▸ hl
  have happart := hx.sourceTemporary_apart hl (.inl hht)
  rw [hl, isUnused_some]
  cases h with
  | headerNotStaged hnot => exact absurd hfree hnot
  | sourceNotStaged hput hnot =>
    exact ⟨rfl, by rw [hput.hasFile.isFree.look_drop, if_pos hht]⟩
  | headerNotSetAside hstaged hold hnot =>
    exact ⟨rfl, by rw [look_discarded hstaged, if_pos (.inl hht)]⟩
  | headerNotMade hstaged hnot =>
    exact ⟨rfl, by rw [look_discarded hstaged, if_pos (.inl hht)]⟩
  | sourceNotReplaced hstaged haside hheader hnot hback =>
    exact absurd ⟨hstaged.isFree_sourceTemporary, fun _ => hstaged.isFree_backup haside,
      hstaged.isFree_header haside⟩ hrefused
  | sourceNotMade hstaged hold hheader hnot =>
    have hold : ¬ d.HasFile x.header := mt (hstaged.hasFile_header_iff hx happart.1).2 hold
    exact absurd ⟨hstaged.isFree_sourceTemporary, fun hfile => absurd hfile hold,
      hstaged.sameDirectories.isFree_iff.1 hheader.isFree⟩ hrefused
  | replaced hstaged haside hheader hsource =>
    exact absurd ⟨hstaged.isFree_sourceTemporary, fun _ => hstaged.isFree_backup haside,
      hstaged.isFree_header haside⟩ hrefused
  | made hstaged hold hheader hsource =>
    have hold : ¬ d.HasFile x.header := mt (hstaged.hasFile_header_iff hx happart.1).2 hold
    exact absurd ⟨hstaged.isFree_sourceTemporary, fun hfile => absurd hfile hold,
      hstaged.sameDirectories.isFree_iff.1 hheader.isFree⟩ hrefused

/-- The new source is gone after success. -/
theorem Outcome.sourceOverBackup (h : Outcome x header source d ok d') (hx : x.Derived)
    (heq : x.source = x.backup) (hfile : d.HasFile x.header) (hheader : d.IsFree x.headerTemporary)
    (hsource : d.IsFree x.sourceTemporary) (hbackup : d.IsFree x.backup) :
    ok = true ∧ d'.IsUnused x.source := by
  have hfree := hbackup
  obtain ⟨l, hhb, -⟩ := hbackup
  have hl : x.source = some l := heq ▸ hhb
  have happart := hx.sourceTemporary_apart hl (.inr hhb)
  rw [hl, isUnused_some]
  cases h with
  | headerNotStaged hnot => exact absurd hheader hnot
  | sourceNotStaged hput hnot => exact absurd hsource hnot
  | headerNotSetAside hstaged hold hnot => exact absurd hfree hnot
  | headerNotMade hstaged hnot => exact absurd hfile.isFree hnot
  | sourceNotReplaced hstaged haside hheader hnot hback =>
    exact absurd ⟨hasFile_sourceTemporary_of_replaced hstaged haside hheader happart,
      heq ▸ hfree⟩ hnot
  | sourceNotMade hstaged hold hheader hnot =>
    exact absurd ((hstaged.hasFile_header_iff hx happart.1).2 hfile) hold
  | replaced hstaged haside hheader hsource =>
    exact ⟨rfl, by rw [look_replaced hx hstaged haside hheader hsource, if_pos hhb]⟩
  | made hstaged hold hheader hsource =>
    exact absurd ((hstaged.hasFile_header_iff hx happart.1).2 hfile) hold

/-- The header is gone after success, or it holds the new source after a refusal. -/
theorem Outcome.sourceOverHeader (h : Outcome x header source d ok d') (hx : x.Derived)
    (heq : x.header = x.sourceTemporary) (hheader : d.IsFree x.header)
    (htemporary : d.IsFree x.headerTemporary) (hbackup : d.IsFree x.backup) :
    ok = true ∧ d'.IsUnused x.header ∨
      ok = false ∧ ¬ d.IsFree x.source ∧ d'.Holds x.header source := by
  have hfree := hheader
  obtain ⟨l, hl, -⟩ := hheader
  have hst : x.sourceTemporary = some l := heq ▸ hl
  rw [hl, isUnused_some, holds_some]
  cases h with
  | headerNotStaged hnot => exact absurd htemporary hnot
  | sourceNotStaged hput hnot => exact absurd (heq ▸ hfree) hnot
  | headerNotSetAside hstaged hold hnot => exact absurd hbackup hnot
  | headerNotMade hstaged hnot => exact absurd hfree hnot
  | sourceNotReplaced hstaged haside hheader hnot hback =>
    refine Or.inr ⟨rfl, fun hsource => hnot ⟨heq ▸ hheader.hasFile, hsource⟩, ?_⟩
    rw [look_restored hx hstaged haside hheader hback, if_pos hl, hstaged.look, if_pos hst]
  | sourceNotMade hstaged hold hheader hnot =>
    exact absurd heq.symm (hstaged.sourceTemporary_ne_header hold)
  | replaced hstaged haside hheader hsource =>
    refine Or.inl ⟨rfl, ?_⟩
    rw [look_replaced hx hstaged haside hheader hsource, if_neg (hx.header_backup l hl),
      if_neg fun hs => hx.source_sourceTemporary l hs hst, if_pos hst]
  | made hstaged hold hheader hsource =>
    exact absurd heq.symm (hstaged.sourceTemporary_ne_header hold)

/-- The old header is gone after a refusal. -/
theorem Outcome.headerRemoved (h : Outcome x header source d ok d')
    (heq : x.header = x.sourceTemporary) (hfile : d.HasFile x.header)
    (hrefused : ¬ (d.IsFree x.headerTemporary ∧ d.IsFree x.backup)) :
    ok = false ∧ d'.IsUnused x.header := by
  have hfree := hfile.isFree
  obtain ⟨l, content, hl, hlook⟩ := hfile
  have hst : x.sourceTemporary = some l := heq ▸ hl
  rw [hl, isUnused_some]
  cases h with
  | headerNotStaged hnot =>
    exact ⟨rfl, by rw [(heq ▸ hfree : d.IsFree x.sourceTemporary).look_drop, if_pos hst]⟩
  | sourceNotStaged hput hnot => exact absurd (heq ▸ hfree) hnot
  | headerNotSetAside hstaged hold hnot =>
    exact ⟨rfl, by rw [look_discarded hstaged, if_pos (.inr hst)]⟩
  | headerNotMade hstaged hnot => exact absurd hfree hnot
  | sourceNotReplaced hstaged haside hheader hnot hback =>
    exact absurd ⟨hstaged.isFree_headerTemporary, hstaged.isFree_backup haside⟩ hrefused
  | sourceNotMade hstaged hold hheader hnot =>
    exact absurd heq.symm (hstaged.sourceTemporary_ne_header hold)
  | replaced hstaged haside hheader hsource =>
    exact absurd ⟨hstaged.isFree_headerTemporary, hstaged.isFree_backup haside⟩ hrefused
  | made hstaged hold hheader hsource =>
    exact absurd heq.symm (hstaged.sourceTemporary_ne_header hold)

/-- A file that is gone is not there as it was. -/
private theorem not_agree_of_isUnused {slot : Option Location} (hfile : d.HasFile slot)
    (hunused : d'.IsUnused slot) : ¬ d.Agree d' slot := by
  obtain ⟨l, content, hl, hlook⟩ := hfile
  intro hagree
  rw [hagree l hl |>.symm.trans (hunused l hl)] at hlook
  cases hlook

private theorem not_holds_of_isUnused {slot : Option Location} {content : List UInt8}
    (hunused : d'.IsUnused slot) : ¬ d'.Holds slot content := by
  rintro ⟨l, hl, hlook⟩
  exact hunused.not_hasFile ⟨l, content, hl, hlook⟩

/-- **Slots that collide are not safe.** -/
theorem Outcome.not_sound_of_collides (h : Outcome x header source d ok d') (hx : x.Derived)
    (hcollides : x.Collides source d) : ¬ x.Sound header source d ok d' := by
  intro hsound
  cases hcollides with
  | headerOverSource heq hfile hrefused =>
    obtain ⟨rfl, hunused⟩ := h.headerOverSource hx heq hfile hrefused
    exact not_agree_of_isUnused hfile hunused hsound.2
  | sourceOverBackup heq hfile hheader hsource hbackup =>
    obtain ⟨rfl, hunused⟩ := h.sourceOverBackup hx heq hfile hheader hsource hbackup
    exact not_holds_of_isUnused hunused hsound.2
  | sourceOverHeader heq hheader htemporary hbackup hother =>
    rcases h.sourceOverHeader hx heq hheader htemporary hbackup with
      ⟨rfl, hunused⟩ | ⟨rfl, hnot, l, hl, hlook⟩
    · exact not_holds_of_isUnused hunused hsound.1
    · refine hother.elim hnot fun hother => hother ⟨l, hl, ?_⟩
      exact (hsound.1 l hl).symm.trans hlook
  | headerRemoved heq hfile hrefused =>
    obtain ⟨rfl, hunused⟩ := h.headerRemoved heq hfile hrefused
    exact not_agree_of_isUnused hfile hunused hsound.1

end Outcomes

/-! ### Commits -/

section Commits

attribute [local irreducible] slot?

/-- The targets are in order after a commit from the disk `d`: both are read with the new texts if
it has been carried out, and what they lead to is as it was if it has been refused. -/
def InOrder (a : Artifacts) (header source : Path) (d : Disk) :
    Except CommitError Unit × Disk → Prop
  | (.ok (), d') =>
    d'.read header = .ok (Text.Utf8.encode a.header) ∧
      d'.read source = .ok (Text.Utf8.encode a.source)
  | (.error _, d') =>
    (d'.find header).toOption = (d.find header).toOption ∧
      (d'.find source).toOption = (d.find source).toOption

instance (a : Artifacts) (header source : Path) (d : Disk) :
    DecidablePred (InOrder a header source d)
  | (.ok (), _) => inferInstanceAs (Decidable (_ ∧ _))
  | (.error _, _) => inferInstanceAs (Decidable (_ ∧ _))

/-- The commit leaves its targets in order. -/
def Safe (d : Disk) (a : Artifacts) (header source : Path) : Prop :=
  InOrder a header source d (d.perform (run a header source))

instance (d : Disk) (a : Artifacts) (header source : Path) : Decidable (Safe d a header source) :=
  inferInstanceAs (Decidable (InOrder ..))

/-- The targets are in order exactly if their slots are. -/
theorem inOrder_iff_sound {a : Artifacts} {header source : Path} {d d' : Disk}
    {result : Except CommitError Unit} (hsame : SameDirectories d d') :
    InOrder a header source d (result, d') ↔
      (slots d header source).Sound (Text.Utf8.encode a.header) (Text.Utf8.encode a.source) d
        result.isOk d' := by
  cases result with
  | ok u =>
    rw [InOrder, read_eq_ok_iff, read_eq_ok_iff, hsame.slot?_eq, hsame.slot?_eq]
    rfl
  | error e =>
    rw [InOrder, hsame.toOption_find_iff, hsame.toOption_find_iff]
    rfl

/-- **A commit is safe exactly if its slots do not collide.** Nothing is assumed of the disk or of
the paths. -/
theorem safe_iff (d : Disk) (a : Artifacts) (header source : Path) :
    Safe d a header source ↔
      ¬ (slots d header source).Collides (Text.Utf8.encode a.source) d := by
  have houtcome := outcome_run d a header source
  have hx := derived_slots d header source
  rw [Safe, inOrder_iff_sound houtcome.sameDirectories]
  constructor
  · exact fun hsound hcollides => houtcome.not_sound_of_collides hx hcollides hsound
  · exact houtcome.sound_of_not_collides hx

/-- The new source is lost with the old header. -/
theorem not_safe_of_source_backup :
    Path.same ⟨"k.h"⟩ ⟨"k.h.bak"⟩ = false ∧
      ¬ Safe (Disk.set {} ["k.h"] (.file [0])) ⟨"H", "S"⟩ ⟨"k.h"⟩ ⟨"k.h.bak"⟩ := by
  decide

/-- **Targets that are not each other's siblings are safe.** -/
theorem safe_of_apart {d : Disk} {a : Artifacts} {header source : Path}
    (htemporary : Apart (d.slot? source) (d.slot? (temporary header)))
    (hbackup : Apart (d.slot? source) (d.slot? (backup header)))
    (hheader : Apart (d.slot? header) (d.slot? (temporary source))) : Safe d a header source := by
  have houtcome := outcome_run d a header source
  have hx := derived_slots d header source
  refine (inOrder_iff_sound houtcome.sameDirectories).2 (houtcome.sound_of_not_collides hx ?_)
  exact Slots.not_collides_of_apart htemporary hbackup hheader

end Commits

end Commit

end ScanCodes
