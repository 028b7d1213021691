import ScanCodes.Commit
import ScanCodes.Proofs.Disk.Perform
import ScanCodes.Proofs.Disk.Sibling

/-!
# The outcomes of a commit

A commit works in five slots, and no step of it makes a directory or removes one. So which steps are
refused can be told from the disk as it was, but for the files that the commit has itself moved
about. There are eight ways in which it can end. What is to be said of every commit is said of each
of them.

## Main definitions

* `Commit.Slots`, `Commit.slots`: the slots of the targets and of their siblings.
* `Commit.Slots.Derived`: which of them are told apart by their last names.
* `Commit.Outcome`: how a commit can end, with the disk it leaves behind.

## Main results

* `Commit.derived_slots`: the slots of a commit are told apart.
* `Commit.outcome_run`: every commit ends in one of these ways.
-/

namespace ScanCodes

namespace Commit

open Disk

/-- The slots in which a commit works. -/
structure Slots where
  header : Option Location
  headerTemporary : Option Location
  backup : Option Location
  source : Option Location
  sourceTemporary : Option Location

/-- The slots of a commit to two targets. -/
def slots (d : Disk) (header source : Path) : Slots :=
  ⟨d.slot? header, d.slot? (temporary header), d.slot? (backup header), d.slot? source,
    d.slot? (temporary source)⟩

-- What is said of the slots of a commit does not depend on how they are found.
attribute [local irreducible] slot?

/-! ### Last names -/

/-- What the last names say of the slots: a target is never its own sibling, and a backup is never a
temporary file. A source that is in the place of a sibling of the header has no temporary file there
itself. Targets with one slot share the slots of their siblings. -/
structure Slots.Derived (x : Slots) : Prop where
  header_headerTemporary : Apart x.header x.headerTemporary
  header_backup : Apart x.header x.backup
  headerTemporary_backup : Apart x.headerTemporary x.backup
  source_sourceTemporary : Apart x.source x.sourceTemporary
  sourceTemporary_backup : Apart x.sourceTemporary x.backup
  crossed : Apart x.source x.headerTemporary ∧ Apart x.source x.backup ∨
    Apart x.sourceTemporary x.header ∧ Apart x.sourceTemporary x.headerTemporary
  aliased : ∀ l, x.header = some l → x.source = some l →
    ∀ k, x.headerTemporary = some k → ∀ k', x.sourceTemporary = some k' → k = k'

/-- Slots with different last names are different. -/
private theorem apart_of_ne {slot slot' : Option Location} {name name' : Name}
    (h : ∀ l, slot = some l → l.getLast? = some name)
    (h' : ∀ l, slot' = some l → l.getLast? = some name') (hne : name ≠ name') :
    Apart slot slot' := by
  intro l hl hl'
  exact hne (Option.some.inj ((h l hl).symm.trans (h' l hl')))

/-- A name is not one that is longer by a word. -/
theorem ne_longer (name word : Name) : name ≠ Path.longer name word := by
  intro h
  have hlength := congrArg List.length h
  rw [Path.longer, List.length_append, List.length_cons] at hlength
  omega

/-- A name is not one that is longer by two words. -/
private theorem ne_longer_longer (name word word' : Name) :
    name ≠ Path.longer (Path.longer name word) word' := by
  intro h
  have hlength := congrArg List.length h
  simp only [Path.longer, List.length_append, List.length_cons] at hlength
  omega

private theorem tmp_ne_bak (name name' : Name) :
    Path.longer name "tmp" ≠ Path.longer name' "bak" := by
  intro h
  exact absurd (List.append_inj' h (by decide)).2 (by decide)

/-- **The slots of a commit are told apart by their last names.** -/
theorem derived_slots (d : Disk) (header source : Path) : (slots d header source).Derived := by
  have htmp : Path.separator ∉ Text.Utf8.encode "tmp" := by decide
  have hbak : Path.separator ∉ Text.Utf8.encode "bak" := by decide
  have h : ∀ l, d.slot? header = some l → l.getLast? = _ := fun l => getLast?_of_slot?
  have ht : ∀ l, d.slot? (temporary header) = some l → l.getLast? = _ :=
    fun l => getLast?_of_slot?_sibling htmp (by decide)
  have hb : ∀ l, d.slot? (backup header) = some l → l.getLast? = _ :=
    fun l => getLast?_of_slot?_sibling hbak (by decide)
  have s : ∀ l, d.slot? source = some l → l.getLast? = _ := fun l => getLast?_of_slot?
  have st : ∀ l, d.slot? (temporary source) = some l → l.getLast? = _ :=
    fun l => getLast?_of_slot?_sibling htmp (by decide)
  refine ⟨apart_of_ne h ht (ne_longer _ _), apart_of_ne h hb (ne_longer _ _),
    apart_of_ne ht hb (tmp_ne_bak _ _), apart_of_ne s st (ne_longer _ _),
    apart_of_ne st hb (tmp_ne_bak _ _), ?_, fun l hl hl' k hk k' hk' => ?_⟩
  · by_cases hm : source.fileName?.getD [] = Path.longer (header.fileName?.getD []) "tmp" ∨
        source.fileName?.getD [] = Path.longer (header.fileName?.getD []) "bak"
    · obtain ⟨word, hm⟩ : ∃ word,
          source.fileName?.getD [] = Path.longer (header.fileName?.getD []) word := by
        rcases hm with hm | hm
        · exact ⟨_, hm⟩
        · exact ⟨_, hm⟩
      rw [hm] at st
      refine Or.inr ⟨apart_of_ne st h (ne_longer_longer _ _ _).symm,
        apart_of_ne st ht fun heq => ?_⟩
      exact ne_longer _ _ (List.append_inj' heq rfl).1.symm
    · rw [not_or] at hm
      exact Or.inl ⟨apart_of_ne s ht hm.1, apart_of_ne s hb hm.2⟩
  · obtain ⟨parent, rfl⟩ := List.getLast?_eq_some_iff.1 (h l hl)
    exact (slot?_sibling_of_slot? htmp (by decide) hl hk).trans
      (slot?_sibling_of_slot? htmp (by decide) hl' hk').symm

/-! ### Outcomes -/

/-- Both texts are written beside their targets. -/
def Staged (x : Slots) (header source : List UInt8) (d d' : Disk) : Prop :=
  ∃ d₁, d.Puts x.headerTemporary header d₁ ∧ d₁.Puts x.sourceTemporary source d'

/-- How a commit of two texts can end: is it carried out, and what is the disk then? -/
inductive Outcome (x : Slots) (header source : List UInt8) (d : Disk) : Bool → Disk → Prop
  | headerNotStaged (hfree : ¬ d.IsFree x.headerTemporary) :
      Outcome x header source d false (d.drop x.sourceTemporary)
  | sourceNotStaged {d₁ : Disk} (hput : d.Puts x.headerTemporary header d₁)
      (hfree : ¬ d.IsFree x.sourceTemporary) :
      Outcome x header source d false (d₁.drop x.headerTemporary)
  | headerNotSetAside {d₂ : Disk} (hstaged : Staged x header source d d₂)
      (hfile : d₂.HasFile x.header) (hfree : ¬ d.IsFree x.backup) :
      Outcome x header source d false ((d₂.drop x.headerTemporary).drop x.sourceTemporary)
  | headerNotMade {d₂ : Disk} (hstaged : Staged x header source d d₂)
      (hfree : ¬ d.IsFree x.header) :
      Outcome x header source d false ((d₂.drop x.headerTemporary).drop x.sourceTemporary)
  | sourceNotReplaced {d₂ d₃ d₄ d₅ : Disk} (hstaged : Staged x header source d d₂)
      (haside : d₂.Moves x.header x.backup d₃) (hheader : d₃.Moves x.headerTemporary x.header d₄)
      (hnot : ¬ (d₄.HasFile x.sourceTemporary ∧ d.IsFree x.source))
      (hback : (d₄.drop x.sourceTemporary).Moves x.backup x.header d₅) :
      Outcome x header source d false d₅
  | sourceNotMade {d₂ d₄ : Disk} (hstaged : Staged x header source d d₂)
      (hfile : ¬ d₂.HasFile x.header) (hheader : d₂.Moves x.headerTemporary x.header d₄)
      (hnot : ¬ (d₄.HasFile x.sourceTemporary ∧ d.IsFree x.source)) :
      Outcome x header source d false ((d₄.drop x.sourceTemporary).drop x.header)
  | replaced {d₂ d₃ d₄ d₅ : Disk} (hstaged : Staged x header source d d₂)
      (haside : d₂.Moves x.header x.backup d₃) (hheader : d₃.Moves x.headerTemporary x.header d₄)
      (hsource : d₄.Moves x.sourceTemporary x.source d₅) :
      Outcome x header source d true (d₅.drop x.backup)
  | made {d₂ d₄ d₅ : Disk} (hstaged : Staged x header source d d₂)
      (hfile : ¬ d₂.HasFile x.header) (hheader : d₂.Moves x.headerTemporary x.header d₄)
      (hsource : d₄.Moves x.sourceTemporary x.source d₅) :
      Outcome x header source d true d₅

theorem Staged.sameDirectories {x : Slots} {header source : List UInt8} {d d' : Disk}
    (h : Staged x header source d d') : SameDirectories d d' := by
  obtain ⟨d₁, hheader, hsource⟩ := h
  exact hheader.sameDirectories.trans hsource.sameDirectories

theorem Staged.hasFile_headerTemporary {x : Slots} {header source : List UInt8} {d d' : Disk}
    (h : Staged x header source d d') : d'.HasFile x.headerTemporary := by
  obtain ⟨d₁, hheader, hsource⟩ := h
  exact hsource.hasFile_of_hasFile hheader.hasFile

theorem Staged.hasFile_sourceTemporary {x : Slots} {header source : List UInt8} {d d' : Disk}
    (h : Staged x header source d d') : d'.HasFile x.sourceTemporary := by
  obtain ⟨d₁, hheader, hsource⟩ := h
  exact hsource.hasFile

/-- **A commit leaves the directories as they are.** -/
theorem Outcome.sameDirectories {x : Slots} {header source : List UInt8} {d d' : Disk} {ok : Bool}
    (h : Outcome x header source d ok d') : SameDirectories d d' := by
  cases h with
  | headerNotStaged hfree => exact sameDirectories_drop d _
  | sourceNotStaged hput hfree => exact hput.sameDirectories.trans (sameDirectories_drop _ _)
  | headerNotSetAside hstaged hfile hfree =>
    exact hstaged.sameDirectories.trans
      ((sameDirectories_drop _ _).trans (sameDirectories_drop _ _))
  | headerNotMade hstaged hfree =>
    exact hstaged.sameDirectories.trans
      ((sameDirectories_drop _ _).trans (sameDirectories_drop _ _))
  | sourceNotReplaced hstaged haside hheader hnot hback =>
    exact hstaged.sameDirectories.trans (haside.sameDirectories.trans
      (hheader.sameDirectories.trans ((sameDirectories_drop _ _).trans hback.sameDirectories)))
  | sourceNotMade hstaged hfile hheader hnot =>
    exact hstaged.sameDirectories.trans (hheader.sameDirectories.trans
      ((sameDirectories_drop _ _).trans (sameDirectories_drop _ _)))
  | replaced hstaged haside hheader hsource =>
    exact hstaged.sameDirectories.trans (haside.sameDirectories.trans
      (hheader.sameDirectories.trans (hsource.sameDirectories.trans (sameDirectories_drop _ _))))
  | made hstaged hfile hheader hsource =>
    exact hstaged.sameDirectories.trans
      (hheader.sameDirectories.trans hsource.sameDirectories)

/-! ### The parts of a commit

Each part is carried out on a disk `d` that the commit has come to from the disk `d₀`, and is told
by the slots that the paths had there. -/

section Parts

variable {d₀ d d' d'' : Disk} {header source : Path}

private theorem perform_discard (h : SameDirectories d₀ d) :
    (d.perform (discard header source)).2
      = (d.drop (d₀.slot? (temporary header))).drop (d₀.slot? (temporary source)) := by
  rw [discard, perform_bind, perform_bind, perform_pure, perform_remove, perform_remove,
    h.slot?_eq, (h.trans (sameDirectories_drop d _)).slot?_eq]

private theorem perform_setAside_of_moves (h : SameDirectories d₀ d)
    (haside : d.Moves (d₀.slot? header) (d₀.slot? (backup header)) d') :
    d.perform (setAside true header) = (.ok (), d') := by
  rw [← h.slot?_eq, ← h.slot?_eq] at haside
  rw [setAside, if_pos rfl, perform_bind, perform_rename_of_moves haside]
  rfl

private theorem perform_setAside_of_not (h : SameDirectories d₀ d)
    (hfree : ¬ d₀.IsFree (d₀.slot? (backup header))) :
    ∃ e, d.perform (setAside true header) = (.error e, d) := by
  rw [← h.isFree_iff, ← h.slot?_eq] at hfree
  obtain ⟨why, hrefused⟩ := perform_rename_of_not (p := header) fun hboth => hfree hboth.2
  refine ⟨.settingAside header why, ?_⟩
  rw [setAside, if_pos rfl, perform_bind, hrefused]
  rfl

private theorem perform_replace_of_moves (h : SameDirectories d₀ d)
    (hheader : d.Moves (d₀.slot? (temporary header)) (d₀.slot? header) d')
    (hsource : d'.Moves (d₀.slot? (temporary source)) (d₀.slot? source) d'') :
    d.perform (replace header source) = (.ok (), d'') := by
  have h' := h.trans hheader.sameDirectories
  rw [← h.slot?_eq, ← h.slot?_eq] at hheader
  rw [← h'.slot?_eq, ← h'.slot?_eq] at hsource
  rw [replace, perform_bind, perform_rename_of_moves hheader, perform_bind,
    perform_rename_of_moves hsource]
  rfl

private theorem perform_replace_of_not_source (h : SameDirectories d₀ d)
    (hheader : d.Moves (d₀.slot? (temporary header)) (d₀.slot? header) d')
    (hnot : ¬ (d'.HasFile (d₀.slot? (temporary source)) ∧ d₀.IsFree (d₀.slot? source))) :
    ∃ e, d.perform (replace header source) = (.error e, d') := by
  have h' := h.trans hheader.sameDirectories
  rw [← h.slot?_eq, ← h.slot?_eq] at hheader
  rw [← h'.isFree_iff, ← h'.slot?_eq, ← h'.slot?_eq] at hnot
  obtain ⟨why, hrefused⟩ := perform_rename_of_not hnot
  refine ⟨.replacing source why, ?_⟩
  rw [replace, perform_bind, perform_rename_of_moves hheader, perform_bind, hrefused]
  rfl

private theorem perform_replace_of_not_header (h : SameDirectories d₀ d)
    (hfree : ¬ d₀.IsFree (d₀.slot? header)) :
    ∃ e, d.perform (replace header source) = (.error e, d) := by
  rw [← h.isFree_iff, ← h.slot?_eq] at hfree
  obtain ⟨why, hrefused⟩ :=
    perform_rename_of_not (p := temporary header) fun hboth => hfree hboth.2
  refine ⟨.replacing header why, ?_⟩
  rw [replace, perform_bind, hrefused]
  rfl

private theorem perform_restore_of_moves (h : SameDirectories d₀ d)
    (hback : d.Moves (d₀.slot? (backup header)) (d₀.slot? header) d') :
    (d.perform (restore true header)).2 = d' := by
  rw [← h.slot?_eq, ← h.slot?_eq] at hback
  rw [restore, if_pos rfl, perform_bind, perform_pure, perform_rename_of_moves hback]

private theorem perform_restore_false (h : SameDirectories d₀ d) :
    (d.perform (restore false header)).2 = d.drop (d₀.slot? header) := by
  rw [restore, if_neg Bool.false_ne_true, perform_bind, perform_pure, perform_remove, h.slot?_eq]

private theorem perform_dropBackup (h : SameDirectories d₀ d) :
    (d.perform (dropBackup true header)).2 = d.drop (d₀.slot? (backup header)) := by
  rw [dropBackup, if_pos rfl, perform_bind, perform_pure, perform_remove, h.slot?_eq]

end Parts

/-- Both texts are written, or one of them cannot be. -/
private theorem perform_stage (d : Disk) (a : Artifacts) (header source : Path) :
    (∃ e, ¬ d.IsFree (d.slot? (temporary header)) ∧
      d.perform (stage a header source) = (.error e, d)) ∨
    (∃ e d₁, d.Puts (d.slot? (temporary header)) (Text.Utf8.encode a.header) d₁ ∧
      ¬ d.IsFree (d.slot? (temporary source)) ∧
      d.perform (stage a header source) = (.error e, d₁)) ∨
    ∃ d₂, Staged (slots d header source) (Text.Utf8.encode a.header) (Text.Utf8.encode a.source)
        d d₂ ∧
      d.perform (stage a header source) = (.ok (), d₂) := by
  by_cases hheader : d.IsFree (d.slot? (temporary header))
  · obtain ⟨d₁, hput⟩ := hheader.exists_puts (Text.Utf8.encode a.header)
    have hsame := hput.sameDirectories
    have hwrite := perform_write_of_puts hput
    by_cases hsource : d.IsFree (d.slot? (temporary source))
    · obtain ⟨d₂, hput'⟩ := (hsame.isFree_iff.2 hsource).exists_puts (Text.Utf8.encode a.source)
      refine Or.inr (Or.inr ⟨d₂, ⟨d₁, hput, hput'⟩, ?_⟩)
      rw [← hsame.slot?_eq] at hput'
      rw [stage, perform_bind, hwrite, perform_bind, perform_write_of_puts hput']
      rfl
    · have hnot := hsource
      rw [← hsame.isFree_iff, ← hsame.slot?_eq] at hnot
      obtain ⟨why, hrefused⟩ := perform_write_of_not_isFree (Text.Utf8.encode a.source) hnot
      refine Or.inr (Or.inl ⟨.staging (temporary source) why, d₁, hput, hsource, ?_⟩)
      rw [stage, perform_bind, hwrite, perform_bind, hrefused]
      rfl
  · obtain ⟨why, hrefused⟩ := perform_write_of_not_isFree (Text.Utf8.encode a.header) hheader
    refine Or.inl ⟨.staging (temporary header) why, hheader, ?_⟩
    rw [stage, perform_bind, hrefused]
    rfl

/-! ### The whole of it -/

/-- What is done once both texts are written. -/
def finish (hadHeader : Bool) (header source : Path) : StateM Disk (Except CommitError Unit) := do
  match ← setAside hadHeader header with
  | .error e =>
    discard header source
    return .error e
  | .ok () =>
    match ← replace header source with
    | .error e =>
      discard header source
      restore hadHeader header
      return .error e
    | .ok () =>
      dropBackup hadHeader header
      return .ok ()

theorem run_eq (a : Artifacts) (header source : Path) :
    run a header source = (do
      match ← stage a header source with
      | .error e =>
        discard header source
        return .error e
      | .ok () => finish (← Files.isFile header) header source) := rfl

section Finish

variable {d d₂ : Disk} {header source : Path} {newHeader newSource : List UInt8}

/-- The outcomes where there has been a header. -/
private theorem outcome_finish_true
    (hstaged : Staged (slots d header source) newHeader newSource d d₂)
    (hfile : d₂.HasFile (d.slot? header)) :
    Outcome (slots d header source) newHeader newSource d
      (d₂.perform (finish true header source)).1.isOk
      (d₂.perform (finish true header source)).2 := by
  have hx := derived_slots d header source
  have hsame := hstaged.sameDirectories
  by_cases hbackup : d.IsFree (d.slot? (backup header))
  · obtain ⟨d₃, haside⟩ := exists_moves_iff.2 ⟨hfile, hsame.isFree_iff.2 hbackup⟩
    have hsame₃ := hsame.trans haside.sameDirectories
    have htemporary : d₃.HasFile (d.slot? (temporary header)) :=
      haside.hasFile_of_apart hstaged.hasFile_headerTemporary hx.header_headerTemporary.symm
    have hfree : d₃.IsFree (d.slot? header) :=
      haside.sameDirectories.isFree_iff.2 hfile.isFree
    obtain ⟨d₄, hheader⟩ := exists_moves_iff.2 ⟨htemporary, hfree⟩
    have hsame₄ := hsame₃.trans hheader.sameDirectories
    have hset := perform_setAside_of_moves hsame haside
    by_cases hsource : d₄.HasFile (d.slot? (temporary source)) ∧ d.IsFree (d.slot? source)
    · obtain ⟨d₅, hmoves⟩ := exists_moves_iff.2 ⟨hsource.1, hsame₄.isFree_iff.2 hsource.2⟩
      have hreplace := perform_replace_of_moves hsame₃ hheader hmoves
      simp only [finish, hset, hreplace, perform_bind, perform_pure,
        perform_dropBackup (hsame₄.trans hmoves.sameDirectories)]
      exact .replaced hstaged haside hheader hmoves
    · obtain ⟨e, hreplace⟩ := perform_replace_of_not_source hsame₃ hheader hsource
      have hmoved : ¬ d₄.HasFile (d.slot? (temporary header)) :=
        hheader.not_hasFile hx.header_headerTemporary.symm
      have hsame₅ := hsame₄.trans (sameDirectories_drop d₄ (d.slot? (temporary source)))
      have hkept : (d₄.drop (d.slot? (temporary source))).HasFile (d.slot? (backup header)) :=
        (hheader.hasFile_of_apart haside.hasFile hx.headerTemporary_backup.symm).drop
          hx.sourceTemporary_backup.symm
      obtain ⟨d₅, hback⟩ := exists_moves_iff.2 ⟨hkept, hsame₅.isFree_iff.2
        (hsame.isFree_iff.1 hfile.isFree)⟩
      simp only [finish, hset, hreplace, perform_bind, perform_pure, perform_discard hsame₄,
        drop_eq_self hmoved, perform_restore_of_moves hsame₅ hback]
      exact .sourceNotReplaced hstaged haside hheader hsource hback
  · obtain ⟨e, hrefused⟩ := perform_setAside_of_not hsame hbackup
    simp only [finish, hrefused, perform_bind, perform_pure, perform_discard hsame]
    exact .headerNotSetAside hstaged hfile hbackup

/-- The outcomes where there has been none. -/
private theorem outcome_finish_false
    (hstaged : Staged (slots d header source) newHeader newSource d d₂)
    (hfile : ¬ d₂.HasFile (d.slot? header)) :
    Outcome (slots d header source) newHeader newSource d
      (d₂.perform (finish false header source)).1.isOk
      (d₂.perform (finish false header source)).2 := by
  have hsame := hstaged.sameDirectories
  have hset : d₂.perform (setAside false header) = (.ok (), d₂) := rfl
  by_cases hfree : d.IsFree (d.slot? header)
  · obtain ⟨d₄, hheader⟩ :=
      exists_moves_iff.2 ⟨hstaged.hasFile_headerTemporary, hsame.isFree_iff.2 hfree⟩
    have hsame₄ := hsame.trans hheader.sameDirectories
    by_cases hsource : d₄.HasFile (d.slot? (temporary source)) ∧ d.IsFree (d.slot? source)
    · obtain ⟨d₅, hmoves⟩ := exists_moves_iff.2 ⟨hsource.1, hsame₄.isFree_iff.2 hsource.2⟩
      have hreplace := perform_replace_of_moves hsame hheader hmoves
      have hkept : (d₅.perform (dropBackup false header)).2 = d₅ := rfl
      simp only [finish, hset, hreplace, hkept, perform_bind, perform_pure]
      exact .made hstaged hfile hheader hmoves
    · obtain ⟨e, hreplace⟩ := perform_replace_of_not_source hsame hheader hsource
      have hmoved : ¬ d₄.HasFile (d.slot? (temporary header)) :=
        hheader.not_hasFile (derived_slots d header source).header_headerTemporary.symm
      have hsame₅ := hsame₄.trans (sameDirectories_drop d₄ (d.slot? (temporary source)))
      simp only [finish, hset, hreplace, perform_bind, perform_pure, perform_discard hsame₄,
        drop_eq_self hmoved, perform_restore_false hsame₅]
      exact .sourceNotMade hstaged hfile hheader hsource
  · obtain ⟨e, hrefused⟩ : ∃ e, d₂.perform (replace header source) = (.error e, d₂) :=
      perform_replace_of_not_header hsame hfree
    have hsame₅ := hsame.trans ((sameDirectories_drop d₂ (d.slot? (temporary header))).trans
      (sameDirectories_drop _ (d.slot? (temporary source))))
    have hnone : ¬ ((d₂.drop (d.slot? (temporary header))).drop
        (d.slot? (temporary source))).HasFile (d.slot? header) :=
      fun hkept => hfree (hsame₅.isFree_iff.1 hkept.isFree)
    simp only [finish, hset, hrefused, perform_bind, perform_pure, perform_discard hsame,
      perform_restore_false hsame₅, drop_eq_self hnone]
    exact .headerNotMade hstaged hfree

end Finish

/-- **Every commit ends in one of these ways.** -/
theorem outcome_run (d : Disk) (a : Artifacts) (header source : Path) :
    Outcome (slots d header source) (Text.Utf8.encode a.header) (Text.Utf8.encode a.source) d
      (d.perform (run a header source)).1.isOk (d.perform (run a header source)).2 := by
  rw [run_eq, perform_bind]
  rcases perform_stage d a header source with
    ⟨e, hfree, hstage⟩ | ⟨e, d₁, hput, hfree, hstage⟩ | ⟨d₂, hstaged, hstage⟩
  · have hdrop : d.drop (d.slot? (temporary header)) = d :=
      drop_eq_self fun hfile => hfree hfile.isFree
    simp only [hstage, perform_bind, perform_pure, perform_discard (SameDirectories.refl d), hdrop]
    exact .headerNotStaged hfree
  · have hsame := hput.sameDirectories
    have hdrop : (d₁.drop (d.slot? (temporary header))).drop (d.slot? (temporary source))
        = d₁.drop (d.slot? (temporary header)) := by
      refine drop_eq_self fun hfile => hfree ?_
      exact (hsame.trans (sameDirectories_drop _ _)).isFree_iff.1 hfile.isFree
    simp only [hstage, perform_bind, perform_pure, perform_discard hsame, hdrop]
    exact .sourceNotStaged hput hfree
  · have hhad : d₂.isFile header = true ↔ d₂.HasFile (d.slot? header) := by
      rw [isFile_iff, hstaged.sameDirectories.slot?_eq]
    by_cases hfile : d₂.HasFile (d.slot? header)
    · simp only [hstage, perform_bind, perform_isFile, hhad.2 hfile]
      exact outcome_finish_true hstaged hfile
    · simp only [hstage, perform_bind, perform_isFile, Bool.eq_false_iff.2 (mt hhad.1 hfile)]
      exact outcome_finish_false hstaged hfile

end Commit

end ScanCodes
