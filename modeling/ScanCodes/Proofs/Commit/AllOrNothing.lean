import ScanCodes.Proofs.Commit.Listing

/-!
# All or nothing

Where the five slots of a commit are different and its three siblings are not in use, a commit
either replaces its two targets and changes nothing else, or it changes nothing at all. What it has
moved about by the time it fails it moves back, and what it has made it removes.

## Main definitions

* `Commit.Slots.Separate`: the five slots are different.
* `Commit.Slots.Unused`: nothing is in those of the siblings.
* `Commit.Replaces`: the targets hold the new texts, and all else is as it was.
* `Commit.Ready`: a commit to the two targets is going to be all or nothing.

## Main results

* `Commit.Outcome.eq_of_refused`: outcomes without success leave no trace.
* `Commit.Outcome.all_or_nothing`: every outcome is all or nothing.
* `Commit.replaces_or_eq`: so is every commit.
* `Commit.Ready.ready_run`: after a commit the next one is again all or nothing.
-/

namespace ScanCodes

namespace Commit

open Disk

/-- No two of the paths of a commit share a slot. -/
def Slots.Separate (x : Slots) : Prop :=
  [x.header, x.headerTemporary, x.backup, x.source, x.sourceTemporary].Pairwise Apart

instance (x : Slots) : Decidable x.Separate :=
  inferInstanceAs (Decidable (List.Pairwise ..))

/-- The pairs of slots one by one. -/
theorem Slots.separate_iff {x : Slots} :
    x.Separate ↔
      (Apart x.header x.headerTemporary ∧ Apart x.header x.backup ∧ Apart x.header x.source ∧
        Apart x.header x.sourceTemporary) ∧
      (Apart x.headerTemporary x.backup ∧ Apart x.headerTemporary x.source ∧
        Apart x.headerTemporary x.sourceTemporary) ∧
      (Apart x.backup x.source ∧ Apart x.backup x.sourceTemporary) ∧
      Apart x.source x.sourceTemporary := by
  simp [Slots.Separate]

/-- Nothing is in the slots of the siblings. -/
structure Slots.Unused (x : Slots) (d : Disk) : Prop where
  headerTemporary : d.IsUnused x.headerTemporary
  backup : d.IsUnused x.backup
  sourceTemporary : d.IsUnused x.sourceTemporary

/-! ### Outcomes -/

section Outcomes

variable {x : Slots} {header source : List UInt8} {d d' : Disk} {ok : Bool}

/-- **A refusal leaves no trace** where the siblings are not in use, as long as no temporary file
has the slot of the header. Nothing is assumed of the slot of the source. -/
theorem Outcome.eq_of_refused (h : Outcome x header source d false d') (hder : x.Derived)
    (happart : Apart x.header x.sourceTemporary) (hunused : x.Unused d) : d' = d := by
  have hdirectory := h.sameDirectories.workingDirectory_eq
  have hnone : ∀ k, x.headerTemporary = some k ∨ x.backup = some k ∨ x.sourceTemporary = some k →
      d.look k = none ∧ x.header ≠ some k := by
    rintro k (hk | hk | hk)
    · exact ⟨hunused.headerTemporary k hk, fun h => hder.header_headerTemporary k h hk⟩
    · exact ⟨hunused.backup k hk, fun h => hder.header_backup k h hk⟩
    · exact ⟨hunused.sourceTemporary k hk, fun h => happart k h hk⟩
  cases h with
  | headerNotStaged hfree => exact drop_eq_self hunused.sourceTemporary.not_hasFile
  | sourceNotStaged hput hfree =>
    refine ext_look hdirectory (funext fun k => ?_)
    rw [hput.hasFile.isFree.look_drop, hput.look]
    grind
  | headerNotSetAside hstaged hfile hfree =>
    refine ext_look hdirectory (funext fun k => ?_)
    rw [look_discarded hstaged]
    grind
  | headerNotMade hstaged hfree =>
    refine ext_look hdirectory (funext fun k => ?_)
    rw [look_discarded hstaged]
    grind
  | sourceNotReplaced hstaged haside hheader hnot hback =>
    refine ext_look hdirectory (funext fun k => ?_)
    rw [look_restored hder hstaged haside hheader hback, hstaged.look]
    grind
  | sourceNotMade hstaged hfile hheader hnot =>
    refine ext_look hdirectory (funext fun k => ?_)
    -- no header was there before
    have hnoHeader : x.header = some k → d.look k = none := by
      intro hk
      have hfree := hheader.isFree
      rw [hk] at hfile hfree
      have hlook := look_eq_none (isFree_some.1 hfree) hfile
      rw [hstaged.look] at hlook
      grind
    rw [look_unmade hstaged hheader]
    grind

/-- Nothing is listed in the slot of a sibling, and it is not the slot of a target. -/
private theorem sibling_cases (hx : x.Separate) (hunused : x.Unused d) {k : Location}
    (hk : x.headerTemporary = some k ∨ x.backup = some k ∨ x.sourceTemporary = some k) :
    d.look k = none ∧ x.header ≠ some k ∧ x.source ≠ some k := by
  obtain ⟨⟨hht, hhb, -, hhst⟩, ⟨-, hts, -⟩, ⟨hbs, -⟩, hsst⟩ := Slots.separate_iff.1 hx
  rcases hk with hk | hk | hk
  · exact ⟨hunused.headerTemporary k hk, fun h => hht k h hk, hts k hk⟩
  · exact ⟨hunused.backup k hk, fun h => hhb k h hk, hbs k hk⟩
  · exact ⟨hunused.sourceTemporary k hk, fun h => hhst k h hk, fun h => hsst k h hk⟩

/-- **Every outcome is all or nothing.** -/
theorem Outcome.all_or_nothing (h : Outcome x header source d ok d') (hder : x.Derived)
    (hx : x.Separate) (hunused : x.Unused d) :
    if ok then
      ∃ l l', x.header = some l ∧ x.source = some l' ∧
        d' = (d.set l (.file header)).set l' (.file source)
    else d' = d := by
  cases ok with
  | false =>
    obtain ⟨⟨-, -, -, happart⟩, -⟩ := Slots.separate_iff.1 hx
    exact h.eq_of_refused hder happart hunused
  | true =>
    have hdirectory := h.sameDirectories.workingDirectory_eq
    have hcases := fun k => sibling_cases hx hunused (k := k)
    cases h with
    | replaced hstaged haside hheader hsource =>
      obtain ⟨l, hl, -⟩ := hheader.isFree
      obtain ⟨l', hl', -⟩ := hsource.isFree
      refine ⟨l, l', hl, hl', ext_look hdirectory (funext fun k => ?_)⟩
      rw [look_replaced hder hstaged haside hheader hsource, look_set, look_set,
        Function.update_apply, Function.update_apply]
      grind
    | made hstaged hfile hheader hsource =>
      obtain ⟨l, hl, -⟩ := hheader.isFree
      obtain ⟨l', hl', -⟩ := hsource.isFree
      refine ⟨l, l', hl, hl', ext_look hdirectory (funext fun k => ?_)⟩
      rw [look_made hder hstaged hfile hheader hsource, look_set, look_set, Function.update_apply,
        Function.update_apply]
      grind

end Outcomes

/-! ### Commits -/

/-- Where nothing is present at the siblings, nothing is in their slots. -/
theorem unused_slots {d : Disk} {header source : Path}
    (h : ∀ p ∈ [temporary header, backup header, temporary source], d.isPresent p = false) :
    (slots d header source).Unused d :=
  ⟨isUnused_of_not_isPresent (h _ (by simp)), isUnused_of_not_isPresent (h _ (by simp)),
    isUnused_of_not_isPresent (h _ (by simp))⟩

/-- The targets hold the new texts, and all else is as it was. -/
structure Replaces (a : Artifacts) (header source : Path) (d d' : Disk) : Prop where
  read_header : d'.read header = .ok (Text.Utf8.encode a.header)
  read_source : d'.read source = .ok (Text.Utf8.encode a.source)
  exists_slots : ∃ l l', d.slot? header = some l ∧ d.slot? source = some l' ∧
    d' = (d.set l (.file (Text.Utf8.encode a.header))).set l' (.file (Text.Utf8.encode a.source))

/-- The slots of a commit to the two targets are different, and nothing is at its siblings. -/
structure Ready (header source : Path) (d : Disk) : Prop where
  separate : (slots d header source).Separate
  unused : ∀ p ∈ [temporary header, backup header, temporary source], d.isPresent p = false

section Ready

-- What is said of the slots of a commit does not depend on how they are found.
attribute [local irreducible] slot?

variable {header source : Path} {d d' : Disk} {a : Artifacts}

/-- A commit that is carried out replaces the targets. -/
theorem Ready.replaces_of_ok (h : Ready header source d)
    (hrun : d.perform (run a header source) = (.ok (), d')) : Replaces a header source d d' := by
  have houtcome := outcome_run d a header source
  rw [hrun] at houtcome
  have hsame := houtcome.sameDirectories
  obtain ⟨l, l', hl, hl', rfl⟩ :=
    houtcome.all_or_nothing (derived_slots d header source) h.separate (unused_slots h.unused)
  have hne : l ≠ l' := by
    rintro rfl
    exact (List.pairwise_cons.1 h.separate).1 _ (by simp) l hl hl'
  refine ⟨read_eq_ok_iff.2 ⟨l, (hsame.slot?_eq header).trans hl, ?_⟩,
    read_eq_ok_iff.2 ⟨l', (hsame.slot?_eq source).trans hl', ?_⟩, l, l', hl, hl', rfl⟩
  · rw [look_set, Function.update_of_ne hne, look_set, Function.update_self]
  · rw [look_set, Function.update_self]

/-- A commit that is refused changes nothing. -/
theorem Ready.eq_of_error (h : Ready header source d) {e : CommitError}
    (hrun : d.perform (run a header source) = (.error e, d')) : d' = d := by
  have houtcome := outcome_run d a header source
  rw [hrun] at houtcome
  exact houtcome.all_or_nothing (derived_slots d header source) h.separate (unused_slots h.unused)

/-- Whatever a commit does, it does nothing to the siblings in the end. -/
theorem Ready.agree_sibling (h : Ready header source d) (a : Artifacts) {p : Path}
    (hp : p ∈ [temporary header, backup header, temporary source]) :
    d.Agree (d.perform (run a header source)).2 (d.slot? p) := by
  intro l hl
  have hall := (outcome_run d a header source).all_or_nothing (derived_slots d header source)
    h.separate (unused_slots h.unused)
  have hsibling : (slots d header source).headerTemporary = some l ∨
      (slots d header source).backup = some l ∨
      (slots d header source).sourceTemporary = some l := by
    simp only [List.mem_cons, List.not_mem_nil, or_false] at hp
    rcases hp with rfl | rfl | rfl
    · exact Or.inl hl
    · exact Or.inr (Or.inl hl)
    · exact Or.inr (Or.inr hl)
  obtain ⟨-, hheader, hsource⟩ := sibling_cases h.separate (unused_slots h.unused) hsibling
  split at hall
  · obtain ⟨k, k', hk, hk', hd'⟩ := hall
    have hne : l ≠ k := fun heq => hheader (heq ▸ hk)
    have hne' : l ≠ k' := fun heq => hsource (heq ▸ hk')
    rw [hd', look_set, Function.update_of_ne hne', look_set, Function.update_of_ne hne]
  · rw [hall]

/-- **After a commit the next one is again all or nothing**, to the same targets. -/
theorem Ready.ready_run (h : Ready header source d) (a : Artifacts) :
    Ready header source (d.perform (run a header source)).2 := by
  have hsame := (outcome_run d a header source).sameDirectories
  refine ⟨?_, fun p hp => ?_⟩
  · simp only [slots, hsame.slot?_eq]
    exact h.separate
  · rw [isPresent_eq_of_toOption_find (hsame.toOption_find_iff.2 (h.agree_sibling a hp))]
    exact h.unused p hp

end Ready

/-- **A commit is all or nothing.** Whatever is or is not at the targets: a commit that is carried
out replaces both and changes nothing else, and one that is refused changes nothing at all. -/
theorem replaces_or_eq {d : Disk} {a : Artifacts} {header source : Path}
    (hx : (slots d header source).Separate)
    (hunused : ∀ p ∈ [temporary header, backup header, temporary source], d.isPresent p = false) :
    match d.perform (run a header source) with
    | (.ok (), d') => Replaces a header source d d'
    | (.error _, d') => d' = d := by
  have hready : Ready header source d := ⟨hx, hunused⟩
  split
  · next d' hperform => exact hready.replaces_of_ok hperform
  · next e d' hperform => exact hready.eq_of_error hperform

/-- A disk with an old header. -/
def oldHeader : Disk :=
  Disk.set {} ["k.h"] (.file [0])

/-- The same disk with a directory in the place of the source. -/
def oldHeaderBlocked : Disk :=
  oldHeader.set ["k.c"] .directory

/-- An old header that is replaced, and one that has to come back. -/
theorem replaces_or_eq_oldHeader :
    ((slots oldHeader ⟨"k.h"⟩ ⟨"k.c"⟩).Separate ∧
      (∀ p ∈ [temporary ⟨"k.h"⟩, backup ⟨"k.h"⟩, temporary ⟨"k.c"⟩],
        oldHeader.isPresent p = false) ∧
      ∃ d', oldHeader.perform (run ⟨"H", "S"⟩ ⟨"k.h"⟩ ⟨"k.c"⟩) = (.ok (), d') ∧
        Replaces ⟨"H", "S"⟩ ⟨"k.h"⟩ ⟨"k.c"⟩ oldHeader d') ∧
    (slots oldHeaderBlocked ⟨"k.h"⟩ ⟨"k.c"⟩).Separate ∧
      (∀ p ∈ [temporary ⟨"k.h"⟩, backup ⟨"k.h"⟩, temporary ⟨"k.c"⟩],
        oldHeaderBlocked.isPresent p = false) ∧
      ∃ e, oldHeaderBlocked.perform (run ⟨"H", "S"⟩ ⟨"k.h"⟩ ⟨"k.c"⟩) =
        (.error e, oldHeaderBlocked) := by
  have hx : (slots oldHeader ⟨"k.h"⟩ ⟨"k.c"⟩).Separate := by decide
  have hunused : ∀ p ∈ [temporary ⟨"k.h"⟩, backup ⟨"k.h"⟩, temporary ⟨"k.c"⟩],
      oldHeader.isPresent p = false := by decide
  have hxBlocked : (slots oldHeaderBlocked ⟨"k.h"⟩ ⟨"k.c"⟩).Separate := by decide
  have hunusedBlocked : ∀ p ∈ [temporary ⟨"k.h"⟩, backup ⟨"k.h"⟩, temporary ⟨"k.c"⟩],
      oldHeaderBlocked.isPresent p = false := by decide
  have hcarriedOut : ∃ d', oldHeader.perform (run ⟨"H", "S"⟩ ⟨"k.h"⟩ ⟨"k.c"⟩) = (.ok (), d') ∧
      Replaces ⟨"H", "S"⟩ ⟨"k.h"⟩ ⟨"k.c"⟩ oldHeader d' := by
    have h := @replaces_or_eq oldHeader ⟨"H", "S"⟩ ⟨"k.h"⟩ ⟨"k.c"⟩ hx hunused
    have hok : (oldHeader.perform (run ⟨"H", "S"⟩ ⟨"k.h"⟩ ⟨"k.c"⟩)).1 = .ok () := by
      decide +kernel
    split at h
    · next d' hperform => exact ⟨d', hperform, h⟩
    · next e d' hperform =>
      rw [hperform] at hok
      cases hok
  have hrefused : ∃ e, oldHeaderBlocked.perform (run ⟨"H", "S"⟩ ⟨"k.h"⟩ ⟨"k.c"⟩) =
      (.error e, oldHeaderBlocked) := by
    have h := @replaces_or_eq oldHeaderBlocked ⟨"H", "S"⟩ ⟨"k.h"⟩ ⟨"k.c"⟩ hxBlocked hunusedBlocked
    have herror : (oldHeaderBlocked.perform (run ⟨"H", "S"⟩ ⟨"k.h"⟩ ⟨"k.c"⟩)).1 ≠ .ok () := by
      decide +kernel
    split at h
    · next d' hperform =>
      rw [hperform] at herror
      exact absurd rfl herror
    · next e d' hperform =>
      obtain rfl : d' = oldHeaderBlocked := h
      exact ⟨e, hperform⟩
  exact ⟨⟨hx, hunused, hcarriedOut⟩, hxBlocked, hunusedBlocked, hrefused⟩

end Commit

end ScanCodes
