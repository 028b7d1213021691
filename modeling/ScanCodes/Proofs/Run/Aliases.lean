import ScanCodes.Proofs.Run.Session

/-!
# Two paths to one file

That the outputs are two files is asked of their paths as they are written. With dots on the way,
different paths can still lead to one file, and nobody notices before the commit. There the two
temporary files are one as well: the source is prepared over the header, what has been prepared is
moved into place as the header, and nothing is left that could be moved into the place of the
source. So the commit is refused, and whatever it has done by then is undone.

## Main definitions

* `Disk.Alias`: two paths lead to one place, whatever is there.

## Main results

* `Commit.Outcome.ok_eq_false`: with one temporary file, no outcome is a success.
* `Commit.run_of_alias`: a commit to one place is refused and leaves no trace.
* `Run.refused_of_alias`: so no run to one place is carried out.
-/

namespace ScanCodes

open Disk

/-! ### Paths -/

/-- The paths lead to one place: both end in the same name, in one directory. Whether anything has
this name makes no difference, nor what it is. -/
structure Disk.Alias (d : Disk) (p q : Path) : Prop where
  ends_in_name : p.fileName? ≠ none
  fileName?_eq : q.fileName? = p.fileName?
  directory?_eq : d.directory? q = d.directory? p

/-- Paths that end in names and lead to the same thing are aliases. -/
theorem Disk.Alias.of_find {d : Disk} {p q : Path} {l : Location} {e e' : Entry}
    (hp : p.fileName? ≠ none) (hq : q.fileName? ≠ none) (hfind : d.find p = .ok (l, e))
    (hfind' : d.find q = .ok (l, e')) : d.Alias p q := by
  obtain ⟨name, hname⟩ := Option.ne_none_iff_exists'.1 hp
  obtain ⟨name', hname'⟩ := Option.ne_none_iff_exists'.1 hq
  obtain ⟨parent, hparent, rfl⟩ := directory?_of_find hname hfind
  obtain ⟨parent', hparent', hl⟩ := directory?_of_find hname' hfind'
  obtain ⟨rfl, hlast⟩ := List.append_inj' hl rfl
  exact ⟨hp, by rw [hname, hname', List.singleton_inj.1 hlast], by rw [hparent, hparent']⟩

/-! ### Commits -/

namespace Commit

section Outcomes

variable {x : Slots} {header source : List UInt8} {d d' : Disk} {ok : Bool}

/-- **With one slot for both temporary files, no outcome is a success.** -/
theorem Outcome.ok_eq_false (h : Outcome x header source d ok d') (hx : x.Derived)
    (hshares : x.SharesTemporary) : ok = false := by
  cases h with
  | replaced hstaged haside hheader hsource =>
    exact absurd hshares (hstaged.not_sharesTemporary hx hheader hsource)
  | made hstaged hfile hheader hsource =>
    exact absurd hshares (hstaged.not_sharesTemporary hx hheader hsource)
  | _ => rfl

end Outcomes

section Aliases

attribute [local irreducible] slot?

variable {d : Disk} {header source : Path}

/-- Aliases have one slot for their temporary files. -/
theorem sharesTemporary_of_alias (h : d.Alias header source) :
    (slots d header source).SharesTemporary := by
  intro k hk k' hk'
  obtain ⟨name, hname⟩ := Option.ne_none_iff_exists'.1 h.ends_in_name
  obtain ⟨parent, hparent, rfl⟩ :=
    exists_directory?_of_slot?_sibling hname (by decide) (by decide) hk
  obtain ⟨parent', hparent', rfl⟩ :=
    exists_directory?_of_slot?_sibling (h.fileName?_eq.trans hname) (by decide) (by decide) hk'
  rw [h.directory?_eq, hparent] at hparent'
  rw [Option.some.inj hparent']

/-- The temporary source of an alias is not in the slot of the header. -/
theorem apart_sourceTemporary_of_alias (h : d.Alias header source) :
    Apart (slots d header source).header (slots d header source).sourceTemporary := by
  intro l hl hl'
  obtain ⟨name, hname⟩ := Option.ne_none_iff_exists'.1 h.ends_in_name
  obtain ⟨parent, -, rfl⟩ :=
    exists_directory?_of_slot?_sibling (h.fileName?_eq.trans hname) (by decide) (by decide) hl'
  have hlonger : name = Path.longer name "tmp" :=
    Option.some.inj (hname.symm.trans (fileName?_of_slot? hl))
  exact ne_longer _ _ hlonger

/-- **A commit to one place is refused.** It leaves no trace, unless something was in the way. -/
theorem run_of_alias (h : d.Alias header source) (a : Artifacts) :
    (∃ e, (d.perform (run a header source)).1 = .error e) ∧
      ((∀ p ∈ [temporary header, backup header, temporary source], d.isPresent p = false) →
        (d.perform (run a header source)).2 = d) := by
  have houtcome := outcome_run d a header source
  have hx := derived_slots d header source
  have hrefused := houtcome.ok_eq_false hx (sharesTemporary_of_alias h)
  rw [hrefused] at houtcome
  refine ⟨?_, fun hunused => houtcome.eq_of_refused hx (apart_sourceTemporary_of_alias h)
    (unused_slots hunused)⟩
  cases hresult : (d.perform (run a header source)).1 with
  | error e => exact ⟨e, rfl⟩
  | ok u =>
    rw [hresult] at hrefused
    cases hrefused

end Aliases

end Commit

/-! ### Runs -/

namespace Run

section Aliases

variable {d : Disk} {header source : Path}

/-- **Two paths to one file never pass as success.** Every commit to them is refused, and no run to
them ends with exit code zero. Either way the disk is as it was before, unless there was something
under the name of a sibling. -/
theorem refused_of_alias (h : d.Alias header source) :
    (∀ a, ∃ e, (d.perform (Commit.run a header source)).1 = .error e) ∧
      (∀ r, GoesTo header source r d → (d.perform (execute r)).1.exitCode ≠ 0) ∧
      ((∀ p ∈ [Commit.temporary header, Commit.backup header, Commit.temporary source],
          d.isPresent p = false) →
        (∀ a, (d.perform (Commit.run a header source)).2 = d) ∧
        ∀ r, GoesTo header source r d → (d.perform (execute r)).2 = d) := by
  refine ⟨fun a => (Commit.run_of_alias h a).1, fun r hgoes hcode => ?_, fun hunused =>
    ⟨fun a => (Commit.run_of_alias h a).2 hunused, fun r hgoes => ?_⟩⟩
  · obtain ⟨c, _, _, g, hload, houtputs, -, hcommit, -⟩ :=
      (ends_execute r d).exists_of_exitCode_eq_zero hcode
    obtain ⟨rfl, rfl⟩ := Prod.mk.inj (hgoes _ _ hload houtputs)
    obtain ⟨e, he⟩ := (Commit.run_of_alias h g.artifacts).1
    rw [hcommit] at he
    cases he
  · have hcommit : ∀ {a : Artifacts} {result : Except CommitError Unit} {d' : Disk},
        d.perform (Commit.run a header source) = (result, d') → d' = d := by
      intro a result d' hrun
      have hsame := (Commit.run_of_alias h a).2 hunused
      rwa [hrun] at hsame
    have hends := ends_execute r d
    generalize (d.perform (execute r)).1 = o, (d.perform (execute r)).2 = d' at hends
    cases hends with
    | unconfigured hload => rfl
    | undirected hload houtputs => rfl
    | unread hload houtputs hread => rfl
    | refused hload houtputs hread hrun | committed hload houtputs hread hrun =>
      obtain ⟨rfl, rfl⟩ := Prod.mk.inj (hgoes _ _ hload houtputs)
      exact hcommit hrun

/-- A disk with a table, an old header and a directory beside it. -/
def withDirectory : Disk :=
  (oneKey.set ["k.h"] (.file [0])).set ["a"] .directory

/-- What a run is asked to do that is to write both outputs to one file. -/
def toOneFile : Request where
  input := ⟨"t.csv"⟩
  header := some ⟨"./k.h"⟩
  source := some ⟨"a/../k.h"⟩

/-- The header has been replaced before it is found out that there is no source to be moved. -/
theorem refused_of_alias_withDirectory :
    Path.same ⟨"./k.h"⟩ ⟨"a/../k.h"⟩ = false ∧ withDirectory.Alias ⟨"./k.h"⟩ ⟨"a/../k.h"⟩ ∧
      GoesTo ⟨"./k.h"⟩ ⟨"a/../k.h"⟩ toOneFile withDirectory ∧
      (∀ p ∈ [Commit.temporary ⟨"./k.h"⟩, Commit.backup ⟨"./k.h"⟩, Commit.temporary ⟨"a/../k.h"⟩],
        withDirectory.isPresent p = false) ∧
      (withDirectory.perform (execute toOneFile)).1.exitCode ≠ 0 ∧
      (withDirectory.perform (execute toOneFile)).2 = withDirectory := by
  have hfind : withDirectory.find ⟨"./k.h"⟩ = .ok (["k.h"], .file [0]) := by decide
  have hfind' : withDirectory.find ⟨"a/../k.h"⟩ = .ok (["k.h"], .file [0]) := by decide
  have halias : withDirectory.Alias ⟨"./k.h"⟩ ⟨"a/../k.h"⟩ :=
    .of_find (by decide) (by decide) hfind hfind'
  have hgoes : GoesTo ⟨"./k.h"⟩ ⟨"a/../k.h"⟩ toOneFile withDirectory := goesTo_of_asked rfl rfl
  have hunused : ∀ p ∈ [Commit.temporary ⟨"./k.h"⟩, Commit.backup ⟨"./k.h"⟩,
      Commit.temporary ⟨"a/../k.h"⟩], withDirectory.isPresent p = false := by decide
  obtain ⟨-, hcode, hsame⟩ := refused_of_alias halias
  exact ⟨by decide, halias, hgoes, hunused, hcode _ hgoes, (hsame hunused).2 _ hgoes⟩

end Aliases

end Run

end ScanCodes
