import ScanCodes.Proofs.Commit.Success
import ScanCodes.Proofs.Run.Session

/-!
# Runs that are repeated

A run that has been carried out can be repeated. It finds the same configuration and the same table,
since nothing was written where it reads, so it generates the same texts; and the same commit once
more changes nothing. The outcome is then the same in all that is printed or shown.

## Main definitions

* `Run.inputs`: the files from which a run reads.

## Main results

* `Config.perform_load_of_find`, `Run.perform_readTable_of_find`: what is read depends on what is
  found.
* `Run.execute_again`: a run that has been carried out is repeated.
-/

namespace ScanCodes

open Disk

/-! ### Reading the same again -/

section Reading

variable {d d' : Disk} {p : Path}

theorem Disk.perform_readText_of_find {text : String}
    (h : (d'.find p).toOption = (d.find p).toOption)
    (htext : (d.perform (Files.readText p)).1 = .ok text) :
    (d'.perform (Files.readText p)).1 = .ok text := by
  rw [perform_readText_eq_ok_iff] at htext ⊢
  exact read_eq_ok_of_toOption_find h htext

namespace Config

theorem perform_loadFrom_of_find {c : Config} (h : (d'.find p).toOption = (d.find p).toOption)
    (hload : (d.perform (loadFrom p)).1 = .ok c) : (d'.perform (loadFrom p)).1 = .ok c := by
  rw [loadFrom, perform_bind] at hload ⊢
  cases htext : (d.perform (Files.readText p)).1 with
  | error why =>
    rw [htext] at hload
    cases hload
  | ok document =>
    rw [htext] at hload
    rw [perform_readText_of_find h htext]
    dsimp only at hload ⊢
    split at hload
    · cases hload
    · cases hload
    · split at hload
      · cases hload
      · exact hload

/-- Of the file that is asked for, or else of the default file, it matters first whether it is
there. -/
theorem perform_load (d : Disk) (asked : Option Path) :
    (d.perform (load asked)).1 =
      if d.isPresent (asked.getD defaultPath) then
        (d.perform (loadFrom (asked.getD defaultPath))).1
      else asked.elim (.ok {}) fun p => .error (.missing p) := by
  have hpresent : ∀ p, d.perform (Files.isPresent p) = (d.isPresent p, d) := fun _ => rfl
  cases asked <;> rw [load, perform_bind, hpresent] <;> split <;> simp_all [perform_pure]

/-- The configuration is the same as long as the same is found where it is looked for. -/
theorem perform_load_of_find {c : Config} {asked : Option Path}
    (h : (d'.find (asked.getD defaultPath)).toOption = (d.find (asked.getD defaultPath)).toOption)
    (hload : (d.perform (load asked)).1 = .ok c) : (d'.perform (load asked)).1 = .ok c := by
  rw [perform_load] at hload ⊢
  rw [isPresent_eq_of_toOption_find h]
  split
  · next hpresent =>
    rw [if_pos hpresent] at hload
    exact perform_loadFrom_of_find h hload
  · next habsent => rwa [if_neg habsent] at hload

end Config

namespace Run

theorem perform_readTable_of_find {g : Generation} (h : (d'.find p).toOption = (d.find p).toOption)
    (hread : (d.perform (readTable p)).1 = .ok g) : (d'.perform (readTable p)).1 = .ok g := by
  obtain ⟨table, htext, hg⟩ := perform_readTable_eq_ok hread
  rw [perform_readTable, perform_readText_of_find h htext]
  simp only [hg]
  rfl

end Run

end Reading

/-! ### Running again -/

namespace Run

/-- The files from which a run reads. -/
def inputs (r : Request) : List Path :=
  [r.input, r.config.getD Config.defaultPath]

section Again

variable {header source : Path} {r : Request} {d d' : Disk} {o : Outcome}

/-- **A run that has been carried out is repeated**: it has the same outcome once more and leaves
the disk as it is. -/
theorem execute_again (hgoes : GoesTo header source r d)
    (hseparate : (Commit.slots d header source).Separate)
    (happart : ∀ p ∈ inputs r, ∀ q ∈ places header source, Apart (d.slot? p) (d.slot? q))
    (hbackup : d.isPresent (Commit.backup header) = false)
    (hrun : d.perform (execute r) = (o, d')) (hcode : o.exitCode = 0) :
    d'.perform (execute r) = (o, d') := by
  have hends := ends_execute r d
  rw [hrun] at hends
  obtain ⟨c, _, _, g, hload, houtputs, hread, hcommit, rfl⟩ :=
    hends.exists_of_exitCode_eq_zero hcode
  obtain ⟨rfl, rfl⟩ := Prod.mk.inj (hgoes _ _ hload houtputs)
  -- nothing is written where the run reads
  have hfind : ∀ p ∈ inputs r, (d'.find p).toOption = (d.find p).toOption := by
    intro p hp
    refine Commit.toOption_find_of_ok hseparate hbackup hcommit fun q hq => happart p hp q ?_
    simp only [List.mem_cons, List.not_mem_nil, or_false] at hq
    rcases hq with rfl | rfl | rfl | rfl <;> simp [places]
  have hload' := Config.perform_load_of_find (hfind _ (by simp [inputs])) hload
  have hread' := perform_readTable_of_find (hfind _ (by simp [inputs])) hread
  exact perform_execute_of_committed hload' houtputs hread'
    (Commit.run_again hseparate hbackup hcommit)

/-- A disk on which a temporary file has been left behind. -/
def leftover : Disk :=
  oneKey.set ["k.h.tmp"] (.file [0])

/-- A run that makes the header, and one that replaces it. -/
theorem execute_again_leftover :
    GoesTo ⟨"k.h"⟩ ⟨"k.c"⟩ request leftover ∧
      (Commit.slots leftover ⟨"k.h"⟩ ⟨"k.c"⟩).Separate ∧
      (∀ p ∈ inputs request, ∀ q ∈ places ⟨"k.h"⟩ ⟨"k.c"⟩,
        Apart (leftover.slot? p) (leftover.slot? q)) ∧
      leftover.isPresent (Commit.backup ⟨"k.h"⟩) = false ∧
      (leftover.perform (execute request)).1.exitCode = 0 ∧
      (leftover.perform (execute request)).2.perform (execute request)
        = leftover.perform (execute request) := by
  have hgoes : GoesTo ⟨"k.h"⟩ ⟨"k.c"⟩ request leftover := goesTo_of_asked rfl rfl
  have hseparate : (Commit.slots leftover ⟨"k.h"⟩ ⟨"k.c"⟩).Separate := by decide
  have happart : ∀ p ∈ inputs request, ∀ q ∈ places ⟨"k.h"⟩ ⟨"k.c"⟩,
      Apart (leftover.slot? p) (leftover.slot? q) := by decide
  have hbackup : leftover.isPresent (Commit.backup ⟨"k.h"⟩) = false := by decide
  have hcode : (leftover.perform (execute request)).1.exitCode = 0 := by decide +kernel
  exact ⟨hgoes, hseparate, happart, hbackup, hcode,
    execute_again hgoes hseparate happart hbackup rfl hcode⟩

end Again

end Run

end ScanCodes
