import ScanCodes.Proofs.Commit.AllOrNothing
import ScanCodes.Proofs.Run.Ending

/-!
# Sessions

One run after another to the same two targets. Between the runs tables and configurations are made,
edited and removed; the disk may change in any way that spares the targets and their siblings. At
any time the targets hold what one and the same run has made, the last one that has replaced them.

Exit codes tell what a run has done to the disk, with one exception. A run that replaces the targets
still has to print its summary. If this is to be JSON and one of the paths is no text, it cannot,
and the run fails behind its commit. All other runs are all or nothing.

## Main definitions

* `Run.Record`: a run that has taken place.
* `Run.Record.AllOrNothing`: either it was carried out, or it left no trace.
* `Run.Record.LosesSummary`: it fails for its summary alone, having changed the disk.
* `Run.Spares`: a change of the disk that spares the targets and their siblings.
* `Run.Session`: a session, with the records of its runs and the disk at the end of it.
* `Run.HoldsLast`: the targets hold what the last of the runs that count has made.

## Main results

* `Run.tells_of_ready`: what the exit code tells of a run on a disk that is ready for it.
* `Run.Spares.of_write`, `Run.Spares.of_remove`: to edit other files spares the targets.
* `Run.Session.invariant`: what every session preserves.
* `Run.Session.allOrNothing_iff_and_holdsLast`: what is to be seen of it from outside.
-/

namespace ScanCodes

namespace Run

open Disk

/-! ### Single runs -/

/-- A run that has taken place. -/
structure Record where
  request : Request
  before : Disk
  outcome : Outcome
  after : Disk

/-- The record of a run on a disk. -/
def record (r : Request) (d : Disk) : Record :=
  ⟨r, d, (d.perform (execute r)).1, (d.perform (execute r)).2⟩

/-- The run was carried out. -/
def Record.succeeded (run : Record) : Bool :=
  run.outcome.exitCode = 0

/-- The run read a table that generates `g`. -/
def Record.Reads (run : Record) (g : Generation) : Prop :=
  ∃ table, (run.before.perform (Files.readText run.request.input)).1 = .ok table ∧
    Generation.ofTable table = .ok g

/-- The run replaced the targets by what its table generates. -/
def Record.Replaces (header source : Path) (run : Record) : Prop :=
  ∃ g, run.Reads g ∧ Commit.Replaces g.artifacts header source run.before run.after

/-- Either the run was carried out, and replaced the targets by what its table generates; or it
failed, printed nothing, and left the disk as it was. -/
inductive Record.AllOrNothing (header source : Path) (run : Record) : Prop
  | all (hcode : run.outcome.exitCode = 0) (hreplaces : run.Replaces header source)
  | nothing (hcode : run.outcome.exitCode = 1 ∨ run.outcome.exitCode = 2)
      (houtput : run.outcome.output = "") (hsame : run.after = run.before)

/-- The run fails for its summary alone: it is to be JSON, which cannot hold one of the paths, and
with the summary in lines of text the run would have been carried out and changed the disk. -/
structure Record.LosesSummary (header source : Path) (run : Record) : Prop where
  json : run.request.json = true
  path : ∃ p ∈ [run.request.input, header, source], p.text? = none
  carried_out : (run.before.perform (execute run.request.plain)).1.exitCode = 0
  changes : (run.before.perform (execute run.request.plain)).2 ≠ run.before

/-- The run got behind its commit. -/
def Record.committed (run : Record) : Bool :=
  match run.outcome.result with
  | .ok _ => true
  | .error e => e = .unprintable

/-- If the run finds out where to write, it is to the two targets. -/
def GoesTo (header source : Path) (r : Request) (d : Disk) : Prop :=
  ∀ c targets, (d.perform (Config.load r.config)).1 = .ok c → outputs c r = .ok targets →
    targets = (header, source)

section Runs

variable {header source : Path} {r : Request} {d d' : Disk} {o : Outcome}

/-- A request that names both outputs goes to them. -/
theorem goesTo_of_asked (hheader : r.header = some header) (hsource : r.source = some source) :
    GoesTo header source r d := by
  intro c targets hload houtputs
  rw [outputs, Config.headerPath?, Config.sourcePath?, hheader, hsource, Option.some_or,
    Option.some_or] at houtputs
  dsimp only at houtputs
  split at houtputs
  · cases houtputs
  · exact (Except.ok.inj houtputs).symm

/-- What the exit code tells of a run. Unless it loses its summary, the run is all or nothing. Runs
that get behind their commits replace the targets, and the others leave no trace. -/
structure Record.Tells (header source : Path) (run : Record) : Prop where
  allOrNothing_iff : run.AllOrNothing header source ↔ ¬ run.LosesSummary header source
  losing : run.LosesSummary header source →
    run.outcome.exitCode = 2 ∧ run.outcome.output = "" ∧ run.Replaces header source
  replaces : run.committed = true → run.Replaces header source
  unchanged : run.committed = false → run.after = run.before

/-- A run that does not get behind its commit leaves no trace. -/
theorem tells_of_error {e : RunError} (hresult : o.result = .error e) (houtput : o.output = "")
    (he : e ≠ .unprintable) (hplain : (d.perform (execute r.plain)).1.exitCode ≠ 0)
    (hsame : d' = d) : Record.Tells header source ⟨r, d, o, d'⟩ := by
  have hcommitted : Record.committed ⟨r, d, o, d'⟩ = false := by
    rw [Record.committed, hresult]
    exact decide_eq_false he
  have hkeeps : ¬ Record.LosesSummary header source ⟨r, d, o, d'⟩ := fun h => hplain h.carried_out
  have hnothing : Record.AllOrNothing header source ⟨r, d, o, d'⟩ := by
    refine .nothing ?_ houtput hsame
    rw [Outcome.exitCode, hresult]
    exact e.exitCode_eq_one_or_two
  refine ⟨iff_of_true hnothing hkeeps, fun h => absurd h hkeeps, fun h => ?_, fun _ => hsame⟩
  rw [hcommitted] at h
  cases h

/-- A run that prints its summary is carried out. -/
theorem tells_of_printed {s : Summary} (hresult : o.result = .ok s)
    (hsummary : ¬ (r.json = true ∧ ∃ p ∈ [r.input, header, source], p.text? = none))
    (hreplaces : Record.Replaces header source ⟨r, d, o, d'⟩) :
    Record.Tells header source ⟨r, d, o, d'⟩ := by
  have hcode : o.exitCode = 0 := by rw [Outcome.exitCode, hresult]
  have hkeeps : ¬ Record.LosesSummary header source ⟨r, d, o, d'⟩ :=
    fun h => hsummary ⟨h.json, h.path⟩
  refine ⟨iff_of_true (.all hcode hreplaces) hkeeps, fun h => absurd h hkeeps,
    fun _ => hreplaces, fun h => ?_⟩
  rw [Record.committed, hresult] at h
  cases h

/-- A run that cannot print its summary passes for one that has left no trace only if the disk was
as it is now. -/
theorem tells_of_unprintable (hresult : o.result = .error .unprintable) (houtput : o.output = "")
    (hsummary : r.json = true ∧ ∃ p ∈ [r.input, header, source], p.text? = none)
    (hplain : (d.perform (execute r.plain)).1.exitCode = 0)
    (hafter : (d.perform (execute r.plain)).2 = d')
    (hreplaces : Record.Replaces header source ⟨r, d, o, d'⟩) :
    Record.Tells header source ⟨r, d, o, d'⟩ := by
  have hcode : o.exitCode = 2 := by
    rw [Outcome.exitCode, hresult]
    rfl
  have hloses : Record.LosesSummary header source ⟨r, d, o, d'⟩ ↔ d' ≠ d :=
    ⟨fun h hsame => h.changes (hafter.trans hsame),
      fun h => ⟨hsummary.1, hsummary.2, hplain, fun hsame => h (hafter.symm.trans hsame)⟩⟩
  refine ⟨?_, fun _ => ⟨hcode, houtput, hreplaces⟩, fun _ => hreplaces, fun h => ?_⟩
  · rw [hloses, not_not]
    constructor
    · rintro (⟨hzero, -⟩ | ⟨-, -, hsame⟩)
      · exact absurd (hcode.symm.trans hzero) (by decide)
      · exact hsame
    · exact fun hsame => .nothing (Or.inr hcode) houtput hsame
  · rw [Record.committed, hresult] at h
    cases h

/-- **What the exit code tells** of a run on a disk that is ready for it. -/
theorem tells_of_ready (hrun : d.perform (execute r) = (o, d')) (hgoes : GoesTo header source r d)
    (hready : Commit.Ready header source d) : Record.Tells header source ⟨r, d, o, d'⟩ := by
  have hends := ends_execute r d
  rw [hrun] at hends
  have hearly : ∀ {e : RunError}, o.result = .error e → o.output = "" → e ≠ .unprintable →
      d' = d → Record.Tells header source ⟨r, d, o, d'⟩ := fun hresult houtput he hsame =>
    tells_of_error hresult houtput he (exitCode_execute_plain_ne_zero hrun hresult he) hsame
  cases hends with
  | unconfigured hload => exact hearly rfl rfl nofun rfl
  | @undirected c e hload houtputs =>
    exact hearly rfl rfl (fun he => outputs_ne_unprintable c r (he ▸ houtputs)) rfl
  | unread hload houtputs hread => exact hearly rfl rfl nofun rfl
  | refused hload houtputs hread hcommit =>
    obtain ⟨rfl, rfl⟩ := Prod.mk.inj (hgoes _ _ hload houtputs)
    exact hearly rfl rfl nofun (hready.eq_of_error hcommit)
  | @committed c header source g _ hload houtputs hread hcommit =>
    obtain ⟨rfl, rfl⟩ := Prod.mk.inj (hgoes _ _ hload houtputs)
    have hreplaces : ∀ o, Record.Replaces header source ⟨r, d, o, d'⟩ := fun o =>
      ⟨g, perform_readTable_eq_ok hread, hready.replaces_of_ok hcommit⟩
    change Record.Tells header source ⟨r, d, conclude c r header source g, d'⟩
    rcases conclude_cases c r header source g with ⟨hnone, ho⟩ | ⟨output, hsome, ho⟩
    · have hplain : d.perform (execute r.plain) = (conclude c r.plain header source g, d') :=
        perform_execute_of_committed hload houtputs hread hcommit
      rw [ho]
      refine tells_of_unprintable rfl rfl (Summary.render?_eq_none_iff.1 hnone) ?_ ?_ (hreplaces _)
      · rw [hplain]
        exact exitCode_conclude_plain c r header source g
      · rw [hplain]
    · rw [ho]
      refine tells_of_printed rfl (fun hnone => ?_) (hreplaces _)
      rw [Summary.render?_eq_none_iff.2 hnone] at hsome
      cases hsome

/-- A run leaves the disk ready for the next one. -/
theorem ready_of_ends (hends : Ends r d o d') (hgoes : GoesTo header source r d)
    (hready : Commit.Ready header source d) : Commit.Ready header source d' := by
  have hcommit : ∀ {a : Artifacts} {result : Except CommitError Unit},
      d.perform (Commit.run a header source) = (result, d') → Commit.Ready header source d' := by
    intro a result hrun
    have hrun' := hready.ready_run a
    rwa [hrun] at hrun'
  cases hends with
  | unconfigured hload => exact hready
  | undirected hload houtputs => exact hready
  | unread hload houtputs hread => exact hready
  | refused hload houtputs hread hrun =>
    obtain ⟨rfl, rfl⟩ := Prod.mk.inj (hgoes _ _ hload houtputs)
    exact hcommit hrun
  | committed hload houtputs hread hrun =>
    obtain ⟨rfl, rfl⟩ := Prod.mk.inj (hgoes _ _ hload houtputs)
    exact hcommit hrun

end Runs

/-! ### Changes between runs -/

/-- The paths with which a commit to the two targets works. -/
def places (header source : Path) : List Path :=
  [header, Commit.temporary header, Commit.backup header, source, Commit.temporary source]

/-- The change spares the targets and their siblings: the same is found there as before, and they
are still different. -/
structure Spares (header source : Path) (d d' : Disk) : Prop where
  find : ∀ p ∈ places header source, (d'.find p).toOption = (d.find p).toOption
  separate : (Commit.slots d' header source).Separate

instance (header source : Path) (d d' : Disk) : Decidable (Spares header source d d') :=
  decidable_of_iff (_ ∧ _) ⟨fun h => ⟨h.1, h.2⟩, fun h => ⟨h.1, h.2⟩⟩

section Changes

variable {header source p : Path} {d d' : Disk} {content : List UInt8}

theorem Spares.ready (h : Spares header source d d') (hready : Commit.Ready header source d) :
    Commit.Ready header source d' := by
  refine ⟨h.separate, fun p hp => ?_⟩
  have hplace : p ∈ places header source := by
    simp only [List.mem_cons, List.not_mem_nil, or_false] at hp
    rcases hp with rfl | rfl | rfl <;> simp [places]
  rw [isPresent_eq_of_toOption_find (h.find p hplace)]
  exact hready.unused p hp

/-- A change of files elsewhere spares the targets and their siblings. -/
theorem Spares.of_sameDirectories (h : SameDirectories d d')
    (hagree : ∀ q ∈ places header source, d.Agree d' (d.slot? q))
    (hready : Commit.Ready header source d) : Spares header source d d' := by
  refine ⟨fun q hq => h.toOption_find_iff.2 (hagree q hq), ?_⟩
  simp only [Commit.slots, h.slot?_eq]
  exact hready.separate

/-- Writing another file spares them: a table, or a configuration. -/
theorem Spares.of_write (h : d.write p content = .ok d')
    (happart : ∀ q ∈ places header source, Apart (d.slot? p) (d.slot? q))
    (hready : Commit.Ready header source d) : Spares header source d d' := by
  have hputs := write_eq_ok_iff.1 h
  refine .of_sameDirectories hputs.sameDirectories (fun q hq l hl => ?_) hready
  rw [hputs.look, if_neg fun hslot => happart q hq l hslot hl]

/-- So does removing one. -/
theorem Spares.of_remove (h : d.remove p = .ok d')
    (happart : ∀ q ∈ places header source, Apart (d.slot? p) (d.slot? q))
    (hready : Commit.Ready header source d) : Spares header source d d' := by
  obtain ⟨l, old, hslot, hl, rfl⟩ := remove_eq_ok_iff.1 h
  refine .of_sameDirectories (SameDirectories.unset (by simp [hl])) (fun q hq k hk => ?_) hready
  have hne : k ≠ l := fun heq => happart q hq l hslot (heq ▸ hk)
  rw [look_unset, Function.update_of_ne hne]

end Changes

/-! ### Sessions -/

/-- The targets hold what the last of the runs that count has made, or, if there is none, what was
there at the start. -/
def HoldsLast (counts : Record → Bool) (header source : Path) (start : Disk) (runs : List Record)
    (d : Disk) : Prop :=
  match runs.find? counts with
  | some run => ∃ g, run.Reads g ∧ d.read header = .ok (Text.Utf8.encode g.artifacts.header) ∧
      d.read source = .ok (Text.Utf8.encode g.artifacts.source)
  | none => ∀ p ∈ [header, source], (d.find p).toOption = (start.find p).toOption

/-- What a session preserves. -/
structure Invariant (header source : Path) (start : Disk) (runs : List Record) (d : Disk) :
    Prop where
  ready : Commit.Ready header source d
  tells : ∀ run ∈ runs, run.Tells header source
  holdsLast : HoldsLast Record.committed header source start runs d
  holdsLast_succeeded : (∀ run ∈ runs, ¬ run.LosesSummary header source) →
    HoldsLast Record.succeeded header source start runs d

section Sessions

variable {header source : Path} {start d d' : Disk} {runs : List Record} {counts : Record → Bool}

theorem HoldsLast.change (h : HoldsLast counts header source start runs d)
    (hspares : Spares header source d d') : HoldsLast counts header source start runs d' := by
  rw [HoldsLast] at h ⊢
  cases hlast : runs.find? counts with
  | some run =>
    rw [hlast] at h
    obtain ⟨g, hreads, hheader, hsource⟩ := h
    exact ⟨g, hreads, read_eq_ok_of_toOption_find (hspares.find _ (by simp [places])) hheader,
      read_eq_ok_of_toOption_find (hspares.find _ (by simp [places])) hsource⟩
  | none =>
    rw [hlast] at h
    intro p hp
    have hplace : p ∈ places header source := by
      simp only [List.mem_cons, List.not_mem_nil, or_false] at hp
      rcases hp with rfl | rfl <;> simp [places]
    exact (hspares.find p hplace).trans (h p hp)

/-- It goes on to hold if the runs that count replace the targets and the others leave no trace. -/
theorem HoldsLast.run {run : Record} (h : HoldsLast counts header source start runs run.before)
    (hcounts : counts run = true → run.Replaces header source)
    (hrest : counts run = false → run.after = run.before) :
    HoldsLast counts header source start (run :: runs) run.after := by
  cases hrun : counts run with
  | true =>
    obtain ⟨g, hreads, hreplaces⟩ := hcounts hrun
    rw [HoldsLast, List.find?_cons_of_pos hrun]
    exact ⟨g, hreads, hreplaces.read_header, hreplaces.read_source⟩
  | false =>
    rw [HoldsLast, List.find?_cons_of_neg (by simp [hrun]), hrest hrun]
    exact h

/-- A run that is all or nothing replaces the targets if it succeeds, and leaves no trace if not. -/
theorem HoldsLast.run_of_allOrNothing {run : Record}
    (h : HoldsLast Record.succeeded header source start runs run.before)
    (hrun : run.AllOrNothing header source) :
    HoldsLast Record.succeeded header source start (run :: runs) run.after := by
  refine h.run (fun hsucceeded => ?_) fun hfailed => ?_
  · cases hrun with
    | all hcode hreplaces => exact hreplaces
    | nothing hcode houtput hsame =>
      rw [Record.succeeded, decide_eq_true_eq] at hsucceeded
      omega
  · cases hrun with
    | all hcode hreplaces => exact absurd hcode (by simpa [Record.succeeded] using hfailed)
    | nothing hcode houtput hsame => exact hsame

theorem Invariant.change (h : Invariant header source start runs d)
    (hspares : Spares header source d d') : Invariant header source start runs d' :=
  ⟨hspares.ready h.ready, h.tells, h.holdsLast.change hspares,
    fun hkeeps => (h.holdsLast_succeeded hkeeps).change hspares⟩

theorem Invariant.run (h : Invariant header source start runs d) {r : Request}
    (hgoes : GoesTo header source r d) :
    Invariant header source start (record r d :: runs) (record r d).after := by
  have hrun : (record r d).Tells header source := tells_of_ready rfl hgoes h.ready
  have hready : Commit.Ready header source (record r d).after :=
    ready_of_ends (ends_execute r d) hgoes h.ready
  have hbefore : (record r d).before = d := rfl
  -- from here on it does not matter how the run went on
  generalize record r d = run at hrun hready hbefore ⊢
  subst hbefore
  refine ⟨hready, List.forall_mem_cons.2 ⟨hrun, h.tells⟩,
    h.holdsLast.run hrun.replaces hrun.unchanged, fun hkeeps => ?_⟩
  obtain ⟨hkeep, hkeeps⟩ := List.forall_mem_cons.1 hkeeps
  exact (h.holdsLast_succeeded hkeeps).run_of_allOrNothing (hrun.allOrNothing_iff.2 hkeep)

/-- What a run is asked to do that is told where to write. -/
def request : Request where
  input := ⟨"t.csv"⟩
  header := some ⟨"k.h"⟩
  source := some ⟨"k.c"⟩

/-- A disk with a table of one key. -/
def oneKey : Disk :=
  Disk.set {} ["t.csv"] (.file (Text.Utf8.encode "codes,name,char\n1,A,a\n"))

end Sessions

end Run

end ScanCodes
