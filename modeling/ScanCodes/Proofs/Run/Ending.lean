import ScanCodes.Proofs.Disk.Perform
import ScanCodes.Run

/-!
# How runs end

A run leaves early whenever something is wrong: with the configuration, with the outputs, with the
table. Up to then it has only looked at the disk. The commit is the last thing it does to the disk,
and what the commit makes of it is what the run makes of it. All that is left then is to print the
summary. So there are five ways in which a run can end.

## Main definitions

* `Disk.ReadsOnly`: the program leaves every disk as it is.
* `Run.Ends`: how a run can end, with its outcome and the disk it leaves behind.
* `Request.plain`: the request with a summary in lines of text.

## Main results

* `Run.perform_readTable`: what a run makes of its input.
* `Run.perform_execute_of_outputs`: a run that knows where to write goes on to its table.
* `Run.ends_execute`: every run ends in one of these ways.
* `Summary.render?_eq_none_iff`: when there is no summary in the form that is asked for.
* `RunError.exitCode_eq_one_or_two`: the exit codes of those that fail.
* `Run.Ends.exists_of_exitCode_eq_zero`: what those have found that do not.
* `Run.exitCode_execute_plain_eq_zero_iff`: when a run without JSON is carried out.
-/

namespace ScanCodes

/-! ### Programs that only look -/

namespace Disk

/-- The program leaves every disk as it is. -/
def ReadsOnly {α : Type} (program : StateM Disk α) : Prop :=
  ∀ d : Disk, (d.perform program).2 = d

namespace ReadsOnly

variable {α β : Type}

theorem pure (a : α) : ReadsOnly (Pure.pure a : StateM Disk α) :=
  fun _ => rfl

theorem bind {x : StateM Disk α} {f : α → StateM Disk β} (hx : ReadsOnly x)
    (hf : ∀ a, ReadsOnly (f a)) : ReadsOnly (x >>= f) := by
  intro d
  rw [perform_bind, hf, hx]

theorem read (p : Path) : ReadsOnly (Files.read p) :=
  fun _ => rfl

theorem isPresent (p : Path) : ReadsOnly (Files.isPresent p) :=
  fun _ => rfl

theorem readText (p : Path) : ReadsOnly (Files.readText p) := by
  refine bind (read p) fun bytes => ?_
  cases bytes with
  | error why => exact pure _
  | ok bytes =>
    dsimp only
    split <;> exact pure _

end ReadsOnly

end Disk

open Disk

namespace Config

theorem readsOnly_loadFrom (p : Path) : ReadsOnly (loadFrom p) := by
  refine .bind (.readText p) fun document => ?_
  cases document with
  | error why => exact .pure _
  | ok document =>
    dsimp only
    split
    · exact .pure _
    · exact .pure _
    · split <;> exact .pure _

theorem readsOnly_load (asked : Option Path) : ReadsOnly (load asked) := by
  cases asked with
  | some p =>
    refine .bind (.isPresent p) fun present => ?_
    cases present with
    | true => exact readsOnly_loadFrom p
    | false => exact .pure _
  | none =>
    refine .bind (.isPresent defaultPath) fun present => ?_
    cases present with
    | true => exact readsOnly_loadFrom defaultPath
    | false => exact .pure _

end Config

namespace Run

theorem readsOnly_readTable (input : Path) : ReadsOnly (readTable input) := by
  refine .bind (.readText input) fun table => ?_
  cases table with
  | error why => exact .pure _
  | ok table =>
    dsimp only
    split <;> exact .pure _

/-- What is made of an input depends on the text that is read from it. -/
theorem perform_readTable (d : Disk) (input : Path) :
    (d.perform (readTable input)).1 =
      match (d.perform (Files.readText input)).1 with
      | .error why => .error (.unreadable input why)
      | .ok table => (Generation.ofTable table).mapError (.invalid input) := by
  rw [readTable, perform_bind]
  cases (d.perform (Files.readText input)).1 with
  | error why => rfl
  | ok table =>
    dsimp only
    cases Generation.ofTable table <;> rfl

/-- What a table generates is known once it has been read as text. -/
theorem perform_readTable_eq_ok {d : Disk} {input : Path} {g : Generation}
    (h : (d.perform (readTable input)).1 = .ok g) :
    ∃ table, (d.perform (Files.readText input)).1 = .ok table ∧
      Generation.ofTable table = .ok g := by
  rw [perform_readTable] at h
  cases htable : (d.perform (Files.readText input)).1 with
  | error why =>
    rw [htable] at h
    cases h
  | ok table =>
    rw [htable] at h
    refine ⟨table, rfl, ?_⟩
    cases hg : Generation.ofTable table with
    | error why =>
      simp only [hg] at h
      cases h
    | ok g' =>
      simp only [hg] at h
      exact congrArg Except.ok (Except.ok.inj h)

/-- The outputs of a run are found out if both are given and they are two files. -/
theorem outputs_eq_ok_iff {c : Config} {r : Request} {header source : Path} :
    outputs c r = .ok (header, source) ↔
      c.headerPath? r.header = some header ∧ c.sourcePath? r.source = some source ∧
        header.same source = false := by
  rw [outputs]
  cases c.headerPath? r.header with
  | none => exact ⟨nofun, nofun⟩
  | some header' =>
    cases c.sourcePath? r.source with
    | none => exact ⟨nofun, nofun⟩
    | some source' =>
      dsimp only
      split
      · next hsame =>
        refine ⟨nofun, ?_⟩
        rintro ⟨⟨⟩, ⟨⟩, hdiffer⟩
        exact absurd hsame (by simp [hdiffer])
      · next hdiffer =>
        constructor
        · rintro ⟨⟩
          exact ⟨rfl, rfl, by simpa using hdiffer⟩
        · rintro ⟨⟨⟩, ⟨⟩, -⟩
          rfl

/-- What is wrong with the outputs is not the summary. -/
theorem outputs_ne_unprintable (c : Config) (r : Request) : outputs c r ≠ .error .unprintable := by
  rw [outputs]
  cases c.headerPath? r.header with
  | none => exact nofun
  | some header =>
    cases c.sourcePath? r.source with
    | none => exact nofun
    | some source =>
      dsimp only
      split <;> exact nofun

/-- A run that knows where to write goes on to its table. -/
theorem perform_execute_of_outputs {r : Request} {d : Disk} {c : Config} {header source : Path}
    (hload : (d.perform (Config.load r.config)).1 = .ok c)
    (houtputs : outputs c r = .ok (header, source)) :
    d.perform (execute r) = d.perform (generate c r header source) := by
  rw [execute, perform_bind, Config.readsOnly_load, hload]
  simp only [houtputs]

/-! ### The ways to end -/

/-- How a run can end: with which outcome, and on which disk. -/
inductive Ends (r : Request) (d : Disk) : Outcome → Disk → Prop
  | unconfigured {e : ConfigError} (hload : (d.perform (Config.load r.config)).1 = .error e) :
      Ends r d { result := .error (.config e) } d
  | undirected {c : Config} {e : RunError} (hload : (d.perform (Config.load r.config)).1 = .ok c)
      (houtputs : outputs c r = .error e) : Ends r d { result := .error e } d
  | unread {c : Config} {header source : Path} {e : InputError}
      (hload : (d.perform (Config.load r.config)).1 = .ok c)
      (houtputs : outputs c r = .ok (header, source))
      (hread : (d.perform (readTable r.input)).1 = .error e) :
      Ends r d { result := .error (.input e) } d
  | refused {c : Config} {header source : Path} {g : Generation} {e : CommitError} {d' : Disk}
      (hload : (d.perform (Config.load r.config)).1 = .ok c)
      (houtputs : outputs c r = .ok (header, source))
      (hread : (d.perform (readTable r.input)).1 = .ok g)
      (hcommit : d.perform (Commit.run g.artifacts header source) = (.error e, d')) :
      Ends r d { shown := g.report.warnings.filter c.shows, result := .error (.commit e) } d'
  | committed {c : Config} {header source : Path} {g : Generation} {d' : Disk}
      (hload : (d.perform (Config.load r.config)).1 = .ok c)
      (houtputs : outputs c r = .ok (header, source))
      (hread : (d.perform (readTable r.input)).1 = .ok g)
      (hcommit : d.perform (Commit.run g.artifacts header source) = (.ok (), d')) :
      Ends r d (conclude c r header source g) d'

/-- **Every run ends in one of these ways.** -/
theorem ends_execute (r : Request) (d : Disk) :
    Ends r d (d.perform (execute r)).1 (d.perform (execute r)).2 := by
  rw [execute, perform_bind, Config.readsOnly_load]
  cases hload : (d.perform (Config.load r.config)).1 with
  | error e => exact .unconfigured hload
  | ok c =>
    cases houtputs : outputs c r with
    | error e =>
      simp only [houtputs]
      exact .undirected hload houtputs
    | ok targets =>
      obtain ⟨header, source⟩ := targets
      simp only [houtputs]
      rw [generate, perform_bind, readsOnly_readTable]
      cases hread : (d.perform (readTable r.input)).1 with
      | error e => exact .unread hload houtputs hread
      | ok g =>
        dsimp only
        rw [perform_bind]
        cases hcommit : d.perform (Commit.run g.artifacts header source) with
        | mk result d' =>
          cases result with
          | error e => exact .refused hload houtputs hread hcommit
          | ok u => exact .committed hload houtputs hread hcommit

end Run

/-! ### Exit codes -/

theorem RunError.exitCode_eq_one_or_two (e : RunError) : e.exitCode = 1 ∨ e.exitCode = 2 := by
  cases e with
  | input e =>
    cases e with
    | unreadable path why => exact Or.inr rfl
    | invalid path why => exact Or.inl rfl
  | commit e => exact Or.inr rfl
  | unprintable => exact Or.inr rfl
  | _ => exact Or.inl rfl

theorem Outcome.exitCode_ne_zero {o : Outcome} {e : RunError} (h : o.result = .error e) :
    o.exitCode ≠ 0 := by
  rw [exitCode, h]
  rcases e.exitCode_eq_one_or_two with hcode | hcode <;> simp [hcode]

/-- There is a summary in the form that is asked for, unless that is JSON and one of the paths is no
text. -/
theorem Summary.render?_eq_none_iff {json : Bool} {s : Summary} :
    s.render? json = none ↔
      json = true ∧ ∃ p ∈ [s.input, s.header, s.source], p.text? = none := by
  rw [render?]
  cases json with
  | false => simp
  | true =>
    rw [if_pos rfl, Option.map_eq_none_iff, toJson?]
    cases hinput : s.input.text? <;> cases hheader : s.header.text? <;>
      cases hsource : s.source.text? <;> simp [hinput, hheader, hsource]

/-- The request with a summary in lines of text. -/
def Request.plain (r : Request) : Request :=
  { r with json := false }

namespace Run

/-- The two ways to end behind a commit. -/
theorem conclude_cases (c : Config) (r : Request) (header source : Path) (g : Generation) :
    ((summary r header source g).render? r.json = none ∧
      conclude c r header source g =
        { shown := g.report.warnings.filter c.shows, result := .error .unprintable }) ∨
    ∃ output, (summary r header source g).render? r.json = some output ∧
      conclude c r header source g =
        { shown := g.report.warnings.filter c.shows, output
          result := .ok (summary r header source g) } := by
  cases hrender : (summary r header source g).render? r.json with
  | none => exact Or.inl ⟨rfl, by rw [conclude, hrender]⟩
  | some output => exact Or.inr ⟨output, rfl, by rw [conclude, hrender]⟩

/-- Exit code zero is for the runs that have been carried out. -/
theorem Ends.exists_of_exitCode_eq_zero {r : Request} {d d' : Disk} {o : Outcome}
    (h : Ends r d o d') (hcode : o.exitCode = 0) :
    ∃ c header source g, (d.perform (Config.load r.config)).1 = .ok c ∧
      outputs c r = .ok (header, source) ∧ (d.perform (readTable r.input)).1 = .ok g ∧
      d.perform (Commit.run g.artifacts header source) = (.ok (), d') ∧
      o = conclude c r header source g := by
  cases h with
  | unconfigured hload => exact absurd hcode (Outcome.exitCode_ne_zero rfl)
  | undirected hload houtputs => exact absurd hcode (Outcome.exitCode_ne_zero rfl)
  | unread hload houtputs hread => exact absurd hcode (Outcome.exitCode_ne_zero rfl)
  | refused hload houtputs hread hcommit => exact absurd hcode (Outcome.exitCode_ne_zero rfl)
  | committed hload houtputs hread hcommit =>
    exact ⟨_, _, _, _, hload, houtputs, hread, hcommit, rfl⟩

/-- A run that finds all it needs ends behind its commit if that is carried out. -/
theorem perform_execute_of_committed {r : Request} {d d' : Disk} {c : Config}
    {header source : Path} {g : Generation}
    (hload : (d.perform (Config.load r.config)).1 = .ok c)
    (houtputs : outputs c r = .ok (header, source))
    (hread : (d.perform (readTable r.input)).1 = .ok g)
    (hcommit : d.perform (Commit.run g.artifacts header source) = (.ok (), d')) :
    d.perform (execute r) = (conclude c r header source g, d') := by
  rw [perform_execute_of_outputs hload houtputs, generate, perform_bind, readsOnly_readTable, hread]
  dsimp only
  rw [perform_bind, hcommit]
  rfl

/-- A summary in lines of text can always be printed: without JSON, a run is carried out if its
commit is. -/
theorem exitCode_conclude_plain (c : Config) (r : Request) (header source : Path) (g : Generation) :
    (conclude c r.plain header source g).exitCode = 0 := rfl

/-- With the summary in lines of text, a run is carried out exactly if it gets as far as its commit
and the commit is carried out. All of this is the same for the run with JSON. -/
theorem exitCode_execute_plain_eq_zero_iff {r : Request} {d : Disk} :
    (d.perform (execute r.plain)).1.exitCode = 0 ↔
      ∃ c header source g d', (d.perform (Config.load r.config)).1 = .ok c ∧
        outputs c r = .ok (header, source) ∧ (d.perform (readTable r.input)).1 = .ok g ∧
        d.perform (Commit.run g.artifacts header source) = (.ok (), d') := by
  constructor
  · intro hcode
    obtain ⟨c, header, source, g, hload, houtputs, hread, hcommit, -⟩ :=
      (ends_execute r.plain d).exists_of_exitCode_eq_zero hcode
    exact ⟨c, header, source, g, _, hload, houtputs, hread, hcommit⟩
  · rintro ⟨c, header, source, g, d', hload, houtputs, hread, hcommit⟩
    have hplain : d.perform (execute r.plain) = (conclude c r.plain header source g, d') :=
      perform_execute_of_committed hload houtputs hread hcommit
    rw [hplain]
    exact exitCode_conclude_plain c r header source g

/-- A run that ends early does so without JSON as well. -/
theorem exitCode_execute_plain_ne_zero {r : Request} {d d' : Disk} {o : Outcome} {e : RunError}
    (hrun : d.perform (execute r) = (o, d')) (hresult : o.result = .error e)
    (he : e ≠ .unprintable) : (d.perform (execute r.plain)).1.exitCode ≠ 0 := by
  intro hcode
  obtain ⟨c, header, source, g, d'', hload, houtputs, hread, hcommit⟩ :=
    exitCode_execute_plain_eq_zero_iff.1 hcode
  rw [perform_execute_of_committed hload houtputs hread hcommit] at hrun
  obtain ⟨rfl, -⟩ := Prod.mk.inj hrun
  rcases conclude_cases c r header source g with ⟨-, ho⟩ | ⟨output, -, ho⟩
  · rw [ho] at hresult
    exact he (Except.error.inj hresult).symm
  · rw [ho] at hresult
    cases hresult

end Run

end ScanCodes
