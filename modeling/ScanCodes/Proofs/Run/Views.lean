import ScanCodes.Proofs.Commit.Safety
import ScanCodes.Proofs.Run.Session
import ScanCodes.Proofs.Summary.Reading

/-!
# Three views of one report

A run shows its table in three ways: in the texts that it writes, in the warnings that it shows, and
in the summary that it prints. The configuration says where the texts go and which of the warnings
are shown, the request says how the summary is printed, and that is all they do. The texts are
decided by the bytes of the table; the warnings that are shown, by the report and two switches; and
the summary lists every warning, whatever is shown: whoever reads the printed text as JSON finds
them all.

## Main definitions

* `Config.kept`: the warnings without the classes that are switched off.
* `Run.Writes`: a run writes two texts to its outputs.
* `Run.Reports`: what a run shows and prints of its warnings.

## Main results

* `Config.filter_shows`: which warnings are shown.
* `Run.writes_of_exitCode_eq_zero`: a run that is carried out writes what its table generates.
* `Run.reports_of_readTable`: a run that has read its table reports the warnings in both ways.
* `Run.writes_same_and_reports`: two runs on the same table write the same texts, however different
  they are.
-/

namespace ScanCodes

open Disk Text.Utf8

/-! ### Warnings -/

/-- The warnings that are left when the classes that are switched off have been taken out. -/
def Config.kept (c : Config) (warnings : List Warning) : List Warning :=
  let warnings := if c.warnDuplicates then warnings else warnings.filter (!·.isDuplicate)
  if c.warnDegenerate then warnings else warnings.filter (!·.isDegenerate)

private theorem ite_filter (switch : Bool) (keep : Warning → Bool) (warnings : List Warning) :
    (if switch then warnings else warnings.filter keep)
      = warnings.filter fun w => switch || keep w := by
  cases switch with
  | true => simp
  | false => simp

/-- The warnings that are shown are those that have not been switched off. -/
theorem Config.filter_shows (c : Config) (warnings : List Warning) :
    warnings.filter c.shows = c.kept warnings := by
  rw [kept, ite_filter, ite_filter, List.filter_filter]
  refine List.filter_congr fun w _ => ?_
  rw [shows, Warning.isDegenerate]
  cases w.isDuplicate <;> simp

namespace Run

/-- What a run that has read its table says of its warnings. As warnings it logs those that are not
switched off, in the wording and the order of the report. If it is carried out, its summary has all
of them, and what it prints as JSON is read as that summary. -/
structure Reports (c : Config) (r : Request) (g : Generation) (o : Outcome) : Prop where
  shown : o.shown.map Warning.message = (c.kept g.report.warnings).map Warning.message
  summary : ∀ s, o.result = .ok s → s.warnings = g.report.warnings
  printed : o.exitCode = 0 → r.json = true →
    ∃ s, o.result = .ok s ∧ Summary.read? o.output = some s ∧ s.warnings = g.report.warnings

/-- A run that is carried out writes the two texts: it commits them to its outputs. They are read
there afterwards, unless the slots of the outputs collide. -/
def Writes (a : Artifacts) (r : Request) (d : Disk) : Prop :=
  ∃ c header source, (d.perform (Config.load r.config)).1 = .ok c ∧
    outputs c r = .ok (header, source) ∧
    d.perform (Commit.run a header source) = (.ok (), (d.perform (execute r)).2) ∧
    (¬ (Commit.slots d header source).Collides (encode a.source) d →
      (d.perform (execute r)).2.read header = .ok (encode a.header) ∧
        (d.perform (execute r)).2.read source = .ok (encode a.source))

section Views

variable {r : Request} {d : Disk} {c : Config} {header source : Path} {g : Generation}

/-- **What a run writes is what its table generates.** -/
theorem writes_of_exitCode_eq_zero (hcode : (d.perform (execute r)).1.exitCode = 0) :
    ∃ table g, d.read r.input = .ok (encode table) ∧ Generation.ofTable table = .ok g ∧
      Writes g.artifacts r d := by
  obtain ⟨c, header, source, g, hload, houtputs, hread, hcommit, -⟩ :=
    (ends_execute r d).exists_of_exitCode_eq_zero hcode
  obtain ⟨table, htext, hg⟩ := perform_readTable_eq_ok hread
  refine ⟨table, g, perform_readText_eq_ok_iff.1 htext, hg, c, header, source, hload, houtputs,
    hcommit, fun hsafe => ?_⟩
  have houtcome := Commit.outcome_run d g.artifacts header source
  rw [hcommit] at houtcome
  have horder : Commit.InOrder g.artifacts header source d (.ok (), (d.perform (execute r)).2) :=
    (Commit.inOrder_iff_sound houtcome.sameDirectories).2
      (houtcome.sound_of_not_collides (Commit.derived_slots d header source) hsafe)
  exact horder

/-- The warnings are reported however a run ends behind its commit. -/
theorem reports_conclude (c : Config) (r : Request) (header source : Path) (g : Generation) :
    Reports c r g (conclude c r header source g) := by
  rcases conclude_cases c r header source g with ⟨-, ho⟩ | ⟨output, hrender, ho⟩ <;> rw [ho]
  · refine ⟨congrArg _ (c.filter_shows _), fun s hs => ?_, fun hcode => ?_⟩
    · cases hs
    · exact absurd hcode (Outcome.exitCode_ne_zero rfl)
  · refine ⟨congrArg _ (c.filter_shows _), ?_, fun _ hjson => ?_⟩
    · rintro s ⟨⟩
      rfl
    · rw [hjson] at hrender
      exact ⟨_, rfl, Summary.read?_of_render? hrender, rfl⟩

/-- **A run that has read its table reports the warnings in both ways**, whether its commit is
carried out or refused. -/
theorem reports_of_readTable (hload : (d.perform (Config.load r.config)).1 = .ok c)
    (houtputs : outputs c r = .ok (header, source))
    (hread : (d.perform (readTable r.input)).1 = .ok g) :
    Reports c r g (d.perform (execute r)).1 := by
  rw [perform_execute_of_outputs hload houtputs, generate, perform_bind, readsOnly_readTable, hread]
  dsimp only
  rw [perform_bind]
  cases hresult : (d.perform (Commit.run g.artifacts header source)).1 with
  | error e =>
    refine ⟨congrArg _ (c.filter_shows _), fun s hs => ?_, fun hcode => ?_⟩
    · cases hs
    · exact absurd hcode (Outcome.exitCode_ne_zero rfl)
  | ok u => exact reports_conclude c r header source g

/-- **Configuration and flags never reach the generated texts.** Two runs on tables of the same
content that are both carried out write the same texts, whatever is different between them and
between their disks. And every run that has read its table shows the warnings that are not switched
off and lists them all. -/
theorem writes_same_and_reports :
    (∀ {r r' : Request} {d d' : Disk}, d.read r.input = d'.read r'.input →
      (d.perform (execute r)).1.exitCode = 0 → (d'.perform (execute r')).1.exitCode = 0 →
        ∃ table g, d.read r.input = .ok (encode table) ∧ Generation.ofTable table = .ok g ∧
          Writes g.artifacts r d ∧ Writes g.artifacts r' d') ∧
      ∀ {r : Request} {d : Disk} {c : Config} {header source : Path} {g : Generation},
        (d.perform (Config.load r.config)).1 = .ok c → outputs c r = .ok (header, source) →
          (d.perform (readTable r.input)).1 = .ok g →
            Reports c r g (d.perform (execute r)).1 := by
  refine ⟨fun hsame hcode hcode' => ?_, reports_of_readTable⟩
  obtain ⟨table, g, hread, hg, hwrites⟩ := writes_of_exitCode_eq_zero hcode
  obtain ⟨table', g', hread', hg', hwrites'⟩ := writes_of_exitCode_eq_zero hcode'
  -- the bytes decide the text, and the text decides what is generated
  rw [← hsame, hread] at hread'
  obtain rfl := encode_injective (Except.ok.inj hread')
  obtain rfl := Except.ok.inj (hg.symm.trans hg')
  exact ⟨table, g, hread, hg, hwrites, hwrites'⟩

/-- A disk with a table that uses a scan code twice and has a name that is no use. -/
def twoDefects : Disk :=
  Disk.set {} ["t.csv"] (.file (encode "codes,name,char\n1,A,a\n1,%,b\n"))

/-- The same table beside a configuration that says where to write and switches a warning off. -/
def twoDefectsQuiet : Disk :=
  twoDefects.set ["c.toml"] (.file (encode <|
    "[paths]\nheader = \"x.h\"\nsource = \"x.c\"\n[diagnostics]\nwarn_duplicates = false\n"))

/-- What a run is asked to do that goes by the configuration. -/
def quietRequest : Request where
  input := ⟨"t.csv"⟩
  config := some ⟨"c.toml"⟩
  json := true

/-- A run that shows both warnings and one that shows only one of them. -/
theorem writes_same_and_reports_twoDefects :
    (twoDefects.perform (execute request)).1.exitCode = 0 ∧
      (twoDefectsQuiet.perform (execute quietRequest)).1.exitCode = 0 ∧
      (twoDefectsQuiet.perform (execute quietRequest)).1.shown.map Warning.message
        = ["identifier KEYCODE_% for scan code 1 is not a valid C identifier"] ∧
      ∃ g, Writes g.artifacts request twoDefects ∧ Writes g.artifacts quietRequest twoDefectsQuiet ∧
        Reports { header := some ⟨"x.h"⟩, source := some ⟨"x.c"⟩, warnDuplicates := false }
          quietRequest g (twoDefectsQuiet.perform (execute quietRequest)).1 := by
  have hcode : (twoDefects.perform (execute request)).1.exitCode = 0 := by decide +kernel
  obtain ⟨hcode', hshown⟩ : (twoDefectsQuiet.perform (execute quietRequest)).1.exitCode = 0 ∧
      (twoDefectsQuiet.perform (execute quietRequest)).1.shown.map Warning.message
        = ["identifier KEYCODE_% for scan code 1 is not a valid C identifier"] := by
    decide +kernel
  have hload : (twoDefectsQuiet.perform (Config.load quietRequest.config)).1 = .ok
      { header := some ⟨"x.h"⟩, source := some ⟨"x.c"⟩, warnDuplicates := false } := by
    decide +kernel
  have hsame : twoDefectsQuiet.read quietRequest.input = twoDefects.read request.input := by decide
  obtain ⟨table, g, hread, hg, hwrites, hwrites'⟩ :=
    writes_same_and_reports.1 hsame.symm hcode hcode'
  have hreadTable : (twoDefectsQuiet.perform (readTable quietRequest.input)).1 = .ok g := by
    rw [perform_readTable, perform_readText_eq_ok_iff.2 (hsame.trans hread)]
    simp only [hg]
    rfl
  exact ⟨hcode, hcode', hshown, g, hwrites, hwrites',
    writes_same_and_reports.2 hload rfl hreadTable⟩

end Views

end Run

end ScanCodes
