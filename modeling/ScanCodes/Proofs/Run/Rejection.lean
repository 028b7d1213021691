import ScanCodes.Proofs.Run.Session

/-!
# Rejected tables

A table can be rejected for what is in it, or because its bytes are no text. The rows of the bytes
are denied either way, but a run does not get as far as the rows: it reads its input as text first,
and what is no text counts as a file that cannot be read. So the exit code tells the two apart.

## Main definitions

* `Run.rejection`: what a run says of an input that has no rows.

## Main results

* `Run.perform_readTable_of_rejected`: a table without rows is rejected, and for which reason.
* `Run.exitCode_eq_one_iff_isText`: the exit code of a run with such a table.
-/

namespace ScanCodes

namespace Run

open Disk Text.Utf8

/-- What a run says of an input that has no rows: that the table is wrong, if it is a text. -/
def rejection (input : Path) (bytes : List UInt8) (why : TableError) : InputError :=
  if IsText bytes then .invalid input why else .unreadable input .notText

theorem exitCode_rejection (input : Path) (bytes : List UInt8) (why : TableError) :
    Outcome.exitCode { result := .error (.input (rejection input bytes why)) }
      = if IsText bytes then 1 else 2 := by
  rw [rejection]
  split <;> rfl

section Rejection

variable {d : Disk} {input : Path} {bytes : List UInt8} {why : TableError}

/-- **A table without rows is rejected.** -/
theorem perform_readTable_of_rejected (hread : d.read input = .ok bytes)
    (hrows : Table.rows bytes = .error why) :
    d.perform (readTable input) = (.error (rejection input bytes why), d) := by
  refine Prod.ext ?_ (readsOnly_readTable input d)
  rw [perform_readTable, rejection]
  by_cases htext : IsText bytes
  · obtain ⟨table, rfl⟩ := htext
    rw [perform_readText_eq_ok_iff.2 hread, if_pos ⟨table, rfl⟩]
    dsimp only
    rw [Generation.ofTable, hrows]
    rfl
  · rw [perform_readText_of_not_isText hread htext, if_neg htext]

/-- A run ends where its table is rejected. -/
theorem perform_generate_of_rejected {r : Request} {c : Config} {header source : Path}
    (hread : d.read r.input = .ok bytes) (hrows : Table.rows bytes = .error why) :
    d.perform (generate c r header source)
      = ({ result := .error (.input (rejection r.input bytes why)) }, d) := by
  rw [generate, perform_bind, perform_readTable_of_rejected hread hrows]
  rfl

/-- **The exit code for a table without rows** is that of a wrong table exactly if it is a text.
Whether it is or not, the disk is left as it was. -/
theorem exitCode_eq_one_iff_isText {r : Request} {c : Config} {header source : Path}
    (hload : (d.perform (Config.load r.config)).1 = .ok c)
    (hheader : c.headerPath? r.header = some header)
    (hsource : c.sourcePath? r.source = some source) (hdiffer : header.same source = false)
    (hread : d.read r.input = .ok bytes) (hrows : Table.rows bytes = .error why) :
    (d.perform (execute r)).2 = d ∧
      ((d.perform (execute r)).1.exitCode = 1 ↔ IsText bytes) ∧
      ((d.perform (execute r)).1.exitCode = 2 ↔ ¬ IsText bytes) := by
  rw [perform_execute_of_outputs hload (outputs_eq_ok_iff.2 ⟨hheader, hsource, hdiffer⟩),
    perform_generate_of_rejected hread hrows, exitCode_rejection]
  refine ⟨rfl, ?_⟩
  split
  · next htext => simp [htext]
  · next htext => simp [htext]

/-- A disk with a table in the place where `request` looks for it. -/
def holding (bytes : List UInt8) : Disk :=
  Disk.set {} ["t.csv"] (.file bytes)

/-- A row with a field too few is a wrong table. -/
theorem exitCode_eq_one_iff_isText_short_row :
    let bytes := encode "codes,name,char\n1,A\n"
    ((holding bytes).perform (Config.load request.config)).1 = .ok {} ∧
      Config.headerPath? {} request.header = some ⟨"k.h"⟩ ∧
      Config.sourcePath? {} request.source = some ⟨"k.c"⟩ ∧ Path.same ⟨"k.h"⟩ ⟨"k.c"⟩ = false ∧
      (holding bytes).read request.input = .ok bytes ∧
      Table.rows bytes = .error (.malformed 2 2) ∧ IsText bytes ∧
      ((holding bytes).perform (execute request)).2 = holding bytes ∧
      ((holding bytes).perform (execute request)).1.exitCode = 1 := by
  intro bytes
  have hload : ((holding bytes).perform (Config.load request.config)).1 = .ok {} := by decide
  have hread : (holding bytes).read request.input = .ok bytes := by decide
  have hrows : Table.rows bytes = .error (.malformed 2 2) := by decide +kernel
  have htext : IsText bytes := ⟨_, rfl⟩
  obtain ⟨hdisk, hcode, -⟩ :=
    exitCode_eq_one_iff_isText hload rfl rfl (by decide) hread hrows
  exact ⟨hload, rfl, rfl, by decide, hread, hrows, htext, hdisk, hcode.2 htext⟩

/-- A byte that belongs to no text is not found out as a wrong table, though it gives no rows. -/
theorem exitCode_execute_not_isText :
    let bytes := encode "codes,name,char\n1," ++ [0xFF] ++ encode ",a\n"
    ((holding bytes).perform (Config.load request.config)).1 = .ok {} ∧
      outputs {} request = .ok (⟨"k.h"⟩, ⟨"k.c"⟩) ∧
      (holding bytes).read request.input = .ok bytes ∧
      Table.rows bytes = .error (.undecodable 1 ⟨16, 2⟩ 1 0) ∧
      ((holding bytes).perform (execute request)).1.exitCode = 2 := by
  decide +kernel

end Rejection

end Run

end ScanCodes
