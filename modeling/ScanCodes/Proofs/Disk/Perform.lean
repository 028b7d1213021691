import ScanCodes.Proofs.Disk.Slot
import ScanCodes.Proofs.Text.Utf8

/-!
# Programs on a disk

A program that makes calls is followed one call at a time. A call succeeds or is refused according
to the slots of its paths, and one that is refused leaves the disk alone, for whatever reason it
gives.

## Main results

* `Disk.perform_bind`: one call after another.
* `Disk.perform_write_of_puts`, `Disk.perform_rename_of_moves`, `Disk.perform_remove`: the calls.
* `Disk.perform_write_of_not_isFree`, `Disk.perform_rename_of_not`: their refusals.
* `Disk.perform_readText_eq_ok_iff`: a file is read as text if its bytes are those of the text.
-/

namespace ScanCodes

namespace Disk

variable {d d' : Disk} {p q : Path}

theorem perform_pure {α : Type} (d : Disk) (a : α) : d.perform (pure a) = (a, d) := rfl

theorem perform_bind {α β : Type} (d : Disk) (x : StateM Disk α) (f : α → StateM Disk β) :
    d.perform (x >>= f) = (d.perform x).2.perform (f (d.perform x).1) := rfl

theorem perform_read (d : Disk) (p : Path) : d.perform (Files.read p) = (d.read p, d) := rfl

theorem perform_isFile (d : Disk) (p : Path) : d.perform (Files.isFile p) = (d.isFile p, d) := rfl

/-- A file is read as the text of which it holds the bytes. -/
theorem perform_readText_eq_ok_iff {s : String} :
    (d.perform (Files.readText p)).1 = .ok s ↔ d.read p = .ok (Text.Utf8.encode s) := by
  rw [Files.readText, perform_bind, perform_read]
  cases hbytes : d.read p with
  | error why => exact ⟨nofun, nofun⟩
  | ok bytes =>
    dsimp only
    rw [Except.ok.injEq, eq_comm (a := bytes), ← Text.Utf8.decode?_eq_some_iff]
    cases htext : Text.Utf8.decode? bytes with
    | none => exact ⟨nofun, nofun⟩
    | some text => simp [perform_pure]

/-- Any other bytes are refused. -/
theorem perform_readText_of_not_isText {bytes : List UInt8} (hread : d.read p = .ok bytes)
    (h : ¬ Text.Utf8.IsText bytes) : (d.perform (Files.readText p)).1 = .error .notText := by
  rw [Files.readText, perform_bind, perform_read, hread]
  dsimp only
  rw [Text.Utf8.decode?_eq_none_iff.2 h]
  rfl

theorem perform_write_of_puts {content : List UInt8} (h : d.Puts (d.slot? p) content d') :
    d.perform (Files.write p content) = (.ok (), d') := by
  change d.outcome (d.write p content) = _
  rw [write_eq_ok_iff.2 h, outcome]

theorem perform_write_of_not_isFree (content : List UInt8) (h : ¬ d.IsFree (d.slot? p)) :
    ∃ why, d.perform (Files.write p content) = (.error why, d) := by
  change ∃ why, d.outcome (d.write p content) = _
  cases hwrite : d.write p content with
  | ok d' => exact absurd (write_eq_ok_iff.1 hwrite).isFree h
  | error why => exact ⟨why, rfl⟩

theorem perform_rename_of_moves (h : d.Moves (d.slot? p) (d.slot? q) d') :
    d.perform (Files.rename p q) = (.ok (), d') := by
  change d.outcome (d.rename p q) = _
  rw [rename_eq_ok_iff.2 h, outcome]

theorem perform_rename_of_not (h : ¬ (d.HasFile (d.slot? p) ∧ d.IsFree (d.slot? q))) :
    ∃ why, d.perform (Files.rename p q) = (.error why, d) := by
  change ∃ why, d.outcome (d.rename p q) = _
  cases hrename : d.rename p q with
  | ok d' => exact absurd (exists_moves_iff.1 ⟨d', rename_eq_ok_iff.1 hrename⟩) h
  | error why => exact ⟨why, rfl⟩

theorem perform_remove (d : Disk) (p : Path) :
    (d.perform (Files.remove p)).2 = d.drop (d.slot? p) := by
  change (d.outcome (d.remove p)).2 = _
  cases hremove : d.remove p with
  | ok d' =>
    obtain ⟨l, content, hslot, hl, rfl⟩ := remove_eq_ok_iff.1 hremove
    rw [hslot, drop_eq_unset hl, outcome]
  | error why =>
    have hfile : ¬ d.HasFile (d.slot? p) := by
      rintro ⟨l, content, hslot, hl⟩
      rw [remove_eq_ok_iff.2 ⟨l, content, hslot, hl, rfl⟩] at hremove
      cases hremove
    rw [drop_eq_self hfile, outcome]

end Disk

end ScanCodes
