import ScanCodes.Proofs.Generation.Fidelity
import ScanCodes.Proofs.Table.Writing

/-!
# The generated files can only be read in one way

Scan codes, identifiers and literals are put between the fixed words of the two formats as they are.
Whatever a table holds, the readers find in each file the entries of its map and no others, and
which entries these are is a matter of which row has spoken last. So a file determines the map that
it was made from, and nothing in a table can pass for an entry or keep one from being read.

## Main definitions

* `Keymap.ofEntries`: the keymap of the entries of a table.
* `Keymap.artifacts`: the files of a keymap.

## Main results

* `Keymap.artifacts_eq_iff`: two keymaps whose files can be read have the same files only if their
  maps are the same.
* `Keymap.legible`: the files of any table can be read, and determine its maps.
-/

namespace ScanCodes

theorem Table.Entry.isSplit_row (e : Table.Entry) : e.row.IsSplit :=
  Row.isSplit_ofFields e.codes e.name e.literal

namespace Keymap

/-- The keymap of the entries of a table. -/
def ofEntries (entries : List Table.Entry) : Keymap :=
  ofRows (entries.map Table.Entry.row)

/-- The files of a keymap. -/
def artifacts (m : Keymap) : Artifacts :=
  .ofMaps m.keys m.chars

/-- Both files can be read, and what is read are the entries of the maps. -/
structure IsLegible (m : Keymap) : Prop where
  read?_header : Artifact.Header.read? m.artifacts.header = some m.keys.entries
  read?_source : Artifact.Source.read? m.artifacts.source = some m.chars.entries

theorem isLegible_ofEntries (entries : List Table.Entry) : (ofEntries entries).IsLegible := by
  have hsplit : ∀ row ∈ entries.map Table.Entry.row, row.IsSplit := by
    intro row hrow
    obtain ⟨e, -, rfl⟩ := List.mem_map.1 hrow
    exact e.isSplit_row
  exact ⟨Keymap.read?_header hsplit, Keymap.read?_source _⟩

/-- Files that can be read are the same only if the maps are. -/
theorem artifacts_eq_iff {m n : Keymap} (hm : m.IsLegible) (hn : n.IsLegible) :
    m.artifacts = n.artifacts ↔ m.keys = n.keys ∧ m.chars = n.chars := by
  constructor
  · intro h
    have hkeys : some m.keys.entries = some n.keys.entries := by
      rw [← hm.read?_header, h, hn.read?_header]
    have hchars : some m.chars.entries = some n.chars.entries := by
      rw [← hm.read?_source, h, hn.read?_source]
    exact ⟨SortedMap.eq_of_entries_eq (Option.some.inj hkeys),
      SortedMap.eq_of_entries_eq (Option.some.inj hchars)⟩
  · rintro ⟨hkeys, hchars⟩
    rw [artifacts, artifacts, hkeys, hchars]

/-- **The files of a table can be read, and only in one way.** The readers are functions of a text
alone. They find the entries of the two maps in their order, an entry is found if and only if the
last row that speaks of its key says so, and other entries give the same files only if they give the
same maps. -/
theorem legible (entries : List Table.Entry) :
    Artifact.Header.read? (Artifact.Header.render (ofEntries entries).keys)
        = some (ofEntries entries).keys.entries ∧
      Artifact.Source.read? (Artifact.Source.render (ofEntries entries).chars)
        = some (ofEntries entries).chars.entries ∧
      (∀ code i, (code, i) ∈ (ofEntries entries).keys.entries ↔
        ((entries.map Table.Entry.row).filterMap Row.key?).reverse.lookup code = some i) ∧
      (∀ i literal, (i, literal) ∈ (ofEntries entries).chars.entries ↔
        ((entries.map Table.Entry.row).filterMap Row.char?).reverse.lookup i = some literal) ∧
      ∀ others, (ofEntries others).artifacts = (ofEntries entries).artifacts ↔
        (ofEntries others).keys = (ofEntries entries).keys ∧
          (ofEntries others).chars = (ofEntries entries).chars := by
  have hlegible := isLegible_ofEntries entries
  refine ⟨hlegible.read?_header, hlegible.read?_source, fun code i => ?_, fun i literal => ?_,
    fun others => artifacts_eq_iff (isLegible_ofEntries others) hlegible⟩
  · rw [SortedMap.mem_entries_iff, ofEntries, get?_keys_ofRows]
  · rw [SortedMap.mem_entries_iff, ofEntries, get?_chars_ofRows]

end Keymap

end ScanCodes
