import LockTriage.Proofs.Export.Lines
import LockTriage.Proofs.Files.Footprint
import LockTriage.Settings.Basic

/-!
The records of an export. Each has the network of the export and an address that
names a file in a directory, and they stay the same while the export is there.
-/

namespace LockTriage

/-- The record was read from an export of the network. -/
structure Record.Proper (network : Network) (record : Record) : Prop where
  network : record.network = network
  plain : Export.isPlainAddress record.address.toList = true

theorem Record.Proper.noSeparator {network : Network} {record : Record}
    (h : record.Proper network) : '/' ∉ record.address.toList :=
  (Export.isPlainAddress_iff.mp h.plain).2.1

theorem Record.Proper.address_ne_nil {network : Network} {record : Record}
    (h : record.Proper network) : record.address.toList ≠ [] :=
  (Export.isPlainAddress_iff.mp h.plain).1

namespace Export

variable {network : Network} {path : Path} {records : List Record} {t t' : FileTree}

theorem plain_of_fields? {row : List Char} {address version : String}
    (h : fields? row = some (address, version)) : isPlainAddress address.toList = true := by
  unfold fields? at h
  split at h
  · cases h
  · split at h
    · rename_i hPlain
      cases h
      rwa [String.toList_ofList]
    · cases h

/-- Every record of an accepted text is of its network and has a plain address. -/
theorem proper_of_parse {text : String} (h : parse network path text = .ok records) :
    ∀ r ∈ records, r.Proper network := by
  have hTells := parse_eq_ok_iff.mp h
  have hProper : List.Forall₂ (fun r line => r.Proper network ∧ Tells network line r) records _ :=
    (hTells.imp fun line r hTell => ⟨⟨hTell.network, plain_of_fields? hTell.fields⟩, hTell⟩).flip
  exact ((List.forall₂_and_left _ _).mp hProper).1

/-- An export with this address is accepted. -/
def Accepts (address : String) : Prop :=
  ∃ network path text records, parse network path text = .ok records ∧
    ∃ r ∈ records, r.address = address

/-- Accepted addresses name files. -/
theorem Accepts.plain {address : String} (h : Accepts address) :
    address ≠ "" ∧ '/' ∉ address.toList := by
  obtain ⟨network, path, text, records, hParse, r, hMem, rfl⟩ := h
  have hProper := proper_of_parse hParse r hMem
  exact ⟨fun hEmpty => hProper.address_ne_nil (by simp [hEmpty]), hProper.noSeparator⟩

/-- Every record of an export is of its network and has a plain address. -/
theorem proper_of_load (h : load t network path = .ok records) : ∀ r ∈ records, r.Proper network := by
  unfold load at h
  split at h
  · cases h
  · exact proper_of_parse h

/-- The location is that of no export: its name does not end like one. -/
def NotExport (loc : Location) : Prop := ∀ name ∈ loc.getLast?, name.toList.getLast? ≠ some 'v'

theorem notExport_append {loc : Location} {name : String}
    (h : name.toList.getLast? ≠ some 'v') : NotExport (loc ++ [name]) := by
  intro last hLast
  rw [List.getLast?_concat] at hLast
  cases hLast
  exact h

end Export

namespace Settings

variable {s : Settings} {network : Network} {t t' : FileTree}

private theorem plain_exportName (network : Network) : Path.Plain s!"{network.name}.csv" := by
  cases network <;> exact ⟨by decide, by decide, by decide, by decide⟩

theorem not_notExport_exportPath (s : Settings) (t : FileTree) (network : Network) :
    ¬ Export.NotExport (t.location (s.exportPath network)) := by
  intro h
  have hLast : (s!"{network.name}.csv").toList.getLast? = some 'v' := by
    cases network <;> decide
  rw [exportPath, FileTree.location_join t _ (plain_exportName network)] at h
  exact h _ List.getLast?_concat hLast

/-- Where no export is touched, an export that is there is read as before. -/
theorem load_of_touches (h : FileTree.Touches Export.NotExport t t')
    (hFile : t.isFile (s.exportPath network) = true) :
    t'.isFile (s.exportPath network) = true ∧
      Export.load t' network (s.exportPath network) = Export.load t network (s.exportPath network) := by
  obtain ⟨content, hRead⟩ := FileTree.isFile_iff.mp hFile
  have hRead' := h.read (s.not_notExport_exportPath t network) hRead
  refine ⟨FileTree.isFile_iff.mpr ⟨content, hRead'⟩, ?_⟩
  rw [Export.load, Export.load, FileTree.readText, FileTree.readText, hRead, hRead']

end Settings

end LockTriage
