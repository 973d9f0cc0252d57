import LockTriage.Proofs.Files.Directories
import LockTriage.Proofs.Files.Nested
import LockTriage.Proofs.Shelf

/-!
What following a verdict comes to, by what stands at two locations: the directory of
the network and the file of the contract. Verdicts on different contracts do not look
at what the other changes, so they can be followed in either order.
-/

namespace LockTriage

namespace Shelf

variable {s : Shelf} {t t' : FileTree} {network network' : Network}
variable {address address' source source' : String} {vulnerable vulnerable' : Bool}
variable {change change' : Change} {entries : Location → Option Entry}

/-- A directory stands at the location, or there is room for one. -/
def Room (entries : Location → Option Entry) (loc : Location) : Prop :=
  entries loc = none ∨ entries loc = some .dir

instance (entries : Location → Option Entry) (loc : Location) : Decidable (Room entries loc) :=
  inferInstanceAs (Decidable (entries loc = none ∨ entries loc = some .dir))

/-- What following a verdict comes to where some entries stand; none if it fails. The
tree counts for its working directory alone. -/
def change? (s : Shelf) (t : FileTree) (network : Network) (address : String) (vulnerable : Bool)
    (entries : Location → Option Entry) : Option Change :=
  if vulnerable then
    if (s.root.Admits network.name ∧ (s.directory network).Admits (title address)) ∧
        Room entries (t.location (s.directory network)) ∧
        entries (s.spot t network address) ≠ some .dir then some .written
    else none
  else if (s.directory network).Admits (title address) then
    match entries (s.spot t network address) with
    | none => some .unchanged
    | some (.file _) => some .removed
    | some .dir => none
  else some .unchanged

/-- What stands where after a change to the file of a contract. -/
def after (s : Shelf) (t : FileTree) (network : Network) (address source : String)
    (entries : Location → Option Entry) : Change → Location → Option Entry
  | .written, loc =>
      if loc = s.spot t network address then some (.file (Bytes.ofText source))
      else if loc = t.location (s.directory network) then some .dir else entries loc
  | .removed, loc => if loc = s.spot t network address then none else entries loc
  | .unchanged, loc => entries loc

theorem change?_of_home (hHome : t'.home = t.home) :
    s.change? t' network address vulnerable entries = s.change? t network address vulnerable entries := by
  rw [change?, change?, spot_of_home hHome, FileTree.location_of_home hHome]

theorem after_of_home (hHome : t'.home = t.home) :
    s.after t' network address source entries change = s.after t network address source entries change := by
  funext loc
  cases change <;> simp only [after, spot_of_home hHome, FileTree.location_of_home hHome]

/-! ### The change that is made -/

private theorem shortName (network : Network) : network.name.utf8ByteSize ≤ FileTree.nameLimit := by
  cases network <;> decide

/-- In the directory of a network a file can be found if it is there. -/
theorem walks_directory (hNested : t.Nested) (hWalks : t.Walks s.root)
    (hThere : t.at? (s.spot t network address) ≠ none) : t.Walks (s.directory network) := by
  rw [← location_title] at hThere
  have hDir := hNested.parent _ _ hThere
  rw [location_directory] at hDir
  exact (FileTree.walks_join_iff (plain_network network)).mpr ⟨hWalks, shortName network, hDir⟩

/-- What is saved has had room for the directory and for the file. -/
private theorem saved_eq {made : FileTree} (hNested : t.Nested) (hWalks : t.Walks s.root)
    (hAddress : '/' ∉ address.toList) (hMade : s.prepare t network = (.ok (), made))
    (hWrite : made.write (s.place network address) (Bytes.ofText source) = .ok t') :
    s.change? t network address true t.at? = some .written ∧ t'.Nested ∧ t'.home = t.home ∧
      t'.at? = s.after t network address source t.at? .written := by
  have hTitle := plain_title hAddress
  have hMake := prepare_eq_ok hMade
  obtain ⟨hRoot, hDir, hHome, hMadeAt⟩ :=
    FileTree.makeDirectories_eq_ok (plain_network network) hWalks hMake
  obtain ⟨hPlace, hChild, hPut⟩ := (FileTree.write_join_iff hTitle).mp hWrite
  have hTitled := ((FileTree.place_join_iff hTitle).mp hPlace).1
  rw [FileTree.child?, FileTree.location_of_home hHome, location_title, hMadeAt] at hChild
  rw [FileTree.location_of_home hHome, location_title] at hPut
  rw [← location_directory] at hDir hMadeAt hChild
  have hApart : s.spot t network address ≠ t.location (s.directory network) := by
    rw [← location_title]
    simp
  rw [if_neg hApart] at hChild
  refine ⟨?_, (hNested.makeDirectories hMake).write hWrite, hPut ▸ hHome, ?_⟩
  · rw [change?, if_pos rfl, if_pos ⟨⟨hRoot, hTitled⟩, hDir, hChild⟩]
  · funext loc
    rw [hPut, FileTree.at?_put (by simp [spot]), hMadeAt, after]

/-- Nothing stands at the place of a file that cannot be found. -/
private theorem at?_spot_of_absent (hNested : t.Nested) (hWalks : t.Walks s.root)
    (hAddress : '/' ∉ address.toList) (hTitled : (s.directory network).Admits (title address))
    (hAbsent : t.pathExists (s.place network address) = false) :
    t.at? (s.spot t network address) = none := by
  by_contra hThere
  have hDirectory := walks_directory hNested hWalks hThere
  rw [← location_title] at hThere
  have hExists := (FileTree.pathExists_join_iff (plain_title hAddress)).mpr
    ⟨⟨hTitled, hDirectory⟩, hThere⟩
  rw [← place_eq, hAbsent] at hExists
  cases hExists

/-- A verdict that is followed makes the change that the entries ask for, and nothing
else is changed. -/
theorem update_eq_ok {notes : List Note} (hNested : t.Nested) (hWalks : t.Walks s.root)
    (hAddress : '/' ∉ address.toList)
    (h : s.update t network address source vulnerable = (.ok change, t', notes)) :
    s.change? t network address vulnerable t.at? = some change ∧ t'.Nested ∧ t'.home = t.home ∧
      t'.at? = s.after t network address source t.at? change := by
  have hTitle := plain_title hAddress
  have hCases := updated s t network address source vulnerable
  rw [h] at hCases
  cases hCases with
  | saved hMade hWrite => exact saved_eq hNested hWalks hAddress hMade hWrite
  | removed hRemove =>
      have hRemoved := hNested.removeFile hRemove
      obtain ⟨hPlace, ⟨content, hChild⟩, rfl⟩ := (FileTree.removeFile_join_iff hTitle).mp hRemove
      have hTitled := ((FileTree.place_join_iff hTitle).mp hPlace).1
      rw [FileTree.child?, location_title] at hChild
      refine ⟨?_, hRemoved, rfl, ?_⟩
      · rw [change?, if_neg Bool.false_ne_true, if_pos hTitled, hChild]
      · funext loc
        rw [location_title, FileTree.at?_dropWhere (by simp [spot]), after]
  | absent hAbsent =>
      refine ⟨?_, hNested, rfl, rfl⟩
      rw [change?, if_neg Bool.false_ne_true]
      split
      · rename_i hTitled
        rw [at?_spot_of_absent hNested hWalks hAddress hTitled hAbsent]
      · rfl

/-- A source is saved where there is room for it. -/
private theorem update_of_room (hWalks : t.Walks s.root) (hAddress : '/' ∉ address.toList)
    (hRoot : s.root.Admits network.name) (hTitled : (s.directory network).Admits (title address))
    (hDir : Room t.at? (t.location (s.directory network)))
    (hFile : t.at? (s.spot t network address) ≠ some .dir) :
    (s.update t network address source true).1 = .ok .written := by
  have hTitle := plain_title hAddress
  rw [location_directory] at hDir
  obtain ⟨made, hMake⟩ :=
    FileTree.makeDirectories_of_admits (plain_network network) hWalks hRoot hDir
  have hMade : s.prepare t network = (.ok (), made) := by
    rw [prepare, directory, hMake]
  obtain ⟨_, _, hHome, hMadeAt⟩ :=
    FileTree.makeDirectories_eq_ok (plain_network network) hWalks hMake
  have hReached := FileTree.walks_of_isDirectory (plain_network network) (prepare_isDirectory hMade)
  have hChild : made.child? (s.directory network) (title address) ≠ some .dir := by
    rw [FileTree.child?, FileTree.location_of_home hHome, location_title, hMadeAt, if_neg]
    · exact hFile
    · simp [spot]
  have hWrite : made.write (s.place network address) (Bytes.ofText source) = .ok _ :=
    (FileTree.write_join_iff hTitle).mpr
      ⟨(FileTree.place_join_iff hTitle).mpr ⟨hTitled, hReached⟩, hChild, rfl⟩
  simp only [update, save, hMade, hWrite, if_true]

/-- A file that can be found is removed. -/
private theorem update_of_file {content : Bytes} (hAddress : '/' ∉ address.toList)
    (hExists : t.pathExists (s.place network address) = true)
    (hFile : t.at? (s.spot t network address) = some (.file content)) :
    (s.update t network address source false).1 = .ok .removed := by
  have hTitle := plain_title hAddress
  have hPlace := hExists
  rw [place_eq, FileTree.pathExists_join_iff hTitle] at hPlace
  have hRemove : t.removeFile (s.place network address) = .ok _ :=
    (FileTree.removeFile_join_iff hTitle).mpr ⟨(FileTree.place_join_iff hTitle).mpr hPlace.1,
      ⟨content, by rw [FileTree.child?, location_title, hFile]⟩, rfl⟩
  simp only [update, hExists, hRemove, Bool.false_eq_true, if_false, if_true]

/-- A verdict is followed wherever the entries allow it. -/
theorem update_of_change? (hWalks : t.Walks s.root) (hAddress : '/' ∉ address.toList)
    (h : s.change? t network address vulnerable t.at? = some change) :
    ∃ change', (s.update t network address source vulnerable).1 = .ok change' := by
  unfold change? at h
  cases vulnerable with
  | true =>
      rw [if_pos rfl] at h
      split_ifs at h with hConditions
      obtain ⟨⟨hRoot, hTitled⟩, hDir, hFile⟩ := hConditions
      exact ⟨.written, update_of_room hWalks hAddress hRoot hTitled hDir hFile⟩
  | false =>
      rw [if_neg Bool.false_ne_true] at h
      cases hExists : t.pathExists (s.place network address) with
      | false => exact ⟨.unchanged, by simp only [update, hExists, Bool.false_eq_true, if_false]⟩
      | true =>
          have hPlace := hExists
          rw [place_eq, FileTree.pathExists_join_iff (plain_title hAddress)] at hPlace
          obtain ⟨⟨hTitled, _⟩, hThere⟩ := hPlace
          rw [FileTree.child?, location_title] at hThere
          rw [if_pos hTitled] at h
          split at h
          · rename_i hNone
            exact absurd hNone hThere
          · rename_i content hFile
            exact ⟨.removed, update_of_file hAddress hExists hFile⟩
          · cases h

/-! ### Verdicts on different contracts -/

section Apart

variable (hApart : (network, address) ≠ (network', address'))

private theorem room_of_written
    (h : s.change? t network address vulnerable entries = some .written) :
    Room entries (t.location (s.directory network)) := by
  unfold change? at h
  split_ifs at h with _ hConditions
  · exact hConditions.2.1
  · split at h <;> cases h
  · cases h

include hApart

private theorem spot_ne : s.spot t network' address' ≠ s.spot t network address := by
  intro hSame
  obtain ⟨rfl, rfl⟩ := spot_injective hSame
  exact hApart rfl

/-- A change asks of the entries what it asked before another contract's change. -/
theorem change?_after
    (h : s.change? t network address vulnerable entries = some change) :
    s.change? t network' address' vulnerable' (s.after t network address source entries change) =
      s.change? t network' address' vulnerable' entries := by
  have hSpot : s.after t network address source entries change (s.spot t network' address') =
      entries (s.spot t network' address') := by
    cases change with
    | written => rw [after, if_neg (spot_ne hApart), if_neg (spot_ne_directory _ _ _)]
    | removed => rw [after, if_neg (spot_ne hApart)]
    | unchanged => rfl
  have hRoom : Room (s.after t network address source entries change) (t.location (s.directory network')) ↔
      Room entries (t.location (s.directory network')) := by
    have hNe := Ne.symm (spot_ne_directory (s := s) (t := t) network network' address)
    cases change with
    | written =>
        rw [Room, after, if_neg hNe]
        split
        · -- The other change made the directory where there was room for it.
          rename_i hSame
          rw [hSame]
          exact iff_of_true (.inr rfl) (room_of_written h)
        · exact Iff.rfl
    | removed => rw [Room, after, if_neg hNe, Room]
    | unchanged => exact Iff.rfl
  simp only [change?, hSpot, hRoom]

/-- Changes to different contracts leave the same in either order. -/
theorem after_comm :
    s.after t network' address' source' (s.after t network address source entries change) change' =
      s.after t network address source (s.after t network' address' source' entries change') change := by
  have hSpots := spot_ne (s := s) (t := t) hApart
  have hFirst := spot_ne_directory (s := s) (t := t) network network' address
  have hSecond := spot_ne_directory (s := s) (t := t) network' network address'
  funext loc
  cases change <;> cases change' <;> simp only [after] <;> split_ifs <;> simp_all

end Apart

end Shelf

end LockTriage
