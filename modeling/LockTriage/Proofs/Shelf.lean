import LockTriage.Proofs.Cache.Key
import LockTriage.Proofs.Files.Footprint
import LockTriage.Shelf

/-!
What the shelf does to files. A verdict on a contract reaches one file, which
afterwards holds the source or is gone, and no two contracts share a file. A
shelf that already follows a verdict is left as it is by the same verdict.
-/

namespace LockTriage.Shelf

variable {s : Shelf} {t t' : FileTree} {network network' : Network}
variable {address address' source : String} {vulnerable : Bool}

/-- The name of the file of a contract in the directory of its network. -/
def title (address : String) : String := s!"{address}.{extension}"

/-- Where the source of a contract is kept. -/
def spot (s : Shelf) (t : FileTree) (network : Network) (address : String) : Location :=
  t.location s.root ++ [network.name, title address]

/-- The saved source of a contract. -/
def kept? (s : Shelf) (t : FileTree) (network : Network) (address : String) : Option Bytes :=
  t.file? (s.directory network) (title address)

/-- A source is kept in its network's directory under the title of its address. -/
theorem place_eq (s : Shelf) (network : Network) (address : String) :
    s.place network address = (s.directory network).join (title address) := rfl

/-! ### Names -/

theorem plain_network (network : Network) : Path.Plain network.name := by
  cases network <;> exact ⟨by decide, by decide, by decide, by decide⟩

theorem toList_title (address : String) :
    (title address).toList = address.toList ++ ['.', 'v', 'y'] := by
  simp [title, extension, toString]

/-- The title of an address without slash is one plain name. -/
theorem plain_title (h : '/' ∉ address.toList) : Path.Plain (title address) := by
  have hText := toList_title address
  have hNe (name : String) (hShort : name.toList.length < 3) : title address ≠ name := by
    rintro rfl
    simp only [hText, List.length_append, List.length_cons] at hShort
    omega
  refine ⟨hNe "" (by decide), ?_, hNe "." (by decide), hNe ".." (by decide)⟩
  rw [hText, List.mem_append, not_or]
  exact ⟨h, by decide⟩

/-- Distinct addresses have distinct titles. -/
theorem title_injective (h : title address = title address') : address = address' := by
  have hChars := congrArg String.toList h
  rw [toList_title, toList_title] at hChars
  exact String.toList_injective (List.append_cancel_right hChars)

theorem getLast?_title (address : String) : (title address).toList.getLast? = some 'y' := by
  rw [toList_title]
  simp

/-- A network's directory is one step below the root of the shelf. -/
theorem location_directory (s : Shelf) (t : FileTree) (network : Network) :
    t.location (s.directory network) = t.location s.root ++ [network.name] :=
  FileTree.location_join t s.root (plain_network network)

/-- The spot of a source is one step below its network's directory. -/
theorem location_title (s : Shelf) (t : FileTree) (network : Network) (address : String) :
    t.location (s.directory network) ++ [title address] = s.spot t network address := by
  rw [location_directory, spot, List.append_assoc]
  rfl

/-- Spots depend on the working directory, and on nothing in the tree. -/
theorem spot_of_home (h : t'.home = t.home) : s.spot t' network address = s.spot t network address := by
  rw [spot, spot, FileTree.location_of_home h]

/-- No two contracts share a file. -/
theorem spot_injective (h : s.spot t network address = s.spot t network' address') :
    network = network' ∧ address = address' := by
  have hNames := List.append_cancel_left h
  simp only [List.cons.injEq, and_true] at hNames
  exact ⟨CacheKey.name_injective hNames.1, title_injective hNames.2⟩

/-- No contract has its file in the place of a directory of the shelf. -/
theorem spot_ne_directory (network network' : Network) (address : String) :
    s.spot t network address ≠ t.location (s.directory network') := by
  intro hSame
  have hLength := congrArg List.length hSame
  rw [location_directory] at hLength
  simp [spot] at hLength

/-- What is kept for an address is what the tree has at its spot, if the directory admits its title.
-/
theorem kept?_eq (s : Shelf) (t : FileTree) (network : Network) (address : String) :
    s.kept? t network address =
      if (s.directory network).Admits (title address) then t.content? (s.spot t network address)
      else none := by
  rw [kept?, FileTree.file?, location_title]

theorem spot_below (s : Shelf) (t : FileTree) (network : Network) (address : String) :
    t.location s.root <+: s.spot t network address := List.prefix_append _ _

/-- Where the directory of a network can be reached, its files are read as they are kept. -/
theorem read_place_iff {content : Bytes} (hAddress : '/' ∉ address.toList)
    (hWalks : t.Walks (s.directory network)) :
    t.read (s.place network address) = .ok content ↔ s.kept? t network address = some content := by
  have hTitle := plain_title hAddress
  rw [place_eq, FileTree.read_join_iff hTitle, FileTree.place_join_iff hTitle, kept?, FileTree.file?]
  by_cases hAdmits : (s.directory network).Admits (title address)
  · rw [if_pos hAdmits, FileTree.content?_eq_some_iff]
    exact ⟨fun h => h.2, fun h => ⟨⟨hAdmits, hWalks⟩, h⟩⟩
  · simp [hAdmits]

/-! ### Making directories -/

/-- Preparing a network's directory removes and changes nothing. -/
theorem prepare_grown {done : Except ScanError Unit} (h : s.prepare t network = (done, t')) :
    FileTree.Grown t t' := by
  unfold prepare at h
  split at h
  · rename_i hMade
    cases h
    exact FileTree.makeDirectories_grown hMade
  · rename_i hMade
    cases h
    exact FileTree.makeDirectories_grown hMade

theorem prepare_eq_ok (h : s.prepare t network = (.ok (), t')) :
    t.makeDirectories (s.directory network) = (.ok (), t') := by
  unfold prepare at h
  split at h
  · cases h
  · rename_i hMade
    cases h
    exact hMade

/-- A network's directory is there once it has been prepared. -/
theorem prepare_isDirectory (h : s.prepare t network = (.ok (), t')) :
    t'.isDirectory (s.directory network) = true :=
  FileTree.makeDirectories_isDirectory (plain_network network) (prepare_eq_ok h)

/-- A directory that is there is not made again. -/
theorem prepare_of_isDirectory (h : t.isDirectory (s.directory network) = true) :
    s.prepare t network = (.ok (), t) := by
  have hMade : t.makeDirectories (s.directory network) = (.ok (), t) :=
    FileTree.makeDirectories_of_isDirectory (plain_network network) h
  rw [prepare, hMade]

/-- Where the root can be walked, preparing alters at most the network's directory. -/
theorem prepare_alters (hWalks : t.Walks s.root) (h : s.prepare t network = (.ok (), t')) :
    FileTree.Alters (· = t.location s.root ++ [network.name]) t t' :=
  FileTree.makeDirectories_alters (plain_network network) hWalks (prepare_eq_ok h)

/-! ### Following a verdict -/

/-- What following a verdict can come to. -/
inductive Updated (s : Shelf) (t : FileTree) (network : Network) (address source : String) :
    Bool → Except ScanError Change × FileTree × List Note → Prop where
  | saved {made t' : FileTree} (hMade : s.prepare t network = (.ok (), made))
      (hWrite : made.write (s.place network address) (Bytes.ofText source) = .ok t') :
      Updated s t network address source true
        (.ok .written, t', [.sourceSaved (s.place network address)])
  | removed {t' : FileTree} (hRemove : t.removeFile (s.place network address) = .ok t') :
      Updated s t network address source false
        (.ok .removed, t', [.sourceRemoved (s.place network address)])
  | absent (hAbsent : t.pathExists (s.place network address) = false) :
      Updated s t network address source false (.ok .unchanged, t, [])
  | failed {vulnerable : Bool} {e : ScanError} {t' : FileTree} (hGrown : FileTree.Grown t t') :
      Updated s t network address source vulnerable (.error e, t', [])

/-- What an update comes to is one of the cases of `Updated`. -/
theorem updated (s : Shelf) (t : FileTree) (network : Network) (address source : String)
    (vulnerable : Bool) :
    Updated s t network address source vulnerable
      (s.update t network address source vulnerable) := by
  cases vulnerable with
  | true =>
      rcases hMade : s.prepare t network with ⟨done, made⟩
      have hGrown := prepare_grown hMade
      cases done with
      | error e =>
          simp only [update, save, hMade, if_true]
          exact .failed hGrown
      | ok _ =>
          cases hWrite : made.write (s.place network address) (Bytes.ofText source) with
          | error fault =>
              simp only [update, save, hMade, hWrite, if_true]
              exact .failed hGrown
          | ok t' =>
              simp only [update, save, hMade, hWrite, if_true]
              exact .saved hMade hWrite
  | false =>
      cases hExists : t.pathExists (s.place network address) with
      | false =>
          simp only [update, hExists, Bool.false_eq_true, if_false]
          exact .absent hExists
      | true =>
          cases hRemove : t.removeFile (s.place network address) with
          | error fault =>
              simp only [update, hExists, hRemove, Bool.false_eq_true, if_false, if_true]
              exact .failed (FileTree.Grown.refl t)
          | ok t' =>
              simp only [update, hExists, hRemove, Bool.false_eq_true, if_false, if_true]
              exact .removed hRemove

/-- A verdict on a contract touches no file but its own. -/
theorem update_touches (s : Shelf) (t : FileTree) (network : Network) (h : '/' ∉ address.toList)
    (source : String) (vulnerable : Bool) :
    FileTree.Touches (· = s.spot t network address) t
      (s.update t network address source vulnerable).2.1 := by
  have hTitle := plain_title h
  have hCases := updated s t network address source vulnerable
  generalize s.update t network address source vulnerable = result at hCases ⊢
  cases hCases with
  | @saved made t' hMade hWrite =>
      have hGrown := prepare_grown hMade
      have hAlters := FileTree.write_alters hTitle hWrite
      rw [FileTree.location_of_home hGrown.home, location_title] at hAlters
      exact hGrown.touches.trans hAlters.touches
  | removed hRemove =>
      have hAlters := FileTree.removeFile_alters hTitle hRemove
      rw [location_title] at hAlters
      exact hAlters.touches
  | absent => exact FileTree.Touches.refl t
  | failed hGrown => exact hGrown.touches

/-- Below a network's directory that is there, a verdict alters one location. -/
theorem update_alters (hDir : t.isDirectory (s.directory network) = true)
    (h : '/' ∉ address.toList) {change : Change} {notes : List Note}
    (hUpdate : s.update t network address source vulnerable = (.ok change, t', notes)) :
    FileTree.Alters (· = s.spot t network address) t t' := by
  have hTitle := plain_title h
  have hCases := updated s t network address source vulnerable
  rw [hUpdate] at hCases
  cases hCases with
  | saved hMade hWrite =>
      rw [prepare_of_isDirectory hDir] at hMade
      cases hMade
      have hAlters := FileTree.write_alters hTitle hWrite
      rwa [location_title] at hAlters
  | removed hRemove =>
      have hAlters := FileTree.removeFile_alters hTitle hRemove
      rwa [location_title] at hAlters
  | absent => exact FileTree.Alters.refl t

/-- The shelf has what a verdict asks for: the source of a vulnerable contract
word for word, and nothing in the place of one that is not. -/
structure Holds (s : Shelf) (t : FileTree) (network : Network) (address source : String)
    (vulnerable : Bool) : Prop where
  directory : t.isDirectory (s.directory network) = true
  saved : vulnerable = true → t.read (s.place network address) = .ok (Bytes.ofText source)
  absent : vulnerable = false → t.pathExists (s.place network address) = false

/-- A shelf that holds a verdict keeps the source just if it is vulnerable. -/
theorem Holds.kept? (h : s.Holds t network address source vulnerable)
    (hAddress : '/' ∉ address.toList) :
    s.kept? t network address = if vulnerable then some (Bytes.ofText source) else none := by
  have hTitle := plain_title hAddress
  cases vulnerable with
  | true => exact FileTree.file?_of_read hTitle (h.saved rfl)
  | false =>
      have hWalks := FileTree.walks_of_isDirectory (plain_network network) h.directory
      exact FileTree.file?_of_not_pathExists hTitle hWalks (h.absent rfl)

/-- After a verdict the shelf has what the verdict asks for. -/
theorem holds_update (hDir : t.isDirectory (s.directory network) = true)
    (hAddress : '/' ∉ address.toList) {change : Change} {notes : List Note}
    (hUpdate : s.update t network address source vulnerable = (.ok change, t', notes)) :
    s.Holds t' network address source vulnerable := by
  have hTitle := plain_title hAddress
  have hKeeps := (update_alters hDir hAddress hUpdate).toKeepsDirectories
  have hDir' := hKeeps.isDirectory (plain_network network) hDir
  have hCases := updated s t network address source vulnerable
  rw [hUpdate] at hCases
  cases hCases with
  | saved hMade hWrite => exact ⟨hDir', fun _ => FileTree.read_write_same hTitle hWrite, by simp⟩
  | removed hRemove =>
      refine ⟨hDir', by simp, fun _ => ?_⟩
      rw [← Bool.not_eq_true, place_eq, FileTree.pathExists_join_iff hTitle]
      exact fun hExists => hExists.2 (FileTree.child?_removeFile hTitle hRemove)
  | absent hAbsent => exact ⟨hDir', by simp, fun _ => hAbsent⟩

/-- A shelf that follows a verdict already is not changed by it. -/
theorem Holds.update (h : s.Holds t network address source vulnerable)
    (hAddress : '/' ∉ address.toList) :
    ∃ notes, s.update t network address source vulnerable =
      (.ok (if vulnerable then .written else .unchanged), t, notes) := by
  have hTitle := plain_title hAddress
  cases vulnerable with
  | true =>
      have hRead := h.saved rfl
      obtain ⟨hPlace, hChild⟩ := (FileTree.read_join_iff hTitle).mp hRead
      have hWrite : t.write (s.place network address) (Bytes.ofText source) = .ok t := by
        refine (FileTree.write_join_iff hTitle).mpr ⟨hPlace, by simp [hChild], ?_⟩
        exact (FileTree.put_self hChild).symm
      refine ⟨[.sourceSaved (s.place network address)], ?_⟩
      simp only [Shelf.update, save, prepare_of_isDirectory h.directory, hWrite, if_true]
  | false =>
      refine ⟨[], ?_⟩
      simp only [Shelf.update, h.absent rfl, Bool.false_eq_true, if_false]

/-- Changes elsewhere leave the shelf with what it has. -/
theorem Holds.of_alters {S : Location → Prop} (h : s.Holds t network address source vulnerable)
    (hAddress : '/' ∉ address.toList) (hAlters : FileTree.Alters S t t')
    (hSpot : ¬ S (s.spot t network address)) :
    s.Holds t' network address source vulnerable := by
  have hTitle := plain_title hAddress
  have hHome := hAlters.home
  have hWalks := FileTree.walks_of_isDirectory (plain_network network) h.directory
  have hChild : t'.child? (s.directory network) (title address) =
      t.child? (s.directory network) (title address) := by
    rw [FileTree.child?, FileTree.child?, FileTree.location_of_home hHome, location_title,
      hAlters.same _ hSpot]
  refine ⟨hAlters.toKeepsDirectories.isDirectory (plain_network network) h.directory, ?_, ?_⟩
  · intro hVulnerable
    refine hAlters.touches.read ?_ (h.saved hVulnerable)
    rwa [place_eq, FileTree.location_join t _ hTitle, location_title]
  · intro hSafe
    have hAbsent := h.absent hSafe
    rw [← Bool.not_eq_true, place_eq, FileTree.pathExists_join_iff hTitle] at hAbsent ⊢
    rintro ⟨⟨hAdmits, _⟩, hSome⟩
    exact hAbsent ⟨⟨hAdmits, hWalks⟩, hChild ▸ hSome⟩

end LockTriage.Shelf
