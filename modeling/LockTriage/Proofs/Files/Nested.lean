import LockTriage.Proofs.Files.Footprint
import LockTriage.Proofs.Result

/-!
Trees in which everything stands in a directory, as on a machine. Making directories
and writing and removing files keeps a tree that way.
-/

namespace LockTriage.FileTree

variable {t t' : FileTree} {p : Path} {name : String} {loc last : Location}

/-- The working directory is there, and whatever there is stands in a directory. -/
structure Nested (t : FileTree) : Prop where
  home : t.at? t.home = some .dir
  parent : ∀ loc name, t.at? (loc ++ [name]) ≠ none → t.at? loc = some .dir

theorem Nested.dropLast (h : t.Nested) (hDir : t.at? loc = some .dir) :
    t.at? loc.dropLast = some .dir := by
  rcases List.eq_nil_or_concat loc with rfl | ⟨up, name, rfl⟩
  · exact hDir
  · rw [List.concat_eq_append] at hDir ⊢
    rw [List.dropLast_concat]
    exact h.parent up name (by simp [hDir])

/-- In a nested tree a name that is entered leads to a directory. -/
theorem Nested.enter (h : t.Nested) (hDir : t.at? loc = some .dir)
    (hEnter : t.enter loc name = .ok last) : t.at? last = some .dir := by
  unfold FileTree.enter at hEnter
  split_ifs at hEnter
  · cases hEnter
    exact hDir
  · cases hEnter
    exact h.dropLast hDir
  · split at hEnter
    · cases hEnter
    · cases hEnter
    · cases hEnter
      assumption

/-- In a nested tree a way that is walked leads to a directory. -/
theorem Nested.walk (h : t.Nested) {names : List String} (hDir : t.at? loc = some .dir)
    (hWalk : names.foldlM t.enter loc = .ok last) : t.at? last = some .dir := by
  induction names generalizing loc with
  | nil =>
      cases hWalk
      exact hDir
  | cons name names ih =>
      rw [List.foldlM_cons] at hWalk
      cases hEnter : t.enter loc name with
      | error fault =>
          rw [hEnter] at hWalk
          cases hWalk
      | ok next =>
          rw [hEnter] at hWalk
          exact ih (h.enter hDir hEnter) hWalk

/-- A path leads to names in directories only. -/
theorem Nested.place (h : t.Nested) {parent : Location} {slash : Bool}
    (hPlace : t.place p = .ok (.entry parent name slash)) : t.at? parent = some .dir := by
  have hStart : t.at? (if p.isAbsolute then [] else t.home) = some .dir := by
    split
    · rfl
    · exact h.home
  exact h.walk hStart (place_eq_entry hPlace).2.2

/-! ### Operations -/

/-- A nested tree is nested with one more entry in a directory. -/
theorem Nested.put (h : t.Nested) (hDir : t.at? loc = some .dir)
    (hOld : t.at? (loc ++ [name]) ≠ some .dir) (e : Entry) : (t.put (loc ++ [name]) e).Nested := by
  have hKept {other : Location} (hOther : t.at? other = some .dir) :
      (t.put (loc ++ [name]) e).at? other = some .dir := by
    rw [at?_put (by simp), if_neg ?_, hOther]
    rintro rfl
    exact hOld hOther
  refine ⟨hKept h.home, fun other child hChild => hKept ?_⟩
  rw [at?_put (by simp)] at hChild
  split at hChild
  · rename_i hSame
    rw [(List.append_inj' hSame rfl).1]
    exact hDir
  · exact h.parent other child hChild

/-- A file is written under a name that no directory has. -/
theorem write_eq_ok {content : Bytes} (h : t.write p content = .ok t') :
    ∃ parent name, t.place p = .ok (.entry parent name false) ∧
      t.at? (parent ++ [name]) ≠ some .dir ∧ t' = t.put (parent ++ [name]) (.file content) := by
  obtain ⟨place, hPlace, h⟩ := bind_eq_ok_iff.mp h
  cases place with
  | directory up => cases h
  | entry parent name slash =>
      cases slash with
      | true =>
          dsimp only at h
          split at h <;> cases h
      | false =>
          refine ⟨parent, name, hPlace, ?_⟩
          dsimp only at h
          split at h
          · cases h
          · rename_i old hOld
            cases h
            exact ⟨by simp [hOld], rfl⟩
          · rename_i hNone
            cases h
            exact ⟨by simp [hNone], rfl⟩

/-- Writing a file leaves a nested tree nested. -/
theorem Nested.write (h : t.Nested) {content : Bytes} (hWrite : t.write p content = .ok t') :
    t'.Nested := by
  obtain ⟨parent, name, hPlace, hOld, rfl⟩ := write_eq_ok hWrite
  exact h.put (h.place hPlace) hOld _

/-- A directory is made under a name that nothing has. -/
theorem makeDirectory_eq_ok (h : t.makeDirectory p = .ok t') :
    ∃ parent name slash, t.place p = .ok (.entry parent name slash) ∧
      t.at? (parent ++ [name]) = none ∧ t' = t.put (parent ++ [name]) .dir := by
  obtain ⟨place, hPlace, h⟩ := bind_eq_ok_iff.mp h
  cases place with
  | directory up => cases h
  | entry parent name slash =>
      dsimp only at h
      split at h
      · cases h
      · rename_i hNone
        cases h
        exact ⟨parent, name, slash, hPlace, hNone, rfl⟩

/-- Making a directory leaves a nested tree nested. -/
theorem Nested.makeDirectory (h : t.Nested) (hMake : t.makeDirectory p = .ok t') : t'.Nested := by
  obtain ⟨parent, name, slash, hPlace, hNone, rfl⟩ := makeDirectory_eq_ok hMake
  exact h.put (h.place hPlace) (by simp [hNone]) _

/-- Making directories leaves a nested tree nested, as far as it comes. -/
theorem Nested.makeDirectories {done : Except Fault Unit} (h : t.Nested)
    (hMake : t.makeDirectories p = (done, t')) : t'.Nested :=
  makeFirst_preserves (fun _ _ _ _ hNested => hNested.makeDirectory) h hMake

/-- What is removed is a file. -/
theorem removeFile_eq_ok (h : t.removeFile p = .ok t') :
    ∃ parent name content, t.at? (parent ++ [name]) = some (.file content) ∧
      t' = t.dropWhere (· = parent ++ [name]) := by
  obtain ⟨place, hPlace, h⟩ := bind_eq_ok_iff.mp h
  cases place with
  | directory up => cases h
  | entry parent name slash =>
      dsimp only at h
      split at h
      · cases h
      · cases h
      · rename_i content hFile
        split_ifs at h
        cases h
        exact ⟨parent, name, content, hFile, rfl⟩

/-- Removing a file leaves a nested tree nested. -/
theorem Nested.removeFile (h : t.Nested) (hRemove : t.removeFile p = .ok t') : t'.Nested := by
  obtain ⟨parent, name, content, hFile, rfl⟩ := removeFile_eq_ok hRemove
  have hKept {loc : Location} (hDir : t.at? loc = some .dir) :
      (t.dropWhere (· = parent ++ [name])).at? loc = some .dir := by
    rw [at?_dropWhere (by simp), if_neg ?_, hDir]
    rintro rfl
    rw [hFile] at hDir
    cases hDir
  refine ⟨hKept h.home, fun loc child hChild => hKept (h.parent loc child ?_)⟩
  rw [at?_dropWhere (by simp)] at hChild
  split at hChild
  · exact absurd rfl hChild
  · exact hChild

/-- It is enough to look at what the tree lists. -/
theorem nested_of_entries (hHome : t.at? t.home = some .dir)
    (hEntries : ∀ e ∈ t.entries, t.at? e.1.dropLast = some .dir) : t.Nested := by
  refine ⟨hHome, fun loc name hChild => ?_⟩
  rw [at?, if_neg (by simp)] at hChild
  suffices hListed : ∃ e ∈ t.entries, e.1 = loc ++ [name] by
    obtain ⟨e, hMem, hLoc⟩ := hListed
    have hDir := hEntries e hMem
    rwa [hLoc, List.dropLast_concat] at hDir
  generalize t.entries = entries at hChild
  induction entries with
  | nil => exact absurd rfl hChild
  | cons e entries ih =>
      rw [Assoc.get?] at hChild
      split at hChild
      · rename_i hSame
        exact ⟨e, List.mem_cons_self, hSame.symm⟩
      · obtain ⟨found, hMem, hLoc⟩ := ih hChild
        exact ⟨found, List.mem_cons_of_mem e hMem, hLoc⟩

end LockTriage.FileTree
