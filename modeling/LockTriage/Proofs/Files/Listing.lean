import LockTriage.Proofs.Assoc
import LockTriage.Proofs.Files.Nested
import LockTriage.Proofs.Text.ByteOrder

/-!
What a directory lists: each name in it once, with what stands there. This is so in trees
as machines have them, where no location stands twice and every name can be one component
of a path, and the operations on files keep trees that way.
-/

namespace LockTriage

namespace Path

variable {p : Path} {name other : String}

instance (name : String) : Decidable (Plain name) :=
  decidable_of_iff (name ≠ "" ∧ '/' ∉ name.toList ∧ name ≠ "." ∧ name ≠ "..")
    ⟨fun h => ⟨h.1, h.2.1, h.2.2.1, h.2.2.2⟩,
      fun h => ⟨h.ne_empty, h.noSeparator, h.ne_dot, h.ne_dots⟩⟩

/-- The names of a path are not empty and have no separator. -/
theorem of_mem_names (h : name ∈ p.names) : name ≠ "" ∧ '/' ∉ name.toList := by
  obtain ⟨piece, hPiece, rfl⟩ := List.mem_map.mp h
  obtain ⟨hMem, hSome⟩ := List.mem_filter.mp hPiece
  rw [String.toList_ofList]
  refine ⟨fun hEmpty => ?_, Text.notMem_of_mem_pieces hMem⟩
  have hNil : piece = [] := by simpa using congrArg String.toList hEmpty
  simp [hNil] at hSome

/-! ### The order of paths -/

/-- What a component counts for in the order of paths: a dot comes before two dots, and
both before names, which go by their bytes. -/
def rank (step : String) : Bytes :=
  if step = "." then [1] else if step = ".." then [2] else 3 :: Bytes.ofText step

/-- The components of a path as they are compared, with the root before all others. -/
def ranks (p : Path) : List Bytes := (if p.isAbsolute then [[0]] else []) ++ p.steps.map rank

/-- The first path is listed before the second: component by component, it is less. -/
def Before (p q : Path) : Prop := p.ranks < q.ranks

instance (p q : Path) : Decidable (p.Before q) := inferInstanceAs (Decidable (_ < _))

theorem Before.ne {q : Path} (h : p.Before q) : p ≠ q := by
  rintro rfl
  exact List.lt_irrefl _ h

theorem ranks_join (p : Path) (h : Plain name) :
    (p.join name).ranks = p.ranks ++ [3 :: Bytes.ofText name] := by
  rw [ranks, ranks, isAbsolute_join p h, steps_join p h, List.map_append, List.append_assoc]
  simp [rank, h.ne_dot, h.ne_dots]

/-- In one directory, paths are in the order of the names. -/
theorem before_join (p : Path) (hName : Plain name) (hOther : Plain other) (h : name < other) :
    (p.join name).Before (p.join other) := by
  rw [Before, ranks_join p hName, ranks_join p hOther]
  refine List.append_left_lt (List.cons_lt_cons_iff.mpr (.inl ?_))
  exact List.cons_lt_cons_iff.mpr (.inr ⟨rfl, Bytes.ofText_lt_iff.mpr h⟩)

end Path

namespace FileTree

variable {t t' : FileTree} {p : Path} {loc : Location} {name : String} {e : Entry}

/-- A tree as machines have them: no location stands twice, and the names of files and
directories are plain. -/
structure Sound (t : FileTree) : Prop where
  once : (Assoc.keys t.entries).Nodup
  plain : ∀ loc ∈ Assoc.keys t.entries, ∀ name ∈ loc.getLast?, Path.Plain name

instance (t : FileTree) : Decidable t.Sound :=
  decidable_of_iff
    ((Assoc.keys t.entries).Nodup ∧
      ∀ loc ∈ Assoc.keys t.entries, ∀ name ∈ loc.getLast?, Path.Plain name)
    ⟨fun h => ⟨h.1, h.2⟩, fun h => ⟨h.once, h.plain⟩⟩

/-- In a sound tree an entry stands at a location just if it is among the entries. -/
theorem Sound.at?_eq_some_iff (h : t.Sound) :
    t.at? (loc ++ [name]) = some e ↔ (loc ++ [name], e) ∈ t.entries := by
  rw [at?, if_neg (by simp), Assoc.get?_eq_some_iff h.once]

/-- The names in a sound tree are plain. -/
theorem Sound.plain_of_at? (h : t.Sound) (hAt : t.at? (loc ++ [name]) = some e) :
    Path.Plain name :=
  h.plain _ (List.mem_map.mpr ⟨_, h.at?_eq_some_iff.mp hAt, rfl⟩) name List.getLast?_concat

/-! ### Operations -/

/-- A path leads to plain names. -/
theorem plain_of_place {parent : Location} {slash : Bool}
    (h : t.place p = .ok (.entry parent name slash)) : Path.Plain name := by
  obtain ⟨hLast, ⟨hDot, hDots⟩, _⟩ := place_eq_entry h
  obtain ⟨hSome, hSeparator⟩ := Path.of_mem_names (List.mem_of_getLast? hLast)
  exact ⟨hSome, hSeparator, hDot, hDots⟩

/-- A sound tree is sound with one more entry. -/
theorem Sound.put (h : t.Sound) (hName : Path.Plain name) (e : Entry) :
    (t.put (loc ++ [name]) e).Sound := by
  refine ⟨Assoc.nodup_keys_set h.once _ _, fun other hMem last hLast => ?_⟩
  rcases Assoc.mem_keys_set.mp hMem with hOld | rfl
  · exact h.plain other hOld last hLast
  · rw [List.getLast?_concat] at hLast
    cases hLast
    exact hName

theorem Sound.dropWhere (h : t.Sound) (drops : Location → Bool) : (t.dropWhere drops).Sound :=
  ⟨Assoc.nodup_keys_eraseWhere h.once drops, fun loc hMem => h.plain loc (Assoc.mem_keys_eraseWhere hMem)⟩

/-- Writing a file leaves a sound tree sound. -/
theorem Sound.write (h : t.Sound) {content : Bytes} (hWrite : t.write p content = .ok t') :
    t'.Sound := by
  obtain ⟨parent, name, hPlace, _, rfl⟩ := write_eq_ok hWrite
  exact h.put (plain_of_place hPlace) _

/-- Making a directory leaves a sound tree sound. -/
theorem Sound.makeDirectory (h : t.Sound) (hMake : t.makeDirectory p = .ok t') : t'.Sound := by
  obtain ⟨parent, name, slash, hPlace, _, rfl⟩ := makeDirectory_eq_ok hMake
  exact h.put (plain_of_place hPlace) _

theorem Sound.makeDirectories (h : t.Sound) {done : Except Fault Unit}
    (hMake : t.makeDirectories p = (done, t')) : t'.Sound :=
  makeFirst_preserves (fun _ _ _ _ hSound => hSound.makeDirectory) h hMake

/-- Removing a file leaves a sound tree sound. -/
theorem Sound.removeFile (h : t.Sound) (hRemove : t.removeFile p = .ok t') : t'.Sound := by
  obtain ⟨parent, name, content, _, rfl⟩ := removeFile_eq_ok hRemove
  exact h.dropWhere _

/-! ### Listings -/

theorem childName?_eq_some_iff {dir : Location} :
    childName? dir loc = some name ↔ loc = dir ++ [name] := by
  unfold childName?
  rcases List.eq_nil_or_concat loc with rfl | ⟨up, last, rfl⟩
  · simp
  · rw [List.concat_eq_append, List.getLast?_concat]
    dsimp only
    split
    · rename_i hUp
      rw [(List.append_inj' hUp rfl).1]
      simp
    · rename_i hUp
      refine iff_of_false (by simp) fun hSame => hUp ?_
      rw [hSame]
      obtain ⟨rfl, hLast⟩ := List.append_inj' hSame rfl
      rw [hLast]

/-- What is listed in a directory is what stands in it. -/
theorem Sound.mem_children_iff (h : t.Sound) :
    (name, e) ∈ t.children loc ↔ t.at? (loc ++ [name]) = some e := by
  rw [h.at?_eq_some_iff, children, List.mem_filterMap]
  simp only [Option.map_eq_some_iff, childName?_eq_some_iff]
  constructor
  · rintro ⟨⟨_, _⟩, hMem, _, rfl, hSame⟩
    cases hSame
    exact hMem
  · exact fun hMem => ⟨(loc ++ [name], e), hMem, name, rfl, rfl⟩

/-- No name is listed twice. -/
theorem Sound.nodup_children (h : t.Sound) (loc : Location) :
    ((t.children loc).map Prod.fst).Nodup := by
  have hNames : (t.children loc).map Prod.fst =
      (Assoc.keys t.entries).filterMap (childName? loc) := by
    rw [children, Assoc.keys, List.map_filterMap, List.filterMap_map]
    refine List.filterMap_congr fun entry _ => ?_
    cases hName : childName? loc entry.1 <;> simp [hName]
  rw [hNames]
  refine h.once.filterMap fun first second name hFirst hSecond => ?_
  rw [childName?_eq_some_iff.mp hFirst, childName?_eq_some_iff.mp hSecond]

/-- A path lists the entries of the directory that it leads to, and none if it leads to no
directory. -/
theorem list_join (hName : Path.Plain name) :
    t.list (p.join name) =
      if t.isDirectory (p.join name) then t.children (t.location (p.join name)) else [] := by
  unfold list
  split
  · rename_i fault hPlace
    rw [if_neg]
    intro hDir
    rw [((isDirectory_join_iff hName).mp hDir).1] at hPlace
    cases hPlace
  · rename_i loc hPlace
    cases place_join hName hPlace
  · rename_i parent last slash hPlace
    have hSpot := place_join hName hPlace
    cases hSpot
    rw [location_join t p hName]
    split
    · rename_i hChild
      rw [if_pos ((isDirectory_join_iff hName).mpr ⟨hPlace, hChild⟩)]
    · rename_i hChild
      rw [if_neg]
      exact fun hDir => hChild ((isDirectory_join_iff hName).mp hDir).2

/-! ### Files in a directory -/

/-- A file with this name stands directly in the directory that the path leads to. -/
def HasFile (t : FileTree) (p : Path) (name : String) : Prop :=
  t.isDirectory p = true ∧ ∃ content, t.child? p name = some (.file content)

/-- A directory that can be reached is found if a name in it is looked for. -/
theorem isDirectory_of_walks {dir : String} (hDir : Path.Plain dir) (hName : Path.Plain name)
    (hAdmits : (p.join dir).Admits name) (hWalks : t.Walks (p.join dir)) :
    t.isDirectory (p.join dir) = true := by
  obtain ⟨rest, hText⟩ := Path.exists_text_join (p.join dir) hName
  have hZero := hAdmits.noZero
  have hShort := hAdmits.short
  rw [hText, String.toList_append, List.mem_append, not_or] at hZero
  rw [hText, String.utf8ByteSize_append] at hShort
  obtain ⟨hReached, hDirShort, hChild⟩ := (walks_join_iff hDir).mp hWalks
  have hFound : p.Admits dir := ⟨hZero.1, Nat.lt_of_le_of_lt (Nat.le_add_right _ _) hShort, hDirShort⟩
  exact (isDirectory_join_iff hDir).mpr ⟨(place_join_iff hDir).mpr ⟨hFound, hReached⟩, hChild⟩

/-- A path leads to a file if the directory has it and the system looks for it there. -/
theorem isFile_join_iff {dir : String} (hDir : Path.Plain dir) (hName : Path.Plain name) :
    t.isFile ((p.join dir).join name) = true ↔
      t.HasFile (p.join dir) name ∧ (p.join dir).Admits name := by
  simp only [isFile_iff, read_join_iff hName, place_join_iff hName]
  constructor
  · rintro ⟨content, ⟨hAdmits, hWalks⟩, hChild⟩
    exact ⟨⟨isDirectory_of_walks hDir hName hAdmits hWalks, content, hChild⟩, hAdmits⟩
  · rintro ⟨⟨hThere, content, hChild⟩, hAdmits⟩
    exact ⟨content, ⟨hAdmits, walks_of_isDirectory hDir hThere⟩, hChild⟩

end FileTree

end LockTriage
