import LockTriage.Proofs.Files.Frame

/-!
How far an operation on files reaches. A write or a removal alters one location,
and making directories adds directories only, so whatever stands elsewhere is
read as before, by any path that could be walked already.
-/

namespace LockTriage

/-- A system looks for the name in the directory of the path: there is no zero
byte, and neither the name nor the path with it is too long. -/
structure Path.Admits (p : Path) (name : String) : Prop where
  noZero : '\x00' ∉ (p.join name).text.toList
  short : (p.join name).text.utf8ByteSize < FileTree.pathLimit
  shortName : name.utf8ByteSize ≤ FileTree.nameLimit

instance (p : Path) (name : String) : Decidable (p.Admits name) :=
  decidable_of_iff
    ('\x00' ∉ (p.join name).text.toList ∧ (p.join name).text.utf8ByteSize < FileTree.pathLimit ∧
      name.utf8ByteSize ≤ FileTree.nameLimit)
    ⟨fun h => ⟨h.1, h.2.1, h.2.2⟩, fun h => ⟨h.noZero, h.short, h.shortName⟩⟩

namespace FileTree

variable {t t' last : FileTree} {p q : Path} {name : String} {content : Bytes}
variable {S S' : Location → Prop}

/-! ### Reaching a directory -/

/-- Every directory that a path leads through is there, and so is the last one. -/
def Walks (t : FileTree) (p : Path) : Prop :=
  p.names.foldlM t.enter (if p.isAbsolute then [] else t.home) = .ok (t.location p)

/-- A path that leads somewhere can be walked. -/
theorem walks_of_foldlM {loc : Location}
    (h : p.names.foldlM t.enter (if p.isAbsolute then [] else t.home) = .ok loc) : t.Walks p := by
  rw [Walks, h, walk_eq_foldl h]
  rfl

/-- Where no directory is lost, a path that could be walked still can. -/
theorem KeepsDirectories.walks (h : KeepsDirectories t t') (hWalks : t.Walks p) : t'.Walks p := by
  unfold Walks at *
  rw [h.home, location_of_home h.home]
  exact h.walk hWalks

/-- One name further is reached in a directory that can be reached if a directory stands there
under the name. -/
theorem walks_join_iff (hName : Path.Plain name) :
    t.Walks (p.join name) ↔
      t.Walks p ∧ name.utf8ByteSize ≤ nameLimit ∧ t.child? p name = some .dir := by
  have hJoin : t.Walks (p.join name) ↔
      p.names.foldlM t.enter (if p.isAbsolute then [] else t.home) >>= (t.enter · name) =
        .ok (t.location p ++ [name]) := by
    rw [Walks, Path.names_join p hName, Path.isAbsolute_join p hName, location_join t p hName,
      List.foldlM_append]
    simp
  rw [hJoin]
  constructor
  · intro h
    cases hUp : p.names.foldlM t.enter (if p.isAbsolute then [] else t.home) with
    | error fault =>
        rw [hUp] at h
        cases h
    | ok up =>
        obtain rfl : up = t.location p := walk_eq_foldl hUp
        rw [hUp] at h
        change t.enter (t.location p) name = _ at h
        rw [enter, if_neg hName.ne_dot, if_neg hName.ne_dots] at h
        split_ifs at h with hLong
        refine ⟨walks_of_foldlM hUp, Nat.le_of_not_lt hLong, ?_⟩
        split at h
        · cases h
        · cases h
        · assumption
  · rintro ⟨hWalks, hShort, hChild⟩
    rw [child?] at hChild
    rw [Walks] at hWalks
    rw [hWalks]
    change t.enter (t.location p) name = _
    rw [enter, if_neg hName.ne_dot, if_neg hName.ne_dots, if_neg (Nat.not_lt_of_le hShort), hChild]

/-- What looking for a name comes to in a directory that can be reached. -/
theorem place_join_of_walks (hName : Path.Plain name) (hWalks : t.Walks p) :
    t.place (p.join name) =
      if '\x00' ∈ (p.join name).text.toList then .error .nulInName
      else if p.Admits name then .ok (t.spot p name) else .error .nameTooLong := by
  have hNames := Path.names_join p hName
  have hLast : (p.join name).names.getLast? = some name := by rw [hNames, List.getLast?_concat]
  have hInit : (p.join name).names.dropLast = p.names := by rw [hNames, List.dropLast_concat]
  have hSlash := Path.getLast?_join p hName
  unfold Walks at hWalks
  unfold place
  rw [hLast, hInit, Path.isAbsolute_join p hName, Path.text_join_ne_empty p hName]
  simp only [hWalks, bind, Except.bind, hName.ne_dot, hName.ne_dots, if_false,
    List.contains_iff_mem, Bool.false_eq_true]
  by_cases hZero : '\x00' ∈ (p.join name).text.toList
  · rw [if_pos hZero, if_pos hZero]
  rw [if_neg hZero, if_neg hZero]
  by_cases hShort : (p.join name).text.utf8ByteSize < pathLimit
  · rw [if_neg (Nat.not_le_of_lt hShort)]
    by_cases hLong : nameLimit < name.utf8ByteSize
    · rw [if_pos hLong, if_neg fun h => Nat.not_lt_of_le h.shortName hLong]
    · rw [if_neg hLong, if_pos ⟨hZero, hShort, Nat.le_of_not_lt hLong⟩]
      simp [spot, hSlash]
  · rw [if_pos (Nat.le_of_not_lt hShort), if_neg fun h => hShort h.short]

private theorem walks_of_place (hName : Path.Plain name)
    (h : t.place (p.join name) = .ok (t.spot p name)) : t.Walks p := by
  have hWalk := (place_eq_entry h).2.2
  rw [Path.names_join p hName, List.dropLast_concat, Path.isAbsolute_join p hName] at hWalk
  exact walks_of_foldlM hWalk

/-- A name in a directory is found if the directory can be reached and the
system looks for the name. -/
theorem place_join_iff (hName : Path.Plain name) :
    t.place (p.join name) = .ok (t.spot p name) ↔ p.Admits name ∧ t.Walks p := by
  constructor
  · intro h
    have hWalks := walks_of_place hName h
    rw [place_join_of_walks hName hWalks] at h
    split_ifs at h with hZero hAdmits
    exact ⟨hAdmits, hWalks⟩
  · rintro ⟨hAdmits, hWalks⟩
    rw [place_join_of_walks hName hWalks, if_neg hAdmits.noZero, if_pos hAdmits]

/-- A directory that is there can be reached. -/
theorem walks_of_isDirectory (hName : Path.Plain name)
    (h : t.isDirectory (p.join name) = true) : t.Walks (p.join name) := by
  obtain ⟨hPlace, hChild⟩ := (isDirectory_join_iff hName).mp h
  obtain ⟨hAdmits, hWalks⟩ := (place_join_iff hName).mp hPlace
  exact (walks_join_iff hName).mpr ⟨hWalks, hAdmits.shortName, hChild⟩

/-- The way to a directory leads through the directory that it is in. -/
theorem walks_parent (hName : Path.Plain name) (h : t.isDirectory (p.join name) = true) :
    t.Walks p :=
  ((place_join_iff hName).mp ((isDirectory_join_iff hName).mp h).1).2

/-- A name is there if its directory can be reached and lists it. -/
theorem pathExists_join_iff (hName : Path.Plain name) :
    t.pathExists (p.join name) = true ↔
      (p.Admits name ∧ t.Walks p) ∧ t.child? p name ≠ none := by
  rw [← place_join_iff hName]
  unfold pathExists
  cases hStat : t.stat (p.join name) with
  | ok e =>
      obtain ⟨hPlace, hChild⟩ := (stat_join_iff hName).mp hStat
      simp [Except.isOk, Except.toBool, hPlace, hChild]
  | error fault =>
      simp only [Except.isOk, Except.toBool, Bool.false_eq_true, ne_eq, false_iff, not_and,
        not_not]
      intro hPlace
      cases hChild : t.child? p name with
      | none => rfl
      | some e =>
          rw [(stat_join_iff hName).mpr ⟨hPlace, hChild⟩] at hStat
          cases hStat

/-- A path that leads to a name leads to the location of the path, however many
dots it has. -/
theorem place_location {parent : Location} {slash : Bool}
    (h : t.place p = .ok (.entry parent name slash)) : parent ++ [name] = t.location p := by
  obtain ⟨hLast, ⟨hDot, hDots⟩, hWalk⟩ := place_eq_entry h
  have hNames : p.names = p.names.dropLast ++ [name] :=
    (List.dropLast_append_getLast? name hLast).symm
  rw [location, hNames, List.foldl_append, ← walk_eq_foldl hWalk]
  simp [descend, hDot, hDots]

/-- What can be read is the content of the file at the place of the path. -/
theorem read_eq_ok_iff :
    t.read p = .ok content ↔
      ∃ parent name, t.place p = .ok (.entry parent name false) ∧
        t.at? (t.location p) = some (.file content) := by
  unfold read stat
  cases hPlace : t.place p with
  | error fault => simp [bind, Except.bind]
  | ok place =>
      cases place with
      | directory loc => simp [bind, Except.bind]
      | entry parent name slash =>
          rw [← place_location hPlace]
          cases hAt : t.at? (parent ++ [name]) with
          | none => simp [bind, Except.bind, hAt]
          | some e => cases e <;> cases slash <;> simp [bind, Except.bind, hAt]

/-- A file can be read. -/
theorem isFile_iff : t.isFile p = true ↔ ∃ content, t.read p = .ok content := by
  unfold isFile read
  cases t.stat p with
  | error fault => simp [bind, Except.bind]
  | ok e => cases e <;> simp [bind, Except.bind]

/-! ### Alterations -/

/-- Only what stands at some locations was altered, and no directory was lost. -/
structure Alters (S : Location → Prop) (t t' : FileTree) : Prop extends KeepsDirectories t t' where
  same : ∀ loc, ¬ S loc → t'.at? loc = t.at? loc

theorem Alters.refl (t : FileTree) : Alters S t t := ⟨⟨rfl, fun _ h => h⟩, fun _ _ => rfl⟩

theorem KeepsDirectories.trans (h : KeepsDirectories t t') (h' : KeepsDirectories t' last) :
    KeepsDirectories t last :=
  ⟨h'.home.trans h.home, fun loc hDir => h'.dir loc (h.dir loc hDir)⟩

theorem Alters.trans (h : Alters S t t') (h' : Alters S t' last) : Alters S t last :=
  ⟨h.toKeepsDirectories.trans h'.toKeepsDirectories,
    fun loc hLoc => (h'.same loc hLoc).trans (h.same loc hLoc)⟩

/-- What alters some locations alters no more than a larger set of them. -/
theorem Alters.mono (h : Alters S t t') (hLe : ∀ loc, S loc → S' loc) : Alters S' t t' :=
  ⟨h.toKeepsDirectories, fun loc hLoc => h.same loc fun hS => hLoc (hLe loc hS)⟩

/-- Writing alters the location of the file. -/
theorem write_alters (hName : Path.Plain name) (h : t.write (p.join name) content = .ok t') :
    Alters (· = t.location p ++ [name]) t t' := by
  refine ⟨write_keepsDirectories hName h, fun loc hLoc => ?_⟩
  obtain ⟨_, _, rfl⟩ := (write_join_iff hName).mp h
  rw [at?_put (by simp), if_neg hLoc]

/-- Putting an entry where it stands already changes nothing. -/
theorem put_self {e : Entry} (h : t.child? p name = some e) :
    t.put (t.location p ++ [name]) e = t := by
  rw [child?, at?, if_neg (by simp)] at h
  rw [put, Assoc.set_self h]

/-- Removing a file leaves nothing at its location. -/
theorem removeFile_join_iff (hName : Path.Plain name) :
    t.removeFile (p.join name) = .ok t' ↔
      t.place (p.join name) = .ok (t.spot p name) ∧
        (∃ content, t.child? p name = some (.file content)) ∧
        t' = t.dropWhere (· = t.location p ++ [name]) := by
  rw [eq_comm (a := t')]
  unfold removeFile
  cases hPlace : t.place (p.join name) with
  | error fault => simp [bind, Except.bind]
  | ok place =>
      rw [place_join hName hPlace]
      cases hChild : t.child? p name with
      | none => simp_all [bind, Except.bind, spot, child?]
      | some found => cases found <;> simp_all [bind, Except.bind, spot, child?]

/-- Dropping one location leaves all others as they are. -/
theorem at?_dropWhere {loc : Location} (h : loc ≠ []) (other : Location) :
    (t.dropWhere (· = loc)).at? other = if other = loc then none else t.at? other := by
  by_cases hRoot : other = []
  · subst hRoot
    simp [at?, Ne.symm h]
  · simp [at?, dropWhere, hRoot, Assoc.get?_eraseWhere]

/-- Removing alters the location of the file. -/
theorem removeFile_alters (hName : Path.Plain name) (h : t.removeFile (p.join name) = .ok t') :
    Alters (· = t.location p ++ [name]) t t' := by
  obtain ⟨_, ⟨content, hChild⟩, rfl⟩ := (removeFile_join_iff hName).mp h
  refine ⟨⟨rfl, fun loc hDir => ?_⟩, fun loc hLoc => ?_⟩
  · rw [at?_dropWhere (by simp), if_neg ?_]
    · exact hDir
    · rintro rfl
      rw [child?, hDir] at hChild
      cases hChild
  · rw [at?_dropWhere (by simp), if_neg hLoc]

/-- A file that was removed is gone. -/
theorem child?_removeFile (hName : Path.Plain name) (h : t.removeFile (p.join name) = .ok t') :
    t'.child? p name = none := by
  have hHome := (removeFile_alters hName h).home
  obtain ⟨_, _, rfl⟩ := (removeFile_join_iff hName).mp h
  rw [child?, location_of_home hHome, at?_dropWhere (by simp), if_pos rfl]

/-- A name in a directory that can be reached stands for what it stood for,
if its location is not altered. -/
theorem Alters.stat_join (h : Alters S t t') (hName : Path.Plain name) (hWalks : t.Walks p)
    (hLoc : ¬ S (t.location p ++ [name])) : t'.stat (p.join name) = t.stat (p.join name) := by
  have hHome := h.home
  have hSame := h.same _ hLoc
  unfold stat
  rw [place_join_of_walks hName hWalks, place_join_of_walks hName (h.walks hWalks)]
  split_ifs
  · rfl
  · simp only [spot, location_of_home hHome, bind, Except.bind, hSame]
  · rfl

/-! ### What files hold -/

/-- The content of the file at a location, if a file stands there. -/
def content? (t : FileTree) (loc : Location) : Option Bytes :=
  match t.at? loc with
  | some (.file content) => some content
  | _ => none

/-- A location has a content if a file stands there. -/
theorem content?_eq_some_iff {loc : Location} :
    t.content? loc = some content ↔ t.at? loc = some (.file content) := by
  unfold content?
  split
  · rename_i found hFound
    simp [hFound]
  · rename_i hNone
    simp only [reduceCtorEq, false_iff]
    exact hNone content

/-- The content of the file with a name in a directory. What the system does not
look for is no file. -/
def file? (t : FileTree) (p : Path) (name : String) : Option Bytes :=
  if p.Admits name then t.content? (t.location p ++ [name]) else none

/-- Only files at some locations were touched: elsewhere no file was made,
written or removed. No directory was lost. -/
structure Touches (S : Location → Prop) (t t' : FileTree) : Prop extends KeepsDirectories t t' where
  content : ∀ loc, ¬ S loc → t'.content? loc = t.content? loc

theorem Touches.refl (t : FileTree) : Touches S t t := ⟨⟨rfl, fun _ h => h⟩, fun _ _ => rfl⟩

theorem Touches.trans (h : Touches S t t') (h' : Touches S t' last) : Touches S t last :=
  ⟨h.toKeepsDirectories.trans h'.toKeepsDirectories,
    fun loc hLoc => (h'.content loc hLoc).trans (h.content loc hLoc)⟩

/-- What touches some locations touches no more than a larger set of them. -/
theorem Touches.mono (h : Touches S t t') (hLe : ∀ loc, S loc → S' loc) : Touches S' t t' :=
  ⟨h.toKeepsDirectories, fun loc hLoc => h.content loc fun hS => hLoc (hLe loc hS)⟩

/-- What alters a tree at some locations touches these at most. -/
theorem Alters.touches (h : Alters S t t') : Touches S t t' :=
  ⟨h.toKeepsDirectories, fun loc hLoc => by rw [content?, content?, h.same loc hLoc]⟩

/-- Making directories touches no file. -/
theorem Grown.touches (h : Grown t t') : Touches S t t' := by
  refine ⟨h.keepsDirectories, fun loc _ => ?_⟩
  rcases h.at?_cases loc with hSame | ⟨hNone, hDir⟩
  · rw [content?, content?, hSame]
  · rw [content?, content?, hNone, hDir]

/-- A file that was not touched is read as before. -/
theorem Touches.read (h : Touches S t t') (hLoc : ¬ S (t.location p))
    (hRead : t.read p = .ok content) : t'.read p = .ok content := by
  obtain ⟨parent, name, hPlace, hAt⟩ := read_eq_ok_iff.mp hRead
  refine read_eq_ok_iff.mpr ⟨parent, name, h.toKeepsDirectories.place hPlace, ?_⟩
  rw [location_of_home h.home, ← content?_eq_some_iff, h.content _ hLoc, content?_eq_some_iff, hAt]

/-- No file below a path was made, written or removed. -/
structure KeepsFiles (p : Path) (t t' : FileTree) : Prop where
  home : t'.home = t.home
  content : ∀ loc, t.location p <+: loc → t'.content? loc = t.content? loc

theorem KeepsFiles.refl (p : Path) (t : FileTree) : KeepsFiles p t t := ⟨rfl, fun _ _ => rfl⟩

/-- What touches nothing below a path keeps the files there. -/
theorem Touches.keepsFiles (h : Touches S t t') (hOut : ∀ loc, t.location p <+: loc → ¬ S loc) :
    KeepsFiles p t t' :=
  ⟨h.home, fun loc hBelow => h.content loc (hOut loc hBelow)⟩

/-- Making directories keeps all files. -/
theorem Grown.keepsFiles (h : Grown t t') (p : Path) : KeepsFiles p t t' :=
  (h.touches (S := fun _ => False)).keepsFiles fun _ _ => id

theorem KeepsFiles.trans (h : KeepsFiles p t t') (h' : KeepsFiles p t' last) :
    KeepsFiles p t last := by
  refine ⟨h'.home.trans h.home, fun loc hBelow => ?_⟩
  rw [h'.content loc (by rwa [location_of_home h.home]), h.content loc hBelow]

/-- Removing a directory keeps the files that are not below it. -/
theorem removeDirectory_keepsFiles (h : t.removeDirectory q = .ok t')
    (hApart : ∀ loc, t.location p <+: loc → ¬ t.location q <+: loc) : KeepsFiles p t t' := by
  unfold removeDirectory at h
  cases hPlace : t.place q with
  | error fault => simp [hPlace, bind, Except.bind] at h
  | ok place =>
      cases place with
      | directory up => simp [hPlace, bind, Except.bind] at h
      | entry parent name slash =>
          have hLoc := place_location hPlace
          cases hAt : t.at? (parent ++ [name]) with
          | none => simp [hPlace, hAt, bind, Except.bind] at h
          | some e =>
              cases e with
              | file content => simp [hPlace, hAt, bind, Except.bind] at h
              | dir =>
                  simp only [hPlace, hAt, bind, Except.bind, Except.ok.injEq] at h
                  subst h
                  refine ⟨rfl, fun loc hBelow => ?_⟩
                  have hKept : (parent ++ [name]).isPrefixOf loc = false := by
                    rw [hLoc, ← Bool.not_eq_true, List.isPrefixOf_iff_prefix]
                    exact hApart loc hBelow
                  simp [content?, at?, dropWhere, Assoc.get?_eraseWhere, hKept]

/-- A file that is read is the one at the location of the path. -/
theorem file?_of_read (hName : Path.Plain name) (h : t.read (p.join name) = .ok content) :
    t.file? p name = some content := by
  obtain ⟨hPlace, hChild⟩ := (read_join_iff hName).mp h
  rw [file?, if_pos ((place_join_iff hName).mp hPlace).1, content?_eq_some_iff]
  exact hChild

/-- A name without a file is no file. -/
theorem isFile_of_file? (hName : Path.Plain name) (h : t.file? p name = none) :
    t.isFile (p.join name) = false := by
  rw [Bool.eq_false_iff]
  intro hFile
  obtain ⟨content, hRead⟩ := isFile_iff.mp hFile
  rw [file?_of_read hName hRead] at h
  cases h

/-- Where nothing is found in a directory that can be reached, there is no file. -/
theorem file?_of_not_pathExists (hName : Path.Plain name) (hWalks : t.Walks p)
    (h : t.pathExists (p.join name) = false) : t.file? p name = none := by
  rw [← Bool.not_eq_true, pathExists_join_iff hName] at h
  unfold file?
  split
  · rename_i hAdmits
    have hNone : t.child? p name = none := by
      by_contra hSome
      exact h ⟨⟨hAdmits, hWalks⟩, hSome⟩
    rw [child?] at hNone
    rw [content?, hNone]
  · rfl

/-! ### Directories in a directory that is there -/

/-- Making a directory alters the location of its path. -/
theorem makeDirectory_alters (h : t.makeDirectory p = .ok t') : Alters (· = t.location p) t t' := by
  refine ⟨(makeDirectory_grown h).keepsDirectories, fun loc hLoc => ?_⟩
  unfold makeDirectory at h
  cases hPlace : t.place p with
  | error fault => simp [hPlace, bind, Except.bind] at h
  | ok place =>
      cases place with
      | directory up => simp [hPlace, bind, Except.bind] at h
      | entry parent name slash =>
          rw [← place_location hPlace] at hLoc
          cases hAt : t.at? (parent ++ [name]) with
          | some e => simp [hPlace, hAt, bind, Except.bind] at h
          | none =>
              simp only [hPlace, hAt, bind, Except.bind, Except.ok.injEq] at h
              subst h
              rw [at?_put (by simp), if_neg hLoc]

/-- Making directories alters the locations of their paths. -/
private theorem makeFirst_alters {paths : List Path} {done : Except Fault Unit}
    (h : t.makeFirst paths = (done, t')) : Alters (fun loc => ∃ q ∈ paths, loc = t.location q) t t' := by
  refine makeFirst_preserves (fun q hq u u' hAlters hMade => hAlters.trans ?_) (Alters.refl t) h
  refine (makeDirectory_alters hMade).mono ?_
  rintro loc rfl
  exact ⟨q, hq, location_of_home hAlters.home q⟩

/-- Making directories alters no location but those of the path and of the
directories above it. -/
theorem makeDirectories_alters_ancestors {done : Except Fault Unit}
    (h : t.makeDirectories p = (done, t')) :
    Alters (fun loc => ∃ q ∈ p.ancestors, loc = t.location q) t t' :=
  makeFirst_alters h

/-- Nothing is missing on the way to a name in a directory that can be reached. -/
private theorem makeDirectory_ne_notFound (hName : Path.Plain name) (hWalks : t.Walks p) :
    t.makeDirectory (p.join name) ≠ .error .notFound := by
  unfold makeDirectory
  rw [place_join_of_walks hName hWalks]
  split_ifs
  · simp [bind, Except.bind]
  · cases hAt : t.at? (t.location p ++ [name]) <;> simp [spot, hAt, bind, Except.bind]
  · simp [bind, Except.bind]

/-- In a directory that can be reached, one directory is made at most. -/
theorem makeDirectories_alters (hName : Path.Plain name) (hWalks : t.Walks p)
    (h : t.makeDirectories (p.join name) = (.ok (), t')) :
    Alters (· = t.location p ++ [name]) t t' := by
  rw [makeDirectories, Path.ancestors_join p hName] at h
  unfold makeFirst at h
  split at h
  · rename_i made hMade
    cases h
    rw [← location_join t p hName]
    exact makeDirectory_alters hMade
  · rename_i hMissing
    exact absurd hMissing (makeDirectory_ne_notFound hName hWalks)
  · obtain ⟨_, rfl⟩ := Prod.mk.inj h
    exact Alters.refl t

end FileTree

end LockTriage
