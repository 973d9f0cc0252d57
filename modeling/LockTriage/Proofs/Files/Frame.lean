import LockTriage.Files.Tree
import LockTriage.Proofs.Files.Names

/-!
What file operations change and what they leave alone. A path that is continued
by a name leads to that name in the location of the path, which depends on how
the path is written and on the working directory, not on what the tree holds.
-/

namespace LockTriage.FileTree

variable {t t' : FileTree} {p q : Path} {name other : String}

/-! ### Where paths lead -/

/-- The location that a name leads to from another one. -/
def descend (loc : Location) (name : String) : Location :=
  if name = "." then loc else if name = ".." then loc.dropLast else loc ++ [name]

/-- The location that a path leads to if it can be walked. -/
def location (t : FileTree) (p : Path) : Location :=
  p.names.foldl descend (if p.isAbsolute then [] else t.home)

/-- A name in the directory of a path is one step further. -/
theorem location_join (t : FileTree) (p : Path) (h : Path.Plain name) :
    t.location (p.join name) = t.location p ++ [name] := by
  rw [location, location, Path.names_join p h, Path.isAbsolute_join p h, List.foldl_append]
  simp [descend, h.ne_dot, h.ne_dots]

/-- A location depends on the working directory, and on nothing in the tree. -/
theorem location_of_home (h : t'.home = t.home) (p : Path) : t'.location p = t.location p := by
  rw [location, location, h]

/-- Where a name can be entered it leads where the name says. -/
theorem enter_eq_descend {loc next : Location} (h : t.enter loc name = .ok next) :
    next = descend loc name := by
  unfold enter at h
  unfold descend
  split_ifs at h ⊢ with hDot hDots
  · cases h
    rfl
  · cases h
    rfl
  · split at h
    · cases h
    · cases h
    · cases h
      rfl

/-- Where names can be walked they lead where they say. -/
theorem walk_eq_foldl {names : List String} {loc last : Location}
    (h : names.foldlM t.enter loc = .ok last) : last = names.foldl descend loc := by
  induction names generalizing loc with
  | nil =>
      cases h
      rfl
  | cons name names ih =>
      rw [List.foldlM_cons] at h
      cases hEnter : t.enter loc name with
      | error fault =>
          rw [hEnter] at h
          cases h
      | ok next =>
          rw [hEnter] at h
          rw [List.foldl_cons, ← enter_eq_descend hEnter]
          exact ih h

/-- A path that leads to a name ends with it, and its other names lead to the parent. -/
theorem place_eq_entry {parent : Location} {slash : Bool}
    (h : t.place p = .ok (.entry parent name slash)) :
    p.names.getLast? = some name ∧ (name ≠ "." ∧ name ≠ "..") ∧
      p.names.dropLast.foldlM t.enter (if p.isAbsolute then [] else t.home) = .ok parent := by
  unfold FileTree.place at h
  iterate 3
    split at h
    · cases h
  split at h
  · cases h
  · rename_i last hLast
    cases hWalk : p.names.dropLast.foldlM t.enter (if p.isAbsolute then [] else t.home) with
    | error fault =>
        simp only [hWalk, bind, Except.bind] at h
        cases h
    | ok up =>
        simp only [hWalk, bind, Except.bind] at h
        split_ifs at h with hDot hDots <;> cases h
        exact ⟨hLast, ⟨hDot, hDots⟩, rfl⟩

/-- The place that a continued path leads to: the name in the location of the path. -/
def spot (t : FileTree) (p : Path) (name : String) : Place := .entry (t.location p) name false

/-- If a name in a directory can be placed, it is placed in that directory. -/
theorem place_join (hName : Path.Plain name) {place : Place}
    (h : t.place (p.join name) = .ok place) : place = t.spot p name := by
  have hNames := Path.names_join p hName
  have hLast : (p.join name).names.getLast? = some name := by rw [hNames, List.getLast?_concat]
  have hInit : (p.join name).names.dropLast = p.names := by rw [hNames, List.dropLast_concat]
  have hSlash := Path.getLast?_join p hName
  unfold FileTree.place at h
  rw [hLast, hInit, Path.isAbsolute_join p hName] at h
  iterate 3
    split at h
    · cases h
  cases hWalk : p.names.foldlM t.enter (if p.isAbsolute then [] else t.home) with
  | error fault =>
      simp only [hWalk, bind, Except.bind] at h
      cases h
  | ok parent =>
      simp only [hWalk, bind, Except.bind, hName.ne_dot, hName.ne_dots, if_false] at h
      split_ifs at h with hTooLong
      cases h
      -- The walk ends before `name`, so it leads to the location of `p`.
      have hParent := walk_eq_foldl hWalk
      simp [spot, location, hParent, hSlash]

/-- Every directory is still one, and so is the working directory. -/
structure KeepsDirectories (t t' : FileTree) : Prop where
  home : t'.home = t.home
  dir : ∀ loc, t.at? loc = some .dir → t'.at? loc = some .dir

/-- Where no directory is lost, what could be entered still can. -/
theorem KeepsDirectories.enter (h : KeepsDirectories t t') {loc next : Location}
    (hEnter : t.enter loc name = .ok next) : t'.enter loc name = .ok next := by
  unfold FileTree.enter at hEnter ⊢
  split_ifs at hEnter ⊢ with hDot hDots hLong
  · exact hEnter
  · exact hEnter
  · split at hEnter
    · cases hEnter
    · cases hEnter
    · rename_i hDir
      rw [h.dir _ hDir]
      exact hEnter

/-- Where no directory is lost, what could be walked still can. -/
theorem KeepsDirectories.walk (h : KeepsDirectories t t') {names : List String}
    {loc last : Location} (hWalk : names.foldlM t.enter loc = .ok last) :
    names.foldlM t'.enter loc = .ok last := by
  induction names generalizing loc with
  | nil => exact hWalk
  | cons name names ih =>
      rw [List.foldlM_cons] at hWalk ⊢
      cases hEnter : t.enter loc name with
      | error fault =>
          rw [hEnter] at hWalk
          cases hWalk
      | ok next =>
          rw [hEnter] at hWalk
          rw [h.enter hEnter]
          exact ih hWalk

/-- A path that can be walked still leads where it led. -/
theorem KeepsDirectories.place (h : KeepsDirectories t t') {place : Place}
    (hPlace : t.place p = .ok place) : t'.place p = .ok place := by
  unfold FileTree.place at hPlace ⊢
  rw [h.home]
  iterate 3
    split at hPlace
    · cases hPlace
    rename_i hOk
    rw [if_neg hOk]
  split at hPlace
  · exact hPlace
  · rename_i last hLast
    cases hWalk : p.names.dropLast.foldlM t.enter (if p.isAbsolute then [] else t.home) with
    | error fault =>
        simp only [hWalk, bind, Except.bind] at hPlace
        cases hPlace
    | ok parent =>
        simp only [h.walk hWalk, hWalk, bind, Except.bind] at hPlace ⊢
        exact hPlace

/-! ### Reading and writing -/

/-- What is put at a location stands there, and all else stays. -/
theorem at?_put {loc : Location} (h : loc ≠ []) (e : Entry) (other : Location) :
    (t.put loc e).at? other = if other = loc then some e else t.at? other := by
  by_cases hRoot : other = []
  · subst hRoot
    simp [at?, Ne.symm h]
  · simp [at?, put, hRoot, Assoc.get?_set]

/-- What stands in the directory of a path under a name. -/
def child? (t : FileTree) (p : Path) (name : String) : Option Entry :=
  t.at? (t.location p ++ [name])

/-- A path shows what its directory lists under its name. -/
theorem stat_join_iff (hName : Path.Plain name) {e : Entry} :
    t.stat (p.join name) = .ok e ↔
      t.place (p.join name) = .ok (t.spot p name) ∧ t.child? p name = some e := by
  unfold stat
  cases hPlace : t.place (p.join name) with
  | error fault => simp [bind, Except.bind]
  | ok place =>
      rw [place_join hName hPlace]
      cases hChild : t.child? p name with
      | none => simp_all [bind, Except.bind, spot, child?]
      | some found => cases found <;> simp_all [bind, Except.bind, spot, child?]

/-- Reading a name in a directory gives the content that the directory lists. -/
theorem read_join_iff (hName : Path.Plain name) {content : Bytes} :
    t.read (p.join name) = .ok content ↔
      t.place (p.join name) = .ok (t.spot p name) ∧ t.child? p name = some (.file content) := by
  rw [← stat_join_iff hName]
  unfold read
  cases t.stat (p.join name) with
  | error fault => simp [bind, Except.bind]
  | ok e => cases e <;> simp [bind, Except.bind]

/-- The text of a file is read from its content. -/
theorem readText_eq_ok_iff {text : String} :
    t.readText p = .ok text ↔ ∃ content, t.read p = .ok content ∧ Bytes.text? content = some text := by
  unfold readText
  cases t.read p with
  | error fault => simp [bind, Except.bind]
  | ok content =>
      cases hText : Bytes.text? content <;> simp [bind, Except.bind, hText]

/-- What can be read is there. -/
theorem pathExists_of_read {content : Bytes} (h : t.read p = .ok content) :
    t.pathExists p = true := by
  unfold read at h
  unfold pathExists
  cases hStat : t.stat p with
  | error fault =>
      rw [hStat] at h
      cases h
  | ok e => rfl

/-- A name in a directory is a directory if it is listed as one. -/
theorem isDirectory_join_iff (hName : Path.Plain name) :
    t.isDirectory (p.join name) = true ↔
      t.place (p.join name) = .ok (t.spot p name) ∧ t.child? p name = some .dir := by
  rw [← stat_join_iff hName]
  unfold isDirectory
  split <;> simp_all

/-- A directory stays one where no directory is lost. -/
theorem KeepsDirectories.isDirectory (h : KeepsDirectories t t') (hName : Path.Plain name)
    (hDir : t.isDirectory (p.join name) = true) : t'.isDirectory (p.join name) = true := by
  obtain ⟨hPlace, hChild⟩ := (isDirectory_join_iff hName).mp hDir
  refine (isDirectory_join_iff hName).mpr ⟨?_, ?_⟩
  · rw [h.place hPlace, spot, spot, location_of_home h.home]
  · rw [child?, location_of_home h.home]
    exact h.dir _ hChild

/-- A tree in which an entry that is not a directory is replaced, or one is added. -/
theorem keepsDirectories_put {loc : Location} (hRoot : loc ≠ []) (hDir : t.at? loc ≠ some .dir)
    (e : Entry) : KeepsDirectories t (t.put loc e) := by
  refine ⟨rfl, fun other hOther => ?_⟩
  rw [at?_put hRoot, if_neg ?_]
  · exact hOther
  · rintro rfl
    exact hDir hOther

/-- Writing a file replaces what stands at its location, which is no directory. -/
theorem write_join_iff (hName : Path.Plain name) {content : Bytes} :
    t.write (p.join name) content = .ok t' ↔
      t.place (p.join name) = .ok (t.spot p name) ∧ t.child? p name ≠ some .dir ∧
        t' = t.put (t.location p ++ [name]) (.file content) := by
  rw [eq_comm (a := t')]
  unfold write
  cases hPlace : t.place (p.join name) with
  | error fault => simp [bind, Except.bind]
  | ok place =>
      rw [place_join hName hPlace]
      cases hChild : t.child? p name with
      | none => simp_all [bind, Except.bind, spot, child?]
      | some found => cases found <;> simp_all [bind, Except.bind, spot, child?]

section Write

variable {content : Bytes} (hName : Path.Plain name)
  (hWrite : t.write (p.join name) content = .ok t')
include hName hWrite

/-- Writing a file loses no directory. -/
theorem write_keepsDirectories : KeepsDirectories t t' := by
  obtain ⟨_, hFile, rfl⟩ := (write_join_iff hName).mp hWrite
  exact keepsDirectories_put (by simp) hFile _

/-- A file reads as what was written to it. -/
theorem read_write_same : t'.read (p.join name) = .ok content := by
  have hKeeps := write_keepsDirectories hName hWrite
  obtain ⟨hPlace, _, rfl⟩ := (write_join_iff hName).mp hWrite
  refine (read_join_iff hName).mpr ⟨hKeeps.place hPlace, ?_⟩
  rw [child?, location_of_home hKeeps.home, at?_put (by simp), if_pos rfl]

/-- Writing a file leaves all other names as they are. -/
theorem child?_write_other {found : String}
    (hOther : t.location q ++ [found] ≠ t.location p ++ [name]) :
    t'.child? q found = t.child? q found := by
  have hHome := (write_keepsDirectories hName hWrite).home
  obtain ⟨_, _, rfl⟩ := (write_join_iff hName).mp hWrite
  rw [child?, location_of_home hHome, at?_put (by simp), if_neg hOther]
  rfl

/-- Writing a file leaves the files at other locations as they are. -/
theorem read_write_other (hFound : Path.Plain other)
    (hOther : t.location q ++ [other] ≠ t.location p ++ [name]) {before : Bytes}
    (hRead : t.read (q.join other) = .ok before) : t'.read (q.join other) = .ok before := by
  have hKeeps := write_keepsDirectories hName hWrite
  obtain ⟨hPlace, hChild⟩ := (read_join_iff hFound).mp hRead
  refine (read_join_iff hFound).mpr ⟨?_, ?_⟩
  · rw [hKeeps.place hPlace, spot, spot, location_of_home hKeeps.home]
  · rw [child?_write_other hName hWrite hOther, hChild]

/-- Directories are still there after a file was written. -/
theorem isDirectory_write (hFound : Path.Plain other) (hDir : t.isDirectory (q.join other) = true) :
    t'.isDirectory (q.join other) = true :=
  (write_keepsDirectories hName hWrite).isDirectory hFound hDir

end Write

/-! ### Making directories -/

/-- Directories were made where nothing stood, and nothing else was changed. -/
structure Grown (t t' : FileTree) : Prop where
  home : t'.home = t.home
  at?_cases : ∀ loc, t'.at? loc = t.at? loc ∨ t.at? loc = none ∧ t'.at? loc = some .dir

theorem Grown.refl (t : FileTree) : Grown t t := ⟨rfl, fun _ => .inl rfl⟩

theorem Grown.trans {last : FileTree} (hFirst : Grown t t') (hSecond : Grown t' last) :
    Grown t last := by
  refine ⟨hSecond.home.trans hFirst.home, fun loc => ?_⟩
  rcases hSecond.at?_cases loc with hSame | ⟨hNone, hDir⟩
  · rw [hSame]
    exact hFirst.at?_cases loc
  · rcases hFirst.at?_cases loc with hOld | ⟨_, hMade⟩
    · exact .inr ⟨hOld ▸ hNone, hDir⟩
    · rw [hMade] at hNone
      cases hNone

/-- A tree that has grown has no more files. -/
theorem Grown.file (h : Grown t t') {loc : Location} {content : Bytes}
    (hFile : t'.at? loc = some (.file content)) : t.at? loc = some (.file content) := by
  rcases h.at?_cases loc with hSame | ⟨_, hDir⟩
  · rw [← hSame, hFile]
  · rw [hFile] at hDir
    cases hDir

theorem Grown.keepsDirectories (h : Grown t t') : KeepsDirectories t t' := by
  refine ⟨h.home, fun loc hDir => ?_⟩
  rcases h.at?_cases loc with hSame | ⟨_, hMade⟩
  · rw [hSame, hDir]
  · exact hMade

/-- A file in a tree that has grown was there before. -/
theorem Grown.child? (h : Grown t t') {content : Bytes}
    (hChild : t'.child? p name = some (.file content)) : t.child? p name = some (.file content) := by
  rw [FileTree.child?, location_of_home h.home] at hChild
  exact h.file hChild

/-- Making a directory lets the tree grow. -/
theorem makeDirectory_grown (h : t.makeDirectory p = .ok t') : Grown t t' := by
  unfold makeDirectory at h
  cases hPlace : t.place p with
  | error fault => simp [hPlace, bind, Except.bind] at h
  | ok place =>
      cases place with
      | directory loc => simp [hPlace, bind, Except.bind] at h
      | entry parent name slash =>
          cases hAt : t.at? (parent ++ [name]) with
          | some e => simp [hPlace, hAt, bind, Except.bind] at h
          | none =>
              simp only [hPlace, hAt, bind, Except.bind, Except.ok.injEq] at h
              subst h
              refine ⟨rfl, fun loc => ?_⟩
              rw [at?_put (by simp)]
              by_cases hLoc : loc = parent ++ [name]
              · exact .inr ⟨hLoc ▸ hAt, if_pos hLoc⟩
              · exact .inl (if_neg hLoc)

/-- What making each of some directories preserves, making them all preserves, even if not all
of them could be made. -/
theorem makeFirst_preserves {P : FileTree → Prop} {paths : List Path} {done : Except Fault Unit}
    (hMake : ∀ q ∈ paths, ∀ u u', P u → u.makeDirectory q = .ok u' → P u') (hStart : P t)
    (h : t.makeFirst paths = (done, t')) : P t' := by
  induction paths generalizing t' done with
  | nil =>
      cases h
      exact hStart
  | cons p up ih =>
      have hFirst := hMake p List.mem_cons_self
      have hUp {done : Except Fault Unit} {below : FileTree}
          (hMade : t.makeFirst up = (done, below)) : P below :=
        ih (fun q hq => hMake q (List.mem_cons_of_mem p hq)) hMade
      unfold makeFirst at h
      split at h
      · rename_i made hMade
        cases h
        exact hFirst t _ hStart hMade
      · split at h
        · rename_i hRest
          cases h
          exact hUp hRest
        · rename_i below hRest
          split at h
          · rename_i made hMade
            cases h
            exact hFirst below _ (hUp hRest) hMade
          · obtain ⟨_, rfl⟩ := Prod.mk.inj h
            exact hUp hRest
      · obtain ⟨_, rfl⟩ := Prod.mk.inj h
        exact hStart

/-- Making directories lets the tree grow, as far as it comes. -/
theorem makeFirst_grown {paths : List Path} {done : Except Fault Unit}
    (h : t.makeFirst paths = (done, t')) : Grown t t' :=
  makeFirst_preserves (fun _ _ _ _ hGrown hMade => hGrown.trans (makeDirectory_grown hMade))
    (Grown.refl t) h

/-- A directory that was made is there. -/
theorem makeDirectory_isDirectory (hName : Path.Plain name)
    (h : t.makeDirectory (p.join name) = .ok t') : t'.isDirectory (p.join name) = true := by
  have hGrown := makeDirectory_grown h
  have hKeeps := hGrown.keepsDirectories
  unfold makeDirectory at h
  cases hPlace : t.place (p.join name) with
  | error fault => simp [hPlace, bind, Except.bind] at h
  | ok place =>
      cases hAt : t.child? p name with
      | some e => simp_all [bind, Except.bind, place_join hName hPlace, spot, child?]
      | none =>
          obtain rfl := place_join hName hPlace
          rw [child?] at hAt
          simp only [hPlace, bind, Except.bind, spot, hAt, Except.ok.injEq] at h
          subst h
          refine (isDirectory_join_iff hName).mpr ⟨?_, ?_⟩
          · rw [hKeeps.place hPlace, spot, spot, location_of_home hKeeps.home]
          · rw [child?, location_of_home hKeeps.home, at?_put (by simp), if_pos rfl]

/-- Making directories adds directories and changes nothing else, whether or not
all of them could be made. -/
theorem makeDirectories_grown {done : Except Fault Unit}
    (h : t.makeDirectories p = (done, t')) : Grown t t' :=
  makeFirst_grown h

/-- A directory that was made is there. -/
private theorem makeFirst_isDirectory {up : List Path} (hName : Path.Plain name)
    (h : t.makeFirst (p.join name :: up) = (.ok (), t')) :
    t'.isDirectory (p.join name) = true := by
  unfold makeFirst at h
  split at h
  · rename_i made hMade
    cases h
    exact makeDirectory_isDirectory hName hMade
  · split at h
    · cases h
    · rename_i below hUp
      split at h
      · rename_i made hMade
        cases h
        exact makeDirectory_isDirectory hName hMade
      · obtain ⟨hOk, rfl⟩ := Prod.mk.inj h
        by_contra hNot
        rw [if_neg hNot] at hOk
        cases hOk
  · obtain ⟨hOk, rfl⟩ := Prod.mk.inj h
    by_contra hNot
    rw [if_neg hNot] at hOk
    cases hOk

/-- A path whose directories were made is a directory. -/
theorem makeDirectories_isDirectory (hName : Path.Plain name)
    (h : t.makeDirectories (p.join name) = (.ok (), t')) :
    t'.isDirectory (p.join name) = true := by
  rw [makeDirectories, Path.ancestors_join p hName] at h
  exact makeFirst_isDirectory hName h

/-- A directory that is there is not made again. -/
theorem makeDirectories_of_isDirectory (hName : Path.Plain name)
    (h : t.isDirectory (p.join name) = true) :
    t.makeDirectories (p.join name) = (.ok (), t) := by
  obtain ⟨hPlace, hChild⟩ := (isDirectory_join_iff hName).mp h
  have hExists : t.makeDirectory (p.join name) = .error .alreadyExists := by
    rw [child?] at hChild
    unfold makeDirectory
    simp [hPlace, bind, Except.bind, spot, hChild]
  rw [makeDirectories, Path.ancestors_join p hName, makeFirst, hExists]
  simp [h]

end LockTriage.FileTree
