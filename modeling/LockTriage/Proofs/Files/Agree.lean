import LockTriage.Proofs.Files.Footprint

/-!
Two file trees side by side. An operation on a path that finds the same kind of thing in both
trees comes to the same, and leaves them related as they were if the relation is kept at the one
location that changes. Trees that agree on some locations are told apart by a path only if it
leads through others.
-/

namespace LockTriage.FileTree

variable {t t' u u' : FileTree} {p : Path} {S : Location → Prop} {content : Bytes}

/-! ### Trees that agree -/

/-- The trees have the same working directory, and the same stands at some locations. -/
structure Agree (S : Location → Prop) (t t' : FileTree) : Prop where
  home : t'.home = t.home
  same : ∀ loc, S loc → t'.at? loc = t.at? loc

theorem Agree.refl (S : Location → Prop) (t : FileTree) : Agree S t t := ⟨rfl, fun _ _ => rfl⟩

theorem Agree.symm (h : Agree S t t') : Agree S t' t :=
  ⟨h.home.symm, fun loc hLoc => (h.same loc hLoc).symm⟩

theorem Agree.trans (h : Agree S t t') (h' : Agree S t' u) : Agree S t u :=
  ⟨h'.home.trans h.home, fun loc hLoc => (h'.same loc hLoc).trans (h.same loc hLoc)⟩

/-- Trees that agree still do when the same is put into both. -/
theorem Agree.put (h : Agree S t t') {loc : Location} (hRoot : loc ≠ []) (e : Entry) :
    Agree S (t.put loc e) (t'.put loc e) := by
  refine ⟨h.home, fun other hOther => ?_⟩
  rw [at?_put hRoot, at?_put hRoot, h.same other hOther]

/-- Trees that agree still do when the same location is dropped from both. -/
theorem Agree.dropWhere (h : Agree S t t') {loc : Location} (hRoot : loc ≠ []) :
    Agree S (t.dropWhere (· = loc)) (t'.dropWhere (· = loc)) := by
  refine ⟨h.home, fun other hOther => ?_⟩
  rw [at?_dropWhere hRoot, at?_dropWhere hRoot, h.same other hOther]

/-! ### Paths that find the same kind of thing -/

/-- In two places nothing stands, or a directory does in both, or there are files whose contents are
related. -/
inductive Alike (R : Bytes → Bytes → Prop) : Option Entry → Option Entry → Prop where
  | none : Alike R none none
  | dir : Alike R (some .dir) (some .dir)
  | file {content content' : Bytes} (h : R content content') :
      Alike R (some (.file content)) (some (.file content'))

theorem Alike.of_eq {R : Bytes → Bytes → Prop} (hRefl : ∀ content, R content content)
    {e e' : Option Entry} (h : e' = e) : Alike R e e' := by
  subst h
  cases e' with
  | none => exact .none
  | some e =>
      cases e with
      | dir => exact .dir
      | file content => exact .file (hRefl content)

/-- The path leads to the same place in both trees, and what stands there is of one kind. -/
structure FindsAlike (p : Path) (t t' : FileTree) : Prop where
  place : t'.place p = t.place p
  kind : Alike (fun _ _ => True) (t.at? (t.location p)) (t'.at? (t.location p))

namespace FindsAlike

/-- What stands at the place of the path. -/
private theorem at? (h : FindsAlike p t t') {parent : Location} {name : String} {slash : Bool}
    (hPlace : t.place p = .ok (.entry parent name slash)) :
    Alike (fun _ _ => True) (t.at? (parent ++ [name])) (t'.at? (parent ++ [name])) := by
  rw [place_location hPlace]
  exact h.kind

/-- The path leads nowhere in both trees, or to a directory, or to two files. -/
theorem stat (h : FindsAlike p t t') :
    t'.stat p = t.stat p ∨
      ∃ content content', t.stat p = .ok (.file content) ∧ t'.stat p = .ok (.file content') ∧
        t.at? (t.location p) = some (.file content) ∧ t'.at? (t.location p) = some (.file content') := by
  unfold FileTree.stat
  rw [h.place]
  cases hPlace : t.place p with
  | error fault => exact .inl rfl
  | ok place =>
      cases place with
      | directory loc => exact .inl rfl
      | entry parent name slash =>
          have hKind := h.at? hPlace
          rw [← place_location hPlace]
          simp only [bind, Except.bind]
          generalize t.at? (parent ++ [name]) = e at hKind ⊢
          generalize t'.at? (parent ++ [name]) = e' at hKind ⊢
          cases hKind with
          | none => exact .inl rfl
          | dir => exact .inl rfl
          | file _ => cases slash <;> [exact .inr ⟨_, _, rfl, rfl, rfl, rfl⟩; exact .inl rfl]

/-- A path that finds alike entries is there in both trees or in neither. -/
theorem pathExists (h : FindsAlike p t t') : t'.pathExists p = t.pathExists p := by
  rw [FileTree.pathExists, FileTree.pathExists]
  rcases h.stat with hSame | ⟨_, _, hFile, hFile', _⟩
  · rw [hSame]
  · rw [hFile, hFile']
    rfl

theorem isFile (h : FindsAlike p t t') : t'.isFile p = t.isFile p := by
  rw [FileTree.isFile, FileTree.isFile]
  rcases h.stat with hSame | ⟨_, _, hFile, hFile', _⟩
  · rw [hSame]
  · rw [hFile, hFile']

theorem isDirectory (h : FindsAlike p t t') : t'.isDirectory p = t.isDirectory p := by
  rw [FileTree.isDirectory, FileTree.isDirectory]
  rcases h.stat with hSame | ⟨_, _, hFile, hFile', _⟩
  · rw [hSame]
  · rw [hFile, hFile']

end FindsAlike

/-- The path leads to the same place in both trees, and the same stands there. -/
structure FindsSame (p : Path) (t t' : FileTree) : Prop where
  place : t'.place p = t.place p
  entry : t'.at? (t.location p) = t.at? (t.location p)

/-- What is the same is alike. -/
theorem FindsSame.findsAlike (h : FindsSame p t t') : FindsAlike p t t' :=
  ⟨h.place, .of_eq (fun _ => trivial) h.entry⟩

theorem FindsSame.stat (h : FindsSame p t t') : t'.stat p = t.stat p := by
  rcases h.findsAlike.stat with hSame | ⟨_, _, hFile, hFile', hAt, hAt'⟩
  · exact hSame
  · rw [h.entry, hAt] at hAt'
    rw [hFile, hFile', Entry.file.inj (Option.some.inj hAt')]

/-- A path that finds the same file reads the same text. -/
theorem FindsSame.readText (h : FindsSame p t t') : t'.readText p = t.readText p := by
  rw [FileTree.readText, FileTree.readText, FileTree.read, FileTree.read, h.stat]

/-! ### Operations on both trees

What an operation does to the one location that it changes is all that a relation between
the trees has to be kept by. -/

/-- Operations on two trees fail alike or leave trees that are related. -/
inductive BothEnd (R : FileTree → FileTree → Prop) :
    Except Fault FileTree → Except Fault FileTree → Prop where
  | error (fault : Fault) : BothEnd R (.error fault) (.error fault)
  | ok {t t' : FileTree} (h : R t t') : BothEnd R (.ok t) (.ok t')

section Related

variable {R : FileTree → FileTree → Prop} {content' : Bytes} {paths : List Path}

/-- Writing at a path that finds alike entries succeeds or fails in both trees, and related trees
are left if what is put leaves them related. -/
theorem FindsAlike.write (h : FindsAlike p t t')
    (hPut : ∀ loc, loc = t.location p → loc ≠ [] →
      R (t.put loc (.file content)) (t'.put loc (.file content'))) :
    BothEnd R (t.write p content) (t'.write p content') := by
  unfold FileTree.write
  rw [h.place]
  cases hPlace : t.place p with
  | error fault => exact .error fault
  | ok place =>
      cases place with
      | directory loc => exact .error _
      | entry parent name slash =>
          have hKind := h.at? hPlace
          have hWritten := hPut _ (place_location hPlace) (by simp)
          simp only [bind, Except.bind]
          generalize t.at? (parent ++ [name]) = e at hKind ⊢
          generalize t'.at? (parent ++ [name]) = e' at hKind ⊢
          cases hKind with
          | none => cases slash <;> first | exact .error _ | exact .ok hWritten
          | dir => exact .error _
          | file _ => cases slash <;> first | exact .error _ | exact .ok hWritten

/-- Making a directory where alike entries are found succeeds or fails in both trees. -/
theorem FindsAlike.makeDirectory (h : FindsAlike p t t')
    (hPut : ∀ loc, loc ≠ [] → R (t.put loc .dir) (t'.put loc .dir)) :
    BothEnd R (t.makeDirectory p) (t'.makeDirectory p) := by
  unfold FileTree.makeDirectory
  rw [h.place]
  cases hPlace : t.place p with
  | error fault => exact .error fault
  | ok place =>
      cases place with
      | directory loc => exact .error _
      | entry parent name slash =>
          have hKind := h.at? hPlace
          simp only [bind, Except.bind]
          generalize t.at? (parent ++ [name]) = e at hKind ⊢
          generalize t'.at? (parent ++ [name]) = e' at hKind ⊢
          cases hKind with
          | none => exact .ok (hPut _ (by simp))
          | dir => exact .error _
          | file _ => exact .error _

/-- Removing a file where alike entries are found succeeds or fails in both trees. -/
theorem FindsAlike.removeFile (h : FindsAlike p t t')
    (hDrop : ∀ loc, loc ≠ [] → R (t.dropWhere (· = loc)) (t'.dropWhere (· = loc))) :
    BothEnd R (t.removeFile p) (t'.removeFile p) := by
  unfold FileTree.removeFile
  rw [h.place]
  cases hPlace : t.place p with
  | error fault => exact .error fault
  | ok place =>
      cases place with
      | directory loc => exact .error _
      | entry parent name slash =>
          have hKind := h.at? hPlace
          simp only [bind, Except.bind]
          generalize t.at? (parent ++ [name]) = e at hKind ⊢
          generalize t'.at? (parent ++ [name]) = e' at hKind ⊢
          cases hKind with
          | none => exact .error _
          | dir => exact .error _
          | file _ => cases slash <;> first | exact .error _ | exact .ok (hDrop _ (by simp))

/-- Making directories comes to the same if related trees are alike on their paths. -/
theorem makeFirst_related (h : R t t')
    (hFinds : ∀ p ∈ paths, ∀ {u u' : FileTree}, R u u' → FindsAlike p u u')
    (hPut : ∀ {u u' : FileTree} loc, R u u' → loc ≠ [] → R (u.put loc .dir) (u'.put loc .dir)) :
    (t'.makeFirst paths).1 = (t.makeFirst paths).1 ∧ R (t.makeFirst paths).2 (t'.makeFirst paths).2 := by
  induction paths with
  | nil => exact ⟨rfl, h⟩
  | cons p up ih =>
      simp only [List.mem_cons, forall_eq_or_imp] at hFinds
      obtain ⟨hUp, hBelow⟩ := ih hFinds.2
      have hHere := hFinds.1 h
      have hMake := hHere.makeDirectory fun loc => hPut loc h
      unfold FileTree.makeFirst
      generalize t.makeDirectory p = made at hMake ⊢
      generalize t'.makeDirectory p = made' at hMake ⊢
      cases hMake with
      | ok hMade => exact ⟨rfl, hMade⟩
      | error fault =>
          by_cases hMissing : fault = .notFound
          · subst hMissing
            generalize t.makeFirst up = first at hUp hBelow ⊢
            generalize t'.makeFirst up = first' at hUp hBelow ⊢
            obtain ⟨done, below⟩ := first
            obtain ⟨done', below'⟩ := first'
            obtain rfl : done' = done := hUp
            cases done' with
            | error fault => exact ⟨rfl, hBelow⟩
            | ok _ =>
                have hThere := hFinds.1 hBelow
                have hMakeBelow := hThere.makeDirectory fun loc => hPut loc hBelow
                dsimp only at hMakeBelow ⊢
                generalize below.makeDirectory p = made at hMakeBelow ⊢
                generalize below'.makeDirectory p = made' at hMakeBelow ⊢
                cases hMakeBelow with
                | ok hMade => exact ⟨rfl, hMade⟩
                | error fault => exact ⟨by rw [hThere.isDirectory], hBelow⟩
          · simp only [hHere.isDirectory, true_and]
            exact h

end Related

/-- Writing a file in trees that agree leaves trees that agree. -/
theorem Agree.write (h : Agree S t t') (hFinds : FindsSame p t t') (content : Bytes) :
    BothEnd (Agree S) (t.write p content) (t'.write p content) :=
  hFinds.findsAlike.write fun _ _ hRoot => h.put hRoot _

/-- Removing a file in trees that agree leaves trees that agree. -/
theorem Agree.removeFile (h : Agree S t t') (hFinds : FindsSame p t t') :
    BothEnd (Agree S) (t.removeFile p) (t'.removeFile p) :=
  hFinds.findsAlike.removeFile fun _ hRoot => h.dropWhere hRoot

end LockTriage.FileTree
