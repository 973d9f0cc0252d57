import LockTriage.Proofs.Files.Agree

/-!
Trees of one shape. The same directories and files stand in both, and what the files hold is
related, location by location. No path can tell such trees apart but by what it reads, so
operations fail alike or keep the shape, also if they write different contents that are related.
-/

namespace LockTriage.FileTree

variable {t t' : FileTree} {p : Path} {R : Location → Bytes → Bytes → Prop} {loc : Location}

theorem Alike.imp {Q Q' : Bytes → Bytes → Prop} {e e' : Option Entry} (h : Alike Q e e')
    (hImp : ∀ {content content'}, Q content content' → Q' content content') : Alike Q' e e' := by
  cases h with
  | none => exact .none
  | dir => exact .dir
  | file hRelated => exact .file (hImp hRelated)

/-- The same directories and files stand in both trees, and the contents of the files are related. -/
structure Matches (R : Location → Bytes → Bytes → Prop) (t t' : FileTree) : Prop where
  home : t'.home = t.home
  entries : ∀ loc, Alike (R loc) (t.at? loc) (t'.at? loc)

namespace Matches

theorem refl (hRefl : ∀ loc content, R loc content content) (t : FileTree) : Matches R t t :=
  ⟨rfl, fun loc => .of_eq (hRefl loc) rfl⟩

/-- Trees that match still do when entries that match are put into them. -/
theorem put (h : Matches R t t') (hRoot : loc ≠ []) {e e' : Entry}
    (hEntry : Alike (R loc) (some e) (some e')) : Matches R (t.put loc e) (t'.put loc e') := by
  refine ⟨h.home, fun other => ?_⟩
  rw [at?_put hRoot, at?_put hRoot]
  split
  · rename_i hSame
    rwa [hSame]
  · exact h.entries other

/-- Trees that match still do when the same location is dropped from both. -/
theorem dropWhere (h : Matches R t t') (hRoot : loc ≠ []) :
    Matches R (t.dropWhere (· = loc)) (t'.dropWhere (· = loc)) := by
  refine ⟨h.home, fun other => ?_⟩
  rw [at?_dropWhere hRoot, at?_dropWhere hRoot]
  split
  · exact .none
  · exact h.entries other

/-! ### Paths -/

/-- Trees that match are entered alike. -/
theorem enter (h : Matches R t t') (loc : Location) (name : String) :
    t'.enter loc name = t.enter loc name := by
  have hEntry := h.entries (loc ++ [name])
  unfold FileTree.enter
  generalize t.at? (loc ++ [name]) = e at hEntry ⊢
  generalize t'.at? (loc ++ [name]) = e' at hEntry ⊢
  cases hEntry <;> rfl

/-- A path leads to the same place in both trees, and what stands there is of one kind. -/
theorem findsAlike (h : Matches R t t') (p : Path) : FindsAlike p t t' := by
  have hEnter : t'.enter = t.enter := by
    funext loc name
    exact h.enter loc name
  refine ⟨?_, (h.entries _).imp fun _ => trivial⟩
  unfold FileTree.place
  rw [hEnter, h.home]

/-- A path finds the same if only equal contents are related where it leads. -/
theorem findsSame (h : Matches R t t') (hEqual : ∀ content content',
    R (t.location p) content content' → content' = content) : FindsSame p t t' := by
  refine ⟨(h.findsAlike p).place, ?_⟩
  have hEntry := h.entries (t.location p)
  generalize t.at? (t.location p) = e at hEntry ⊢
  generalize t'.at? (t.location p) = e' at hEntry ⊢
  cases hEntry with
  | none => rfl
  | dir => rfl
  | file hRelated => rw [hEqual _ _ hRelated]

/-- Reading brings the same, or contents that are related. -/
theorem read (h : Matches R t t') (p : Path) :
    t'.read p = t.read p ∨ ∃ content content', R (t.location p) content content' ∧
      t.read p = .ok content ∧ t'.read p = .ok content' := by
  unfold FileTree.read
  rcases (h.findsAlike p).stat with hSame | ⟨content, content', hFile, hFile', hAt, hAt'⟩
  · rw [hSame]
    exact .inl rfl
  · have hEntry := h.entries (t.location p)
    rw [hAt, hAt'] at hEntry
    rw [hFile, hFile']
    cases hEntry with
    | file hRelated => exact .inr ⟨content, content', hRelated, rfl, rfl⟩

/-! ### Operations -/

/-- Writing contents that match succeeds or fails in both trees. -/
theorem write (h : Matches R t t') {content content' : Bytes}
    (hContent : R (t.location p) content content') :
    BothEnd (Matches R) (t.write p content) (t'.write p content') := by
  refine (h.findsAlike p).write fun loc hLoc hRoot => h.put hRoot (.file ?_)
  rwa [hLoc]

/-- Making directories ends alike in trees that match. -/
theorem makeDirectories (h : Matches R t t') (p : Path) :
    (t'.makeDirectories p).1 = (t.makeDirectories p).1 ∧
      Matches R (t.makeDirectories p).2 (t'.makeDirectories p).2 :=
  makeFirst_related h (fun q _ _ _ hNext => hNext.findsAlike q) fun _ hNext hRoot =>
    hNext.put hRoot .dir

end Matches

end LockTriage.FileTree
