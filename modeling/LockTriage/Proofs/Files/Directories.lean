import LockTriage.Proofs.Files.Footprint

/-!
Making directories. Where a directory can be reached, making one in it is a matter of one
location. Otherwise the directories above are made first, and they are the same ones
whatever the name of the last.
-/

namespace LockTriage

namespace FileTree

variable {t t' : FileTree} {p : Path} {name : String}

/-! ### In a directory that can be reached -/

/-- What making a directory in one that can be reached has found and what it leaves. -/
theorem makeDirectories_eq_ok (hName : Path.Plain name) (hWalks : t.Walks p)
    (h : t.makeDirectories (p.join name) = (.ok (), t')) :
    p.Admits name ∧
      (t.at? (t.location p ++ [name]) = none ∨ t.at? (t.location p ++ [name]) = some .dir) ∧
      t'.home = t.home ∧
      ∀ loc, t'.at? loc = if loc = t.location p ++ [name] then some .dir else t.at? loc := by
  have hGrown := makeDirectories_grown h
  have hAlters := makeDirectories_alters hName hWalks h
  obtain ⟨hPlace, hChild⟩ := (isDirectory_join_iff hName).mp (makeDirectories_isDirectory hName h)
  rw [child?, location_of_home hGrown.home] at hChild
  refine ⟨((place_join_iff hName).mp hPlace).1, ?_, hGrown.home, fun loc => ?_⟩
  · rcases hGrown.at?_cases (t.location p ++ [name]) with hSame | ⟨hNone, _⟩
    · exact .inr (hSame ▸ hChild)
    · exact .inl hNone
  · split
    · rename_i hLoc
      rw [hLoc, hChild]
    · rename_i hLoc
      exact hAlters.same loc hLoc

/-- A name that a directory admits can be made a directory there, unless a file is in its place. -/
theorem makeDirectories_of_admits (hName : Path.Plain name) (hWalks : t.Walks p)
    (hAdmits : p.Admits name)
    (hAt : t.at? (t.location p ++ [name]) = none ∨ t.at? (t.location p ++ [name]) = some .dir) :
    ∃ t', t.makeDirectories (p.join name) = (.ok (), t') := by
  have hPlace := (place_join_iff hName).mpr ⟨hAdmits, hWalks⟩
  rcases hAt with hNone | hDir
  · have hMade : t.makeDirectory (p.join name) = .ok (t.put (t.location p ++ [name]) .dir) := by
      unfold makeDirectory
      simp [hPlace, bind, Except.bind, spot, hNone]
    exact ⟨_, by rw [makeDirectories, Path.ancestors_join p hName, makeFirst, hMade]⟩
  · exact ⟨t, makeDirectories_of_isDirectory hName ((isDirectory_join_iff hName).mpr ⟨hPlace, hDir⟩)⟩

/-! ### With the directories above -/

instance (t : FileTree) (p : Path) : Decidable (t.Walks p) :=
  inferInstanceAs (Decidable (_ = _))

/-- The tree with the directories that a path leads through, which are made if they cannot be
reached. -/
def rooted (t : FileTree) (p : Path) : FileTree :=
  if t.Walks p then t else (t.makeFirst p.above).2

theorem rooted_of_walks (h : t.Walks p) : t.rooted p = t := if_pos h

theorem rooted_home (t : FileTree) (p : Path) : (t.rooted p).home = t.home := by
  unfold rooted
  split
  · rfl
  · exact (makeFirst_grown rfl).home

private theorem walks_of_makeDirectory (hName : Path.Plain name)
    (h : t.makeDirectory (p.join name) = .ok t') : t.Walks p := by
  unfold makeDirectory at h
  cases hPlace : t.place (p.join name) with
  | error fault => simp [hPlace, bind, Except.bind] at h
  | ok place =>
      rw [place_join hName hPlace] at hPlace
      exact ((place_join_iff hName).mp hPlace).2

/-- What making a directory leaves: the directories above it, made if need be, and the
directory itself. -/
theorem makeDirectories_rooted (hName : Path.Plain name)
    (h : t.makeDirectories (p.join name) = (.ok (), t')) :
    t'.Walks p ∧ t'.home = t.home ∧
      ∀ loc, t'.at? loc = if loc = t.location p ++ [name] then some .dir else (t.rooted p).at? loc := by
  have hDir := makeDirectories_isDirectory hName h
  have hGrown := makeDirectories_grown h
  refine ⟨walks_parent hName hDir, hGrown.home, ?_⟩
  by_cases hWalks : t.Walks p
  · rw [rooted_of_walks hWalks]
    exact (makeDirectories_eq_ok hName hWalks h).2.2.2
  · rw [makeDirectories, Path.ancestors_join p hName, makeFirst] at h
    rw [rooted, if_neg hWalks]
    split at h
    · rename_i made hMade
      exact absurd (walks_of_makeDirectory hName hMade) hWalks
    · rcases hUp : t.makeFirst p.above with ⟨done, below⟩
      rw [hUp] at h
      have hHome := (makeFirst_grown hUp).home
      cases done with
      | error fault => cases h
      | ok _ =>
          dsimp only at h ⊢
          split at h
          · rename_i made hMade
            cases h
            have hMake : below.makeDirectories (p.join name) = (.ok (), t') := by
              rw [makeDirectories, Path.ancestors_join p hName, makeFirst, hMade]
            obtain ⟨_, _, _, hAt⟩ := makeDirectories_eq_ok hName (walks_of_makeDirectory hName hMade) hMake
            rwa [location_of_home hHome] at hAt
          · obtain ⟨_, rfl⟩ := Prod.mk.inj h
            intro loc
            split
            · rename_i hLoc
              rw [hLoc, ← location_of_home hHome]
              exact ((isDirectory_join_iff hName).mp hDir).2
            · rfl
    · obtain ⟨_, rfl⟩ := Prod.mk.inj h
      exact absurd (walks_parent hName hDir) hWalks

end FileTree

end LockTriage
