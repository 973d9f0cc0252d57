import LockTriage.Proofs.Scan.Follows

/-!
The shelf over any number of scans. Scans may come with other settings, networks,
caches and answers, may fail, and may be broken off at any moment: the file of a
contract is always what the latest verdict on the contract asks for.
-/

namespace LockTriage

/-! ### Caches beside the shelf -/

namespace DiskCache

variable {c : DiskCache} {t : FileTree} {root : Path}

/-- Opening a cache makes directories only. -/
theorem load_grown (t : FileTree) (directory : Path) : FileTree.Grown t (load t directory).2.1 := by
  rcases hMade : t.makeDirectories (artifacts ⟨directory, []⟩) with ⟨done, made⟩
  have hGrown := FileTree.makeDirectories_grown hMade
  unfold load
  dsimp only
  rw [hMade]
  cases done with
  | error fault => exact hGrown
  | ok _ =>
      dsimp only
      split
      · exact hGrown
      · split
        · exact hGrown
        · split <;> exact hGrown

/-- Clearing a cache keeps the files that are not in its directory. -/
theorem clear_keepsFiles (h : (Cache.disk c).Apart t root) :
    FileTree.KeepsFiles root t (c.clear t).2.2 := by
  have hOut : ∀ loc, t.location root <+: loc → ¬ t.location c.directory <+: loc :=
    fun loc hBelow hInside => h loc hInside hBelow
  have hArtifacts : ∀ loc, t.location root <+: loc → ¬ t.location c.artifacts <+: loc := by
    intro loc hBelow hInside
    rw [location_artifacts] at hInside
    exact hOut loc hBelow ((List.prefix_append _ _).trans hInside)
  have hRemoved {removed : FileTree}
      (hRemove : (if t.pathExists c.artifacts then t.removeDirectory c.artifacts else .ok t) =
        .ok removed) : FileTree.KeepsFiles root t removed := by
    split at hRemove
    · exact FileTree.removeDirectory_keepsFiles hRemove hArtifacts
    · cases hRemove
      exact FileTree.KeepsFiles.refl root t
  unfold clear
  dsimp only
  split
  · exact FileTree.KeepsFiles.refl root t
  · rename_i removed hRemove
    have hFirst := hRemoved hRemove
    split
    · rename_i made hMade
      exact hFirst.trans ((FileTree.makeDirectories_grown hMade).keepsFiles root)
    · rename_i made hMade
      have hSecond := hFirst.trans ((FileTree.makeDirectories_grown hMade).keepsFiles root)
      have hFlush := (flush_alters ⟨c.directory, []⟩ made).touches
      refine hSecond.trans (hFlush.keepsFiles fun loc hBelow hLoc => ?_)
      rw [FileTree.location_of_home hSecond.home] at hBelow hLoc
      exact hOut loc hBelow (hLoc ▸ List.prefix_append _ _)

end DiskCache

namespace Scan

variable {σ : Type} {settings : Settings} {explorer : Explorer σ} {desk : Desk σ}
variable {tasks : List Task} {networks : List Network}

/-! ### Moments of a scan -/

/-- What a scan does: nothing if an export is missing. -/
def agenda (settings : Settings) (t : FileTree) (networks : List Network) : List Task :=
  match checkInputs settings t networks with
  | .error _ => []
  | .ok _ => plan settings t networks

/-- How far a scan has come after so many steps; it is over if it has no more. -/
def moment (settings : Settings) (explorer : Explorer σ) (desk : Desk σ)
    (networks : List Network) (count : Nat) : Progress σ :=
  (exec settings explorer (start desk) ((agenda settings desk.files networks).take count)).2

/-- The last moment of a scan is what the scan leaves. -/
theorem moment_last (settings : Settings) (explorer : Explorer σ) (desk : Desk σ)
    (networks : List Network) {count : Nat}
    (hCount : (agenda settings desk.files networks).length ≤ count) :
    (moment settings explorer desk networks count).desk =
      (run settings explorer desk networks).2 := by
  rw [moment, List.take_of_length_le hCount]
  cases hInputs : checkInputs settings desk.files networks with
  | error e =>
      rw [(run_of_missing explorer hInputs).1, agenda, hInputs]
      rfl
  | ok _ => rw [run_eq hInputs, agenda, hInputs]

theorem Orderly.take {ready : List Network} (h : Orderly ready tasks) (count : Nat) :
    Orderly ready (tasks.take count) := by
  induction h generalizing count with
  | done ready => simpa using Orderly.done ready
  | unreadable ready n e rest =>
      cases count with
      | zero => exact .done ready
      | succ count => exact .unreadable ready n e _
  | prepare h ih =>
      cases count with
      | zero => exact .done _
      | succ count => exact .prepare (ih count)
  | judge hReady hAddress h ih =>
      cases count with
      | zero => exact .done _
      | succ count => exact .judge hReady hAddress (ih count)
  | conclude h ih =>
      cases count with
      | zero => exact .done _
      | succ count => exact .conclude (ih count)

theorem orderly_agenda (settings : Settings) (t : FileTree) (networks : List Network) :
    Orderly [] (agenda settings t networks) := by
  unfold agenda
  split
  · exact .done []
  · exact orderly_plan settings t [] networks

/-- At every moment of a scan the shelf has followed what the scan has said. -/
theorem moment_follows (settings : Settings) (explorer : Explorer σ) (desk : Desk σ)
    (networks : List Network) (count : Nat)
    (hApart : desk.cache.Apart desk.files settings.outputDir) :
    settings.shelf.Follows desk.files (moment settings explorer desk networks count).rulings
      (moment settings explorer desk networks count).desk.files := by
  have hTasks := (orderly_agenda settings desk.files networks).take count
  have hReady : Ready settings (start desk).desk.files [] := by simp [Ready]
  obtain ⟨more, hRulings, hFollows⟩ :=
    exec_follows explorer (start desk) hTasks hReady hApart
  have hMore : (moment settings explorer desk networks count).rulings = more := hRulings
  rw [hMore]
  exact hFollows

/-! ### Histories -/

/-- What may happen to files in the course of time, and what was said meanwhile about
the shelf below a directory: a contract with the source that has to be there, or none.
Scans put their sources below that directory, and may be broken off at any moment.
Whatever happens besides them keeps the files there. -/
inductive History (root : Path) (first : FileTree) :
    FileTree → List (CacheKey × Option String) → Prop where
  | start : History root first first []
  | scan {t : FileTree} {rulings : List (CacheKey × Option String)} {σ : Type}
      (h : History root first t rulings) (settings : Settings) (explorer : Explorer σ)
      (desk : Desk σ) (networks : List Network) (count : Nat) (hRoot : settings.outputDir = root)
      (hFiles : desk.files = t) (hApart : desk.cache.Apart t root) :
      History root first (moment settings explorer desk networks count).desk.files
        (rulings ++ (moment settings explorer desk networks count).rulings)
  | elsewhere {t t' : FileTree} {rulings : List (CacheKey × Option String)}
      (h : History root first t rulings) (hKeeps : FileTree.KeepsFiles root t t') :
      History root first t' rulings

namespace History

variable {root : Path} {first t : FileTree} {rulings : List (CacheKey × Option String)}

/-- A whole scan, whether it succeeds or fails. -/
theorem run (h : History root first t rulings) (settings : Settings) (explorer : Explorer σ)
    (desk : Desk σ) (networks : List Network) (hRoot : settings.outputDir = root)
    (hFiles : desk.files = t) (hApart : desk.cache.Apart t root) :
    History root first (run settings explorer desk networks).2.files
      (rulings ++ (moment settings explorer desk networks
        (agenda settings desk.files networks).length).rulings) := by
  rw [← moment_last settings explorer desk networks (Nat.le_refl _)]
  exact h.scan settings explorer desk networks _ hRoot hFiles hApart

/-- A history goes on with a cache being loaded. -/
theorem load (h : History root first t rulings) (directory : Path) :
    History root first (DiskCache.load t directory).2.1 rulings :=
  h.elsewhere ((DiskCache.load_grown t directory).keepsFiles root)

/-- A history goes on with a cache being cleared. -/
theorem clear (h : History root first t rulings) {c : DiskCache}
    (hApart : (Cache.disk c).Apart t root) : History root first (c.clear t).2.2 rulings :=
  h.elsewhere (DiskCache.clear_keepsFiles hApart)

/-- A shelf follows its history. -/
theorem follows (h : History root first t rulings) : Shelf.Follows ⟨root⟩ first rulings t := by
  induction h with
  | start => exact Shelf.follows_of_keepsFiles (FileTree.KeepsFiles.refl root first)
  | scan h settings explorer desk networks count hRoot hFiles hApart ih =>
      subst hRoot hFiles
      exact ih.trans (moment_follows settings explorer desk networks count hApart)
  | @elsewhere t t' rulings h hKeeps ih =>
      rw [← List.append_nil rulings]
      exact ih.trans (Shelf.follows_of_keepsFiles hKeeps)

end History

/-- At every moment of every history, the shelf has what was last said about each
contract: the source of a vulnerable contract word for word, and no file of a
contract that is not vulnerable. Every other file below its directory, of a
contract or not, is what it was at first. -/
theorem shelf_follows_history {root : Path} {first t : FileTree}
    {rulings : List (CacheKey × Option String)} (h : History root first t rulings) :
    (∀ network address source,
      Shelf.latest? ⟨network, address⟩ rulings = some (some source) →
        Shelf.kept? ⟨root⟩ t network address = some (Bytes.ofText source) ∧
          ('/' ∉ address.toList → t.Walks (Shelf.directory ⟨root⟩ network) →
            t.read (Shelf.place ⟨root⟩ network address) = .ok (Bytes.ofText source))) ∧
    (∀ network address, Shelf.latest? ⟨network, address⟩ rulings = some none →
      Shelf.kept? ⟨root⟩ t network address = none ∧
        ('/' ∉ address.toList → t.isFile (Shelf.place ⟨root⟩ network address) = false)) ∧
    ∀ loc, first.location root <+: loc →
      (∀ network address, loc = Shelf.spot ⟨root⟩ first network address →
        Shelf.latest? ⟨network, address⟩ rulings = none) →
      t.content? loc = first.content? loc := by
  have hFollows := h.follows
  refine ⟨fun network address source hLatest => ?_, fun network address hLatest => ?_,
    fun loc hBelow hUnsaid => ?_⟩
  · have hKept := hFollows.kept network address
    rw [hLatest] at hKept
    exact ⟨hKept, fun hAddress hWalks => (Shelf.read_place_iff hAddress hWalks).mpr hKept⟩
  · have hKept := hFollows.kept network address
    rw [hLatest] at hKept
    exact ⟨hKept, fun hAddress => FileTree.isFile_of_file? (Shelf.plain_title hAddress) hKept⟩
  · refine hFollows.others loc hBelow fun ruling hMem hLoc => ?_
    exact Shelf.latest?_ne_none hMem (hUnsaid _ _ hLoc)

end Scan

namespace Scan.Turns

/-- An export of two contracts, and a shelf with files of one of them and of a third. -/
def files : FileTree :=
  ⟨["w"], [(["w"], .dir), (["w", "in"], .dir),
    (["w", "in", "poly.csv"], .file (Bytes.ofText "0xA,0.3.0\n0xB,0.3.0\n")),
    (["w", "out"], .dir), (["w", "out", "poly"], .dir),
    (["w", "out", "poly", "0xB.vy"], .file (Bytes.ofText "old")),
    (["w", "out", "poly", "0xC.vy"], .file (Bytes.ofText "third"))]⟩

def settings : Settings :=
  { Settings.standard with inputDir := ⟨"in"⟩, outputDir := ⟨"out"⟩ }

/-- A lock that is used twice, and a call without protection. -/
def vulnerable : String := "@nonreentrant('a')\n@nonreentrant('a')\nraw_call(x)"

def document (source : String) : Json :=
  .object [("result", .list
    [.object [("CompilerVersion", .text "vyper:0.3.0"), ("SourceCode", .text source)]])]

/-- An explorer with the source of one address. -/
def explorer (address source : String) : Explorer Unit where
  endpoint := Network.defaultApiUrl
  answer query state :=
    (if query.address = address then .ok (document source) else .error (.status 500), state)

def keys : KeyRing := ⟨[(.poly, ⟨["k"], 0, by decide⟩)]⟩

/-- The cache is opened for the first time. -/
def opened : FileTree := (DiskCache.load files ⟨"cache"⟩).2.1

def first : Desk Unit := ⟨opened, .disk ⟨⟨"cache"⟩, []⟩, keys, (), []⟩

/-- The first contract is flagged, and the scan fails at the second. -/
def failed : FileTree := (run settings (explorer "0xA" vulnerable) first [.poly]).2.files

/-- The cache is cleared. -/
def cleared : FileTree := (DiskCache.clear ⟨⟨"cache"⟩, []⟩ failed).2.2

def second : Desk Unit := ⟨cleared, .memory [], keys, (), []⟩

/-- The first contract is found safe by now, and then the scan is broken off. -/
def broken : FileTree := (moment settings (explorer "0xA" "") second [.poly] 2).desk.files

/-- A run that fails and one that is broken off, and what the shelf then keeps of the two contracts.
-/
theorem shelf_follows_turns :
    Shelf.kept? ⟨⟨"out"⟩⟩ failed .poly "0xA" = some (Bytes.ofText vulnerable) ∧
      Shelf.kept? ⟨⟨"out"⟩⟩ broken .poly "0xA" = none ∧
      broken.content? ["w", "out", "poly", "0xB.vy"] = some (Bytes.ofText "old") := by
  have hApart (t : FileTree) (hHome : t.home = files.home) :
      (Cache.disk ⟨⟨"cache"⟩, []⟩).Apart t ⟨"out"⟩ := by
    refine Cache.Apart.of_home (t := files) ?_ hHome
    exact Cache.apart_disk (by decide +kernel) (by decide +kernel)
  have hOpened : History ⟨"out"⟩ files opened [] := History.start.load ⟨"cache"⟩
  have hFailed := hOpened.run settings (explorer "0xA" vulnerable) first [.poly] rfl rfl
    (hApart opened (by decide +kernel))
  have hCleared : History ⟨"out"⟩ files cleared _ := hFailed.clear (hApart failed (by decide +kernel))
  have hBroken := hCleared.scan settings (explorer "0xA" "") second [.poly] 2 rfl rfl fun _ h => h.elim
  obtain ⟨hFlagged, _, _⟩ := shelf_follows_history hFailed
  obtain ⟨_, hSafe, hOthers⟩ := shelf_follows_history hBroken
  refine ⟨(hFlagged .poly "0xA" vulnerable (by decide +kernel)).1,
    (hSafe .poly "0xA" (by decide +kernel)).1, ?_⟩
  have hSame := hOthers ["w", "out", "poly", "0xB.vy"] (by decide +kernel) ?_
  · exact hSame.trans (by decide +kernel)
  · intro network address hLoc
    have hSpot : Shelf.spot ⟨⟨"out"⟩⟩ files .poly "0xB" = Shelf.spot ⟨⟨"out"⟩⟩ files network address :=
      Eq.trans (by decide +kernel) hLoc
    obtain ⟨rfl, rfl⟩ := Shelf.spot_injective hSpot
    decide +kernel

end Scan.Turns

end LockTriage
