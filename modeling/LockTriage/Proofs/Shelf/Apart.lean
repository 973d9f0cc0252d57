import LockTriage.Proofs.Files.Directories
import LockTriage.Proofs.Files.Matches
import LockTriage.Proofs.Files.Trail
import LockTriage.Proofs.Shelf

/-!
The directories of networks on a shelf. Preparing and following verdicts for a network goes
by what stands in its directory, and changes nothing in the directories of other networks.
-/

namespace LockTriage.Shelf

variable {s : Shelf} {t t' u u' : FileTree} {network other : Network} {address source : String}
variable {vulnerable : Bool} {S : Location → Prop}

/-- The location is that of the directory of a network, or is below it. -/
def Below (s : Shelf) (t : FileTree) (network : Network) (loc : Location) : Prop :=
  t.location (s.directory network) <+: loc

theorem below_of_home (h : t'.home = t.home) : s.Below t' network = s.Below t network := by
  unfold Below
  rw [FileTree.location_of_home h]

theorem below_spot (s : Shelf) (t : FileTree) (network : Network) (address : String) :
    s.Below t network (s.spot t network address) := by
  rw [← location_title]
  exact List.prefix_append _ _

/-- No location is in the directories of two networks. -/
theorem not_below_other {loc : Location} (hOther : other ≠ network) (h : s.Below t other loc) :
    ¬ s.Below t network loc := by
  intro hBelow
  unfold Below at h hBelow
  rw [location_directory] at h hBelow
  have hSame := (List.prefix_of_prefix_length_le h hBelow (by simp)).eq_of_length (by simp)
  have hNames := List.append_cancel_left hSame
  simp only [List.cons.injEq, and_true] at hNames
  exact hOther (CacheKey.name_injective hNames)

/-! ### Following a verdict in two trees -/

/-- Preparing the directory of a network in two trees fails alike, or leaves trees that
are related and in which the place of a contract is alike. -/
inductive BothPrepare (R : FileTree → FileTree → Prop) (place : Path) :
    Except ScanError Unit × FileTree → Except ScanError Unit × FileTree → Prop where
  | error {t t' : FileTree} (e : ScanError) (h : R t t') :
      BothPrepare R place (.error e, t) (.error e, t')
  | ok {t t' : FileTree} (h : R t t') (hFinds : FileTree.FindsAlike place t t') :
      BothPrepare R place (.ok (), t) (.ok (), t')

/-- A verdict comes to the same in trees that are related, if the place of the contract is alike
in them before and after preparing. -/
theorem update_related {R : FileTree → FileTree → Prop} (h : R t t')
    (hFinds : FileTree.FindsAlike (s.place network address) t t')
    (hPrepare : BothPrepare R (s.place network address) (s.prepare t network) (s.prepare t' network))
    (hPut : ∀ {u u' : FileTree} loc e, R u u' → loc ≠ [] → R (u.put loc e) (u'.put loc e))
    (hDrop : ∀ loc, loc ≠ [] → R (t.dropWhere (· = loc)) (t'.dropWhere (· = loc)))
    (source : String) (vulnerable : Bool) :
    (s.update t' network address source vulnerable).1 =
        (s.update t network address source vulnerable).1 ∧
      (s.update t' network address source vulnerable).2.2 =
        (s.update t network address source vulnerable).2.2 ∧
      R (s.update t network address source vulnerable).2.1
        (s.update t' network address source vulnerable).2.1 := by
  unfold update save
  generalize s.place network address = place at hFinds hPrepare ⊢
  cases vulnerable with
  | true =>
      simp only [if_true]
      generalize s.prepare t network = made at hPrepare ⊢
      generalize s.prepare t' network = made' at hPrepare ⊢
      cases hPrepare with
      | error e hMade => exact ⟨rfl, rfl, hMade⟩
      | @ok made made' hMade hPlace =>
          dsimp only
          have hWrite := hPlace.write
            fun loc _ hRoot => hPut loc (.file (Bytes.ofText source)) hMade hRoot
          generalize made.write place (Bytes.ofText source) = written at hWrite ⊢
          generalize made'.write place (Bytes.ofText source) = written' at hWrite ⊢
          cases hWrite with
          | error fault => exact ⟨rfl, rfl, hMade⟩
          | ok hWritten => exact ⟨rfl, rfl, hWritten⟩
  | false =>
      simp only [Bool.false_eq_true, if_false]
      rw [hFinds.pathExists]
      cases t.pathExists place with
      | false => exact ⟨rfl, rfl, h⟩
      | true =>
          simp only [if_true]
          have hRemove := hFinds.removeFile hDrop
          generalize t.removeFile place = removed at hRemove ⊢
          generalize t'.removeFile place = removed' at hRemove ⊢
          cases hRemove with
          | error fault => exact ⟨rfl, rfl, h⟩
          | ok hRemoved => exact ⟨rfl, rfl, hRemoved⟩

/-! ### In trees of one shape -/

section Matches

variable {Q : Location → Bytes → Bytes → Prop} (h : FileTree.Matches Q t t')
include h

theorem prepare_matches (s : Shelf) (network : Network) :
    (s.prepare t' network).1 = (s.prepare t network).1 ∧
      FileTree.Matches Q (s.prepare t network).2 (s.prepare t' network).2 := by
  obtain ⟨hDone, hMade⟩ := h.makeDirectories (s.directory network)
  unfold prepare
  generalize t.makeDirectories (s.directory network) = made at hDone hMade ⊢
  generalize t'.makeDirectories (s.directory network) = made' at hDone hMade ⊢
  obtain ⟨done, made⟩ := made
  obtain ⟨done', made'⟩ := made'
  obtain rfl : done' = done := hDone
  cases done' <;> exact ⟨rfl, hMade⟩

/-- A verdict comes to the same in trees of one shape, and they keep it. -/
theorem update_matches (hRefl : ∀ loc content, Q loc content content) (s : Shelf) (network : Network)
    (address source : String) (vulnerable : Bool) :
    (s.update t' network address source vulnerable).1 =
        (s.update t network address source vulnerable).1 ∧
      (s.update t' network address source vulnerable).2.2 =
        (s.update t network address source vulnerable).2.2 ∧
      FileTree.Matches Q (s.update t network address source vulnerable).2.1
        (s.update t' network address source vulnerable).2.1 := by
  refine update_related h (h.findsAlike _) ?_
    (fun loc e hNext hRoot => hNext.put hRoot (.of_eq (hRefl loc) rfl))
    (fun _ hRoot => h.dropWhere hRoot) source vulnerable
  obtain ⟨hDone, hMade⟩ := prepare_matches h s network
  generalize s.prepare t network = made at hDone hMade ⊢
  generalize s.prepare t' network = made' at hDone hMade ⊢
  obtain ⟨done, made⟩ := made
  obtain ⟨done', made'⟩ := made'
  obtain rfl : done' = done := hDone
  cases done' with
  | error e => exact .error e hMade
  | ok _ => exact .ok hMade (hMade.findsAlike _)

end Matches

/-! ### Where the way to the directory is the same -/

theorem prepare_agree (h : FileTree.Agree S t t')
    (hTrail : ∀ loc ∈ t.trail (s.directory network), S loc) :
    (s.prepare t' network).1 = (s.prepare t network).1 ∧
      FileTree.Agree S (s.prepare t network).2 (s.prepare t' network).2 := by
  obtain ⟨hDone, hMade⟩ := h.makeDirectories hTrail
  unfold prepare
  generalize t.makeDirectories (s.directory network) = made at hDone hMade ⊢
  generalize t'.makeDirectories (s.directory network) = made' at hDone hMade ⊢
  obtain ⟨done, made⟩ := made
  obtain ⟨done', made'⟩ := made'
  obtain rfl : done' = done := hDone
  cases done' <;> exact ⟨rfl, hMade⟩

private theorem findsSame_place (h : FileTree.Agree S t t')
    (hTrail : ∀ loc ∈ t.trail (s.directory network), S loc) (hAddress : '/' ∉ address.toList)
    (hSpot : S (s.spot t network address)) : FileTree.FindsSame (s.place network address) t t' := by
  refine h.findsSame fun loc hLoc => ?_
  rw [place_eq, FileTree.mem_trail_join (plain_title hAddress), location_title] at hLoc
  rcases hLoc with hWay | rfl
  · exact hTrail loc hWay
  · exact hSpot

/-- A verdict comes to the same in trees that agree on the way to the directory of the network
and at the place of the contract. -/
theorem update_agree_of_trail (h : FileTree.Agree S t t')
    (hTrail : ∀ loc ∈ t.trail (s.directory network), S loc) (hAddress : '/' ∉ address.toList)
    (hSpot : S (s.spot t network address)) (source : String) (vulnerable : Bool) :
    (s.update t' network address source vulnerable).1 =
        (s.update t network address source vulnerable).1 ∧
      (s.update t' network address source vulnerable).2.2 =
        (s.update t network address source vulnerable).2.2 ∧
      FileTree.Agree S (s.update t network address source vulnerable).2.1
        (s.update t' network address source vulnerable).2.1 := by
  refine update_related h (findsSame_place h hTrail hAddress hSpot).findsAlike ?_
    (fun _ e hNext hRoot => hNext.put hRoot e) (fun _ hRoot => h.dropWhere hRoot) source vulnerable
  obtain ⟨hDone, hMade⟩ := prepare_agree h hTrail
  rcases hPrepare : s.prepare t network with ⟨done, made⟩
  rcases hPrepare' : s.prepare t' network with ⟨done', made'⟩
  rw [hPrepare, hPrepare'] at hDone hMade
  obtain rfl : done' = done := hDone
  cases done' with
  | error e => exact .error e hMade
  | ok _ =>
      have hHome := (prepare_grown hPrepare).home
      refine .ok hMade (findsSame_place hMade ?_ hAddress ?_).findsAlike
      · rw [FileTree.trail_of_home hHome]
        exact hTrail
      · rw [spot_of_home hHome]
        exact hSpot

/-! ### Where the shelf can be reached -/

private theorem at?_directory (h : FileTree.Agree S t t')
    (hPlace : S (t.location (s.directory network))) :
    t'.at? (t'.location s.root ++ [network.name]) = t.at? (t.location s.root ++ [network.name]) := by
  rw [FileTree.location_of_home h.home, ← location_directory]
  exact h.same _ hPlace

theorem isDirectory_of_reached (h : FileTree.Agree S t t') (hWalks' : t'.Walks s.root)
    (hPlace : S (t.location (s.directory network)))
    (hThere : t.isDirectory (s.directory network) = true) :
    t'.isDirectory (s.directory network) = true := by
  have hName := plain_network network
  have hAt := at?_directory h hPlace
  rw [directory, FileTree.isDirectory_join_iff hName, FileTree.place_join_iff hName,
    FileTree.child?] at hThere ⊢
  exact ⟨⟨hThere.1.1, hWalks'⟩, hAt.trans hThere.2⟩

/-- The directory of a network is made alike in trees in which the same stands in its place. -/
theorem prepare_of_reached (h : FileTree.Agree S t t') (hWalks : t.Walks s.root)
    (hWalks' : t'.Walks s.root) (hPlace : S (t.location (s.directory network)))
    (hMade : s.prepare t network = (.ok (), u)) :
    ∃ u', s.prepare t' network = (.ok (), u') ∧ FileTree.Agree S u u' ∧
      u.Walks s.root ∧ u'.Walks s.root := by
  have hName := plain_network network
  have hAt := at?_directory h hPlace
  obtain ⟨hAdmits, hRoom, hHome, hLeft⟩ :=
    FileTree.makeDirectories_eq_ok hName hWalks (prepare_eq_ok hMade)
  obtain ⟨u', hMade'⟩ := FileTree.makeDirectories_of_admits hName hWalks' hAdmits (by rwa [hAt])
  obtain ⟨_, _, hHome', hLeft'⟩ := FileTree.makeDirectories_eq_ok hName hWalks' hMade'
  have hPrepared : s.prepare t' network = (.ok (), u') := by
    rw [prepare, directory, hMade']
  refine ⟨u', hPrepared, ⟨by rw [hHome', h.home, hHome], fun loc hLoc => ?_⟩, ?_, ?_⟩
  · rw [hLeft, hLeft', FileTree.location_of_home h.home, h.same loc hLoc]
  · exact FileTree.walks_parent hName (prepare_isDirectory hMade)
  · exact FileTree.walks_parent hName (prepare_isDirectory hPrepared)

/-! ### Where the directory is there -/

section There

variable (h : FileTree.Agree S t t') (hThere : t.isDirectory (s.directory network) = true)
  (hThere' : t'.isDirectory (s.directory network) = true) (hAddress : '/' ∉ address.toList)
  (hSpot : S (s.spot t network address))
include h hThere hThere' hAddress hSpot

theorem findsSame_of_there : FileTree.FindsSame (s.place network address) t t' := by
  have hTitle := plain_title hAddress
  rw [place_eq]
  refine ⟨?_, ?_⟩
  · have hWalks : t.Walks (s.directory network) :=
      FileTree.walks_of_isDirectory (plain_network network) hThere
    have hWalks' : t'.Walks (s.directory network) :=
      FileTree.walks_of_isDirectory (plain_network network) hThere'
    rw [FileTree.place_join_of_walks hTitle hWalks, FileTree.place_join_of_walks hTitle hWalks',
      FileTree.spot, FileTree.spot, FileTree.location_of_home h.home]
  · rw [FileTree.location_join _ _ hTitle, location_title]
    exact h.same _ hSpot

/-- Where the directory of the network is there, a verdict goes by what stands in the place of
the contract. -/
theorem update_of_there (source : String) (vulnerable : Bool) :
    (s.update t' network address source vulnerable).1 =
        (s.update t network address source vulnerable).1 ∧
      FileTree.Agree S (s.update t network address source vulnerable).2.1
        (s.update t' network address source vulnerable).2.1 := by
  have hFinds := findsSame_of_there h hThere hThere' hAddress hSpot
  have hPrepare : BothPrepare (FileTree.Agree S) (s.place network address) (s.prepare t network)
      (s.prepare t' network) := by
    rw [prepare_of_isDirectory hThere, prepare_of_isDirectory hThere']
    exact .ok h hFinds.findsAlike
  obtain ⟨hResult, _, hAgree⟩ := update_related h hFinds.findsAlike hPrepare
    (fun _ e hNext hRoot => hNext.put hRoot e) (fun _ hRoot => h.dropWhere hRoot) source vulnerable
  exact ⟨hResult, hAgree⟩

end There

/-- In two trees the directory of a network is there and the same stands in it. -/
structure SameDirectory (s : Shelf) (network : Network) (t t' : FileTree) : Prop where
  agree : FileTree.Agree (s.Below t network) t t'
  there : t.isDirectory (s.directory network) = true
  there' : t'.isDirectory (s.directory network) = true

/-- Verdicts keep it that the same stands in the directory of the network. -/
theorem SameDirectory.update (h : s.SameDirectory network t t') (hAddress : '/' ∉ address.toList)
    (source : String) (vulnerable : Bool) :
    (s.update t' network address source vulnerable).1 =
        (s.update t network address source vulnerable).1 ∧
      s.SameDirectory network (s.update t network address source vulnerable).2.1
        (s.update t' network address source vulnerable).2.1 := by
  obtain ⟨hResult, hAgree⟩ := update_of_there h.agree h.there h.there' hAddress
    (below_spot s t network address) source vulnerable
  have hKeeps := (update_touches s t network hAddress source vulnerable).toKeepsDirectories
  have hKeeps' := (update_touches s t' network hAddress source vulnerable).toKeepsDirectories
  refine ⟨hResult, ?_, hKeeps.isDirectory (plain_network network) h.there,
    hKeeps'.isDirectory (plain_network network) h.there'⟩
  rw [below_of_home hKeeps.home]
  exact hAgree

/-! ### Preparing -/

/-- What preparing the directory of a network leaves: the directories down to the shelf, made
if need be, and the directory of the network. -/
theorem prepare_rooted (h : s.prepare t network = (.ok (), t')) :
    t'.Walks s.root ∧ t'.home = t.home ∧
      ∀ loc, t'.at? loc = if loc = t.location (s.directory network) then some .dir
        else (t.rooted s.root).at? loc := by
  rw [location_directory]
  exact FileTree.makeDirectories_rooted (plain_network network) (prepare_eq_ok h)

/-- Preparing in two trees in which the same stands in the directory of the network, once the
shelf can be reached. -/
theorem sameDirectory_of_prepare
    (hAgree : FileTree.Agree (s.Below t network) (t.rooted s.root) (t'.rooted s.root))
    (h : s.prepare t network = (.ok (), u)) (h' : s.prepare t' network = (.ok (), u')) :
    s.SameDirectory network u u' := by
  obtain ⟨_, hHome, hAt⟩ := prepare_rooted h
  obtain ⟨_, hHome', hAt'⟩ := prepare_rooted h'
  have hHomes : t'.home = t.home := by
    rw [← FileTree.rooted_home t' s.root, hAgree.home, FileTree.rooted_home]
  refine ⟨⟨by rw [hHome, hHome', hHomes], fun loc hLoc => ?_⟩, prepare_isDirectory h,
    prepare_isDirectory h'⟩
  rw [below_of_home hHome] at hLoc
  rw [hAt, hAt', FileTree.location_of_home hHomes, hAgree.same loc hLoc]

/-- Preparing the directory of one network leaves those of others. -/
theorem agree_of_prepare_other (hOther : other ≠ network) (h : s.prepare t other = (.ok (), u)) :
    FileTree.Agree (s.Below t network) (t.rooted s.root) u := by
  obtain ⟨_, hHome, hAt⟩ := prepare_rooted h
  refine ⟨by rw [hHome, FileTree.rooted_home], fun loc hLoc => ?_⟩
  rw [hAt, if_neg]
  rintro rfl
  exact not_below_other hOther (List.prefix_rfl) hLoc

end LockTriage.Shelf
