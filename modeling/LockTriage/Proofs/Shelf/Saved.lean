import LockTriage.Proofs.Files.Listing
import LockTriage.Proofs.Shelf.Confined

/-!
The saved sources of a network. They are the files of its directory that have a name like
that of a contract's file, in the order of their paths, so after any verdicts they are the
files of the contracts whose last verdict was "vulnerable".
-/

namespace LockTriage.Shelf

variable {s : Shelf} {t t' : FileTree} {network : Network} {address : String}

/-! ### The listing -/

theorem title_eq (stem : String) : title stem = stem ++ ".vy" := by
  refine String.toList_injective ?_
  rw [toList_title, String.toList_append]
  rfl

/-- A name is one of a source if it is the title of something. -/
theorem isSource_iff {name : String} :
    isSource name = true ↔ ∃ stem, stem ≠ "" ∧ name = title stem := by
  constructor
  · intro h
    unfold isSource at h
    split at h
    · rename_i last front hReversed
      have hName : name.toList = (last :: front).reverse ++ ['.', 'v', 'y'] := by
        rw [← List.reverse_reverse name.toList, hReversed]
        simp
      refine ⟨String.ofList (last :: front).reverse, by simp, String.toList_injective ?_⟩
      rw [hName, toList_title, String.toList_ofList]
    · cases h
  · rintro ⟨stem, hStem, rfl⟩
    obtain ⟨last, front, hReversed⟩ : ∃ last front, stem.toList.reverse = last :: front :=
      List.exists_cons_of_ne_nil (by simpa [String.toList_eq_nil_iff] using hStem)
    rw [isSource, toList_title, List.reverse_append, hReversed]
    rfl

/-- The name of an entry that is a saved source. -/
def sourceName? : String × Entry → Option String
  | (name, .file _) => if isSource name then some name else none
  | (_, .dir) => none

/-- The names of the saved sources, as the directory lists them. -/
def sourceNames (s : Shelf) (t : FileTree) (network : Network) : List String :=
  (t.list (s.directory network)).filterMap sourceName?

/-- What is listed are the names of the sources, sorted, each in the network's directory. -/
theorem saved_eq_map (s : Shelf) (t : FileTree) (network : Network) :
    s.saved t network =
      ((s.sourceNames t network).mergeSort fun a b => !decide (b < a)).map
        (s.directory network).join := by
  unfold saved sourceNames
  dsimp only
  congr 3
  funext entry
  rcases entry with ⟨name, _ | _⟩ <;> rfl

/-- An entry has the name of a source if it is a file with such a name. -/
theorem sourceName?_eq_some_iff {entry : String × Entry} {name : String} :
    sourceName? entry = some name ↔
      entry.1 = name ∧ (∃ content, entry.2 = .file content) ∧ isSource name = true := by
  rcases entry with ⟨found, content | _⟩
  · simp only [sourceName?, Entry.file.injEq, exists_eq', true_and]
    split
    · rename_i hSource
      rw [Option.some.injEq]
      exact ⟨fun h => ⟨h, h ▸ hSource⟩, fun h => h.1⟩
    · rename_i hOther
      refine iff_of_false (by simp) ?_
      rintro ⟨rfl, hSource⟩
      exact hOther hSource
  · simp [sourceName?]

/-- The sources listed are the files in the directory with the name of a source. -/
theorem mem_sourceNames_iff (h : t.Sound) {name : String} :
    name ∈ s.sourceNames t network ↔
      t.HasFile (s.directory network) name ∧ isSource name = true := by
  rw [sourceNames, List.mem_filterMap, directory, FileTree.list_join (plain_network network),
    ← directory, FileTree.HasFile, FileTree.child?]
  by_cases hDir : t.isDirectory (s.directory network) = true
  · simp only [hDir, if_true, sourceName?_eq_some_iff, true_and]
    constructor
    · rintro ⟨⟨_, _⟩, hMem, rfl, ⟨content, rfl⟩, hSource⟩
      exact ⟨⟨content, h.mem_children_iff.mp hMem⟩, hSource⟩
    · rintro ⟨⟨content, hChild⟩, hSource⟩
      exact ⟨(name, .file content), h.mem_children_iff.mpr hChild, rfl, ⟨content, rfl⟩, hSource⟩
  · simp [hDir]

/-- No source is listed twice. -/
theorem nodup_sourceNames (h : t.Sound) : (s.sourceNames t network).Nodup := by
  rw [sourceNames, directory, FileTree.list_join (plain_network network)]
  split
  · have hNames := List.pairwise_map.mp (h.nodup_children (t.location (s.root.join network.name)))
    refine hNames.filterMap _ fun first second hNe name hFirst name' hSecond => ?_
    rw [← (sourceName?_eq_some_iff.mp hFirst).1, ← (sourceName?_eq_some_iff.mp hSecond).1]
    exact hNe
  · exact List.nodup_nil

/-- The saved sources are the files of the directory with a name of their kind. -/
theorem mem_saved_iff (h : t.Sound) {p : Path} :
    p ∈ s.saved t network ↔
      ∃ stem, stem ≠ "" ∧ p = s.place network stem ∧
        t.HasFile (s.directory network) (title stem) := by
  rw [saved_eq_map, List.mem_map]
  simp only [List.mem_mergeSort, mem_sourceNames_iff h, isSource_iff]
  constructor
  · rintro ⟨_, ⟨hFile, stem, hStem, rfl⟩, rfl⟩
    exact ⟨stem, hStem, rfl, hFile⟩
  · rintro ⟨stem, hStem, rfl, hFile⟩
    exact ⟨title stem, ⟨hFile, stem, hStem, rfl⟩, rfl⟩

/-- Names that are sorted as the listing sorts them increase, if none is there twice. -/
private theorem pairwise_mergeSort {names : List String} (h : names.Nodup) :
    (names.mergeSort fun a b => !decide (b < a)).Pairwise (· < ·) := by
  have hLe (a b : String) : (!decide (b < a)) = true ↔ a ≤ b := by
    rw [Bool.not_eq_true', decide_eq_false_iff_not, not_lt]
  have hSorted : (names.mergeSort fun a b => !decide (b < a)).Pairwise
      fun a b => (!decide (b < a)) = true := by
    refine List.pairwise_mergeSort (fun a b c hab hbc => ?_) (fun a b => ?_) names
    · rw [hLe] at *
      exact hab.trans hbc
    · rw [Bool.or_eq_true, hLe, hLe]
      exact le_total a b
  have hNodup := (List.mergeSort_perm names fun a b => !decide (b < a)).nodup_iff.mpr h
  exact (hSorted.and hNodup).imp fun ⟨hFirst, hNe⟩ => lt_of_le_of_ne ((hLe _ _).mp hFirst) hNe

/-- The saved sources are listed in the order of their paths, each of them once. -/
theorem saved_sorted (h : t.Sound) : (s.saved t network).Pairwise Path.Before := by
  have hPlain : ∀ name ∈ (s.sourceNames t network).mergeSort fun a b => !decide (b < a),
      Path.Plain name := by
    intro name hMem
    obtain ⟨⟨_, content, hChild⟩, _⟩ := (mem_sourceNames_iff h).mp (List.mem_mergeSort.mp hMem)
    exact h.plain_of_at? hChild
  rw [saved_eq_map, List.pairwise_map]
  exact (pairwise_mergeSort (nodup_sourceNames h)).imp_of_mem fun hFirst hSecond hLess =>
    Path.before_join _ (hPlain _ hFirst) (hPlain _ hSecond) hLess

/-- What is saved is a file at the location of some name in the directory. -/
theorem file_of_saved (h : t.Sound) {p : Path} (hSaved : p ∈ s.saved t network) :
    t.isDirectory p = false ∧ ∃ stem, stem ≠ "" ∧
      t.location p = t.location (s.directory network) ++ [title stem] ∧
      t.HasFile (s.directory network) (title stem) := by
  obtain ⟨stem, hStem, rfl, hDir, content, hChild⟩ := (mem_saved_iff h).mp hSaved
  have hTitle := h.plain_of_at? hChild
  refine ⟨?_, stem, hStem, FileTree.location_join t _ hTitle, hDir, content, hChild⟩
  rw [← Bool.not_eq_true, place_eq, FileTree.isDirectory_join_iff hTitle, hChild]
  simp

/-- The file of a contract is listed if it is there and the contract has an address. -/
theorem place_mem_saved_iff (h : t.Sound) (hAddress : '/' ∉ address.toList) :
    s.place network address ∈ s.saved t network ↔
      address ≠ "" ∧ t.HasFile (s.directory network) (title address) := by
  constructor
  · intro hSaved
    obtain ⟨_, stem, hStem, hLocation, hFile⟩ := file_of_saved h hSaved
    rw [place_eq, FileTree.location_join t _ (plain_title hAddress)] at hLocation
    have hTitles := List.singleton_injective (List.append_cancel_left hLocation)
    obtain rfl := title_injective hTitles
    exact ⟨hStem, hFile⟩
  · rintro ⟨hSome, hFile⟩
    exact (mem_saved_iff h).mpr ⟨address, hSome, rfl, hFile⟩

/-! ### After verdicts -/

/-- A verdict on a contract, with the source that it is about. -/
structure Verdict where
  contract : CacheKey
  source : String
  vulnerable : Bool
  deriving DecidableEq, Repr

/-- Let the shelf follow verdicts, one after another, up to the first that fails. -/
def updateAll (s : Shelf) (t : FileTree) : List Verdict → Except ScanError FileTree
  | [] => .ok t
  | v :: rest =>
      match s.update t v.contract.network v.contract.address v.source v.vulnerable with
      | (.error e, _, _) => .error e
      | (.ok _, t, _) => s.updateAll t rest

/-- The last verdict on a contract, if there is one. -/
def last? (verdicts : List Verdict) (contract : CacheKey) : Option Verdict :=
  verdicts.reverse.find? fun v => v.contract = contract

/-- The last verdict on the contract is that it is vulnerable. -/
def Flagged (verdicts : List Verdict) (contract : CacheKey) : Prop :=
  ∃ v, last? verdicts contract = some v ∧ v.vulnerable = true

instance (verdicts : List Verdict) (contract : CacheKey) : Decidable (Flagged verdicts contract) :=
  decidable_of_iff ((last? verdicts contract).any (·.vulnerable) = true)
    (by rw [Flagged, Option.any_eq_true])

variable {verdicts : List Verdict} {v : Verdict} {contract : CacheKey}

theorem not_flagged_nil (contract : CacheKey) : ¬ Flagged [] contract := by
  rintro ⟨v, hLast, _⟩
  cases hLast

/-- After one more verdict a contract is flagged if this says so, or if it is about another and the
contract was flagged before. -/
theorem flagged_append :
    Flagged (verdicts ++ [v]) contract ↔
      v.contract = contract ∧ v.vulnerable = true ∨
        v.contract ≠ contract ∧ Flagged verdicts contract := by
  unfold Flagged last?
  rw [List.reverse_append, List.reverse_singleton, List.singleton_append, List.find?_cons]
  by_cases hSame : v.contract = contract <;> simp [hSame]

/-- The files below the directory of the shelf are those of the flagged contracts, and all of
these can be read. -/
structure Shows (s : Shelf) (verdicts : List Verdict) (t : FileTree) : Prop where
  sound : t.Sound
  plain : ∀ contract, Flagged verdicts contract → '/' ∉ contract.address.toList
  found : ∀ contract, Flagged verdicts contract →
    t.isFile (s.place contract.network contract.address) = true
  only : ∀ loc, t.location s.root <+: loc → t.content? loc ≠ none →
    ∃ contract, Flagged verdicts contract ∧ loc = s.spot t contract.network contract.address

/-- Different contracts have their files at different locations. -/
theorem contract_of_spot {contract other : CacheKey}
    (h : s.spot t contract.network contract.address = s.spot t other.network other.address) :
    contract = other := by
  obtain ⟨network, address⟩ := contract
  obtain ⟨rfl, rfl⟩ := spot_injective h
  rfl

/-- An update leaves a sound tree sound. -/
theorem sound_update {source : String} {vulnerable : Bool} {change : Change} {notes : List Note}
    (h : t.Sound)
    (hUpdate : s.update t network address source vulnerable = (.ok change, t', notes)) :
    t'.Sound := by
  have hCases := updated s t network address source vulnerable
  rw [hUpdate] at hCases
  cases hCases with
  | saved hMade hWrite => exact (h.makeDirectories (prepare_eq_ok hMade)).write hWrite
  | removed hRemove => exact h.removeFile hRemove
  | absent => exact h

section Step

variable {change : Change} {notes : List Note} (h : s.Shows verdicts t)
  (hAddress : '/' ∉ v.contract.address.toList)
  (hUpdate : s.update t v.contract.network v.contract.address v.source v.vulnerable =
    (.ok change, t', notes))
include h hAddress hUpdate

/-- The file of the contract is there if it is vulnerable, and only then. -/
private theorem own_after :
    (v.vulnerable = true → t'.isFile (s.place v.contract.network v.contract.address) = true) ∧
      (t'.content? (s.spot t' v.contract.network v.contract.address) ≠ none →
        v.vulnerable = true) := by
  have hTitle := plain_title hAddress
  have hCases := updated s t v.contract.network v.contract.address v.source v.vulnerable
  rw [hUpdate] at hCases
  generalize v.vulnerable = vulnerable at hCases ⊢
  cases hCases with
  | saved hMade hWrite =>
      exact ⟨fun _ => FileTree.isFile_iff.mpr ⟨_, FileTree.read_write_same hTitle hWrite⟩, fun _ => rfl⟩
  | removed hRemove =>
      refine ⟨by simp, fun hContent => absurd ?_ hContent⟩
      have hGone := FileTree.child?_removeFile hTitle hRemove
      rw [FileTree.child?, location_title] at hGone
      rw [FileTree.content?, hGone]
  | absent hAbsent =>
      -- The contract would have been flagged before, and its file found.
      refine ⟨by simp, fun hContent => ?_⟩
      obtain ⟨flagged, hFlagged, hSpot⟩ := h.only _ (spot_below s t _ _) hContent
      obtain rfl := contract_of_spot hSpot
      obtain ⟨content, hRead⟩ := FileTree.isFile_iff.mp (h.found _ hFlagged)
      rw [FileTree.pathExists_of_read hRead] at hAbsent
      cases hAbsent

/-- A shelf that shows what the verdicts so far say shows one more once it was updated with it. -/
theorem Shows.update : s.Shows (verdicts ++ [v]) t' := by
  have hTouches := update_touches s t v.contract.network hAddress v.source v.vulnerable
  rw [hUpdate] at hTouches
  have hHome := hTouches.home
  obtain ⟨hOwn, hOnly⟩ := own_after h hAddress hUpdate
  refine ⟨sound_update h.sound hUpdate, fun flagged hFlagged => ?_, fun flagged hFlagged => ?_,
    fun loc hBelow hContent => ?_⟩
  · rcases flagged_append.mp hFlagged with ⟨rfl, _⟩ | ⟨_, hOld⟩
    · exact hAddress
    · exact h.plain flagged hOld
  · rcases flagged_append.mp hFlagged with ⟨rfl, hVulnerable⟩ | ⟨hNe, hOld⟩
    · exact hOwn hVulnerable
    · obtain ⟨content, hRead⟩ := FileTree.isFile_iff.mp (h.found flagged hOld)
      refine FileTree.isFile_iff.mpr ⟨content, hTouches.read ?_ hRead⟩
      rw [location_place s t _ (h.plain flagged hOld)]
      exact fun hSpot => hNe (contract_of_spot hSpot).symm
  · by_cases hSpot : loc = s.spot t' v.contract.network v.contract.address
    · rw [hSpot] at hContent
      exact ⟨v.contract, flagged_append.mpr (.inl ⟨rfl, hOnly hContent⟩), hSpot⟩
    · rw [spot_of_home hHome] at hSpot
      rw [hTouches.content loc hSpot] at hContent
      rw [FileTree.location_of_home hHome] at hBelow
      obtain ⟨flagged, hFlagged, rfl⟩ := h.only loc hBelow hContent
      refine ⟨flagged, flagged_append.mpr (.inr ⟨?_, hFlagged⟩), (spot_of_home hHome).symm⟩
      rintro rfl
      exact hSpot rfl

end Step

/-- No file stands below the directory of the shelf, whether it is there or not. -/
def Empty (s : Shelf) (t : FileTree) : Prop :=
  ∀ loc, t.location s.root <+: loc → t.content? loc = none

/-- An empty shelf shows what no verdicts say. -/
theorem Empty.shows (h : s.Empty t) (hSound : t.Sound) : s.Shows [] t :=
  ⟨hSound, fun contract hFlagged => absurd hFlagged (not_flagged_nil contract),
    fun contract hFlagged => absurd hFlagged (not_flagged_nil contract),
    fun loc hBelow hContent => absurd (h loc hBelow) hContent⟩

/-- A shelf shows what all verdicts say once it was updated with them. -/
theorem Shows.updateAll {done : List Verdict} (h : s.Shows done t)
    (hAddresses : ∀ v ∈ verdicts, '/' ∉ v.contract.address.toList)
    (hUpdates : s.updateAll t verdicts = .ok t') : s.Shows (done ++ verdicts) t' := by
  induction verdicts generalizing t done with
  | nil =>
      cases hUpdates
      rwa [List.append_nil]
  | cons v verdicts ih =>
      obtain ⟨hAddress, hRest⟩ := List.forall_mem_cons.mp hAddresses
      rw [Shelf.updateAll] at hUpdates
      split at hUpdates
      · cases hUpdates
      · rename_i hUpdate
        rw [List.append_cons]
        exact ih (h.update hAddress hUpdate) hRest hUpdates

/-- Where the files are those of the flagged contracts, the saved sources of a network are the
files of its own. -/
theorem Shows.mem_saved_iff (h : s.Shows verdicts t)
    (hSome : ∀ contract, Flagged verdicts contract → contract.address ≠ "") {p : Path} :
    p ∈ s.saved t network ↔
      ∃ address, Flagged verdicts ⟨network, address⟩ ∧ p = s.place network address := by
  rw [Shelf.mem_saved_iff h.sound]
  constructor
  · rintro ⟨stem, _, rfl, _, content, hChild⟩
    rw [FileTree.child?, location_title, ← FileTree.content?_eq_some_iff] at hChild
    obtain ⟨flagged, hFlagged, hSpot⟩ := h.only _ (spot_below s t network stem) (by simp [hChild])
    have hSame : (⟨network, stem⟩ : CacheKey) = flagged := contract_of_spot hSpot
    exact ⟨stem, hSame ▸ hFlagged, rfl⟩
  · rintro ⟨address, hFlagged, rfl⟩
    have hFile := h.found _ hFlagged
    rw [place_eq, directory, FileTree.isFile_join_iff (plain_network network)
      (plain_title (h.plain _ hFlagged))] at hFile
    exact ⟨address, hSome _ hFlagged, rfl, hFile.1⟩

/-- A flagged contract has had a verdict. -/
theorem Flagged.exists_mem (h : Flagged verdicts contract) : ∃ v ∈ verdicts, v.contract = contract := by
  obtain ⟨v, hLast, _⟩ := h
  refine ⟨v, List.mem_reverse.mp (List.mem_of_find?_eq_some hLast), ?_⟩
  simpa using List.find?_some hLast

/-- The saved sources of a network, in any tree that a machine can have. They are listed in the
order of their paths, each once, and are exactly the files directly in the directory of the
network that are named `<stem>.vy` with some stem: no directory, no file of a directory further
down and no file that is only named `.vy`. The file of a contract is thus listed exactly if it is
there, and its path then leads to it unless that is longer than a system takes. After any verdicts
that were followed without an error, from a shelf with no file, the list is that of the files of
the contracts whose last verdict was that they are vulnerable. -/
theorem saved_exactly (s : Shelf) (network : Network) (h : t.Sound) :
    ((s.saved t network).Pairwise Path.Before ∧ (s.saved t network).Nodup) ∧
      (∀ p, p ∈ s.saved t network ↔
        ∃ stem, stem ≠ "" ∧ p = (s.directory network).join (stem ++ ".vy") ∧
          t.HasFile (s.directory network) (stem ++ ".vy")) ∧
      ((∀ p, t.isDirectory p = true → p ∉ s.saved t network) ∧
        (∀ dir name, Path.Plain dir → Path.Plain name →
          ((s.directory network).join dir).join name ∉ s.saved t network) ∧
        (s.directory network).join ".vy" ∉ s.saved t network) ∧
      (∀ address, Export.Accepts address →
        (s.place network address ∈ s.saved t network ↔
          t.HasFile (s.directory network) (address ++ ".vy")) ∧
        (t.isFile (s.place network address) = true ↔
          s.place network address ∈ s.saved t network ∧
            (s.directory network).Admits (address ++ ".vy"))) ∧
      ∀ verdicts t', s.Empty t → (∀ v ∈ verdicts, Export.Accepts v.contract.address) →
        s.updateAll t verdicts = .ok t' →
          (s.saved t' network).Pairwise Path.Before ∧
            ∀ p, p ∈ s.saved t' network ↔
              ∃ address, Flagged verdicts ⟨network, address⟩ ∧ p = s.place network address := by
  have hSorted : (s.saved t network).Pairwise Path.Before := saved_sorted h
  refine ⟨⟨hSorted, hSorted.imp Path.Before.ne⟩, fun p => ?_, ⟨fun p hDir hSaved => ?_,
    fun dir name hDir hName hSaved => ?_, fun hSaved => ?_⟩, fun address hAccepts => ?_,
    fun verdicts t' hEmpty hAccepts hUpdates => ?_⟩
  · rw [mem_saved_iff h]
    simp only [place_eq, title_eq]
  · rw [(file_of_saved h hSaved).1] at hDir
    cases hDir
  · obtain ⟨_, stem, _, hLocation, _⟩ := file_of_saved h hSaved
    rw [FileTree.location_join t _ hName, FileTree.location_join t _ hDir] at hLocation
    have hLength := congrArg List.length hLocation
    simp at hLength
  · change s.place network "" ∈ s.saved t network at hSaved
    exact ((place_mem_saved_iff h (by decide)).mp hSaved).1 rfl
  · obtain ⟨hSome, hSeparator⟩ := hAccepts.plain
    have hListed : s.place network address ∈ s.saved t network ↔
        t.HasFile (s.directory network) (title address) := by
      rw [place_mem_saved_iff h hSeparator]
      exact and_iff_right hSome
    rw [← title_eq, hListed]
    exact ⟨Iff.rfl, FileTree.isFile_join_iff (plain_network network) (plain_title hSeparator)⟩
  · have hShows := (hEmpty.shows h).updateAll (fun v hMem => (hAccepts v hMem).plain.2) hUpdates
    rw [List.nil_append] at hShows
    refine ⟨saved_sorted hShows.sound, fun p => hShows.mem_saved_iff fun contract hFlagged => ?_⟩
    obtain ⟨v, hMem, rfl⟩ := hFlagged.exists_mem
    exact (hAccepts v hMem).plain.1

namespace Cluttered

/-- A directory that holds more than sources. -/
def files : FileTree :=
  { FileTree.withHome ["work"] with
    entries := (FileTree.withHome ["work"]).entries ++
      [(["work", "flagged"], .dir), (["work", "flagged", "op"], .dir),
       (["work", "flagged", "op", "notes.txt"], .file []),
       (["work", "flagged", "op", "0xB.vy"], .file []), (["work", "flagged", "op", ".vy"], .file []),
       (["work", "flagged", "op", "old.vy"], .dir),
       (["work", "flagged", "op", "old.vy", "0xC.vy"], .file [])] }

def shelf : Shelf := ⟨⟨"flagged"⟩⟩

def exportText : String := "0xA,0.3.0\n0xB,0.2.16\n"

def given : List Verdict :=
  [⟨⟨.op, "0xB"⟩, "b", true⟩, ⟨⟨.op, "0xA"⟩, "a", true⟩, ⟨⟨.celo, "0xB"⟩, "b", true⟩,
   ⟨⟨.op, "0xB"⟩, "b", false⟩]

/-- What the verdicts leave of an empty directory. -/
def kept : FileTree :=
  { FileTree.withHome ["work"] with
    entries := (FileTree.withHome ["work"]).entries ++
      [(["work", "flagged"], .dir), (["work", "flagged", "op"], .dir),
       (["work", "flagged", "op", "0xA.vy"], .file (Bytes.ofText "a")),
       (["work", "flagged", "celo"], .dir),
       (["work", "flagged", "celo", "0xB.vy"], .file (Bytes.ofText "b"))] }

/-- One file of the directory is a saved source, and one of the contracts with verdicts on this
network is still flagged after them. -/
theorem saved_exactly_cluttered :
    ((shelf.saved files .op).Pairwise Path.Before ∧ shelf.place .op "0xB" ∈ shelf.saved files .op ∧
        ⟨"flagged/op/old.vy"⟩ ∉ shelf.saved files .op ∧ ⟨"flagged/op/.vy"⟩ ∉ shelf.saved files .op) ∧
      (shelf.saved kept .op).Pairwise Path.Before ∧
        ∀ p, p ∈ shelf.saved kept .op ↔ p = ⟨"flagged/op/0xA.vy"⟩ := by
  have hParse : Export.parse .op ⟨"op.csv"⟩ exportText =
      .ok [⟨.op, "0xA", "0.3.0"⟩, ⟨.op, "0xB", "0.2.16"⟩] := by decide +kernel
  have hFirst : Export.Accepts "0xA" := ⟨_, _, _, _, hParse, ⟨.op, "0xA", "0.3.0"⟩, by decide, rfl⟩
  have hSecond : Export.Accepts "0xB" := ⟨_, _, _, _, hParse, ⟨.op, "0xB", "0.2.16"⟩, by decide, rfl⟩
  have hAccepts : ∀ v ∈ given, Export.Accepts v.contract.address := by
    simp [given, hFirst, hSecond]
  have hEmpty : shelf.Empty (.withHome ["work"]) := by
    intro loc _
    rcases Decidable.em (loc = []) with rfl | hRoot
    · rfl
    · by_cases hHome : loc = ["work"] <;>
        simp [FileTree.content?, FileTree.at?, FileTree.withHome, Path.beginnings, Assoc.get?,
          hHome, hRoot]
  have hUpdates : shelf.updateAll (.withHome ["work"]) given = .ok kept := by rfl
  obtain ⟨⟨hSorted, _⟩, _, ⟨hNoDirectory, _, hBare⟩, hFiles, _⟩ :=
    saved_exactly shelf .op (t := files) (by decide)
  obtain ⟨_, _, _, _, hRun⟩ := saved_exactly shelf .op (t := .withHome ["work"]) (by decide)
  obtain ⟨hKeptSorted, hKept⟩ := hRun given kept hEmpty hAccepts hUpdates
  refine ⟨⟨hSorted, ?_, hNoDirectory _ (by decide), hBare⟩, hKeptSorted, fun p => ?_⟩
  · exact (hFiles "0xB" hSecond).1.mpr ⟨by decide, [], by decide⟩
  · have hFlagged (address : String) : Flagged given ⟨.op, address⟩ ↔ address = "0xA" := by
      refine ⟨fun h => ?_, ?_⟩
      · by_cases hOther : address = "0xB"
        · subst hOther
          exact absurd h (by decide)
        · obtain ⟨v, hMem, hContract⟩ := h.exists_mem
          simp only [given, List.mem_cons, List.not_mem_nil, or_false] at hMem
          rcases hMem with rfl | rfl | rfl | rfl <;> cases hContract
          · exact absurd rfl hOther
          · rfl
          · exact absurd rfl hOther
      · rintro rfl
        exact ⟨_, rfl, rfl⟩
    simp only [hKept, hFlagged, exists_eq_left]
    rfl

end Cluttered

end LockTriage.Shelf
