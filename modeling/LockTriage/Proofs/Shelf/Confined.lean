import LockTriage.Proofs.Export
import LockTriage.Proofs.Shelf

/-!
How far the files of a shelf reach. The address of an export row is text that anyone may
have written, and it becomes the name of a file that is overwritten and removed. It names
one file in the directory of its network, no other contract has that file, and following a
verdict alters nothing else but the directories that were missing on the way to it.
-/

namespace LockTriage

namespace FileTree

variable {t t' last : FileTree} {p : Path}

/-- What differs in the second tree are directories where nothing stood, each that of a path
or of a directory above it. -/
structure Raised (p : Path) (t t' : FileTree) : Prop where
  home : t'.home = t.home
  made : ∀ loc, t'.at? loc ≠ t.at? loc →
    t.at? loc = none ∧ t'.at? loc = some .dir ∧ ∃ q ∈ p.ancestors, loc = t.location q

/-- Whether or not all of them could be made, the directories that were made were missing. -/
theorem makeDirectories_raised {done : Except Fault Unit} (h : t.makeDirectories p = (done, t')) :
    Raised p t t' := by
  have hGrown := makeDirectories_grown h
  have hAlters := makeDirectories_alters_ancestors h
  refine ⟨hGrown.home, fun loc hLoc => ?_⟩
  obtain ⟨hNone, hDir⟩ := (hGrown.at?_cases loc).resolve_left hLoc
  refine ⟨hNone, hDir, ?_⟩
  by_contra hOut
  exact hLoc (hAlters.same loc hOut)

end FileTree

namespace Shelf

variable {s : Shelf} {t t' : FileTree} {network : Network} {address source : String}
variable {vulnerable : Bool}

/-! ### Names of files -/

theorem extension?_place (h : '/' ∉ address.toList) (hNonempty : address.toList ≠ []) :
    (s.place network address).extension? = some extension := by
  rw [place_eq, Path.extension?_join _ (plain_title h) (toList_title address) hNonempty (by decide)]
  rfl

theorem location_place (s : Shelf) (t : FileTree) (network : Network) (h : '/' ∉ address.toList) :
    t.location (s.place network address) = s.spot t network address := by
  rw [place_eq, FileTree.location_join t _ (plain_title h), location_title]

theorem steps_place (s : Shelf) (network : Network) (h : '/' ∉ address.toList) :
    (s.place network address).steps = s.root.steps ++ [network.name, title address] := by
  rw [place_eq, directory, Path.steps_join _ (plain_title h), Path.steps_join _ (plain_network network),
    List.append_assoc]
  rfl

/-- Component by component, the files of two contracts have different paths. -/
theorem steps_place_injective {network' : Network} {address' : String} (h : '/' ∉ address.toList)
    (h' : '/' ∉ address'.toList)
    (hSame : (s.place network address).steps = (s.place network' address').steps) :
    network = network' ∧ address = address' := by
  rw [steps_place s network h, steps_place s network' h'] at hSame
  have hNames := List.append_cancel_left hSame
  simp only [List.cons.injEq, and_true] at hNames
  exact ⟨CacheKey.name_injective hNames.1, title_injective hNames.2⟩

/-! ### What a verdict alters -/

/-- Preparing the directory of a network, done or not, makes missing directories. -/
theorem prepare_raised {done : Except ScanError Unit} (h : s.prepare t network = (done, t')) :
    FileTree.Raised (s.directory network) t t' := by
  unfold prepare at h
  split at h <;> rename_i hMade <;> cases h <;> exact FileTree.makeDirectories_raised hMade

/-- What differs after a verdict is the file of the contract and, for a vulnerable one,
directories that were missing at the directory of its network and above it. -/
structure Confined (s : Shelf) (network : Network) (address : String) (vulnerable : Bool)
    (t t' : FileTree) : Prop where
  home : t'.home = t.home
  only : ∀ loc, t'.at? loc ≠ t.at? loc →
    loc = t.location (s.place network address) ∨
      vulnerable = true ∧ t.at? loc = none ∧ t'.at? loc = some .dir ∧
        ∃ q ∈ (s.directory network).ancestors, loc = t.location q

theorem Confined.refl (s : Shelf) (network : Network) (address : String) (vulnerable : Bool)
    (t : FileTree) : s.Confined network address vulnerable t t :=
  ⟨rfl, fun _ hLoc => absurd rfl hLoc⟩

theorem confined_of_raised (h : FileTree.Raised (s.directory network) t t') :
    s.Confined network address true t t' :=
  ⟨h.home, fun loc hLoc => .inr ⟨rfl, h.made loc hLoc⟩⟩

/-- A change at the place of the contract keeps the rest as it is. -/
theorem Confined.alters {last : FileTree} (h : s.Confined network address vulnerable t t')
    (hAlters : FileTree.Alters (· = t'.location (s.place network address)) t' last) :
    s.Confined network address vulnerable t last := by
  refine ⟨hAlters.home.trans h.home, fun loc hLoc => ?_⟩
  by_cases hOwn : loc = t.location (s.place network address)
  · exact .inl hOwn
  · have hSame : last.at? loc = t'.at? loc :=
      hAlters.same loc (by rwa [FileTree.location_of_home h.home])
    rw [hSame] at hLoc ⊢
    exact h.only loc hLoc

theorem save_confined (hAddress : '/' ∉ address.toList) {done : Except ScanError Unit}
    (h : s.save t network address source = (done, t')) :
    s.Confined network address true t t' := by
  unfold save at h
  split at h
  · rename_i hMade
    cases h
    exact confined_of_raised (prepare_raised hMade)
  · rename_i made hMade
    have hConfined : s.Confined network address true t made :=
      confined_of_raised (prepare_raised hMade)
    dsimp only at h
    split at h
    · cases h
      exact hConfined
    · rename_i written hWrite
      cases h
      refine hConfined.alters ?_
      rw [place_eq, FileTree.location_join _ _ (plain_title hAddress)]
      exact FileTree.write_alters (plain_title hAddress) hWrite

/-- A verdict, followed or not, alters the file of its contract and missing directories. -/
theorem update_confined (s : Shelf) (t : FileTree) (network : Network)
    (hAddress : '/' ∉ address.toList) (source : String) (vulnerable : Bool) :
    s.Confined network address vulnerable t (s.update t network address source vulnerable).2.1 := by
  have hRefl := Confined.refl s network address false t
  cases vulnerable with
  | true =>
      rcases hSave : s.save t network address source with ⟨done, t'⟩
      have hConfined := save_confined hAddress hSave
      cases done <;> simpa only [update, hSave, if_true] using hConfined
  | false =>
      cases hExists : t.pathExists (s.place network address) with
      | false => simpa only [update, hExists, Bool.false_eq_true, if_false] using hRefl
      | true =>
          cases hRemove : t.removeFile (s.place network address) with
          | error fault =>
              simpa only [update, hExists, hRemove, Bool.false_eq_true, if_false, if_true] using hRefl
          | ok t' =>
              simp only [update, hExists, hRemove, Bool.false_eq_true, if_false, if_true]
              refine hRefl.alters ?_
              rw [place_eq, FileTree.location_join _ _ (plain_title hAddress)]
              exact FileTree.removeFile_alters (plain_title hAddress) hRemove

/-! ### Accepted rows -/

/-- Every record of an accepted text has a file of its own, an ordinary name ending in `vy`
right in the directory of its network. No record of any accepted text with another contract
has the same path, or one that leads to the same file, and following a verdict on the
record, on any files and whether or not it can be followed, alters that file and nothing
else but missing directories on the way to it. -/
theorem accepted_rows_confined {path : Path} {text : String} {records : List Record} {r : Record}
    (hParse : Export.parse network path text = .ok records) (hr : r ∈ records) (s : Shelf) :
    (∃ name, Path.Plain name ∧
      (s.place r.network r.address).isAbsolute = s.root.isAbsolute ∧
      (s.directory r.network).isAbsolute = s.root.isAbsolute ∧
      (s.directory r.network).steps = s.root.steps ++ [r.network.name] ∧
      (s.place r.network r.address).steps = (s.directory r.network).steps ++ [name] ∧
      (s.place r.network r.address).extension? = some "vy") ∧
    (∀ network' path' text' records', Export.parse network' path' text' = .ok records' →
      ∀ r' ∈ records', (r'.network, r'.address) ≠ (r.network, r.address) →
        (s.place r'.network r'.address).steps ≠ (s.place r.network r.address).steps ∧
        ∀ t : FileTree, t.location (s.place r'.network r'.address) ≠
          t.location (s.place r.network r.address)) ∧
    ∀ (t : FileTree) (source : String) (vulnerable : Bool),
      s.Confined r.network r.address vulnerable t
        (s.update t r.network r.address source vulnerable).2.1 := by
  have hProper := Export.proper_of_parse hParse r hr
  have hAddress := hProper.noSeparator
  have hTitle := plain_title hAddress
  refine ⟨⟨title r.address, hTitle, ?_, ?_, ?_, ?_, ?_⟩, ?_, ?_⟩
  · rw [place_eq, Path.isAbsolute_join _ hTitle, directory, Path.isAbsolute_join _ (plain_network _)]
  · rw [directory, Path.isAbsolute_join _ (plain_network _)]
  · rw [directory, Path.steps_join _ (plain_network _)]
  · rw [place_eq, Path.steps_join _ hTitle]
  · exact extension?_place hAddress hProper.address_ne_nil
  · intro network' path' text' records' hParse' r' hr' hOther
    have hAddress' := (Export.proper_of_parse hParse' r' hr').noSeparator
    refine ⟨fun hSame => hOther ?_, fun t hSame => hOther ?_⟩
    · obtain ⟨hNetwork, hText⟩ := steps_place_injective hAddress' hAddress hSame
      rw [hNetwork, hText]
    · rw [location_place s t _ hAddress', location_place s t _ hAddress] at hSame
      obtain ⟨hNetwork, hText⟩ := spot_injective hSame
      rw [hNetwork, hText]
  · intro t source vulnerable
    exact update_confined s t r.network hAddress source vulnerable

/-! ### Two rows -/

namespace Rows

def exportText : String := "\n  \"0x1.vy\" , 0.3.0\r\n.,\"0.2.15\"\n"

def records : List Record := [⟨.gnosis, "0x1.vy", "0.3.0"⟩, ⟨.gnosis, ".", "0.2.15"⟩]

def shelf : Shelf := ⟨⟨"../flagged"⟩⟩

def files : FileTree := .withHome ["work", "scan"]

/-- A single dot is an address that is accepted, and it names an ordinary file. -/
theorem accepted_rows_confined_dot :
    Export.parse .gnosis ⟨"gnosis.csv"⟩ exportText = .ok records ∧
    (⟨.gnosis, ".", "0.2.15"⟩ : Record) ∈ records ∧
    (shelf.place .gnosis ".").extension? = some "vy" ∧
    (shelf.place .gnosis "0x1.vy").steps ≠ (shelf.place .gnosis ".").steps ∧
    shelf.Confined .gnosis "." true files (shelf.update files .gnosis "." "# code" true).2.1 := by
  have hParse : Export.parse .gnosis ⟨"gnosis.csv"⟩ exportText = .ok records := by decide +kernel
  have hr : (⟨.gnosis, ".", "0.2.15"⟩ : Record) ∈ records := by decide
  obtain ⟨⟨_, _, _, _, _, _, hEnding⟩, hOthers, hConfined⟩ :=
    accepted_rows_confined hParse hr shelf
  refine ⟨hParse, hr, hEnding, ?_, hConfined files "# code" true⟩
  exact (hOthers _ _ _ _ hParse ⟨.gnosis, "0x1.vy", "0.3.0"⟩ (by decide) (by decide)).1

end Rows

end Shelf

end LockTriage
