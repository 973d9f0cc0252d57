import LockTriage.Proofs.Cache.Damage
import LockTriage.Proofs.Cache.Lasting
import LockTriage.Proofs.Files.Nested

/-!
A disk that refuses to be written. Keeping an answer writes its file, enters it in memory and
then writes the manifest, and nothing of this is taken back. If the file is refused, nothing
has happened. If the manifest is refused, the answer has taken the place of what its file held
and counts as kept in the open cache, while the directory opens with the entries it had.
-/

namespace LockTriage

/-! ### One file that is written over -/

namespace FileTree

variable {t t' : FileTree} {p q : Path} {name deeper : String} {content found : Bytes}

/-- Directories are where they were, so paths lead where they led. -/
theorem place_write_iff (h : t.write p content = .ok t') (place : Place) :
    t'.place q = .ok place ↔ t.place q = .ok place := by
  obtain ⟨parent, name, _, hOld, rfl⟩ := write_eq_ok h
  have hKeeps := keepsDirectories_put (by simp) hOld (.file content)
  have hBack : KeepsDirectories (t.put (parent ++ [name]) (.file content)) t := by
    refine ⟨rfl, fun loc hDir => ?_⟩
    rw [at?_put (by simp)] at hDir
    split at hDir
    · cases hDir
    · exact hDir
  exact ⟨hBack.place, hKeeps.place⟩

/-- Every path to the file reads what was written. -/
theorem read_write_of_place_eq (h : t.write p content = .ok t') (hSame : t.place q = t.place p) :
    t'.read q = .ok content := by
  obtain ⟨parent, name, hPlace, _, hTree⟩ := write_eq_ok h
  have hFound := (place_write_iff h _).mpr (hSame.trans hPlace)
  refine read_eq_ok_iff.mpr ⟨parent, name, hFound, ?_⟩
  rw [← place_location hFound, hTree, at?_put (by simp), if_pos rfl]

/-- Every other path reads what it read. -/
theorem read_write_of_place_ne (h : t.write p content = .ok t') (hOther : t.place q ≠ t.place p) :
    t'.read q = .ok found ↔ t.read q = .ok found := by
  obtain ⟨parent, name, hPlace, _, hTree⟩ := write_eq_ok h
  have hHome : t'.home = t.home := by rw [hTree, put]
  have hAt {up : Location} {file : String} (hFound : t.place q = .ok (.entry up file false)) :
      t'.at? (t'.location q) = t.at? (t.location q) := by
    rw [location_of_home hHome, hTree, at?_put (by simp), if_neg]
    rw [← place_location hFound]
    intro hLoc
    obtain ⟨rfl, hName⟩ := List.append_inj' hLoc rfl
    cases hName
    exact hOther (hFound.trans hPlace.symm)
  rw [read_eq_ok_iff, read_eq_ok_iff]
  constructor
  · rintro ⟨up, file, hFound, hContent⟩
    have hBefore := (place_write_iff h _).mp hFound
    exact ⟨up, file, hBefore, (hAt hBefore).symm.trans hContent⟩
  · rintro ⟨up, file, hFound, hContent⟩
    exact ⟨up, file, (place_write_iff h _).mpr hFound, (hAt hFound).trans hContent⟩

/-- A directory that is walked into is there, and so are those above it. -/
theorem Walks.of_join (h : t.Walks (p.join name)) (hName : Path.Plain name) :
    t.Walks p ∧ name.utf8ByteSize ≤ nameLimit ∧ t.at? (t.location p ++ [name]) = some .dir := by
  unfold Walks at h
  rw [Path.names_join p hName, Path.isAbsolute_join p hName, List.foldlM_append] at h
  cases hUp : p.names.foldlM t.enter (if p.isAbsolute then [] else t.home) with
  | error fault =>
      rw [hUp] at h
      cases h
  | ok up =>
      have hLoc : up = t.location p := walk_eq_foldl hUp
      rw [hUp] at h
      simp only [List.foldlM_cons, List.foldlM_nil, bind, Except.bind, pure, Except.pure, enter,
        hName.ne_dot, hName.ne_dots, if_false] at h
      split_ifs at h with hLong
      refine ⟨walks_of_foldlM hUp, Nat.le_of_not_lt hLong, ?_⟩
      rw [← hLoc]
      cases hAt : t.at? (up ++ [name]) with
      | none => simp [hAt] at h
      | some e =>
          cases e with
          | file content => simp [hAt] at h
          | dir => rfl

end FileTree

/-- A path that is not too long with a name behind it is not too long. -/
theorem Path.Admits.of_join {p : Path} {name deeper : String} (h : (p.join name).Admits deeper)
    (hDeeper : Path.Plain deeper) (hShort : name.utf8ByteSize ≤ FileTree.nameLimit) :
    p.Admits name := by
  obtain ⟨rest, hText⟩ := Path.exists_text_join (p.join name) hDeeper
  refine ⟨fun hMem => h.noZero ?_, ?_, hShort⟩
  · rw [hText, String.toList_append]
    exact List.mem_append_left _ hMem
  · have hWhole := h.short
    rw [hText, String.utf8ByteSize_append] at hWhole
    omega

/-- Where a name is looked for there is a directory. -/
theorem FileTree.isDirectory_of_place_join {t : FileTree} {p : Path} {name deeper : String}
    {place : Place} (hName : Path.Plain name) (hDeeper : Path.Plain deeper)
    (h : t.place ((p.join name).join deeper) = .ok place) : t.isDirectory (p.join name) = true := by
  rw [place_join hDeeper h] at h
  obtain ⟨hAdmits, hWalks⟩ := (place_join_iff hDeeper).mp h
  obtain ⟨hUp, hShort, hDir⟩ := hWalks.of_join hName
  have hPlace := (place_join_iff hName).mpr ⟨hAdmits.of_join hDeeper hShort, hUp⟩
  exact (isDirectory_join_iff hName).mpr ⟨hPlace, hDir⟩

namespace DiskCache

variable {c c' : DiskCache} {t t' : FileTree} {k key : CacheKey} {answer : Json} {e : ScanError}

/-! ### Answers whose file was written over -/

/-- The manifest names the file of `key` for `k`. -/
def Shares (c : DiskCache) (t : FileTree) (k key : CacheKey) : Prop :=
  ∃ name ∈ Assoc.get? k.text c.entries, t.place (c.artifacts.join name) = t.place (c.file key)

instance (c : DiskCache) (t : FileTree) (k key : CacheKey) : Decidable (c.Shares t k key) :=
  inferInstanceAs (Decidable (∃ _ ∈ _, _))

/-- Of the keys with the file only the one that was written is answered from it. -/
theorem get?_of_shares (hFits : Artifact.Fits ⟨key.text, answer.render⟩)
    (hWrite : t.write (c.file key) (record key answer) = .ok t') (hShares : c.Shares t k key) :
    (c.get? t' k).1 = if k = key then Json.parse? answer.render else none := by
  obtain ⟨name, hEntry, hPlace⟩ := hShares
  rw [get?_of_entry hEntry (FileTree.read_write_of_place_eq hWrite hPlace)]
  split
  · rename_i hSame
    subst hSame
    rw [← List.append_nil (record k answer), answerIn?_record hFits]
  · rename_i hOther
    exact answerIn?_foreign (Ne.symm hOther) hFits

theorem get?_of_not_shares {content : Bytes} (hWrite : t.write (c.file key) content = .ok t')
    (hShares : ¬ c.Shares t k key) : (c.get? t' k).1 = (c.get? t k).1 := by
  have hRead : ∀ name, Assoc.get? k.text c.entries = some name → ∀ bytes,
      t'.read (c.artifacts.join name) = .ok bytes ↔ t.read (c.artifacts.join name) = .ok bytes := by
    intro name hEntry bytes
    apply FileTree.read_write_of_place_ne hWrite
    intro hPlace
    exact hShares ⟨name, hEntry, hPlace⟩
  ext found
  rw [get?_eq_some_iff_answerIn?, get?_eq_some_iff_answerIn?]
  constructor
  · rintro ⟨name, bytes, hEntry, hBytes, hFound⟩
    exact ⟨name, bytes, hEntry, (hRead name hEntry bytes).mp hBytes, hFound⟩
  · rintro ⟨name, bytes, hEntry, hBytes, hFound⟩
    exact ⟨name, bytes, hEntry, (hRead name hEntry bytes).mpr hBytes, hFound⟩

/-- What every key is answered after the file of one was written over. -/
theorem get?_written (hFits : Artifact.Fits ⟨key.text, answer.render⟩)
    (hWrite : t.write (c.file key) (record key answer) = .ok t') (k : CacheKey) :
    (c.get? t' k).1 =
      if c.Shares t k key then (if k = key then Json.parse? answer.render else none)
      else (c.get? t k).1 := by
  split
  · exact get?_of_shares hFits hWrite ‹_›
  · exact get?_of_not_shares hWrite ‹_›

/-- Writing the file of a key does not change what the directory opens as. -/
theorem load_written {content : Bytes} (hWrite : t.write (c.file key) content = .ok t') :
    ∃ opened notes, load t c.directory = (opened, t, notes) ∧
      load t' c.directory = (opened, t', notes) := by
  obtain ⟨_, _, hPlace, _⟩ := FileTree.write_eq_ok hWrite
  have hDir : t.isDirectory c.artifacts = true :=
    FileTree.isDirectory_of_place_join plain_artifacts key.plain_artifactName hPlace
  have hAlters := FileTree.write_alters key.plain_artifactName hWrite
  have hDir' := hAlters.toKeepsDirectories.isDirectory plain_artifacts hDir
  have hWalks := FileTree.walks_parent plain_artifacts hDir
  have hApart := (file_ne_manifest c t key.artifactName).symm
  exact load_of_stat_eq hDir hDir' (hAlters.stat_join plain_manifest hWalks hApart)

/-! ### Writes that may be refused -/

/-- A way to write files that may refuse any of them, as a full disk does. A file is written in
whole or not at all. -/
structure Writer where
  write : FileTree → Path → Bytes → Except Fault FileTree
  whole : ∀ t p content t', write t p content = .ok t' → t.write p content = .ok t'

/-- Only what cannot be written is refused. -/
def Writer.plain : Writer := ⟨FileTree.write, fun _ _ _ _ h => h⟩

/-- The manifest is written, unless it is refused. -/
def flushBy (w : Writer) (c : DiskCache) (files : FileTree) : Except ScanError Unit × FileTree :=
  match w.write files c.manifest (Bytes.ofText (Manifest.write c.entries)) with
  | .error fault => (.error (.file c.manifest fault), files)
  | .ok files => (.ok (), files)

/-- An answer is kept by writes that may be refused. -/
def putBy (w : Writer) (c : DiskCache) (files : FileTree) (key : CacheKey) (answer : Json) :
    Except ScanError Unit × DiskCache × FileTree :=
  match w.write files (c.file key) (record key answer) with
  | .error fault => (.error (.file (c.file key) fault), c, files)
  | .ok files =>
      let (done, files) := (c.enter key).flushBy w files
      (done, c.enter key, files)

theorem putBy_plain (c : DiskCache) (t : FileTree) (key : CacheKey) (answer : Json) :
    c.putBy .plain t key answer = c.put t key answer := by
  rw [put_eq]
  simp only [putBy, Writer.plain]
  cases t.write (c.file key) (record key answer) <;> rfl

/-- How keeping an answer fails: its file is refused and nothing is done, or the file is
written and the manifest refused. -/
theorem putBy_eq_error {w : Writer} (h : c.putBy w t key answer = (.error e, c', t')) :
    (∃ fault, e = .file (c.file key) fault ∧ c' = c ∧ t' = t) ∨
      ∃ fault, e = .file c.manifest fault ∧ c' = c.enter key ∧
        t.write (c.file key) (record key answer) = .ok t' := by
  unfold putBy at h
  split at h
  · cases h
    exact .inl ⟨_, rfl, rfl, rfl⟩
  · rename_i middle hWrite
    obtain ⟨hFlush, rfl, rfl⟩ := by simpa only [Prod.mk.injEq] using h
    unfold flushBy at hFlush ⊢
    split at hFlush
    · cases hFlush
      exact .inr ⟨_, rfl, rfl, w.whole _ _ _ _ hWrite⟩
    · cases hFlush

/-- The key has its own file in the cache where it was entered. -/
theorem shares_enter_self (c : DiskCache) (t : FileTree) (key : CacheKey) :
    (c.enter key).Shares t key key := by
  refine ⟨key.artifactName, ?_, rfl⟩
  rw [enter_entries, Assoc.get?_set, if_pos rfl]
  rfl

theorem shares_enter_of_ne (hOther : k ≠ key) : (c.enter key).Shares t k key ↔ c.Shares t k key := by
  have hText : k.text ≠ key.text := fun hSame => hOther (CacheKey.text_injective hSame)
  unfold Shares
  rw [enter_entries, Assoc.get?_set, if_neg hText]
  rfl

theorem get?_enter_of_ne (hOther : k ≠ key) : (c.enter key).get? t k = c.get? t k := by
  have hText : k.text ≠ key.text := fun hSame => hOther (CacheKey.text_injective hSame)
  unfold get?
  rw [enter_entries, Assoc.get?_set, if_neg hText]
  rfl

theorem size_enter (c : DiskCache) (key : CacheKey) :
    (c.enter key).size = if key.text ∈ Assoc.keys c.entries then c.size else c.size + 1 := by
  have hLength (entries : Manifest.Entries) : entries.length = (Assoc.keys entries).length := by
    rw [Assoc.keys, List.length_map]
  rw [size, size, hLength, hLength, enter_entries, Assoc.keys_set]
  split
  · rfl
  · rw [List.length_append, List.length_singleton]

/-- An answer was written and entered, but not in the manifest on disk. It is counted and
found, other keys that have its file have lost their answers, and all others are answered as
before. The directory opens as before, with the entries it had, and what these find in the file
is the answer too. -/
structure HalfKept (c c' : DiskCache) (t t' : FileTree) (key : CacheKey) (answer : Json) : Prop where
  size : c'.size = if key.text ∈ Assoc.keys c.entries then c.size else c.size + 1
  found : (c'.get? t' key).1 = Json.parse? answer.render
  others : ∀ k ≠ key, (c'.get? t' k).1 = if c.Shares t k key then none else (c.get? t k).1
  opens : ∃ opened notes, load t c.directory = (opened, t, notes) ∧
    load t' c.directory = (opened, t', notes) ∧
    ∀ o, opened = .ok o → ∀ k, (o.get? t' k).1 =
      if o.Shares t k key then (if k = key then Json.parse? answer.render else none)
      else (o.get? t k).1

theorem halfKept_enter (hFits : Artifact.Fits ⟨key.text, answer.render⟩)
    (hWrite : t.write (c.file key) (record key answer) = .ok t') :
    HalfKept c (c.enter key) t t' key answer := by
  have hEntered : t.write ((c.enter key).file key) (record key answer) = .ok t' := hWrite
  refine ⟨size_enter c key, ?found, ?others, ?opens⟩
  case found => rw [get?_of_shares hFits hEntered (shares_enter_self c t key), if_pos rfl]
  case others =>
    intro k hOther
    rw [get?_written hFits hEntered k, if_neg hOther, get?_enter_of_ne hOther]
    exact if_congr (shares_enter_of_ne hOther) rfl rfl
  case opens =>
    obtain ⟨opened, notes, hLoad, hLoad'⟩ := load_written hWrite
    refine ⟨opened, notes, hLoad, hLoad', ?_⟩
    intro o hOpened k
    rw [hOpened] at hLoad
    have hDirectory := (load_eq_ok hLoad).2
    have hFile : o.file key = c.file key := by
      rw [file, file, artifacts, artifacts, hDirectory]
    rw [← hFile] at hWrite
    exact get?_written hFits hWrite k

/-- Whichever writes are refused, an answer that could not be kept is not undone further than
it was written. If its file was refused, the cache and the files are as before. If the manifest
was refused, the answer is half kept. -/
theorem refused_put_is_not_undone (c : DiskCache) (t : FileTree) (key : CacheKey) (answer : Json)
    (hFits : Artifact.Fits ⟨key.text, answer.render⟩) :
    c.putBy .plain t key answer = c.put t key answer ∧
      ∀ w e c' t', c.putBy w t key answer = (.error e, c', t') →
        (∃ fault, e = .file (c.file key) fault) ∧ c' = c ∧ t' = t ∨
        (∃ fault, e = .file c.manifest fault) ∧ HalfKept c c' t t' key answer := by
  constructor
  · exact putBy_plain c t key answer
  intro w e c' t' hRefused
  rcases putBy_eq_error hRefused with ⟨fault, hError, hSame⟩ | ⟨fault, hError, rfl, hWrite⟩
  · exact .inl ⟨⟨fault, hError⟩, hSame⟩
  · exact .inr ⟨⟨fault, hError⟩, halfKept_enter hFits hWrite⟩

namespace Refusing

/-- A cache that is opened in a directory where there is none. -/
def opened : Except ScanError DiskCache × FileTree × List Note := load (.withHome ["w"]) ⟨"cache"⟩

/-- A directory has taken the place of its manifest. -/
def blocked : FileTree := opened.2.1.put ["w", "cache", "manifest.json"] .dir

def failed : Except ScanError Unit × DiskCache × FileTree :=
  DiskCache.put ⟨⟨"cache"⟩, []⟩ blocked Sample.key Sample.answer

/-- An answer that was not kept is counted and found. -/
theorem refused_manifest_enters_key :
    opened.1 = .ok ⟨⟨"cache"⟩, []⟩ ∧ opened.2.1.makeDirectory ⟨"cache/manifest.json"⟩ = .ok blocked ∧
      failed.1 = .error (.file ⟨"cache/manifest.json"⟩ .isADirectory) ∧
      size ⟨⟨"cache"⟩, []⟩ = 0 ∧ failed.2.1.size = 1 ∧
      (get? ⟨⟨"cache"⟩, []⟩ blocked Sample.key).1 = none ∧
      (failed.2.1.get? failed.2.2 Sample.key).1.map Json.render = some Sample.answer.render := by
  decide +kernel

/-- The manifest is refused, whatever the system says of it. -/
def sealed : Writer where
  write t p content :=
    if p = ⟨"cache/manifest.json"⟩ then .error .isADirectory else t.write p content
  whole t p content t' h := by
    split at h
    · cases h
    · exact h

def older : Json := .text "older"

/-- The cache and the files after an answer was kept. -/
def before : Except ScanError Unit × DiskCache × FileTree :=
  DiskCache.put ⟨⟨"cache"⟩, []⟩ Sample.tree Sample.key older

/-- Another answer of the key is kept where the manifest is refused. -/
def overwritten : Except ScanError Unit × DiskCache × FileTree :=
  before.2.1.putBy sealed before.2.2 Sample.key Sample.answer

/-- The older answer is lost, in the open cache and in one that is opened afterwards. -/
theorem refused_manifest_loses_answer :
    before.1 = .ok () ∧
      (before.2.1.get? before.2.2 Sample.key).1.map Json.render = some older.render ∧
      overwritten.1 = .error (.file ⟨"cache/manifest.json"⟩ .isADirectory) ∧
      overwritten.2.1.size = 1 ∧
      (overwritten.2.1.get? overwritten.2.2 Sample.key).1 = some Sample.answer ∧
      load overwritten.2.2 before.2.1.directory = (.ok before.2.1, overwritten.2.2, []) ∧
      (before.2.1.get? overwritten.2.2 Sample.key).1 = some Sample.answer := by
  have hRefused : overwritten.1 = .error (.file ⟨"cache/manifest.json"⟩ .isADirectory) := by
    decide +kernel
  have hParse : Json.parse? Sample.answer.render = some Sample.answer :=
    Sample.readable_answer.parse?_render
  have hOpens : load before.2.2 before.2.1.directory = (.ok before.2.1, before.2.2, []) := by
    decide +kernel
  have hShares : before.2.1.Shares before.2.2 Sample.key Sample.key := by decide +kernel
  have hAny := (refused_put_is_not_undone before.2.1 before.2.2 Sample.key Sample.answer
    (by decide +kernel)).2 sealed _ overwritten.2.1 overwritten.2.2 (Prod.ext hRefused rfl)
  obtain ⟨_, _, hTree⟩ | ⟨_, hHalf⟩ := hAny
  · exact absurd hTree (by decide +kernel)
  · obtain ⟨o, notes, hLoad, hLoad', hAnswers⟩ := hHalf.opens
    rw [hOpens] at hLoad
    cases hLoad
    have hAgain := hAnswers _ rfl Sample.key
    rw [if_pos hShares, if_pos rfl, hParse] at hAgain
    refine ⟨by decide +kernel, by decide +kernel, hRefused, ?_, ?_, hLoad', hAgain⟩
    · rw [hHalf.size]
      decide +kernel
    · rw [hHalf.found, hParse]

end Refusing

end DiskCache

end LockTriage
