import LockTriage.Proofs.Cache.Lasting
import LockTriage.Proofs.Files.Matches

/-!
The order in which a manifest lists its entries. It is that of the run that writes it, so two runs may
leave different texts, but the texts read as the same entries, and neither can be taken for the file of
an answer. A cache directory that is used by both runs therefore answers alike, and keeping an answer
in it leaves trees that differ in the order of its manifest and in nothing else.
-/

namespace LockTriage

theorem Bytes.ofText_append (s t : String) : ofText (s ++ t) = ofText s ++ ofText t := by
  simp [ofText, String.toByteArray_append]

namespace Manifest

variable {content content' : Bytes} {entries entries' : Entries}

/-- Both files are manifests with the same entries, each entry once, in some order. -/
def Reordered (content content' : Bytes) : Prop :=
  ∃ entries entries' : Entries, (Assoc.keys entries).Nodup ∧ entries'.Perm entries ∧
    content = Bytes.ofText (write entries) ∧ content' = Bytes.ofText (write entries')

/-- If no key is entered twice, none is in any other order. -/
theorem nodup_of_perm (h : (Assoc.keys entries).Nodup) (hPerm : entries'.Perm entries) :
    (Assoc.keys entries').Nodup :=
  (hPerm.map Prod.fst).nodup_iff.mpr h

/-- Reordered manifests read as the same entries, so every key has the same file in both. -/
theorem Reordered.read (h : Reordered content content') :
    ∃ text text' entries entries', Bytes.text? content = some text ∧
      Bytes.text? content' = some text' ∧ read text = .current entries ∧
      read text' = .current entries' ∧ entries'.Perm entries ∧
      ∀ key, Assoc.get? key entries' = Assoc.get? key entries := by
  obtain ⟨entries, entries', hKeys, hPerm, rfl, rfl⟩ := h
  have hKeys' := nodup_of_perm hKeys hPerm
  refine ⟨_, _, entries, entries', Bytes.text?_ofText _, Bytes.text?_ofText _, read_write hKeys,
    read_write hKeys', hPerm, fun key => Option.ext fun file => ?_⟩
  rw [Assoc.get?_eq_some_iff hKeys, Assoc.get?_eq_some_iff hKeys', hPerm.mem_iff]

/-- Two runs write the entries of one cache each in its own order. -/
theorem reordered_order (o o' : Manifest.Order) (h : (Assoc.keys entries).Nodup) :
    Reordered (Bytes.ofText (write (o.order entries))) (Bytes.ofText (write (o'.order entries))) :=
  ⟨_, _, nodup_of_perm h (o.perm entries), (o'.perm entries).trans (o.perm entries).symm, rfl, rfl⟩

/-! ### A manifest holds no answer -/

/-- A manifest has eight bytes and then two letters with which no key begins. -/
private theorem exists_ofText_write (entries : Entries) :
    ∃ rest, Bytes.ofText (write entries) =
      Bytes.ofText "\x7b\n  \"sch" ++ (Bytes.ofText "em" ++ rest) := by
  have hText : ∃ rest, write entries = "\x7b\n  \"sch" ++ ("em" ++ String.ofList rest) := by
    have hChars : ∃ rest, (write entries).toList = "\x7b\n  \"schem".toList ++ rest := by
      simp only [write, Json.pretty, Json.indented, String.toList_ofList]
      exact ⟨_, rfl⟩
    obtain ⟨rest, hRest⟩ := hChars
    refine ⟨rest, String.toList_injective ?_⟩
    simp [hRest]
  obtain ⟨rest, hText⟩ := hText
  exact ⟨_, by rw [hText, Bytes.ofText_append, Bytes.ofText_append]⟩

private theorem exists_ofText_key (key : CacheKey) :
    ∃ first second rest, Bytes.ofText key.text = first :: second :: rest ∧
      [first, second] ≠ Bytes.ofText "em" := by
  have hName : ∃ first second rest, Bytes.ofText key.network.name = first :: second :: rest ∧
      [first, second] ≠ Bytes.ofText "em" := by
    cases key.network <;> exact ⟨_, _, _, rfl, by decide⟩
  obtain ⟨first, second, rest, hName, hOther⟩ := hName
  refine ⟨first, second, rest ++ Bytes.ofText (":" ++ key.address), ?_, hOther⟩
  have hText : key.text = key.network.name ++ (":" ++ key.address) := String.append_assoc
  rw [hText, Bytes.ofText_append, hName]
  rfl

/-- A manifest is not the file of any key. -/
theorem answerIn?_write (key : CacheKey) (entries : Entries) :
    DiskCache.answerIn? key (Bytes.ofText (write entries)) = none := by
  rw [Option.eq_none_iff_forall_ne_some]
  intro answer hAnswer
  obtain ⟨artifact, ⟨middle, _, ⟨size, hLength, _, hBytes⟩, _⟩, hKey, _⟩ :=
    DiskCache.answerIn?_eq_some_iff.mp hAnswer
  obtain ⟨rest, hWrite⟩ := exists_ofText_write entries
  obtain ⟨first, second, more, hText, hOther⟩ := exists_ofText_key key
  rw [hWrite, hKey, hText] at hBytes
  have hSame := (List.append_inj hBytes (by rw [hLength]; decide)).2
  have hLetters := congrArg (List.take 2) hSame
  exact hOther hLetters.symm

end Manifest

/-! ### Trees that differ in the order of manifests -/

namespace FileTree

variable {t t' : FileTree} {P : Location → Prop} {p : Path}

/-- The trees hold the same, but for the order of the entries in manifests at some locations. -/
def SameButOrder (P : Location → Prop) (t t' : FileTree) : Prop :=
  Matches (fun loc content content' =>
    content' = content ∨ P loc ∧ Manifest.Reordered content content') t t'

theorem SameButOrder.refl (P : Location → Prop) (t : FileTree) : SameButOrder P t t :=
  Matches.refl (fun _ _ => .inl rfl) t

/-- A path that does not lead to such a manifest finds the same. -/
theorem SameButOrder.findsSame (h : SameButOrder P t t') (hOther : ¬ P (t.location p)) :
    FindsSame p t t' :=
  Matches.findsSame h fun _ _ hRelated => hRelated.resolve_right fun hReordered => hOther hReordered.1

end FileTree

/-! ### A cache in two runs -/

namespace DiskCache

variable {c : DiskCache} {t t' : FileTree} {key : CacheKey} {answer : Json} {P : Location → Prop}
variable (o o' : Manifest.Order)

/-- The order of manifests makes no difference to what is answered, even where a manifest stands in
the place of an answer. -/
theorem get?_enumerated (h : FileTree.SameButOrder P t t') (c : DiskCache) (key : CacheKey) :
    (c.get? t' key).1 = (c.get? t key).1 := by
  cases hEntry : Assoc.get? key.text c.entries with
  | none => rw [get?_of_no_entry hEntry, get?_of_no_entry hEntry]
  | some name =>
      rcases h.read (c.artifacts.join name) with
        hSame | ⟨content, content', hRelated, hRead, hRead'⟩
      · rw [get?, get?, hEntry]
        dsimp only
        rw [hSame]
      · rw [get?_of_entry hEntry hRead, get?_of_entry hEntry hRead']
        rcases hRelated with rfl | ⟨_, entries, entries', _, _, rfl, rfl⟩
        · rfl
        · rw [Manifest.answerIn?_write, Manifest.answerIn?_write]

/-- Writing the manifest in another order leaves the same files but for the order in it. -/
theorem flush_enumerated (h : FileTree.SameButOrder P t t') (hKeys : (Assoc.keys c.entries).Nodup)
    (hManifest : P (t.location c.manifest)) :
    (c.flush (o := o') t').1 = (c.flush (o := o) t).1 ∧
      FileTree.SameButOrder P (c.flush (o := o) t).2 (c.flush (o := o') t').2 := by
  have hWrite := FileTree.Matches.write h (p := c.manifest)
    (.inr ⟨hManifest, Manifest.reordered_order o o' hKeys⟩)
  unfold flush
  generalize t.write c.manifest (Bytes.ofText (Manifest.write (o.order c.entries))) = written
    at hWrite ⊢
  generalize t'.write c.manifest (Bytes.ofText (Manifest.write (o'.order c.entries))) = written'
    at hWrite ⊢
  cases hWrite with
  | error fault => exact ⟨rfl, h⟩
  | ok hWritten => exact ⟨rfl, hWritten⟩

/-- Keeping an answer comes to the same in both runs. -/
theorem put_enumerated (h : FileTree.SameButOrder P t t') (hKeys : (Assoc.keys c.entries).Nodup)
    (hManifest : P (t.location c.manifest)) (key : CacheKey) (answer : Json) :
    (c.put (o := o') t' key answer).1 = (c.put (o := o) t key answer).1 ∧
      (c.put (o := o') t' key answer).2.1 = (c.put (o := o) t key answer).2.1 ∧
      FileTree.SameButOrder P (c.put (o := o) t key answer).2.2
        (c.put (o := o') t' key answer).2.2 := by
  have hWrite : FileTree.BothEnd (FileTree.SameButOrder P)
      (t.write (c.file key) (record key answer)) (t'.write (c.file key) (record key answer)) :=
    FileTree.Matches.write h (.inl rfl)
  have hHome {middle : FileTree} (hMiddle : t.write (c.file key) (record key answer) = .ok middle) :
      middle.home = t.home := (FileTree.write_alters key.plain_artifactName hMiddle).home
  rw [put_eq (o := o), put_eq (o := o')]
  generalize t.write (c.file key) (record key answer) = written at hWrite hHome ⊢
  generalize t'.write (c.file key) (record key answer) = written' at hWrite ⊢
  cases hWrite with
  | error fault => exact ⟨rfl, rfl, h⟩
  | @ok middle middle' hMiddle =>
      have hPlace : P (middle.location (c.enter key).manifest) := by
        rw [FileTree.location_of_home (hHome rfl)]
        exact hManifest
      obtain ⟨hDone, hFiles⟩ := flush_enumerated o o' hMiddle (c := c.enter key)
        (Assoc.nodup_keys_set hKeys _ _) hPlace
      exact ⟨hDone, rfl, hFiles⟩

end DiskCache

namespace Cache

variable {cache : Cache} {t t' : FileTree} {P : Location → Prop} (o o' : Manifest.Order)

/-- Where the cache keeps its manifest. In memory there is none. -/
def ManifestAt (t : FileTree) : Cache → Location → Prop
  | memory _, _ => False
  | disk c, loc => loc = t.location c.manifest

theorem manifestAt_of_home (hHome : t'.home = t.home) : cache.ManifestAt t' = cache.ManifestAt t := by
  cases cache with
  | memory answers => rfl
  | disk c =>
      funext loc
      rw [ManifestAt, ManifestAt, FileTree.location_of_home hHome]

/-- The entries of the cache have different keys. In memory there is no manifest to tell. -/
def KeysOnce : Cache → Prop
  | memory _ => True
  | disk c => (Assoc.keys c.entries).Nodup

/-- Keeping an answer enters its key once. -/
theorem KeysOnce.put (h : cache.KeysOnce) (t : FileTree) (key : CacheKey) (answer : Json) :
    (cache.put (o := o) t key answer).2.1.KeysOnce := by
  cases cache with
  | memory answers => trivial
  | disk c =>
      have hCases := c.kept (o := o) t key answer
      simp only [put_disk]
      generalize c.put (o := o) t key answer = result at hCases ⊢
      cases hCases with
      | unwritten => exact h
      | written => exact Assoc.nodup_keys_set h _ _

/-- A cache has its manifest where it had it before a put. -/
theorem manifestAt_put (cache : Cache) (t : FileTree) (key : CacheKey) (answer : Json) :
    (cache.put (o := o) t key answer).2.1.ManifestAt (cache.put (o := o) t key answer).2.2 =
      cache.ManifestAt t := by
  rw [manifestAt_of_home (cache.put_alters (o := o) t key answer).home]
  cases cache with
  | memory answers => rfl
  | disk c =>
      funext loc
      simp only [put_disk, ManifestAt, DiskCache.manifest, DiskCache.put_directory]

/-- A cache answers the same whatever the order in the manifests is. -/
theorem get?_enumerated (h : FileTree.SameButOrder P t t') (cache : Cache) (key : CacheKey) :
    (cache.get? t' key).1 = (cache.get? t key).1 := by
  cases cache with
  | memory answers => rfl
  | disk c => exact DiskCache.get?_enumerated h c key

/-- Putting an answer in another order ends alike, and leaves the same files but for the order in
the manifest. -/
theorem put_enumerated (h : FileTree.SameButOrder P t t') (hKeys : cache.KeysOnce)
    (hManifest : ∀ loc, cache.ManifestAt t loc → P loc) (key : CacheKey) (answer : Json) :
    (cache.put (o := o') t' key answer).1 = (cache.put (o := o) t key answer).1 ∧
      (cache.put (o := o') t' key answer).2.1 = (cache.put (o := o) t key answer).2.1 ∧
      FileTree.SameButOrder P (cache.put (o := o) t key answer).2.2
        (cache.put (o := o') t' key answer).2.2 := by
  cases cache with
  | memory answers => exact ⟨rfl, rfl, h⟩
  | disk c =>
      obtain ⟨hDone, hCache, hFiles⟩ :=
        DiskCache.put_enumerated o o' h hKeys (hManifest _ rfl) key answer
      simp only [put_disk]
      exact ⟨hDone, congrArg disk hCache, hFiles⟩

end Cache

end LockTriage
