import LockTriage.Proofs.Cache.Disk

/-!
A cache over files that anything may have happened to. An answer is given only
for an intact artifact of its own key: one that was cut short or belongs to
another key is a miss, and bytes behind it do not matter.
-/

namespace LockTriage.DiskCache

section Answers

variable {c c' : DiskCache} {t t' damaged : FileTree} {key : CacheKey} {answer : Json}

private theorem get?_eq_some_iff :
    (c.get? t key).1 = some answer ↔
      ∃ name bytes artifact, Assoc.get? key.text c.entries = some name ∧
        t.read (c.artifacts.join name) = .ok bytes ∧ Artifact.Holds bytes artifact ∧
        artifact.key = key.text ∧ Json.parse? artifact.body = some answer := by
  constructor
  · intro hAnswer
    cases hEntry : Assoc.get? key.text c.entries with
    | none =>
        rw [get?_of_no_entry hEntry] at hAnswer
        cases hAnswer
    | some name =>
        cases hRead : t.read (c.artifacts.join name) with
        | error fault =>
            rw [get?_of_unreadable hEntry hRead] at hAnswer
            cases hAnswer
        | ok bytes =>
            rw [get?_of_entry hEntry hRead] at hAnswer
            obtain ⟨artifact, hArtifact⟩ := answerIn?_eq_some_iff.mp hAnswer
            exact ⟨name, bytes, artifact, rfl, hRead, hArtifact⟩
  · rintro ⟨name, bytes, artifact, hEntry, hRead, hArtifact⟩
    rw [get?_of_entry hEntry hRead]
    exact answerIn?_eq_some_iff.mpr ⟨artifact, hArtifact⟩

private theorem get?_after_put (hPut : c.put t key answer = (.ok (), c', t')) {bytes : Bytes}
    (hFile : damaged.read (c'.file key) = .ok bytes) :
    (c'.get? damaged key).1 = answerIn? key bytes :=
  get?_of_entry (put_entry hPut) hFile

private theorem get?_after_append (hPut : c.put t key answer = (.ok (), c', t'))
    (hFits : Artifact.Fits ⟨key.text, answer.render⟩) {more : Bytes}
    (hFile : damaged.read (c'.file key) = .ok (record key answer ++ more)) :
    (c'.get? damaged key).1 = Json.parse? answer.render := by
  rw [get?_after_put hPut hFile, answerIn?_record hFits]

end Answers

/-- Whatever the manifest names and the files hold, a key is answered exactly
when its file holds an artifact of this key whose body reads as the answer. So
an artifact that was kept is found; no part of it is, nor an artifact of another
key in its place; and more bytes behind it leave the answer as it is. -/
theorem get?_of_any_files (c : DiskCache) (t : FileTree) (key : CacheKey) :
    (∀ answer, (c.get? t key).1 = some answer ↔
      ∃ name bytes artifact, Assoc.get? key.text c.entries = some name ∧
        t.read (c.artifacts.join name) = .ok bytes ∧ Artifact.Holds bytes artifact ∧
        artifact.key = key.text ∧ Json.parse? artifact.body = some answer) ∧
    ∀ answer c' t', c.put t key answer = (.ok (), c', t') →
      Artifact.Fits ⟨key.text, answer.render⟩ →
      t'.read (c'.file key) = .ok (record key answer) ∧
      ∀ damaged : FileTree,
        (∀ count < (record key answer).length,
          damaged.read (c'.file key) = .ok ((record key answer).take count) →
          (c'.get? damaged key).1 = none) ∧
        (∀ more, damaged.read (c'.file key) = .ok (record key answer ++ more) →
          (c'.get? damaged key).1 = (c'.get? t' key).1 ∧
          (c'.get? damaged key).1 = Json.parse? answer.render ∧
          ((∃ s, Json.parse? s = some answer) → Json.Whole answer →
            (c'.get? damaged key).1 = some answer)) ∧
        ∀ other body, other ≠ key → Artifact.Fits ⟨other.text, body.render⟩ →
          damaged.read (c'.file key) = .ok (record other body) →
          (c'.get? damaged key).1 = none := by
  refine ⟨fun answer => get?_eq_some_iff, fun answer c' t' hPut hFits => ?_⟩
  have hKept : t'.read (c'.file key) = .ok (record key answer) := by
    have hFile := put_file_same hPut
    obtain ⟨_, _, rfl, _⟩ := put_eq_ok hPut
    exact hFile
  refine ⟨hKept, fun damaged => ⟨?_, ?_, ?_⟩⟩
  · intro count hPart hFile
    rw [get?_after_put hPut hFile, answerIn?_take hFits hPart]
  · intro more hFile
    have hDamaged := get?_after_append hPut hFits hFile
    have hIntact : (c'.get? t' key).1 = Json.parse? answer.render :=
      get?_after_append hPut hFits (by rw [List.append_nil, hKept])
    refine ⟨hDamaged.trans hIntact.symm, hDamaged, ?_⟩
    rintro ⟨s, hText⟩ hWhole
    rw [hDamaged, Json.parse?_render hText hWhole]
  · intro other body hOther hFitsOther hFile
    rw [get?_after_put hPut hFile, answerIn?_foreign hOther hFitsOther]

namespace Sample

/-- An empty cache directory below the working directory. -/
def tree : FileTree :=
  ⟨["w"], [(["w"], .dir), (["w", "cache"], .dir), (["w", "cache", "artifacts"], .dir)]⟩

def key : CacheKey := ⟨.arb, "0xA\"\n"⟩

def answer : Json := .object [("result", .list [.text "é", .number (.whole 7)])]

/-- The cache and the files after the answer was kept. -/
def kept : Except ScanError Unit × DiskCache × FileTree :=
  DiskCache.put ⟨⟨"cache"⟩, []⟩ tree key answer

/-- The files with other bytes where the answer was kept. -/
def damaged (bytes : Bytes) : FileTree :=
  kept.2.2.put ["w", "cache", "artifacts", key.artifactName] (.file bytes)

theorem readable_answer : Json.Readable Json.depthLimit answer := by
  change Json.Readable (125 + 1 + 1) answer
  refine .object (List.pairwise_singleton _ _) fun m hm => ?_
  obtain rfl := List.mem_singleton.mp hm
  refine .list fun item hi => ?_
  simp only [List.mem_cons, List.not_mem_nil, or_false] at hi
  rcases hi with rfl | rfl
  · exact .text _ _
  · exact .number _ ⟨by decide, by decide⟩

/-- The answer cut short, with a byte behind it, and with that of the same
address on another network in its place. -/
theorem get?_of_damaged_files :
    kept.1 = .ok () ∧ (kept.2.1.get? (damaged ((record key answer).take 30)) key).1 = none ∧
      (kept.2.1.get? (damaged (record key answer ++ [0])) key).1 = some answer ∧
      (kept.2.1.get? (damaged (record ⟨.op, key.address⟩ answer)) key).1 = none := by
  have hOk : kept.1 = .ok () := by decide +kernel
  have hFits : Artifact.Fits ⟨key.text, answer.render⟩ := by decide +kernel
  have hPut : DiskCache.put ⟨⟨"cache"⟩, []⟩ tree key answer = (.ok (), kept.2.1, kept.2.2) :=
    Prod.ext hOk rfl
  have hAny := (get?_of_any_files ⟨⟨"cache"⟩, []⟩ tree key).2 answer kept.2.1 kept.2.2 hPut hFits
  refine ⟨hOk, ?_, ?_, ?_⟩
  · exact (hAny.2 _).1 30 (by decide +kernel) (by decide +kernel)
  · have hMore := (hAny.2 (damaged (record key answer ++ [0]))).2.1 [0] (by decide +kernel)
    exact hMore.2.2 ⟨answer.render, readable_answer.parse?_render⟩ readable_answer.exact.whole
  · exact (hAny.2 _).2.2 ⟨.op, key.address⟩ answer (by decide +kernel)
      (by decide +kernel) (by decide +kernel)

end Sample

end LockTriage.DiskCache
