import LockTriage.Cache.Manifest
import LockTriage.Proofs.Assoc
import LockTriage.Proofs.Json.RoundTrip

/-!
A manifest that is written reads back as the same entries in the same order,
whatever characters the keys hold.
-/

namespace LockTriage

namespace Manifest

/-- Entries with distinct keys are read back one by one. -/
private theorem textMembers?_raw (before : Entries) {entries : Entries}
    (h : (Assoc.keys (before ++ entries)).Nodup) :
    textMembers? before (entries.map fun e => (Json.units e.1, Json.raw (.text e.2))) =
      some (before ++ entries) := by
  induction entries generalizing before with
  | nil => simp [textMembers?]
  | cons e entries ih =>
      obtain ⟨key, file⟩ := e
      have hSplit : before ++ (key, file) :: entries = before ++ [(key, file)] ++ entries := by simp
      have hNew : key ∉ Assoc.keys before := by
        rw [Assoc.keys, List.map_append, List.nodup_append] at h
        intro hKey
        exact h.2.2 key hKey key (by simp) rfl
      have hText : text? (Json.raw (.text file)) = some file := by
        rw [Json.raw, text?, Json.string?_units]
      rw [hSplit] at h ⊢
      rw [List.map_cons, textMembers?, Json.string?_units, hText]
      simp only [Assoc.set_of_notMem hNew]
      exact ih _ h

/-- The document that a manifest is written as. -/
private def document (entries : Entries) : Json :=
  .object
    [("schema_version", .nat schemaVersion),
     ("entries", .object (entries.map fun e => (e.1, .text e.2)))]

private theorem exact_document (entries : Entries) : Json.Exact (document entries) := by
  refine .object fun m hm => ?_
  simp only [List.mem_cons, List.not_mem_nil, or_false] at hm
  rcases hm with rfl | rfl
  · exact .number ⟨by decide, by decide⟩
  · refine .object fun e he => ?_
    obtain ⟨entry, _, rfl⟩ := List.mem_map.mp he
    exact .text entry.2

/-- A manifest whose keys are distinct is read back from its document. -/
private theorem content?_document {entries : Entries} (h : (Assoc.keys entries).Nodup) :
    content? (document entries).raw = some (schemaVersion, entries) := by
  have hEntries := textMembers?_raw [] h
  have hVersion : version? (Json.raw (.nat schemaVersion)) = some schemaVersion := by
    rw [Json.nat, Json.raw]
    rfl
  have hObject :
      entries? (Json.raw (.object (entries.map fun e => (e.1, .text e.2)))) = some entries := by
    rw [Json.raw, entries?, List.map_map]
    exact hEntries
  rw [document, Json.raw, content?]
  simp [members?, hVersion, hObject]

/-- A written manifest reads as the entries that it was written from. -/
theorem read_write {entries : Entries} (h : (Assoc.keys entries).Nodup) :
    read (write entries) = .current entries := by
  have hText : Json.Raw.ofText? (write entries).toList = some (document entries).raw :=
    (exact_document entries).ofText?_pretty
  rw [read, hText, Option.bind_some, content?_document h]
  exact if_pos rfl

/-! ### Manifests that are read -/

private theorem textMembers?_nodup {before entries : Entries}
    {members : List (List Json.StringUnit × Json.Raw)} (hBefore : (Assoc.keys before).Nodup)
    (h : textMembers? before members = some entries) : (Assoc.keys entries).Nodup := by
  induction members generalizing before with
  | nil =>
      cases h
      exact hBefore
  | cons m members ih =>
      obtain ⟨units, item⟩ := m
      rw [textMembers?] at h
      split at h
      · exact ih (Assoc.nodup_keys_set hBefore _ _) h
      · cases h

/-- No key is read twice from a manifest. -/
private theorem entries?_nodup {r : Json.Raw} {entries : Entries} (h : entries? r = some entries) :
    (Assoc.keys entries).Nodup := by
  unfold entries? at h
  split at h
  · have hNil : (Assoc.keys ([] : Entries)).Nodup := List.nodup_nil
    exact textMembers?_nodup hNil h
  · cases h

private theorem members?_nodup {version : Option Nat} {before : Option Entries}
    {members : List (List Json.StringUnit × Json.Raw)} {content : Nat × Entries}
    (hBefore : ∀ entries ∈ before, (Assoc.keys entries).Nodup)
    (h : members? version before members = some content) : (Assoc.keys content.2).Nodup := by
  induction members generalizing version before with
  | nil =>
      rw [members?] at h
      obtain ⟨v, _, hEntries⟩ := Option.bind_eq_some_iff.mp h
      obtain ⟨entries, hMem, hContent⟩ := Option.bind_eq_some_iff.mp hEntries
      cases hContent
      exact hBefore entries hMem
  | cons m members ih =>
      obtain ⟨units, item⟩ := m
      rw [members?.eq_def] at h
      dsimp only at h
      split at h
      · cases h
      · split at h
        · cases h
        · obtain ⟨v, _, hRest⟩ := Option.bind_eq_some_iff.mp h
          exact ih hBefore hRest
      · split at h
        · cases h
        · obtain ⟨entries, hEntries, hRest⟩ := Option.bind_eq_some_iff.mp h
          refine ih (fun found hFound => ?_) hRest
          cases hFound
          exact entries?_nodup hEntries
      · exact ih hBefore h

/-- However a manifest is written, each key is read once. -/
theorem nodup_of_read {text : String} {entries : Entries} (h : read text = .current entries) :
    (Assoc.keys entries).Nodup := by
  unfold read at h
  split at h
  · cases h
  · rename_i version found hContent
    split at h
    · cases h
      obtain ⟨r, _, hRaw⟩ := Option.bind_eq_some_iff.mp hContent
      unfold content? at hRaw
      split at hRaw
      · exact members?_nodup (by simp) hRaw
      · obtain ⟨v, _, hRest⟩ := Option.bind_eq_some_iff.mp hRaw
        obtain ⟨entries, hEntries, hPair⟩ := Option.bind_eq_some_iff.mp hRest
        cases hPair
        exact entries?_nodup hEntries
      · cases hRaw
    · cases h

end Manifest

end LockTriage
