import LockTriage.Assoc
import Mathlib.Data.List.Nodup

/-!
The keys of association lists. Setting a key that is there keeps the keys, a new one comes
last, and where each key stands once, what is listed under a key is what is read under it.
-/

namespace LockTriage.Assoc

variable {κ α : Type} [DecidableEq κ]

/-- The keys of a list, in their order. -/
def keys (entries : List (κ × α)) : List κ := entries.map Prod.fst

theorem keys_set (k : κ) (a : α) (entries : List (κ × α)) :
    keys (set k a entries) = if k ∈ keys entries then keys entries else keys entries ++ [k] := by
  induction entries with
  | nil => simp [set, keys]
  | cons e entries ih =>
      obtain ⟨k', b⟩ := e
      by_cases h : k = k'
      · subst h
        simp [set, keys]
      · simp only [keys] at ih
        simp only [set, keys, h, if_false, List.map_cons, ih, List.mem_cons, false_or]
        split <;> simp_all

theorem mem_keys_set {j k : κ} {a : α} {entries : List (κ × α)} :
    j ∈ keys (set k a entries) ↔ j ∈ keys entries ∨ j = k := by
  rw [keys_set]
  split
  · rename_i hMem
    constructor
    · exact .inl
    · rintro (hOld | rfl)
      · exact hOld
      · exact hMem
  · rw [List.mem_append, List.mem_singleton]

/-- A key that is not there yet is added at the end. -/
theorem set_of_notMem {k : κ} {entries : List (κ × α)} (h : k ∉ keys entries) (a : α) :
    set k a entries = entries ++ [(k, a)] := by
  induction entries with
  | nil => rfl
  | cons e entries ih =>
      obtain ⟨k', b⟩ := e
      simp only [keys, List.map_cons, List.mem_cons, not_or] at h
      rw [set, if_neg h.1, ih h.2, List.cons_append]

theorem nodup_keys_set {entries : List (κ × α)} (h : (keys entries).Nodup) (k : κ) (a : α) :
    (keys (set k a entries)).Nodup := by
  rw [keys_set]
  split
  · exact h
  · rename_i hNew
    rw [List.nodup_append]
    refine ⟨h, by simp, ?_⟩
    simp only [List.mem_singleton, forall_eq]
    intro key hKey hSame
    exact hNew (hSame ▸ hKey)

omit [DecidableEq κ] in
theorem nodup_keys_eraseWhere {entries : List (κ × α)} (h : (keys entries).Nodup) (p : κ → Bool) :
    (keys (eraseWhere p entries)).Nodup :=
  h.sublist (List.filter_sublist.map Prod.fst)

omit [DecidableEq κ] in
theorem mem_keys_eraseWhere {k : κ} {p : κ → Bool} {entries : List (κ × α)}
    (h : k ∈ keys (eraseWhere p entries)) : k ∈ keys entries :=
  (List.filter_sublist.map Prod.fst).subset h

/-- Where each key stands once, a key is read as what is listed under it. -/
theorem get?_eq_some_iff {entries : List (κ × α)} (h : (keys entries).Nodup) {k : κ} {a : α} :
    get? k entries = some a ↔ (k, a) ∈ entries := by
  induction entries with
  | nil => simp
  | cons e entries ih =>
      obtain ⟨k', b⟩ := e
      rw [keys, List.map_cons, List.nodup_cons] at h
      by_cases hKey : k = k'
      · subst hKey
        have hAbsent : (k, a) ∉ entries := fun hMem => h.1 (List.mem_map.mpr ⟨(k, a), hMem, rfl⟩)
        simp [get?, hAbsent, eq_comm]
      · simp [get?, hKey, ih h.2]

end LockTriage.Assoc
