/-!
Association lists with one place per key. Setting a key keeps the place it
already has, so the order is that of first insertion.
-/

namespace LockTriage.Assoc

variable {κ α : Type} [DecidableEq κ]

def get? (k : κ) : List (κ × α) → Option α
  | [] => none
  | (k', a) :: rest => if k = k' then some a else get? k rest

/-- Give a key a value, in its present place or at the end. -/
def set (k : κ) (a : α) : List (κ × α) → List (κ × α)
  | [] => [(k, a)]
  | (k', b) :: rest => if k = k' then (k, a) :: rest else (k', b) :: set k a rest

/-- Remove every key that `p` accepts. -/
def eraseWhere (p : κ → Bool) (entries : List (κ × α)) : List (κ × α) :=
  entries.filter fun e => !p e.1

@[simp] theorem get?_nil (k : κ) : get? k ([] : List (κ × α)) = none := rfl

theorem get?_set (k j : κ) (a : α) (entries : List (κ × α)) :
    get? j (set k a entries) = if j = k then some a else get? j entries := by
  induction entries with
  | nil => simp [set, get?]
  | cons e rest ih =>
      obtain ⟨k', b⟩ := e
      by_cases h : k = k'
      · subst h
        by_cases hj : j = k <;> simp [set, get?, hj]
      · by_cases hj : j = k'
        · subst hj
          simp [set, get?, h, Ne.symm h]
        · simp [set, get?, h, hj, ih]

/-- Giving a key the value that it has changes nothing. -/
theorem set_self {k : κ} {a : α} {entries : List (κ × α)} (h : get? k entries = some a) :
    set k a entries = entries := by
  induction entries with
  | nil => cases h
  | cons e entries ih =>
      obtain ⟨k', b⟩ := e
      by_cases hKey : k = k'
      · subst hKey
        simp only [get?, if_true, Option.some.injEq] at h
        rw [set, if_pos rfl, h]
      · rw [get?, if_neg hKey] at h
        rw [set, if_neg hKey, ih h]

theorem get?_eraseWhere (p : κ → Bool) (j : κ) (entries : List (κ × α)) :
    get? j (eraseWhere p entries) = if p j then none else get? j entries := by
  induction entries with
  | nil => simp [eraseWhere]
  | cons e rest ih =>
      obtain ⟨k, b⟩ := e
      simp only [eraseWhere, List.filter_cons] at ih ⊢
      by_cases hp : p k <;> by_cases hj : j = k
      · subst hj
        simp_all
      · simp_all [get?]
      · subst hj
        simp_all [get?]
      · simp_all [get?]

end LockTriage.Assoc
