/-!
The order of a table's entries. A table that scatters its keys hands out its entries in an order of
its own, and two runs need not share it, so nothing that matters may hang on it.
-/

namespace LockTriage

/-- The order in which a run hands out the entries of a table, by the order in which they were
entered. -/
class Enumeration (α : Type) where
  order : List α → List α
  /-- Every entry is handed out, and each as often as it was entered. -/
  perm (entries : List α) : (order entries).Perm entries

/-- Entries are handed out as they were entered, where no other order is named. -/
instance Enumeration.asEntered (α : Type) : Enumeration α := ⟨id, .refl⟩

@[simp] theorem Enumeration.order_asEntered {α : Type} (entries : List α) :
    (Enumeration.asEntered α).order entries = entries := rfl

end LockTriage
