import LockTriage.Network
import Mathlib.Data.List.Sort

/-!
Networks in scan order. Sorting puts networks in scan order and keeps each as often as it was given,
and of equal neighbours one is kept then. What stays is strictly in scan order and has the same
members, so it is the list of all networks without those that were not given.
-/

namespace LockTriage.Network

variable {networks others : List Network} {n : Network}

/-- Strictly in scan order, and so without repetitions. -/
def InScanOrder (networks : List Network) : Prop :=
  networks.Pairwise fun m n => m.rank < n.rank

theorem inScanOrder_filter (p : Network → Bool) : InScanOrder (all.filter p) := by
  have hAll : InScanOrder all := by
    unfold InScanOrder
    decide
  exact hAll.filter p

theorem InScanOrder.nodup (h : InScanOrder networks) : networks.Nodup := by
  refine h.imp fun {m n} hRank hSame => ?_
  rw [hSame] at hRank
  exact Nat.lt_irrefl _ hRank

/-- Networks in scan order are determined by which they are. -/
theorem InScanOrder.eq_of_mem_iff (h : InScanOrder networks) (h' : InScanOrder others)
    (hMem : ∀ n, n ∈ networks ↔ n ∈ others) : networks = others :=
  List.Pairwise.eq_of_mem_iff (r := Order.Preimage rank (· < ·)) h h' hMem

/-! ### Sorting -/

theorem insertByRank_eq (n : Network) (networks : List Network) :
    insertByRank n networks = networks.orderedInsert (Order.Preimage rank (· ≤ ·)) n := by
  induction networks with
  | nil => rfl
  | cons m rest ih => rw [insertByRank, ih]; rfl

theorem sorted_eq (networks : List Network) :
    sorted networks = networks.insertionSort (Order.Preimage rank (· ≤ ·)) := by
  induction networks with
  | nil => rfl
  | cons n rest ih => rw [List.insertionSort_cons, ← ih, ← insertByRank_eq]; rfl

/-- Each network is there as often as it was given. -/
theorem sorted_perm (networks : List Network) : (sorted networks).Perm networks := by
  rw [sorted_eq]
  exact List.perm_insertionSort _ networks

theorem pairwise_sorted (networks : List Network) :
    (sorted networks).Pairwise fun m n => m.rank ≤ n.rank := by
  rw [sorted_eq]
  exact List.pairwise_insertionSort (Order.Preimage rank (· ≤ ·)) networks

/-! ### Equal neighbours -/

/-- What was kept already stays in front. -/
private theorem eraseRepsBy_loop (n : Network) (networks kept : List Network) :
    List.eraseRepsBy.loop (· == ·) n networks kept =
      kept.reverse ++ List.eraseRepsBy.loop (· == ·) n networks [] := by
  induction networks generalizing n kept with
  | nil => simp [List.eraseRepsBy.loop]
  | cons m rest ih =>
      simp only [List.eraseRepsBy.loop]
      split
      · exact ih n kept
      · rw [ih m (n :: kept), ih m [n]]
        simp

theorem eraseReps_cons_self (n : Network) (rest : List Network) :
    (n :: n :: rest).eraseReps = (n :: rest).eraseReps := by
  simp [List.eraseReps, List.eraseRepsBy, List.eraseRepsBy.loop]

theorem eraseReps_cons_of_ne {m : Network} (h : n ≠ m) (rest : List Network) :
    (n :: m :: rest).eraseReps = n :: (m :: rest).eraseReps := by
  have hTest : (n == m) = false := beq_false_of_ne h
  simp only [List.eraseReps, List.eraseRepsBy, List.eraseRepsBy.loop, hTest]
  rw [eraseRepsBy_loop]
  rfl

/-- Of what repeats itself at least one is kept. -/
theorem mem_eraseReps : n ∈ networks.eraseReps ↔ n ∈ networks := by
  induction networks with
  | nil => rfl
  | cons first rest ih =>
      cases rest with
      | nil => rfl
      | cons second rest =>
          by_cases hSame : first = second
          · subst hSame
            rw [eraseReps_cons_self, ih]
            simp
          · rw [eraseReps_cons_of_ne hSame, List.mem_cons, ih]
            exact List.mem_cons.symm

/-- In scan order equal networks are neighbours, so no more than one of them is kept. -/
theorem inScanOrder_eraseReps (h : networks.Pairwise fun m n => m.rank ≤ n.rank) :
    InScanOrder networks.eraseReps := by
  induction networks with
  | nil => exact .nil
  | cons first rest ih =>
      obtain ⟨hFirst, hRest⟩ := List.pairwise_cons.mp h
      cases rest with
      | nil => exact List.pairwise_singleton _ _
      | cons second rest =>
          by_cases hSame : first = second
          · subst hSame
            rw [eraseReps_cons_self]
            exact ih hRest
          · rw [eraseReps_cons_of_ne hSame]
            refine List.pairwise_cons.mpr ⟨fun later hLater => ?_, ih hRest⟩
            have hStep : first.rank < second.rank :=
              Nat.lt_of_le_of_ne (hFirst second List.mem_cons_self) (mt rank_inj.mp hSame)
            rcases List.mem_cons.mp (mem_eraseReps.mp hLater) with rfl | hLater
            · exact hStep
            · exact Nat.lt_of_lt_of_le hStep (List.rel_of_pairwise_cons hRest hLater)

/-- Sorted networks without repetitions are all networks, but for those that were not given. -/
theorem eraseReps_sorted (networks : List Network) :
    (sorted networks).eraseReps = all.filter fun n => networks.contains n := by
  refine (inScanOrder_eraseReps (pairwise_sorted networks)).eq_of_mem_iff (inScanOrder_filter _)
    fun n => ?_
  rw [mem_eraseReps, (sorted_perm networks).mem_iff, List.mem_filter, List.contains_iff_mem]
  exact (and_iff_right n.mem_all).symm

end LockTriage.Network
