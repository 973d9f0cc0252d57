import LockTriage.Proofs.Source.Leftmost
import LockTriage.Proofs.Text.Split
import Mathlib.Algebra.GroupWithZero.Nat
import Mathlib.Data.List.Nodup
import Mathlib.Data.String.Basic

/-!
Lock annotations against their pattern. The scan finds the leftmost matches
without overlaps, the tally counts each annotation text, and a lock is reused
exactly when two of the matches have the same text.
-/

namespace LockTriage.Lock

open Leftmost (StartsMatch Matches)

/-- The pattern of an annotation: the opening, any characters but a closing
parenthesis, and one closing parenthesis. -/
def Annotation (text : List Char) : Prop :=
  ∃ inner, ')' ∉ inner ∧ text = opening ++ inner ++ [')']

/-- Two of the matches of the annotation pattern have the same text. -/
def Reused (source : List Char) : Prop :=
  ∃ found, Matches Annotation 0 source found ∧
    ∃ (i j : Nat) (first second : Occurrence), i < j ∧ found[i]? = some first ∧ found[j]? = some second ∧
      first.text = second.text

/-! ### Annotations at the start of a text -/

/-- What stands up to the first closing bracket holds none. -/
private theorem split_inner {inner close : List Char} {c : Char}
    (h : inner.dropWhile (· ≠ ')') = c :: close) :
    c = ')' ∧ ')' ∉ inner.takeWhile (· ≠ ')') ∧
      inner = inner.takeWhile (· ≠ ')') ++ ')' :: close := by
  have hHead := List.head?_dropWhile_not (· ≠ ')') inner
  rw [h] at hHead
  have hc : c = ')' := by simpa using hHead
  subst hc
  refine ⟨rfl, fun hMem => ?_, ?_⟩
  · have hAll := List.all_eq_true.mp (@List.all_takeWhile _ (· ≠ ')') inner) _ hMem
    simp at hAll
  · rw [← h, List.takeWhile_append_dropWhile]

/-- An annotation is found at the start exactly where one stands. -/
theorem leading?_eq_some_iff {text found rest : List Char} :
    leading? text = some (found, rest) ↔ Annotation found ∧ text = found ++ rest := by
  constructor
  · intro h
    unfold leading? at h
    split at h
    · cases h
    · rename_i inner hOpening
      rw [Text.after?_eq_some_iff] at hOpening
      split at h
      · cases h
      · rename_i c tail hTail
        obtain ⟨rfl, hNone, hSplit⟩ := split_inner hTail
        simp only [Option.some.injEq, Prod.mk.injEq] at h
        obtain ⟨rfl, rfl⟩ := h
        refine ⟨⟨_, hNone, rfl⟩, ?_⟩
        rw [hOpening]
        nth_rewrite 1 [hSplit]
        simp
  · rintro ⟨⟨inner, hInner, rfl⟩, rfl⟩
    have hText : opening ++ inner ++ [')'] ++ rest = opening ++ (inner ++ ')' :: rest) := by simp
    have hTake := Text.takeWhile_separator hInner rest
    have hDrop := Text.dropWhile_separator hInner rest
    simp only [leading?, hText, Text.after?_append, hDrop, hTake]

/-- None is found exactly where none stands. -/
theorem leading?_eq_none_iff {text : List Char} :
    leading? text = none ↔ ¬ StartsMatch Annotation text := by
  rw [Option.eq_none_iff_forall_ne_some]
  constructor
  · rintro h ⟨found, ⟨rest, rfl⟩, hFound⟩
    exact h (found, rest) (leading?_eq_some_iff.mpr ⟨hFound, rfl⟩)
  · rintro h ⟨found, rest⟩ hLeading
    obtain ⟨hFound, rfl⟩ := leading?_eq_some_iff.mp hLeading
    exact h ⟨found, List.prefix_append found rest, hFound⟩

/-- No annotation begins another one. -/
theorem annotation_code (first second : List Char) (hFirst : Annotation first)
    (hSecond : Annotation second) (h : first <+: second) : first = second := by
  obtain ⟨inner, hInner, rfl⟩ := hFirst
  obtain ⟨inner', hInner', rfl⟩ := hSecond
  obtain ⟨rest, hRest⟩ := h
  have hBody : inner ++ ')' :: rest = inner' ++ ')' :: [] := by
    simpa [List.append_assoc] using hRest
  obtain ⟨rfl, _⟩ := Text.eq_of_append_separator hInner hInner' hBody
  rfl

/-! ### The scan -/

/-- The search goes through the annotations one after the other. -/
theorem occurrencesFrom_matches (offset : Nat) (text : List Char) :
    Matches Annotation offset text (occurrencesFrom offset text) := by
  induction hLength : text.length using Nat.strong_induction_on generalizing offset text with
  | h length ih =>
      rw [occurrencesFrom]
      split
      -- A match at the very start skips nothing; otherwise one character is skipped.
      · rename_i found rest hLeading
        have hShorter := leading?_shorter hLeading
        obtain ⟨hFound, rfl⟩ := leading?_eq_some_iff.mp hLeading
        have hLater := ih _ (hLength ▸ hShorter) (offset + Text.byteLength found) rest rfl
        refine @Matches.next _ offset [] found rest _ (fun before after hCut hAfter => ?_) hFound hLater
        simp_all
      · rename_i hLeading
        have hNone := leading?_eq_none_iff.mp hLeading
        cases text with
        | nil =>
            refine .none fun rest hRest => ?_
            rwa [List.suffix_nil.mp hRest]
        | cons c rest =>
            exact .skip hNone (ih rest.length (by simp [← hLength]) _ rest rfl)

/-- The scan reports the leftmost annotations that do not overlap. -/
theorem matches_iff {source : List Char} {found : List Occurrence} :
    Matches Annotation 0 source found ↔ found = occurrences source :=
  ⟨fun h => h.unique annotation_code (occurrencesFrom_matches 0 source),
    fun h => h ▸ occurrencesFrom_matches 0 source⟩

/-! ### The tally -/

/-- Each text once, in byte order. -/
def Sorted (counts : List (String × Nat)) : Prop :=
  counts.Pairwise fun first second => first.1 < second.1

private theorem lookup_eq_none_of_lt {t : String} {counts : List (String × Nat)}
    (h : ∀ p ∈ counts, t < p.1) : counts.lookup t = none := by
  rw [List.lookup_eq_none_iff]
  intro p hp
  exact bne_iff_ne.mpr (h p hp).ne

/-- In a sorted list of counts each text has one count, the one that is looked up. -/
theorem mem_iff_lookup {s : String} {n : Nat} {counts : List (String × Nat)}
    (h : Sorted counts) : (s, n) ∈ counts ↔ counts.lookup s = some n := by
  induction counts with
  | nil => simp
  | cons p counts ih =>
      obtain ⟨u, m⟩ := p
      obtain ⟨hFirst, hRest⟩ := List.pairwise_cons.mp h
      by_cases hs : s = u
      · subst hs
        have hOnly : (s, n) ∉ counts := fun hMem => (hFirst _ hMem).ne rfl
        simp [hOnly, eq_comm]
      · simp [List.lookup_cons, hs, beq_eq_false_iff_ne.mpr hs, ih hRest]

/-- Counting one more text adds no other. -/
private theorem keys_addOne {t : String} {counts : List (String × Nat)} {p : String × Nat}
    (h : p ∈ addOne t counts) : p.1 = t ∨ ∃ q ∈ counts, q.1 = p.1 := by
  induction counts with
  | nil => simp_all [addOne]
  | cons q counts ih =>
      obtain ⟨u, n⟩ := q
      simp only [addOne] at h
      split at h
      · rcases List.mem_cons.mp h with rfl | h
        · exact .inl (by simp_all)
        · exact .inr ⟨p, List.mem_cons_of_mem _ h, rfl⟩
      · split at h
        · rcases List.mem_cons.mp h with rfl | h
          · exact .inl rfl
          · exact .inr ⟨p, h, rfl⟩
        · rcases List.mem_cons.mp h with rfl | h
          · exact .inr ⟨_, List.mem_cons_self, rfl⟩
          · rcases ih h with hKey | ⟨q, hq, hKey⟩
            · exact .inl hKey
            · exact .inr ⟨q, List.mem_cons_of_mem _ hq, hKey⟩

/-- Counting one more text keeps the counts sorted. -/
theorem sorted_addOne {counts : List (String × Nat)} (t : String) (h : Sorted counts) :
    Sorted (addOne t counts) := by
  induction counts with
  | nil => simp [addOne, Sorted]
  | cons q counts ih =>
      obtain ⟨u, n⟩ := q
      obtain ⟨hFirst, hRest⟩ := List.pairwise_cons.mp h
      simp only [addOne]
      split
      · exact List.pairwise_cons.mpr ⟨hFirst, hRest⟩
      · rename_i hNe
        split
        · rename_i hLt
          refine List.pairwise_cons.mpr ⟨fun p hp => ?_, h⟩
          rcases List.mem_cons.mp hp with rfl | hp
          · exact hLt
          · exact hLt.trans (hFirst p hp)
        · rename_i hGe
          refine List.pairwise_cons.mpr ⟨fun p hp => ?_, ih hRest⟩
          rcases keys_addOne hp with hKey | ⟨q, hq, hKey⟩
          · simpa only [hKey] using lt_of_le_of_ne (not_lt.mp hGe) (Ne.symm hNe)
          · simpa only [← hKey] using hFirst q hq

/-- One more of a text raises its count by one and no other. -/
theorem lookup_addOne {counts : List (String × Nat)} (t s : String) (h : Sorted counts) :
    (addOne t counts).lookup s =
      if s = t then some ((counts.lookup t).getD 0 + 1) else counts.lookup s := by
  induction counts with
  | nil =>
      by_cases hs : s = t
      · simp [addOne, hs]
      · simp [addOne, List.lookup_cons, beq_eq_false_iff_ne.mpr hs, hs]
  | cons q counts ih =>
      obtain ⟨u, n⟩ := q
      obtain ⟨hFirst, hRest⟩ := List.pairwise_cons.mp h
      simp only [addOne]
      split
      · rename_i hEq
        subst hEq
        by_cases hs : s = t
        · simp [hs]
        · simp [List.lookup_cons, beq_eq_false_iff_ne.mpr hs, hs]
      · rename_i hNe
        split
        · rename_i hLt
          have hNone : List.lookup t ((u, n) :: counts) = none := by
            refine lookup_eq_none_of_lt fun p hp => ?_
            rcases List.mem_cons.mp hp with rfl | hp
            · exact hLt
            · exact hLt.trans (hFirst p hp)
          rw [hNone]
          by_cases hs : s = t
          · simp [hs]
          · rw [List.lookup_cons, beq_eq_false_iff_ne.mpr hs, if_neg hs]
        · by_cases hu : s = u
          · subst hu
            simp [Ne.symm hNe]
          · rw [List.lookup_cons, List.lookup_cons, List.lookup_cons, beq_eq_false_iff_ne.mpr hu,
              beq_eq_false_iff_ne.mpr hNe, ih hRest]

/-- Tallying more texts adds the number of times each of them occurs. -/
theorem tally (texts : List String) {counts : List (String × Nat)} (h : Sorted counts) :
    Sorted (texts.foldl (fun counts t => addOne t counts) counts) ∧
      ∀ s, ((texts.foldl (fun counts t => addOne t counts) counts).lookup s).getD 0 =
        (counts.lookup s).getD 0 + texts.count s := by
  induction texts generalizing counts with
  | nil => exact ⟨h, fun s => by simp⟩
  | cons t texts ih =>
      obtain ⟨hSorted, hCount⟩ := ih (sorted_addOne t h)
      refine ⟨hSorted, fun s => ?_⟩
      rw [List.foldl_cons, hCount, lookup_addOne t s h, List.count_cons]
      by_cases hs : s = t
      · subst hs
        simp only [if_true, Option.getD_some, beq_self_eq_true]
        omega
      · simp [hs, Ne.symm hs]

/-- The annotation texts of a source, from left to right. -/
def texts (source : String) : List String :=
  (occurrences source.toList).map fun o => String.ofList o.text

/-- The counts are those of the texts in a row. -/
private theorem counts_ofSource (source : String) :
    (Usage.ofSource source).counts =
      (texts source).foldl (fun counts t => addOne t counts) [] := by
  rw [Usage.ofSource, texts, List.foldl_map]

/-- The counts are sorted by their texts. -/
theorem sorted_counts (source : String) : Sorted (Usage.ofSource source).counts := by
  rw [counts_ofSource]
  exact (tally (texts source) (by simp [Sorted])).1

/-- The tally holds for each text how often the scan found it. -/
theorem count_ofSource (source lock : String) :
    (Usage.ofSource source).count lock = (texts source).count lock := by
  rw [Usage.count, counts_ofSource, (tally (texts source) (by simp [Sorted])).2]
  simp

/-- One more text raises the sum of the counts by one. -/
theorem sum_addOne (t : String) (counts : List (String × Nat)) :
    ((addOne t counts).map Prod.snd).sum = (counts.map Prod.snd).sum + 1 := by
  induction counts with
  | nil => rfl
  | cons q counts ih =>
      obtain ⟨u, n⟩ := q
      simp only [addOne]
      split_ifs
      · simp only [List.map_cons, List.sum_cons]
        omega
      · simp only [List.map_cons, List.sum_cons]
        omega
      · simp only [List.map_cons, List.sum_cons, ih]
        omega

/-- All numbers of a tally together are the number of texts. -/
theorem sum_tally (texts : List String) (counts : List (String × Nat)) :
    ((texts.foldl (fun counts t => addOne t counts) counts).map Prod.snd).sum =
      (counts.map Prod.snd).sum + texts.length := by
  induction texts generalizing counts with
  | nil => rfl
  | cons t texts ih =>
      rw [List.foldl_cons, ih, sum_addOne, List.length_cons]
      omega

/-- No text is counted as none. -/
theorem pos_addOne {t : String} {counts : List (String × Nat)} (h : ∀ p ∈ counts, 0 < p.2) :
    ∀ p ∈ addOne t counts, 0 < p.2 := by
  induction counts with
  | nil => simp [addOne]
  | cons q counts ih =>
      obtain ⟨u, n⟩ := q
      obtain ⟨hFirst, hRest⟩ := List.forall_mem_cons.mp h
      simp only [addOne]
      split_ifs
      · exact List.forall_mem_cons.mpr ⟨Nat.succ_pos n, hRest⟩
      · exact List.forall_mem_cons.mpr ⟨Nat.one_pos, h⟩
      · exact List.forall_mem_cons.mpr ⟨hFirst, ih hRest⟩

/-- What is in a tally was counted. -/
theorem pos_tally (texts : List String) {counts : List (String × Nat)}
    (h : ∀ p ∈ counts, 0 < p.2) :
    ∀ p ∈ texts.foldl (fun counts t => addOne t counts) counts, 0 < p.2 := by
  induction texts generalizing counts with
  | nil => exact h
  | cons t texts ih => exact ih (pos_addOne h)

/-! ### What the tally says -/

section Usage

variable {source lock : String} {n k : Nat}

/-- All counts together are the number of annotations. -/
theorem sum_counts (source : String) :
    ((Usage.ofSource source).counts.map Prod.snd).sum = (texts source).length := by
  rw [counts_ofSource, sum_tally]
  exact Nat.zero_add _

/-- The tally has each text that was found, with the number of times it was. -/
theorem mem_counts_iff :
    (lock, n) ∈ (Usage.ofSource source).counts ↔
      0 < n ∧ (Usage.ofSource source).count lock = n := by
  rw [mem_iff_lookup (sorted_counts source), Usage.count]
  constructor
  · intro hLookup
    have hMem := (mem_iff_lookup (sorted_counts source)).mpr hLookup
    rw [counts_ofSource] at hMem
    exact ⟨pos_tally (texts source) (by simp) _ hMem, by rw [hLookup]; rfl⟩
  · rintro ⟨hPos, hCount⟩
    cases hLookup : (Usage.ofSource source).counts.lookup lock with
    | none =>
        rw [hLookup] at hCount
        exact absurd hCount hPos.ne
    | some m =>
        rw [hLookup] at hCount
        exact congrArg some hCount

/-- Nothing is counted if there is no annotation. -/
theorem isEmpty_iff : (Usage.ofSource source).isEmpty = true ↔ texts source = [] := by
  rw [Usage.isEmpty, List.isEmpty_iff]
  constructor
  · intro hNone
    rw [← List.length_eq_zero_iff, ← sum_counts, hNone]
    rfl
  · intro hNone
    rw [counts_ofSource, hNone]
    rfl

private theorem lt_foldl_max_iff {k m : Nat} {ns : List Nat} :
    k < ns.foldl max m ↔ k < m ∨ ∃ n ∈ ns, k < n := by
  induction ns generalizing m with
  | nil => simp
  | cons n ns ih => simp [ih, or_assoc]

/-- What is below the greatest number of the tally is below the number of some text. -/
theorem lt_maxCount_iff :
    k < (Usage.ofSource source).maxCount ↔ ∃ lock, k < (Usage.ofSource source).count lock := by
  rw [Usage.maxCount, lt_foldl_max_iff]
  simp only [List.mem_map, Prod.exists, mem_counts_iff]
  constructor
  · rintro (h | ⟨n, ⟨lock, _, ⟨_, hCount⟩, rfl⟩, hn⟩)
    · omega
    · exact ⟨lock, hCount ▸ hn⟩
  · rintro ⟨lock, hLock⟩
    exact .inr ⟨_, ⟨lock, _, ⟨Nat.zero_lt_of_lt hLock, rfl⟩, rfl⟩, hLock⟩

/-- The greatest number of the tally is that of some text, and no text has a greater one. -/
theorem maxCount_greatest (source : String) :
    (∀ lock, (Usage.ofSource source).count lock ≤ (Usage.ofSource source).maxCount) ∧
      ∃ lock, (Usage.ofSource source).count lock = (Usage.ofSource source).maxCount := by
  have hAll : ∀ lock, (Usage.ofSource source).count lock ≤ (Usage.ofSource source).maxCount :=
    fun lock => not_lt.mp fun hMore => (lt_maxCount_iff.mpr ⟨lock, hMore⟩).false
  refine ⟨hAll, ?_⟩
  cases hMax : (Usage.ofSource source).maxCount with
  | zero => exact ⟨"", Nat.le_zero.mp (hMax ▸ hAll "")⟩
  | succ k =>
      have hLess : k < (Usage.ofSource source).maxCount := by omega
      obtain ⟨lock, hLock⟩ := lt_maxCount_iff.mp hLess
      exact ⟨lock, le_antisymm (hMax ▸ hAll lock) hLock⟩

/-- A lock is reused if it is counted more than once. -/
theorem mem_reused_iff :
    (lock, n) ∈ (Usage.ofSource source).reused ↔
      1 < n ∧ (Usage.ofSource source).count lock = n := by
  rw [Usage.reused, List.mem_filter, mem_counts_iff, decide_eq_true_iff]
  constructor
  · rintro ⟨⟨_, hCount⟩, hMany⟩
    exact ⟨hMany, hCount⟩
  · rintro ⟨hMany, hCount⟩
    exact ⟨⟨Nat.zero_lt_of_lt hMany, hCount⟩, hMany⟩

/-- Reused locks are sorted by their texts. -/
theorem sorted_reused (source : String) : Sorted (Usage.ofSource source).reused :=
  (sorted_counts source).sublist List.filter_sublist

/-- A lock is reused if its text stands more than once. -/
theorem hasReused_iff_count :
    (Usage.ofSource source).hasReused = true ↔ ∃ lock, 1 < (texts source).count lock := by
  rw [Usage.hasReused, decide_eq_true_iff, gt_iff_lt, lt_maxCount_iff]
  simp only [count_ofSource]

/-- A lock is reused if the list of such locks is not empty. -/
theorem hasReused_iff_reused :
    (Usage.ofSource source).hasReused = true ↔ (Usage.ofSource source).reused ≠ [] := by
  rw [Usage.hasReused, decide_eq_true_iff, gt_iff_lt, lt_maxCount_iff]
  constructor
  · rintro ⟨lock, hLock⟩
    exact List.ne_nil_of_mem (mem_reused_iff.mpr ⟨hLock, rfl⟩)
  · intro hSome
    obtain ⟨⟨lock, n⟩, hMem⟩ := List.exists_mem_of_ne_nil _ hSome
    obtain ⟨hMany, rfl⟩ := mem_reused_iff.mp hMem
    exact ⟨lock, hMany⟩

end Usage

/-- The tally shows a reused lock exactly when two matches have the same text. -/
theorem hasReused_iff {source : String} :
    (Usage.ofSource source).hasReused = true ↔ Reused source.toList := by
  rw [hasReused_iff_count]
  have hDup : (∃ lock, 1 < (texts source).count lock) ↔ ¬ (texts source).Nodup := by
    simp [List.nodup_iff_count_le_one]
  rw [hDup, List.nodup_iff_getElem?_ne_getElem?]
  simp only [Reused, matches_iff, exists_eq_left, texts, List.getElem?_map]
  push Not
  constructor
  · rintro ⟨i, j, hij, hj, hSame⟩
    rw [List.length_map] at hj
    rw [List.getElem?_eq_getElem hj, List.getElem?_eq_getElem (hij.trans hj)] at hSame
    refine ⟨i, j, _, _, hij, List.getElem?_eq_getElem (hij.trans hj),
      List.getElem?_eq_getElem hj, ?_⟩
    simpa [String.ofList_inj] using hSame
  · rintro ⟨i, j, first, second, hij, hFirst, hSecond, hSame⟩
    obtain ⟨hj, _⟩ := List.getElem?_eq_some_iff.mp hSecond
    exact ⟨i, j, hij, by simpa using hj, by rw [hFirst, hSecond, Option.map_some, hSame]; rfl⟩

end LockTriage.Lock
