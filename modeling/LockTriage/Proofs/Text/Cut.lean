import LockTriage.Text.Search
import Mathlib.Data.List.Basic

/-!
Cutting text at byte offsets. A text can be cut where its characters end and nowhere else,
and what is cut out is what stands between the two places.
-/

namespace LockTriage.Text

@[simp] theorem byteLength_append (first second : List Char) :
    byteLength (first ++ second) = byteLength first + byteLength second := by
  induction first with
  | nil => simp [byteLength]
  | cons c first ih => rw [List.cons_append, byteLength, byteLength, ih, Nat.add_assoc]

theorem byteLength_pos {text : List Char} (h : text ≠ []) : 0 < byteLength text := by
  cases text with
  | nil => exact absurd rfl h
  | cons c text =>
      have hChar := c.utf8Size_pos
      rw [byteLength]
      omega

/-- The bytes of a string are those of its characters. -/
theorem byteLength_toList (s : String) : byteLength s.toList = s.utf8ByteSize := by
  have hList (cs : List Char) : byteLength cs = (String.ofList cs).utf8ByteSize := by
    induction cs with
    | nil => rfl
    | cons c cs ih =>
        rw [byteLength, ih, ← List.singleton_append, String.ofList_append,
          String.utf8ByteSize_append, ← String.singleton_eq_ofList, String.utf8ByteSize_singleton]
  rw [hList, String.ofList_toList]

/-! ### One cut -/

theorem fromByte?_append (before rest : List Char) :
    fromByte? (byteLength before) (before ++ rest) = some rest := by
  induction before with
  | nil => rw [byteLength, List.nil_append, fromByte?]
  | cons c before ih =>
      obtain ⟨n, hn⟩ : ∃ n, byteLength (c :: before) = n + 1 :=
        Nat.exists_eq_add_one.mpr (byteLength_pos (List.cons_ne_nil c before))
      rw [hn, List.cons_append, fromByte?, ← hn, byteLength, if_pos (Nat.le_add_right _ _),
        Nat.add_sub_cancel_left, ih]

/-- A text is cut in front of what stands behind some of its characters. -/
theorem fromByte?_eq_some_iff {offset : Nat} {text rest : List Char} :
    fromByte? offset text = some rest ↔
      ∃ before, text = before ++ rest ∧ byteLength before = offset := by
  constructor
  · intro h
    induction text generalizing offset with
    | nil =>
        cases offset with
        | zero => exact ⟨[], by simpa [fromByte?] using h, rfl⟩
        | succ n => cases h
    | cons c text ih =>
        cases offset with
        | zero => exact ⟨[], by simpa [fromByte?] using h, rfl⟩
        | succ n =>
            rw [fromByte?] at h
            split_ifs at h with hFits
            obtain ⟨before, rfl, hLength⟩ := ih h
            refine ⟨c :: before, rfl, ?_⟩
            rw [byteLength, hLength]
            omega
  · rintro ⟨before, rfl, rfl⟩
    exact fromByte?_append before rest

theorem upToByte?_append (before rest : List Char) :
    upToByte? (byteLength before) (before ++ rest) = some before := by
  induction before with
  | nil => rw [byteLength, List.nil_append, upToByte?]
  | cons c before ih =>
      obtain ⟨n, hn⟩ : ∃ n, byteLength (c :: before) = n + 1 :=
        Nat.exists_eq_add_one.mpr (byteLength_pos (List.cons_ne_nil c before))
      rw [hn, List.cons_append, upToByte?, ← hn, byteLength, if_pos (Nat.le_add_right _ _),
        Nat.add_sub_cancel_left, ih, Option.map_some]

/-- A beginning of a text is cut off behind its last character. -/
theorem upToByte?_eq_some_iff {offset : Nat} {text found : List Char} :
    upToByte? offset text = some found ↔
      ∃ after, text = found ++ after ∧ byteLength found = offset := by
  constructor
  · intro h
    induction text generalizing offset found with
    | nil =>
        cases offset with
        | zero => exact ⟨[], by simpa [upToByte?] using h, by simp_all [upToByte?, byteLength]⟩
        | succ n => cases h
    | cons c text ih =>
        cases offset with
        | zero =>
            obtain rfl : found = [] := by simpa [upToByte?] using h.symm
            exact ⟨c :: text, rfl, rfl⟩
        | succ n =>
            rw [upToByte?] at h
            split_ifs at h with hFits
            obtain ⟨front, hFront, rfl⟩ := Option.map_eq_some_iff.mp h
            obtain ⟨after, rfl, hLength⟩ := ih hFront
            refine ⟨after, rfl, ?_⟩
            rw [byteLength, hLength]
            omega
  · rintro ⟨after, rfl, rfl⟩
    exact upToByte?_append found after

/-- At one offset a text can be cut in one way only. -/
theorem eq_of_byteLength_eq {before before' rest rest' : List Char}
    (h : before ++ rest = before' ++ rest') (hLength : byteLength before = byteLength before') :
    before = before' ∧ rest = rest' := by
  have hRest := fromByte?_append before rest
  rw [h, hLength, fromByte?_append, Option.some.injEq] at hRest
  subst hRest
  exact ⟨List.append_cancel_right h, rfl⟩

/-- Of two cuts the one at the smaller offset comes first. -/
theorem exists_of_byteLength_lt {before before' rest rest' : List Char}
    (h : before ++ rest = before' ++ rest') (hLess : byteLength before < byteLength before') :
    ∃ gap, gap ≠ [] ∧ before' = before ++ gap ∧ rest = gap ++ rest' := by
  rcases List.append_eq_append_iff.mp h with ⟨gap, hBefore, hRest⟩ | ⟨gap, hBefore, hRest⟩
  · refine ⟨gap, ?_, hBefore, hRest⟩
    rintro rfl
    simp [hBefore] at hLess
  · rw [hBefore, byteLength_append] at hLess
    omega

theorem exists_of_byteLength_le {before before' rest rest' : List Char}
    (h : before ++ rest = before' ++ rest') (hLe : byteLength before ≤ byteLength before') :
    ∃ gap, before' = before ++ gap ∧ rest = gap ++ rest' := by
  rcases Nat.lt_or_eq_of_le hLe with hLess | hSame
  · obtain ⟨gap, _, hBefore, hRest⟩ := exists_of_byteLength_lt h hLess
    exact ⟨gap, hBefore, hRest⟩
  · obtain ⟨rfl, rfl⟩ := eq_of_byteLength_eq h hSame
    exact ⟨[], (List.append_nil _).symm, rfl⟩

/-! ### Beginnings -/

theorem byteLength_le_of_prefix {first second : List Char} (h : first <+: second) :
    byteLength first ≤ byteLength second := by
  obtain ⟨gap, rfl⟩ := h
  rw [byteLength_append]
  exact Nat.le_add_right _ _

theorem byteLength_lt_of_prefix {first second : List Char} (h : first <+: second)
    (hNe : first ≠ second) : byteLength first < byteLength second := by
  obtain ⟨gap, rfl⟩ := h
  have hPos := @byteLength_pos gap fun hNil => hNe (by rw [hNil, List.append_nil])
  rw [byteLength_append]
  omega

/-- Of two beginnings of a text the one with fewer bytes begins the other one. -/
theorem prefix_of_byteLength_le {text first second : List Char} (hFirst : first <+: text)
    (hSecond : second <+: text) (h : byteLength first ≤ byteLength second) : first <+: second := by
  rcases List.prefix_or_prefix_of_prefix hFirst hSecond with hShorter | hLonger
  · exact hShorter
  · by_cases hSame : second = first
    · exact hSame ▸ List.prefix_rfl
    · have hLess := byteLength_lt_of_prefix hLonger hSame
      omega

/-! ### Two cuts -/

theorem between?_append (before found after : List Char) :
    between? (byteLength before) (byteLength before + byteLength found)
      (before ++ (found ++ after)) = some found := by
  rw [between?, if_pos (Nat.le_add_right _ _), fromByte?_append, Option.bind_some,
    Nat.add_sub_cancel_left, upToByte?_append]

/-- What is cut out stands between the two places. -/
theorem between?_eq_some_iff {start stop : Nat} {text found : List Char} :
    between? start stop text = some found ↔
      ∃ before after, text = before ++ (found ++ after) ∧ byteLength before = start ∧
        stop = start + byteLength found := by
  constructor
  · intro h
    unfold between? at h
    split_ifs at h with hOrder
    obtain ⟨rest, hRest, hFound⟩ := Option.bind_eq_some_iff.mp h
    obtain ⟨before, rfl, hBefore⟩ := fromByte?_eq_some_iff.mp hRest
    obtain ⟨after, rfl, hLength⟩ := upToByte?_eq_some_iff.mp hFound
    exact ⟨before, after, rfl, hBefore, by omega⟩
  · rintro ⟨before, after, rfl, rfl, rfl⟩
    exact between?_append before found after

end LockTriage.Text
