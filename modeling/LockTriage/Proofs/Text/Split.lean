import LockTriage.Text.Split
import Mathlib.Data.List.Basic
import Mathlib.Data.List.TakeWhile

/-!
Cutting text at a character. A first separator is found where it stands, so the
text before it is determined, and the pieces of adjacent texts add up.
-/

namespace LockTriage.Text

/-! ### The first separator -/

theorem takeWhile_separator {sep : Char} {first : List Char} (h : sep ∉ first)
    (rest : List Char) : (first ++ sep :: rest).takeWhile (· ≠ sep) = first := by
  rw [List.takeWhile_append_of_pos]
  · simp
  · intro c hc
    simpa using fun hSame : c = sep => h (hSame ▸ hc)

theorem dropWhile_separator {sep : Char} {first : List Char} (h : sep ∉ first)
    (rest : List Char) : (first ++ sep :: rest).dropWhile (· ≠ sep) = sep :: rest := by
  rw [List.dropWhile_append_of_pos]
  · simp
  · intro c hc
    simpa using fun hSame : c = sep => h (hSame ▸ hc)

/-- A text can be cut at its first separator in one way only. -/
theorem eq_of_append_separator {sep : Char} {first second tail tail' : List Char}
    (hFirst : sep ∉ first) (hSecond : sep ∉ second)
    (h : first ++ sep :: tail = second ++ sep :: tail') : first = second ∧ tail = tail' := by
  have hSame : first = second := by
    rw [← takeWhile_separator hFirst tail, ← takeWhile_separator hSecond tail', h]
  subst hSame
  have hRest := List.append_cancel_left h
  exact ⟨rfl, (List.cons.inj hRest).2⟩

/-- A text is cut at its first separator. -/
theorem cutFirst?_separator {sep : Char} {first : List Char} (h : sep ∉ first)
    (rest : List Char) : cutFirst? sep (first ++ sep :: rest) = some (first, rest) := by
  induction first with
  | nil => rw [List.nil_append, cutFirst?, if_pos rfl]
  | cons c first ih =>
      rw [List.mem_cons, not_or] at h
      rw [List.cons_append, cutFirst?, if_neg (Ne.symm h.1), ih h.2, Option.map_some]

/-! ### The last separator -/

/-- The text behind the last separator has none in it, and is the whole text or stands
behind one. -/
theorem afterLast_eq_iff {sep : Char} {cs tail : List Char} :
    afterLast sep cs = tail ↔
      sep ∉ tail ∧ (cs = tail ∨ ∃ front, cs = front ++ sep :: tail) := by
  constructor
  · rintro rfl
    refine ⟨fun hMem => ?_, ?_⟩
    · rw [afterLast, List.mem_reverse] at hMem
      simpa using List.mem_takeWhile_imp hMem
    · have hSplit := List.takeWhile_append_dropWhile (p := (· ≠ sep)) (l := cs.reverse)
      cases hRest : cs.reverse.dropWhile (· ≠ sep) with
      | nil =>
          rw [hRest, List.append_nil] at hSplit
          exact .inl (by rw [afterLast, hSplit, List.reverse_reverse])
      | cons c rest =>
          have hSep := List.head?_dropWhile_not (· ≠ sep) cs.reverse
          rw [hRest] at hSep
          obtain rfl : c = sep := by simpa using hSep
          refine .inr ⟨rest.reverse, ?_⟩
          rw [hRest] at hSplit
          rw [afterLast, ← List.reverse_inj]
          simpa using hSplit.symm
  · rintro ⟨hNone, rfl | ⟨front, rfl⟩⟩
    · have hAll : ∀ c ∈ cs.reverse, decide (c ≠ sep) = true := by
        intro c hc
        simpa using fun hSame : c = sep => hNone (hSame ▸ List.mem_reverse.mp hc)
      rw [afterLast, List.takeWhile_eq_self_iff.mpr hAll, List.reverse_reverse]
    · rw [afterLast, List.reverse_append, List.reverse_cons, List.append_assoc,
        List.singleton_append, takeWhile_separator (by simpa using hNone), List.reverse_reverse]

/-! ### Pieces -/

theorem pieces_ne_nil (sep : Char) (cs : List Char) : pieces sep cs ≠ [] := by
  cases cs with
  | nil => simp [pieces]
  | cons c cs =>
      rw [pieces]
      split
      · simp
      · split <;> simp

theorem pieces_cons_self (sep : Char) (cs : List Char) :
    pieces sep (sep :: cs) = [] :: pieces sep cs := by
  rw [pieces]
  split
  · rename_i hNil
    exact absurd hNil (pieces_ne_nil sep cs)
  · rename_i hPieces
    rw [if_pos rfl, hPieces]

/-- The pieces of two texts with a separator between them. -/
theorem pieces_append (sep : Char) (first second : List Char) :
    pieces sep (first ++ sep :: second) = pieces sep first ++ pieces sep second := by
  induction first with
  | nil => rw [List.nil_append, pieces_cons_self, pieces, List.singleton_append]
  | cons c first ih =>
      by_cases hc : c = sep
      · subst hc
        rw [List.cons_append, pieces_cons_self, pieces_cons_self, ih, List.cons_append]
      · rw [List.cons_append, pieces, pieces, ih]
        cases hFirst : pieces sep first with
        | nil => exact absurd hFirst (pieces_ne_nil sep first)
        | cons piece others => simp [hc]

/-- There is one piece more than there are separators. -/
theorem length_pieces (sep : Char) (cs : List Char) :
    (pieces sep cs).length = cs.count sep + 1 := by
  induction cs with
  | nil => rfl
  | cons c cs ih =>
      rw [pieces]
      cases hPieces : pieces sep cs with
      | nil => exact absurd hPieces (pieces_ne_nil sep cs)
      | cons first others =>
          rw [hPieces, List.length_cons] at ih
          by_cases hc : c = sep
          · subst hc
            simp [ih]
          · simp [hc, ih]

/-- A text without a separator is one piece. -/
theorem pieces_of_notMem {sep : Char} {cs : List Char} (h : sep ∉ cs) : pieces sep cs = [cs] := by
  induction cs with
  | nil => rfl
  | cons c cs ih =>
      simp only [List.mem_cons, not_or] at h
      rw [pieces, ih h.2]
      simp [Ne.symm h.1]

/-- No piece of a text has a separator in it. -/
theorem notMem_of_mem_pieces {sep : Char} {cs piece : List Char} (h : piece ∈ pieces sep cs) :
    sep ∉ piece := by
  induction cs generalizing piece with
  | nil =>
      obtain rfl := List.mem_singleton.mp h
      exact List.not_mem_nil
  | cons c cs ih =>
      rw [pieces] at h
      split at h
      · rename_i hNil
        exact absurd hNil (pieces_ne_nil sep cs)
      · rename_i first others hPieces
        rw [hPieces] at ih
        split_ifs at h with hSep
        · rcases List.mem_cons.mp h with rfl | hMem
          · exact List.not_mem_nil
          · exact ih hMem
        · rcases List.mem_cons.mp h with rfl | hMem
          · rw [List.mem_cons, not_or]
            exact ⟨fun hSame => hSep hSame.symm, ih List.mem_cons_self⟩
          · exact ih (List.mem_cons_of_mem first hMem)

/-- Pieces that are joined by separators are found again. -/
theorem pieces_intercalate {sep : Char} {parts : List (List Char)} (hSome : parts ≠ [])
    (h : ∀ part ∈ parts, sep ∉ part) : pieces sep ([sep].intercalate parts) = parts := by
  induction parts with
  | nil => exact absurd rfl hSome
  | cons part parts ih =>
      simp only [List.mem_cons, forall_eq_or_imp] at h
      cases parts with
      | nil => simp [List.intercalate, pieces_of_notMem h.1]
      | cons next parts =>
          rw [List.intercalate_cons_cons, List.append_assoc, List.singleton_append, pieces_append,
            pieces_of_notMem h.1, ih (List.cons_ne_nil next parts) h.2, List.singleton_append]

/-- A text is its pieces with separators between them. -/
theorem intercalate_pieces (sep : Char) (cs : List Char) :
    [sep].intercalate (pieces sep cs) = cs := by
  induction cs with
  | nil => rfl
  | cons c cs ih =>
      rw [pieces]
      cases hPieces : pieces sep cs with
      | nil => exact absurd hPieces (pieces_ne_nil sep cs)
      | cons first others =>
          rw [hPieces] at ih
          dsimp only
          split_ifs with hc
          · rw [List.intercalate_cons_cons, ih, hc]
            rfl
          · cases others <;> simpa [List.intercalate_cons_cons] using ih

end LockTriage.Text
