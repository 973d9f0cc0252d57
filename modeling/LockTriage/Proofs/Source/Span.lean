import LockTriage.Source.Balanced
import Mathlib.Data.List.Basic

/-!
Balanced spans by counting. The span at the start of a text is its shortest
non-empty beginning with as many closing delimiters as opening ones, and where
no beginning has that, a pair stays open to the end of the text.
-/

namespace LockTriage.Balanced

/-- The shortest non-empty beginning of a text that closes every pair it opens. -/
structure IsSpan (opener closer : Char) (text found : List Char) : Prop where
  begins : found <+: text
  nonempty : found ≠ []
  closed : found.count closer = found.count opener
  first : ∀ p, p <+: found → p ≠ [] → p ≠ found → p.count closer < p.count opener

/-- Every non-empty beginning of the text leaves a pair open. -/
def NeverCloses (opener closer : Char) (text : List Char) : Prop :=
  ∀ p, p <+: text → p ≠ [] → p.count closer < p.count opener

/-- The argument text of a call, from its opening parenthesis on: the balanced
span, or all the rest where there is none. -/
def IsArgument (text argument : List Char) : Prop :=
  IsSpan '(' ')' text argument ∨ (NeverCloses '(' ')' text ∧ argument = text)

/-! ### With pairs already open -/

/-- The shortest beginning of a text that closes `depth` pairs besides its own. -/
structure Closes (opener closer : Char) (depth : Nat) (text found : List Char) : Prop where
  begins : found <+: text
  closed : found.count closer = depth + found.count opener
  first : ∀ p, p <+: found → p ≠ found → p.count closer < depth + p.count opener

/-- No beginning of the text closes `depth` pairs besides its own. -/
def StaysOpen (opener closer : Char) (depth : Nat) (text : List Char) : Prop :=
  ∀ p, p <+: text → p.count closer < depth + p.count opener

variable {opener closer : Char}

private theorem count_split (d c : Char) (text : List Char) :
    (c :: text).count d = [c].count d + text.count d := by
  rw [← List.singleton_append, List.count_append]

/-- One character in front moves the depth by what it opens or closes. -/
private theorem Closes.cons {depth depth' : Nat} {c : Char} {text found : List Char}
    (h : Closes opener closer depth' text found) (hDepth : 0 < depth)
    (hCount : depth' + [c].count closer = depth + [c].count opener) :
    Closes opener closer depth (c :: text) (c :: found) := by
  refine ⟨List.cons_prefix_cons.mpr ⟨rfl, h.begins⟩, ?_, fun p hp hNe => ?_⟩
  · have hClosed := h.closed
    rw [count_split closer c found, count_split opener c found]
    omega
  · rcases List.prefix_cons_iff.mp hp with rfl | ⟨q, rfl, hq⟩
    · simpa using hDepth
    · have hFirst := h.first q hq (by simpa using hNe)
      rw [count_split closer c q, count_split opener c q]
      omega

/-- A text stays open with one more character in front, if the depth is carried on. -/
private theorem StaysOpen.cons {depth depth' : Nat} {c : Char} {text : List Char}
    (h : StaysOpen opener closer depth' text) (hDepth : 0 < depth)
    (hCount : depth' + [c].count closer = depth + [c].count opener) :
    StaysOpen opener closer depth (c :: text) := by
  intro p hp
  rcases List.prefix_cons_iff.mp hp with rfl | ⟨q, rfl, hq⟩
  · simpa using hDepth
  · have hOpen := h q hq
    rw [count_split closer c q, count_split opener c q]
    omega

/-- What a scan with `depth` open pairs answers, as a statement on counts. -/
def Answers (opener closer : Char) (depth : Nat) (text : List Char) :
    Except Nat (List Char) → Prop
  | .ok found => Closes opener closer depth text found
  | .error stillOpen =>
      StaysOpen opener closer depth text ∧
        stillOpen + text.count closer = depth + text.count opener

/-- An answer about a text is one about it with one more character in front, if the depth is carried
on. -/
private theorem Answers.cons {depth depth' : Nat} {c : Char} {text : List Char}
    {answer : Except Nat (List Char)} (h : Answers opener closer depth' text answer)
    (hDepth : 0 < depth) (hCount : depth' + [c].count closer = depth + [c].count opener) :
    Answers opener closer depth (c :: text) (answer.map (c :: ·)) := by
  cases answer with
  | ok found => exact Closes.cons h hDepth hCount
  | error stillOpen =>
      obtain ⟨hOpen, hStill⟩ := h
      refine ⟨hOpen.cons hDepth hCount, ?_⟩
      rw [count_split closer c text, count_split opener c text]
      omega

/-- The search for a closing delimiter answers right at every depth. -/
theorem closing_answers (hDelimiters : opener ≠ closer) {depth : Nat} (text : List Char)
    (hDepth : 0 < depth) :
    Answers opener closer depth text (closing opener closer depth text) := by
  induction text generalizing depth with
  | nil =>
      refine ⟨fun p hp => ?_, by simp⟩
      rw [List.prefix_nil.mp hp]
      simpa using hDepth
  | cons c text ih =>
      simp only [closing]
      split
      · rename_i hOpener
        exact (ih (Nat.succ_pos depth)).cons hDepth (by simp [hOpener, hDelimiters])
      · rename_i hOpener
        split
        · rename_i hCloser
          split
          -- Only the closer of the outermost pair ends the span.
          · rename_i hLast
            have hOne : depth = 1 := by omega
            subst hCloser hOne
            refine ⟨by simp, by simp [hDelimiters.symm], fun p hp hNe => ?_⟩
            rcases List.prefix_cons_iff.mp hp with rfl | ⟨q, rfl, hq⟩
            · simp
            · simp [List.prefix_nil.mp hq] at hNe
          · refine (ih (by omega)).cons hDepth ?_
            simp [hCloser, hDelimiters.symm]
            omega
        · rename_i hCloser
          exact (ih hDepth).cons hDepth (by simp [hOpener, hCloser])

/-! ### From the opening delimiter -/

/-- A span is an opening delimiter and the text that closes it. -/
theorem isSpan_cons_iff (hDelimiters : opener ≠ closer) {rest found : List Char} :
    IsSpan opener closer (opener :: rest) (opener :: found) ↔
      Closes opener closer 1 rest found := by
  constructor
  · intro h
    refine ⟨(List.cons_prefix_cons.mp h.begins).2, ?_, fun p hp hNe => ?_⟩
    · have hClosed := h.closed
      rw [List.count_cons_of_ne hDelimiters, List.count_cons_self] at hClosed
      omega
    · have hFirst := h.first (opener :: p) (List.cons_prefix_cons.mpr ⟨rfl, hp⟩)
        (List.cons_ne_nil _ _) (by simpa using hNe)
      rw [List.count_cons_of_ne hDelimiters, List.count_cons_self] at hFirst
      omega
  · intro h
    refine ⟨List.cons_prefix_cons.mpr ⟨rfl, h.begins⟩, List.cons_ne_nil _ _, ?_,
      fun p hp hNonempty hNe => ?_⟩
    · have hClosed := h.closed
      rw [List.count_cons_of_ne hDelimiters, List.count_cons_self]
      omega
    · rcases List.prefix_cons_iff.mp hp with rfl | ⟨q, rfl, hq⟩
      · exact absurd rfl hNonempty
      · have hFirst := h.first q hq (by simpa using hNe)
        rw [List.count_cons_of_ne hDelimiters, List.count_cons_self]
        omega

theorem neverCloses_cons_iff (hDelimiters : opener ≠ closer) {rest : List Char} :
    NeverCloses opener closer (opener :: rest) ↔ StaysOpen opener closer 1 rest := by
  constructor
  · intro h p hp
    have hOpen := h (opener :: p) (List.cons_prefix_cons.mpr ⟨rfl, hp⟩) (List.cons_ne_nil _ _)
    rw [List.count_cons_of_ne hDelimiters, List.count_cons_self] at hOpen
    omega
  · intro h p hp hNonempty
    rcases List.prefix_cons_iff.mp hp with rfl | ⟨q, rfl, hq⟩
    · exact absurd rfl hNonempty
    · have hOpen := h q hq
      rw [List.count_cons_of_ne hDelimiters, List.count_cons_self]
      omega

/-- A text has at most one span. -/
theorem IsSpan.unique {text found found' : List Char} (h : IsSpan opener closer text found)
    (h' : IsSpan opener closer text found') : found = found' := by
  rcases List.prefix_or_prefix_of_prefix h.begins h'.begins with hShorter | hLonger
  · by_contra hNe
    have hOpen := h'.first found hShorter h.nonempty hNe
    have hClosed := h.closed
    omega
  · by_contra hNe
    have hOpen := h.first found' hLonger h'.nonempty (Ne.symm hNe)
    have hClosed := h'.closed
    omega

/-- Where there is a span the delimiter is closed. -/
theorem IsSpan.not_neverCloses {text found : List Char} (h : IsSpan opener closer text found) :
    ¬ NeverCloses opener closer text := by
  intro hOpen
  have hLess := hOpen found h.begins h.nonempty
  have hClosed := h.closed
  omega

/-- An argument text is the beginning of what follows from its parenthesis on. -/
theorem IsArgument.begins {text argument : List Char} (h : IsArgument text argument) :
    argument <+: text := by
  rcases h with hSpan | ⟨_, rfl⟩
  · exact hSpan.begins
  · exact List.prefix_rfl

/-- The scan from an opening delimiter answers with the span or with the number
of pairs open at the end. -/
theorem leading_answers (hDelimiters : opener ≠ closer) (rest : List Char) :
    match leading opener closer (opener :: rest) with
    | .ok found => IsSpan opener closer (opener :: rest) found
    | .error stillOpen =>
        NeverCloses opener closer (opener :: rest) ∧
          stillOpen + rest.count closer = 1 + rest.count opener := by
  have hAnswers := closing_answers hDelimiters rest Nat.one_pos
  simp only [leading, closing, if_true, Nat.zero_add]
  cases hScan : closing opener closer 1 rest with
  | ok found =>
      rw [hScan] at hAnswers
      exact (isSpan_cons_iff hDelimiters).mpr hAnswers
  | error stillOpen =>
      rw [hScan] at hAnswers
      exact ⟨(neverCloses_cons_iff hDelimiters).mpr hAnswers.1, hAnswers.2⟩

theorem neverCloses_iff (hDelimiters : opener ≠ closer) {text : List Char}
    (hHead : text.head? = some opener) :
    NeverCloses opener closer text ↔ ∃ stillOpen, leading opener closer text = .error stillOpen := by
  obtain ⟨rest, rfl⟩ := List.head?_eq_some_iff.mp hHead
  have hAnswers := leading_answers hDelimiters rest
  cases hScan : leading opener closer (opener :: rest) with
  | ok found =>
      rw [hScan] at hAnswers
      simp [hAnswers.not_neverCloses]
  | error stillOpen =>
      rw [hScan] at hAnswers
      simp [hAnswers.1]

/-- The argument text is the one that the scan reads off. -/
theorem isArgument_iff {inner argument : List Char} :
    IsArgument ('(' :: inner) argument ↔ argument = leadingOrRest '(' ')' ('(' :: inner) := by
  have hAnswers := @leading_answers '(' ')' (by decide) inner
  simp only [IsArgument, leadingOrRest]
  cases hScan : leading '(' ')' ('(' :: inner) with
  | ok found =>
      rw [hScan] at hAnswers
      constructor
      · rintro (hSpan | ⟨hOpen, _⟩)
        · exact hSpan.unique hAnswers
        · exact absurd hOpen hAnswers.not_neverCloses
      · rintro rfl
        exact .inl hAnswers
  | error stillOpen =>
      rw [hScan] at hAnswers
      constructor
      · rintro (hSpan | ⟨_, hAll⟩)
        · exact absurd hAnswers.1 hSpan.not_neverCloses
        · exact hAll
      · rintro rfl
        exact .inr ⟨hAnswers.1, rfl⟩

end LockTriage.Balanced
