import LockTriage.Text.Search

/-!
Lock annotations: `nonreentrant(` up to the next closing parenthesis, read from
left to right without overlaps. They are counted by their whole text, so two
spellings of one lock key count as two locks, although a compiler takes them for
one. Comments and string literals are not understood.
-/

namespace LockTriage.Lock

/-- A piece of a text and the byte offset at which it starts. -/
structure Occurrence where
  offset : Nat
  text : List Char
  deriving DecidableEq, Repr

def opening : List Char := "nonreentrant(".toList

/-- The annotation at the start of a text, and what follows it. Between its two
parentheses it holds no closing one. -/
def leading? (text : List Char) : Option (List Char × List Char) :=
  match Text.after? opening text with
  | none => none
  | some inner =>
      match inner.dropWhile (· ≠ ')') with
      | [] => none
      | close :: rest => some (opening ++ inner.takeWhile (· ≠ ')') ++ [close], rest)

private theorem after?_length {needle text rest : List Char}
    (h : Text.after? needle text = some rest) : rest.length ≤ text.length := by
  induction needle generalizing text with
  | nil => simp [Text.after?] at h; simp [h]
  | cons n needle ih =>
      cases text with
      | nil => simp [Text.after?] at h
      | cons c text =>
          simp only [Text.after?] at h
          split at h
          · exact Nat.le_succ_of_le (ih h)
          · cases h

/-- What follows a leading annotation is shorter than the text. -/
theorem leading?_shorter {text found rest : List Char}
    (h : leading? text = some (found, rest)) : rest.length < text.length := by
  unfold leading? at h
  split at h
  · cases h
  · rename_i inner hInner
    split at h
    · cases h
    · rename_i close tail hTail
      have hDrop := (List.dropWhile_sublist (l := inner) (· ≠ ')')).length_le
      have hAfter := after?_length hInner
      simp only [Option.some.injEq, Prod.mk.injEq] at h
      obtain ⟨_, rfl⟩ := h
      rw [hTail] at hDrop
      simp only [List.length_cons] at hDrop
      omega

/-- The annotations of a text that starts at byte `offset`. -/
def occurrencesFrom (offset : Nat) (text : List Char) : List Occurrence :=
  match _h : leading? text with
  | some (found, rest) =>
      ⟨offset, found⟩ :: occurrencesFrom (offset + Text.byteLength found) rest
  | none =>
      match text with
      | [] => []
      | c :: rest => occurrencesFrom (offset + c.utf8Size) rest
termination_by text.length
decreasing_by
  · exact leading?_shorter ‹_›
  · simp

/-- The annotations of a source, from left to right. -/
def occurrences (source : List Char) : List Occurrence := occurrencesFrom 0 source

/-- Count one more occurrence of a text, keeping the texts in byte order. -/
def addOne (text : String) : List (String × Nat) → List (String × Nat)
  | [] => [(text, 1)]
  | (t, n) :: others =>
      if text = t then (t, n + 1) :: others
      else if text < t then (text, 1) :: (t, n) :: others
      else (t, n) :: addOne text others

structure Usage where
  /-- Each annotation text once, in byte order, with its number of occurrences. -/
  counts : List (String × Nat)
  deriving DecidableEq, Repr

namespace Usage

def ofSource (source : String) : Usage :=
  ⟨(occurrences source.toList).foldl (fun counts o => addOne (String.ofList o.text) counts) []⟩

def count (u : Usage) (lock : String) : Nat :=
  (u.counts.lookup lock).getD 0

def maxCount (u : Usage) : Nat := (u.counts.map Prod.snd).foldl max 0

/-- Some annotation occurs more than once. -/
def hasReused (u : Usage) : Bool := u.maxCount > 1

/-- The annotations that occur more than once, in byte order, with their counts. -/
def reused (u : Usage) : List (String × Nat) := u.counts.filter fun p => p.2 > 1

/-- No annotation occurs. -/
def isEmpty (u : Usage) : Bool := u.counts.isEmpty

end Usage

end LockTriage.Lock
