/-!
Cutting text at single characters: pieces between separators, physical lines,
and the two sides of a first or last separator.
-/

namespace LockTriage.Text

/-- The pieces between the occurrences of `sep`. There is one piece more than
there are separators, so the result is never empty. -/
def pieces (sep : Char) : List Char → List (List Char)
  | [] => [[]]
  | c :: rest =>
      match pieces sep rest with
      | [] => [[c]]
      | first :: others => if c = sep then [] :: first :: others else (c :: first) :: others

/-- `pieces` on strings. -/
def splitAt (sep : Char) (s : String) : List String :=
  (pieces sep s.toList).map String.ofList

/-- Drop one carriage return at the end. -/
def dropReturn (line : List Char) : List Char :=
  match line.getLast? with
  | some '\r' => line.dropLast
  | _ => line

/-- The physical lines of a text. A line feed ends a line, a carriage return
just before it belongs to the line end, and the text after the last line feed
is a line only if it is not empty. -/
def lines (cs : List Char) : List (List Char) :=
  let ps := pieces '\n' cs
  let ended := ps.dropLast.map dropReturn
  match ps.getLast? with
  | none | some [] => ended
  | some last => ended ++ [last]

/-- The text before and after the first `sep`, if there is one. -/
def cutFirst? (sep : Char) : List Char → Option (List Char × List Char)
  | [] => none
  | c :: rest =>
      if c = sep then some ([], rest)
      else (cutFirst? sep rest).map fun (before, after) => (c :: before, after)

/-- What follows a separator is shorter than the text. -/
theorem cutFirst?_shorter {sep : Char} {cs before after : List Char}
    (h : cutFirst? sep cs = some (before, after)) : after.length < cs.length := by
  induction cs generalizing before with
  | nil => simp [cutFirst?] at h
  | cons c cs ih =>
      simp only [cutFirst?] at h
      split at h
      · simp only [Option.some.injEq, Prod.mk.injEq] at h
        obtain ⟨_, rfl⟩ := h
        exact Nat.lt_succ_self _
      · simp only [Option.map_eq_some_iff, Prod.exists, Prod.mk.injEq] at h
        obtain ⟨b, a, hCut, _, rfl⟩ := h
        exact Nat.lt_succ_of_lt (ih hCut)

/-- The text after the last `sep`; all of it if there is none. -/
def afterLast (sep : Char) (cs : List Char) : List Char :=
  (cs.reverse.takeWhile (· ≠ sep)).reverse

end LockTriage.Text
