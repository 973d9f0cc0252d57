import LockTriage.Text.Split

/-!
Glob patterns for contract addresses: `?` is any character, `*` any sequence,
`[abc]`, `[a-z]` and `[!abc]` are character classes, and `**` as a whole
component is any number of components. Case counts, and a slash or a leading dot
is a character like any other.
-/

namespace LockTriage.Glob

/-- One character of a class, or a range with both its ends. -/
inductive ClassItem
  | one (c : Char)
  | range (first last : Char)
  deriving DecidableEq, Repr

inductive Part
  | char (c : Char)
  | anyChar
  | anySequence
  | anyComponents
  | within (items : List ClassItem)
  | without (items : List ClassItem)
  deriving DecidableEq, Repr

structure Pattern where
  parts : List Part
  deriving DecidableEq, Repr

/-- The items of a class. A hyphen between two characters makes a range. -/
def classItems : List Char → List ClassItem
  | first :: '-' :: last :: rest => .range first last :: classItems rest
  | c :: rest => .one c :: classItems rest
  | [] => []

def ClassItem.covers (c : Char) : ClassItem → Bool
  | .one d => c = d
  | .range first last => first ≤ c && c ≤ last

/-- The class after an opening bracket, and what follows it. The first character
of a class is part of it even if it is a closing bracket. -/
def readClass? : List Char → Option (Part × List Char)
  | '!' :: first :: rest =>
      (Text.cutFirst? ']' rest).map fun (more, after) =>
        (.without (classItems (first :: more)), after)
  | '!' :: [] => none
  | first :: rest =>
      (Text.cutFirst? ']' rest).map fun (more, after) =>
        (.within (classItems (first :: more)), after)
  | [] => none

private theorem readClass?_length_le {cs after : List Char} {part : Part}
    (h : readClass? cs = some (part, after)) : after.length ≤ cs.length := by
  unfold readClass? at h
  split at h
  · simp only [Option.map_eq_some_iff, Prod.exists, Prod.mk.injEq] at h
    obtain ⟨_, _, hCut, _, rfl⟩ := h
    have := Text.cutFirst?_shorter hCut
    simp only [List.length_cons]
    omega
  · cases h
  · simp only [Option.map_eq_some_iff, Prod.exists, Prod.mk.injEq] at h
    obtain ⟨_, _, hCut, _, rfl⟩ := h
    have := Text.cutFirst?_shorter hCut
    simp only [List.length_cons]
    omega
  · cases h

/-- Add any number of components, unless the part before it, not being the first
one, is already that. -/
def addComponents (earlier : List Part) : List Part :=
  match earlier with
  | .anyComponents :: _ :: _ => earlier
  | _ => .anyComponents :: earlier

/-- Read the rest of a pattern. The parts read so far stand latest first, and
`fresh` says that a component starts here. Two stars have to make up a component
of their own, and more than two in a row are refused. -/
def readParts (fresh : Bool) (earlier : List Part) : List Char → Option (List Part)
  | [] => some earlier.reverse
  | '*' :: '*' :: '*' :: _ => none
  | '*' :: '*' :: [] => if fresh then some (addComponents earlier).reverse else none
  | '*' :: '*' :: c :: rest =>
      if fresh && c = '/' then readParts true (addComponents earlier) rest else none
  | '*' :: rest => readParts false (.anySequence :: earlier) rest
  | '?' :: rest => readParts false (.anyChar :: earlier) rest
  | '[' :: rest =>
      match _h : readClass? rest with
      | none => none
      | some (part, after) => readParts false (part :: earlier) after
  | c :: rest => readParts (c = '/') (.char c :: earlier) rest
termination_by cs => cs.length
decreasing_by
  all_goals simp only [List.length_cons]
  all_goals first
    | omega
    | exact Nat.lt_succ_of_le (readClass?_length_le ‹_›)

def parse? (text : String) : Option Pattern := (readParts true [] text.toList).map (⟨·⟩)

/-- The parts match a whole text. Any number of components is nothing, a
beginning that ends in a slash, or all that is left. -/
def matchesParts : List Part → List Char → Bool
  | [], cs => cs.isEmpty
  | .anySequence :: parts, [] => matchesParts parts []
  | .anySequence :: parts, c :: cs =>
      matchesParts parts (c :: cs) || matchesParts (.anySequence :: parts) cs
  | .anyComponents :: parts, cs =>
      matchesParts parts cs ||
        match _h : Text.cutFirst? '/' cs with
        | none => matchesParts parts []
        | some (_, after) => matchesParts (.anyComponents :: parts) after
  | _ :: _, [] => false
  | .char d :: parts, c :: cs => c = d && matchesParts parts cs
  | .anyChar :: parts, _ :: cs => matchesParts parts cs
  | .within items :: parts, c :: cs => items.any (·.covers c) && matchesParts parts cs
  | .without items :: parts, c :: cs => !items.any (·.covers c) && matchesParts parts cs
termination_by parts cs => (parts.length, cs.length)
decreasing_by
  all_goals first
    | exact Prod.Lex.left _ _ (Nat.lt_succ_self _)
    | exact Prod.Lex.right _ (Nat.lt_succ_self _)
    | exact Prod.Lex.right _ (Text.cutFirst?_shorter ‹_›)

def Pattern.matches (p : Pattern) (text : String) : Bool := matchesParts p.parts text.toList

/-- A pattern in its written form matches a text. A form that is no pattern
matches nothing. -/
def covers (written text : String) : Bool := (parse? written).any fun p => p.matches text

end LockTriage.Glob
