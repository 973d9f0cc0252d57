import LockTriage.Text.Split
import LockTriage.Text.Search

/-!
Paths as they are written. A path is never normalised, so messages show it as
it was put together; only the file tree interprets it.
-/

namespace LockTriage

/-- A path, as written. -/
structure Path where
  text : String
  deriving DecidableEq, Repr

namespace Path

def isAbsolute (p : Path) : Bool := p.text.toList.head? == some '/'

/-- Continue a path by another. A path that starts at the root replaces what
comes before it, and no separator is added where one stands already or where
there is nothing before it. -/
def join (p : Path) (more : String) : Path :=
  if more.toList.head? == some '/' then ⟨more⟩
  else
    match p.text.toList.getLast? with
    | none | some '/' => ⟨p.text ++ more⟩
    | some _ => ⟨p.text ++ "/" ++ more⟩

/-- The names between separators, in order. -/
def names (p : Path) : List String :=
  ((Text.pieces '/' p.text.toList).filter (!·.isEmpty)).map String.ofList

/-- The names that matter for the directories above a path: a dot is one of
them only at the very start. -/
def steps (p : Path) : List String :=
  match p.names with
  | [] => []
  | first :: others =>
      let kept := others.filter (· ≠ ".")
      if first = "." && p.isAbsolute then kept else first :: kept

def ofSteps (absolute : Bool) (names : List String) : Path :=
  ⟨(if absolute then "/" else "") ++ "/".intercalate names⟩

/-- The non-empty beginnings of a list, longest first. -/
def beginnings : List String → List (List String)
  | [] => []
  | n :: rest => (beginnings rest).map (n :: ·) ++ [[n]]

/-- A path and the paths of the directories above it, innermost first. The
working directory, which the empty path would name, is not among them. -/
def ancestors (p : Path) : List Path :=
  if p.text.isEmpty then []
  else
    p :: (beginnings p.steps.dropLast).map (ofSteps p.isAbsolute) ++
      if p.isAbsolute then [⟨"/"⟩] else []

end Path

end LockTriage
