import LockTriage.Domain.DirectionTable
import LockTriage.Text.CodeSet

/-!
Labels with letters that are written from right to left. As soon as a name holds
one, each of its labels has to be all of one direction, so that the order in which
the name is shown tells its labels apart.
-/

namespace LockTriage.Domain

inductive Direction
  | leftToRight
  | rightToLeft
  | arabicDigit
  | europeanDigit
  /-- It takes the direction of what it stands on. -/
  | attached
  | undirected
  deriving DecidableEq, Repr

namespace Direction

/-- The letters that are written from right to left. -/
def rightToLeftSet : CodeSet := CodeSet.ofLines Table.rightToLeft

/-- The digits that are used with Arabic letters. -/
def arabicDigitSet : CodeSet := CodeSet.ofLines Table.arabicDigits

/-- The digits that are used with all other letters. -/
def europeanDigitSet : CodeSet := CodeSet.ofLines Table.europeanDigits

/-- The marks. -/
def attachedSet : CodeSet := CodeSet.ofLines Table.attached

/-- The characters without a direction. -/
def undirectedSet : CodeSet := CodeSet.ofLines Table.undirected

def of (c : Char) : Direction :=
  if rightToLeftSet.contains c then rightToLeft
  else if arabicDigitSet.contains c then arabicDigit
  else if europeanDigitSet.contains c then europeanDigit
  else if attachedSet.contains c then attached
  else if undirectedSet.contains c then undirected
  else leftToRight

/-- What stands last in a label, apart from marks on it. -/
def last? (ds : List Direction) : Option Direction :=
  (ds.reverse.dropWhile (· = attached)).head?

/-- A label that starts with a letter from right to left. It has no letter of the
other direction, digits of one kind at most, and ends in a letter or digit. -/
def isRightToLeftLabel (ds : List Direction) : Bool :=
  !ds.contains leftToRight &&
    !(ds.contains arabicDigit && ds.contains europeanDigit) &&
    match last? ds with
    | some d => d = rightToLeft || d = arabicDigit || d = europeanDigit
    | none => false

/-- A label that starts with a letter from left to right. -/
def isLeftToRightLabel (ds : List Direction) : Bool :=
  !ds.contains rightToLeft && !ds.contains arabicDigit &&
    match last? ds with
    | some d => d = leftToRight || d = europeanDigit
    | none => false

def isLabel (ds : List Direction) : Bool :=
  match ds.head? with
  | none => true
  | some rightToLeft => isRightToLeftLabel ds
  | some leftToRight => isLeftToRightLabel ds
  | some _ => false

def matters (ds : List Direction) : Bool := ds.contains rightToLeft || ds.contains arabicDigit

end Direction

end LockTriage.Domain
