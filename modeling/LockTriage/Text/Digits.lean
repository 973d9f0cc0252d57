import LockTriage.Text.Bytes

/-!
Numbers written with digits of a base up to sixteen.
-/

namespace LockTriage.Text

/-- The number that digits of a base stand for. No digits stand for zero. -/
def number? (base : Nat) (digits : List Char) : Option Nat :=
  digits.foldlM (fun n d =>
    match Bytes.hexValue? d with
    | some v => if v < base then some (base * n + v) else none
    | none => none) 0

end LockTriage.Text
